/-
  What the diagnostics tell, after any run of registrations and readings.

  A topic is kept twice, in the store of topics and as an attribute of the root.  Both give the topic
  of a name that was registered last, and the store has the names in the order in which they first
  came.  A name that the root itself uses for an attribute is no exception: the topic takes the place
  of an operation or of the store, or is kept in the store alone.

  * `recorded`: the topics that a series of registrations leaves on record;
  * `names`, `last?`, `current`: what a record holds of each name;
  * `Reflects`: a root that keeps a record;
  * `Reflects.register_eq`, `Reflects.put`, `reflects_run`: what a registration does to the record,
    and what a run does;
  * `Tells`: what a root tells, by its record;
  * `topics_told`: what is told after any run.
-/
import Mathlib.Data.List.Induction
import Mathlib.Data.List.Nodup
import ShaderBuild.Diagnostics

namespace ShaderBuild.Diagnostics

variable {d : Diagnostics} {ts : List Topic} {t : Topic} {name : Text}

/-! ## Runs -/

/-- What is done with a root: a topic is registered, or the root is read. -/
inductive Step where
  | register (t : Topic)
  | items
  | report
  | print
  | describe
  | topicReport (name : Text)
  | look (name : Text)

/-- The topic that is registered, if one is. -/
def Step.topic? : Step → Option Topic
  | .register t => some t
  | .items | .report | .print | .describe | .topicReport _ | .look _ => none

/-- The root after a step.  No reading changes it. -/
def after (d : Diagnostics) : Step → Diagnostics
  | .register t => (d.register t).2
  | .items | .report | .print | .describe | .topicReport _ | .look _ => d

/-! ## Records -/

/-- The names of topics, each once, in the order in which they first came. -/
def names (ts : List Topic) : List Text := (ts.map Topic.name).eraseDups

/-- The last topic of a name. -/
def last? (ts : List Topic) (name : Text) : Option Topic :=
  (ts.filter fun t => t.name = name).getLast?

/-- The last topic of each name. -/
def current (ts : List Topic) : List Topic := (names ts).filterMap (last? ts)

/-- No topic can be registered beside a topic of this name: it hides the registration of topics or
    their store. -/
def Closes (name : Text) : Prop := name = text Operation.register.name ∨ name = store

instance : DecidablePred Closes := fun name =>
  inferInstanceAs (Decidable (name = text Operation.register.name ∨ name = store))

/-- The topics on record when topics are registered one after the other: those with an identifier
    as their name, up to the first beside which no topic can be registered. -/
def recorded : List Topic → List Topic
  | [] => []
  | t :: ts =>
    if Text.isIdentifier t.name = false then recorded ts
    else if Closes t.name then [t]
    else t :: recorded ts

theorem mem_names : name ∈ names ts ↔ ∃ t ∈ ts, t.name = name := by
  simp [names]

theorem names_concat (ts : List Topic) (t : Topic) :
    names (ts ++ [t]) = if t.name ∈ names ts then names ts else names ts ++ [t.name] := by
  have split : (ts.map Topic.name ++ [t.name]).eraseDups =
      names ts ++ ([t.name].removeAll (ts.map Topic.name)).eraseDups := List.eraseDups_append
  by_cases h : t.name ∈ names ts
  · have known : t.name ∈ ts.map Topic.name := List.mem_eraseDups.1 h
    rw [if_pos h, names, List.map_append, List.map_singleton, split]
    simp [names, List.removeAll, known, -List.mem_map]
  · have fresh : t.name ∉ ts.map Topic.name := fun known => h (List.mem_eraseDups.2 known)
    rw [if_neg h, names, List.map_append, List.map_singleton, split]
    simp [names, List.removeAll, fresh, List.eraseDups_cons, -List.mem_map]

theorem nodup_names (ts : List Topic) : (names ts).Nodup := by
  induction ts using List.reverseRecOn with
  | nil => exact List.nodup_nil
  | append_singleton ts t ih =>
    rw [names_concat]
    by_cases h : t.name ∈ names ts
    · rw [if_pos h]
      exact ih
    · rw [if_neg h, ← List.concat_eq_append]
      exact List.Nodup.concat h ih

theorem last?_concat (ts : List Topic) (t : Topic) (name : Text) :
    last? (ts ++ [t]) name = if name = t.name then some t else last? ts name := by
  rw [last?, List.filter_append, List.getLast?_append]
  by_cases h : name = t.name
  · simp [h]
  · have other : t.name ≠ name := fun same => h same.symm
    simp [h, other, last?]

theorem name_of_last? (h : last? ts name = some t) : t.name = name := by
  have member := List.mem_of_getLast? h
  exact of_decide_eq_true (List.mem_filter.1 member).2

theorem last?_eq_none_iff : last? ts name = none ↔ name ∉ names ts := by
  rw [last?, List.getLast?_eq_none_iff, List.filter_eq_nil_iff, mem_names]
  simp

theorem last?_isSome_iff : (last? ts name).isSome ↔ name ∈ names ts := by
  rw [Option.isSome_iff_ne_none, ne_eq, last?_eq_none_iff, not_not]

/-- Can no topic be registered beside the topics on record? -/
def IsClosed (ts : List Topic) : Prop := ∃ t ∈ ts, Closes t.name

instance : DecidablePred IsClosed := fun ts =>
  inferInstanceAs (Decidable (∃ t ∈ ts, Closes t.name))

theorem isClosed_iff :
    IsClosed ts ↔ text Operation.register.name ∈ names ts ∨ store ∈ names ts := by
  rw [mem_names, mem_names]
  constructor
  · rintro ⟨t, ht, hidden | hidden⟩
    · exact Or.inl ⟨t, ht, hidden⟩
    · exact Or.inr ⟨t, ht, hidden⟩
  · rintro (⟨t, ht, hidden⟩ | ⟨t, ht, hidden⟩)
    · exact ⟨t, ht, Or.inl hidden⟩
    · exact ⟨t, ht, Or.inr hidden⟩

/-! ## Roots that keep a record -/

/-- A root keeps a record of topics: in its store, and as its attributes. -/
structure Reflects (d : Diagnostics) (ts : List Topic) : Prop where
  keys : d.topics.map (·.1) = names ts
  found : ∀ name, Keyed.find? name d.topics = last? ts name
  looked : ∀ name, d.attribute? name = if (refusal? name).isSome then none else last? ts name

theorem reflects_nil : Reflects {} [] := by
  refine ⟨rfl, fun _ => rfl, fun name => ?_⟩
  exact (ite_self none).symm

/-- What a registration comes to, beside the topics on record. -/
def outcome (ts : List Topic) (t : Topic) : Except Fault Unit :=
  if Text.isIdentifier t.name = false then .error (.value .topicName)
  else if text Operation.register.name ∈ names ts then .error (.type .notCallable)
  else if store ∈ names ts then .error (.type .noItemAssignment)
  else match refusal? t.name with
    | some f => .error f
    | none => .ok ()

namespace Reflects

theorem isSome_attribute? (h : Reflects d ts) (free : refusal? name = none) :
    (d.attribute? name).isSome ↔ name ∈ names ts := by
  rw [h.looked, free]
  exact last?_isSome_iff

theorem check_eq (h : Reflects d ts) (op : Operation) :
    d.check op = if text op.name ∈ names ts then .error (.type .notCallable) else .ok () := by
  have free : refusal? (text op.name) = none := by
    cases op <;> decide
  simp only [check, h.isSome_attribute? free]

/-- The store has the last topic of each name. -/
theorem topics_eq (h : Reflects d ts) : d.topics = (current ts).map fun t => (t.name, t) := by
  have nodup : (d.topics.map (·.1)).Nodup := h.keys ▸ nodup_names ts
  have found : ∀ p ∈ d.topics, last? ts p.1 = some p.2 := by
    intro p hp
    rw [← h.found]
    exact Keyed.find?_of_mem nodup hp
  have topics : current ts = d.topics.map (·.2) := by
    rw [current, ← h.keys, List.filterMap_map, ← List.filterMap_eq_map]
    exact List.filterMap_congr found
  have named : ∀ p ∈ d.topics, (p.2.name, p.2) = p := by
    intro p hp
    rw [name_of_last? (found p hp)]
  rw [topics, List.map_map]
  exact ((List.map_congr_left named).trans (List.map_id' _)).symm

theorem stored_eq (h : Reflects d ts) (refusal : Fault) :
    d.stored refusal = if store ∈ names ts then .error refusal else .ok d.topics := by
  have free : refusal? store = none := by decide
  simp only [stored, h.isSome_attribute? free]

/-- What is done with the store, unless it is hidden. -/
theorem stored_bind {α : Type} (h : Reflects d ts) (refusal : Fault)
    (f : List (Text × Topic) → Except Fault α) :
    (d.stored refusal >>= f) = if store ∈ names ts then .error refusal
      else f ((current ts).map fun t => (t.name, t)) := by
  rw [h.stored_eq, h.topics_eq]
  by_cases hidden : store ∈ names ts
  · rw [if_pos hidden, if_pos hidden]
    rfl
  · rw [if_neg hidden, if_neg hidden]
    rfl

/-- What an operation does, unless it is hidden. -/
theorem check_bind {α : Type} (h : Reflects d ts) (op : Operation) (f : Unit → Except Fault α) :
    (d.check op >>= f) = if text op.name ∈ names ts then .error (.type .notCallable)
      else f () := by
  rw [h.check_eq]
  by_cases barred : text op.name ∈ names ts
  · rw [if_pos barred, if_pos barred]
    rfl
  · rw [if_neg barred, if_neg barred]
    rfl

/-- What a registration comes to, and the root after it. -/
theorem register_eq (h : Reflects d ts) (t : Topic) :
    d.register t = (outcome ts t,
      if Text.isIdentifier t.name = false ∨ IsClosed ts then d
      else ⟨Keyed.put t.name t d.topics,
        if (refusal? t.name).isSome then d.attributes else Keyed.put t.name t d.attributes⟩) := by
  unfold register outcome
  simp only [h.check_eq, h.stored_eq, isClosed_iff]
  by_cases rejected : Text.isIdentifier t.name = false
  · simp [rejected]
  by_cases barred : text Operation.register.name ∈ names ts
  · simp [rejected, barred]
  by_cases hidden : store ∈ names ts
  · simp [rejected, barred, hidden]
  · cases refused : refusal? t.name with
    | none => simp [rejected, barred, hidden]
    | some f => simp [rejected, barred, hidden]

/-- A topic that is registered is on record, whether or not it is an attribute. -/
theorem put (h : Reflects d ts) (t : Topic) :
    Reflects ⟨Keyed.put t.name t d.topics,
      if (refusal? t.name).isSome then d.attributes else Keyed.put t.name t d.attributes⟩
      (ts ++ [t]) := by
  constructor
  · simp only [Keyed.keys_put, h.keys, names_concat]
  · intro name
    simp only [Keyed.find?_put, h.found, last?_concat]
  · intro name
    have before := h.looked name
    simp only [attribute?] at before ⊢
    by_cases refused : (refusal? t.name).isSome
    · rw [if_pos refused, before, last?_concat]
      by_cases same : name = t.name
      · rw [same, if_pos refused, if_pos refused]
      · rw [if_neg same]
    · rw [if_neg refused, Keyed.find?_put, before, last?_concat]
      by_cases same : name = t.name
      · rw [if_pos same, if_pos same, same, if_neg refused]
      · rw [if_neg same, if_neg same]

end Reflects

/-! ## Runs of steps -/

/-- The root of a closed record stays as it is. -/
theorem run_closed (h : Reflects d ts) (closed : IsClosed ts) (steps : List Step) :
    steps.foldl after d = d := by
  induction steps with
  | nil => rfl
  | cons step steps ih =>
    have same : d.after step = d := by
      cases step with
      | register t => simp [after, h.register_eq, closed]
      | _ => rfl
    rw [List.foldl_cons, same, ih]

/-- Every run leaves the topics on record that it registers. -/
theorem reflects_run (steps : List Step) : ∀ {d : Diagnostics} {ts : List Topic},
    Reflects d ts → ¬ IsClosed ts →
      Reflects (steps.foldl after d) (ts ++ recorded (steps.filterMap Step.topic?)) := by
  induction steps with
  | nil =>
    intro d ts h _
    rw [List.filterMap_nil, recorded, List.append_nil]
    exact h
  | cons step steps ih =>
    intro d ts h opened
    cases step with
    | register t =>
      have first : (Step.register t :: steps).filterMap Step.topic? =
          t :: steps.filterMap Step.topic? := rfl
      rw [List.foldl_cons, first, recorded, after, h.register_eq]
      by_cases rejected : Text.isIdentifier t.name = false
      · rw [if_pos rejected, if_pos (Or.inl rejected)]
        exact ih h opened
      rw [if_neg rejected, if_neg (not_or.2 ⟨rejected, opened⟩)]
      by_cases closes : Closes t.name
      · -- the rest of the run leaves the root as it is, as it leaves the record
        have closed : IsClosed (ts ++ [t]) := ⟨t, by simp, closes⟩
        rw [if_pos closes, run_closed (h.put t) closed]
        exact h.put t
      · have opened' : ¬ IsClosed (ts ++ [t]) := by
          rintro ⟨u, hu, hidden⟩
          rcases List.mem_append.1 hu with hu | hu
          · exact opened ⟨u, hu, hidden⟩
          · exact closes (List.mem_singleton.1 hu ▸ hidden)
        rw [if_neg closes]
        have later := ih (h.put t) opened'
        rw [List.append_assoc] at later
        exact later
    | _ => exact ih h opened

/-! ## What is told -/

/-- What a root tells, by the topics on record.  Each reading fails if a topic hides what it takes,
    and else tells of the last topic of each name, in the order of the names. -/
structure Tells (d : Diagnostics) (ts : List Topic) : Prop where
  described : d.describe =
    if store ∈ names ts then .error (noMember "keys")
    else .ok (text "<DiagnosticsRoot with topics: " ++ List.intercalate (text ", ") (names ts)
      ++ text ">")
  listed : d.items =
    if text Operation.items.name ∈ names ts then .error (.type .notCallable)
    else if store ∈ names ts then .error (noMember "items")
    else (current ts).mapM fun t => do return (t.name, ← t.items)
  reported : d.report =
    if text Operation.report.name ∈ names ts then .error (.type .notCallable)
    else if store ∈ names ts then .error (noMember "values")
    else do return (← (current ts).mapM Topic.report).flatten
  printed : d.print =
    if text Operation.print.name ∈ names ts then .error (.type .notCallable) else d.report
  /-- The report of one topic. -/
  asked : ∀ name, d.topicReport name =
    if store ∈ names ts then .error (.type .noItems)
    else match last? ts name with
      | some t => t.report
      | none => .error (.noItem (Quoted.quote name))
  /-- The attribute of a name. -/
  looked : ∀ name, d.attribute? name = if (refusal? name).isSome then none else last? ts name
  registered : ∀ t, (d.register t).1 = outcome ts t
  /-- A name that is not accepted leaves the root as it is. -/
  rejected : ∀ t, Text.isIdentifier t.name = false → (d.register t).2 = d

theorem Reflects.tells (h : Reflects d ts) : Tells d ts := by
  have pairs : ((current ts).map fun t => (t.name, t)).map (·.1) = names ts := by
    rw [← h.topics_eq, h.keys]
  constructor
  · rw [describe, h.stored_bind, pairs]
    rfl
  · rw [items, h.check_bind, h.stored_bind, List.mapM_map]
    rfl
  · rw [report, h.check_bind, h.stored_bind, List.mapM_map]
    rfl
  · rw [print, h.check_bind]
  · intro name
    rw [topicReport, topic, bind_assoc, h.stored_bind, ← h.topics_eq, h.found]
    cases last? ts name with
    | none => rfl
    | some t => rfl
  · exact h.looked
  · intro t
    rw [h.register_eq]
  · intro t rejected
    rw [h.register_eq, if_pos (Or.inl rejected)]

/-- **What the diagnostics tell.**

    Topics are registered on a fresh root in any order, with readings in between.  At any time the
    root lists each name on record once, where it first came, with the topic that was registered last
    under it; the report is that of these topics, one after the other; that topic is the attribute of
    the name; and a name that is not accepted changes nothing.  Where that does not hold, a topic
    has the name of the operation that is used or of the store, or the name is one of three that are
    recorded but that no attribute can be given. -/
theorem topics_told (steps : List Step) :
    Tells (steps.foldl after {}) (recorded (steps.filterMap Step.topic?)) := by
  have opened : ¬ IsClosed [] := by simp [IsClosed]
  exact (reflects_run steps reflects_nil opened).tells

/-- Names that are accepted: the topic hides the items of all topics, the registration of others or
    the store, or is on record without being an attribute. -/
theorem topics_told_hidden :
    let named (name : String) : Topic := ⟨text name, some []⟩
    let root (name : String) : Diagnostics := after {} (.register (named name))
    let description (name : String) : Text :=
      text "<DiagnosticsRoot with topics: " ++ text name ++ text ">"
    (∀ name ∈ ["get_dict", "_register_diagnostics", "_diagnostics_instances", "__weakref__"],
      Text.isIdentifier (text name)) ∧
    (register {} (named "get_dict")).1 = .ok () ∧
    (root "get_dict").describe = .ok (description "get_dict") ∧
    (root "get_dict").items = .error (.type .notCallable) ∧
    ((root "_register_diagnostics").register (named "foo")).1 = .error (.type .notCallable) ∧
    (root "_diagnostics_instances").describe = .error (noMember "keys") ∧
    (root "__weakref__").describe = .ok (description "__weakref__") ∧
    (root "__weakref__").attribute? (text "__weakref__") = none := by
  refine ⟨?_, rfl, rfl, rfl, rfl, rfl, rfl, rfl⟩
  decide

end ShaderBuild.Diagnostics
