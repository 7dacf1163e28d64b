/-
  What an enumeration tells, whatever is done with it.

  The fields of an enumeration are the attributes it is made of that are not hidden, in the order in
  which their names first came.  They are looked up among all attributes, gone through by name, and
  handed out as members; each of these ways tells the same fields, in the same order and with the
  same values, and so after any run of readings and changes.

  * `fieldNames`, `valueOf`, `fieldsOf`: the fields that attributes define;
  * `IsDefinable`, `IsRefused`: what a field can be defined with, and attributes with a field that
    cannot;
  * `fieldsOf?_ofList`: the fields that are found among the attributes are those;
  * `Keeps`: an enumeration that keeps fields in every way;
  * `keeps_define`, `Keeps.set`, `Keeps.run`: what is made keeps its fields, through every step;
  * `Tells`, `Keeps.tells`: what an enumeration tells of its fields;
  * `fields_kept`: what is told after any run.
-/
import Mathlib.Data.List.Find
import Mathlib.Data.List.Nodup
import ShaderBuild.Options.Stage

namespace ShaderBuild.Enumeration

variable {e e' : Enumeration} {fields definitions : List (Text × Datum)} {n : Text}

/-! ## Definitions -/

/-- The names of the fields among attributes: those that are not hidden, each where it first came. -/
def fieldNames (definitions : List (Text × Datum)) : List Text :=
  (definitions.map (·.1)).eraseDups.filter fun n => !isHidden n

/-- The value of a field by what it is defined with: its name, if that is nothing. -/
def valueOf (name : Text) : Datum → Datum
  | .absent => .text name
  | d => d

/-- The fields among attributes, with what is given last under each name. -/
def fieldsOf (definitions : List (Text × Datum)) : List (Text × Datum) :=
  (fieldNames definitions).map fun n =>
    (n, valueOf n ((Keyed.last? n definitions).getD .absent))

/-- What a field can be defined with: nothing, an integer or a text. -/
inductive IsDefinable : Datum → Prop
  | absent : IsDefinable .absent
  | int (n : Int) : IsDefinable (.int n)
  /-- Truth values are integers. -/
  | flag (b : Bool) : IsDefinable (.flag b)
  | text (t : Text) : IsDefinable (.text t)

/-- Attributes with a field that cannot be one. -/
def IsRefused (definitions : List (Text × Datum)) : Prop :=
  ∃ n d, isHidden n = false ∧ Keyed.last? n definitions = some d ∧ ¬ IsDefinable d

theorem fieldValue?_eq_some_iff {d v : Datum} :
    fieldValue? n d = some v ↔ IsDefinable d ∧ v = valueOf n d := by
  constructor
  · intro h
    cases d <;> cases h
    · exact ⟨.absent, rfl⟩
    · exact ⟨.flag _, rfl⟩
    · exact ⟨.int _, rfl⟩
    · exact ⟨.text _, rfl⟩
  · rintro ⟨definable, rfl⟩
    cases definable <;> rfl

/-- The fields are found unless one cannot be one. -/
theorem fieldsOf?_eq_some_iff {attributes : List (Text × Datum)} :
    fieldsOf? attributes = some fields ↔
      (∀ a ∈ attributes, isHidden a.1 = false → IsDefinable a.2) ∧
      fields = (attributes.filter fun a => !isHidden a.1).map fun a => (a.1, valueOf a.1 a.2) := by
  induction attributes generalizing fields with
  | nil =>
    rw [fieldsOf?, Option.some_inj]
    exact ⟨fun h => ⟨List.forall_mem_nil _, h.symm⟩, fun h => h.2.symm⟩
  | cons a rest ih =>
    obtain ⟨n, d⟩ := a
    rw [List.forall_mem_cons]
    cases hidden : isHidden n with
    | true => simp [fieldsOf?, hidden, ih]
    | false =>
      simp only [fieldsOf?, hidden, List.filter_cons, Bool.not_false, if_true, List.map_cons,
        Bool.false_eq_true, if_false, true_implies]
      constructor
      · intro found
        split at found
        · rename_i v later hv hlater
          cases found
          obtain ⟨definable, rfl⟩ := fieldValue?_eq_some_iff.1 hv
          obtain ⟨all, rfl⟩ := ih.1 hlater
          exact ⟨⟨definable, all⟩, rfl⟩
        · cases found
      · rintro ⟨⟨definable, all⟩, rfl⟩
        rw [fieldValue?_eq_some_iff.2 ⟨definable, rfl⟩, ih.2 ⟨all, rfl⟩]

theorem last?_of_mem_ofList {a : Text × Datum} (h : a ∈ Keyed.ofList definitions) :
    Keyed.last? a.1 definitions = some a.2 := by
  rw [← Keyed.find?_ofList]
  exact Keyed.find?_of_mem (Keyed.nodup_ofList definitions) h

theorem mem_ofList_of_last? {d : Datum} (h : Keyed.last? n definitions = some d) :
    (n, d) ∈ Keyed.ofList definitions := by
  rw [← Keyed.find?_ofList] at h
  obtain ⟨p, found, rfl⟩ := Option.map_eq_some_iff.1 h
  have key : p.1 = n := by simpa using List.find?_some found
  exact key ▸ List.mem_of_find?_eq_some found

/-- What is found among the attributes are the fields, unless one cannot be one. -/
theorem fieldsOf?_ofList (definitions : List (Text × Datum)) :
    fieldsOf? (Keyed.ofList definitions) = some (fieldsOf definitions) ∧ ¬ IsRefused definitions ∨
      fieldsOf? (Keyed.ofList definitions) = none ∧ IsRefused definitions := by
  by_cases refused : IsRefused definitions
  · refine Or.inr ⟨?_, refused⟩
    obtain ⟨n, d, shown, given, undefinable⟩ := refused
    rw [Option.eq_none_iff_forall_ne_some]
    intro fields found
    have all := (fieldsOf?_eq_some_iff.1 found).1
    exact undefinable (all _ (mem_ofList_of_last? given) shown)
  · refine Or.inl ⟨fieldsOf?_eq_some_iff.2 ⟨?_, ?_⟩, refused⟩
    · intro a ha shown
      by_contra undefinable
      exact refused ⟨a.1, a.2, shown, last?_of_mem_ofList ha, undefinable⟩
    · rw [fieldsOf, fieldNames, ← Keyed.keys_ofList, List.filter_map, List.map_map]
      refine List.map_congr_left fun a ha => ?_
      have given := last?_of_mem_ofList (List.mem_filter.1 ha).1
      simp only [Function.comp_apply, given, Option.getD_some]

/-- The fields are judged first. -/
theorem define_of_refused (h : IsRefused definitions) (name : Text) :
    define name definitions = .error (.type .enumField) := by
  rcases fieldsOf?_ofList definitions with ⟨-, accepted⟩ | ⟨missing, -⟩
  · exact absurd h accepted
  · simp only [define, missing]

theorem define_of_not_refused (h : ¬ IsRefused definitions) (name : Text) :
    define name definitions = match refusal? name with
      | some f => .error f
      | none => .ok (ofFields name (fieldsOf definitions) (Keyed.ofList definitions)) := by
  rcases fieldsOf?_ofList definitions with ⟨found, -⟩ | ⟨-, refused⟩
  · cases refusal : refusal? name <;> simp only [define, found, refusal]
  · exact absurd refused h

/-- A name that is refused is not refused for the kind of a value. -/
theorem ne_type_of_refusal? {name : Text} {f : Fault} (h : refusal? name = some f)
    (fault : TypeFault) : f ≠ .type fault := by
  unfold refusal? at h
  split at h
  · cases h
    exact nofun
  · split at h
    · cases h
      exact nofun
    · cases h

/-! ## Enumerations that keep fields -/

/-- An enumeration keeps fields, and has nothing else under a name that is not hidden. -/
structure Keeps (e : Enumeration) (fields : List (Text × Datum)) : Prop where
  /-- The names that are gone through. -/
  listed : Keyed.find? fieldsName e.attributes = some (.list (fields.map fun f => .text f.1))
  members : e.fields = fields
  shown : ∀ f ∈ fields, isHidden f.1 = false
  found : ∀ f ∈ fields, Keyed.find? f.1 e.attributes = some f.2
  only : ∀ n, isHidden n = false → n ∉ fields.map (·.1) → Keyed.find? n e.attributes = none

/-- A name that is not hidden is none that is. -/
theorem ne_of_shown {m : Text} (shown : isHidden n = false) (hidden : isHidden m = true) :
    n ≠ m := by
  rintro rfl
  rw [shown] at hidden
  cases hidden

/-- The names of the fields that come after them take the place of none. -/
theorem find?_ofFields {name : Text} {attributes : List (Text × Datum)} (shown : isHidden n = false) :
    Keyed.find? n (ofFields name fields attributes).attributes =
      (Keyed.last? n fields).or (Keyed.find? n attributes) := by
  have listed : n ≠ fieldsName := ne_of_shown shown (by decide)
  have members : n ≠ membersName := ne_of_shown shown (by decide)
  have fresh (names : Datum) : Keyed.last? n [(fieldsName, names), (membersName, names)] = none := by
    rw [Keyed.last?_eq_none_iff]
    simp [listed, members]
  rw [ofFields, Keyed.find?_putAll, fresh, Option.none_or, Keyed.find?_putAll]

theorem keeps_ofFields {name : Text} {attributes : List (Text × Datum)}
    (distinct : (fields.map (·.1)).Nodup) (shown : ∀ f ∈ fields, isHidden f.1 = false)
    (only : ∀ n, isHidden n = false → n ∉ fields.map (·.1) → Keyed.find? n attributes = none) :
    Keeps (ofFields name fields attributes) fields where
  listed := by
    rw [ofFields, Keyed.find?_putAll]
    rfl
  members := rfl
  shown := shown
  found f hf := by
    rw [find?_ofFields (shown f hf), Keyed.last?_of_mem distinct hf, Option.some_or]
  only n hn fresh := by
    rw [find?_ofFields hn, Keyed.last?_eq_none_iff.2 fresh, Option.none_or]
    exact only n hn fresh

theorem map_fieldsOf (definitions : List (Text × Datum)) :
    (fieldsOf definitions).map (·.1) = fieldNames definitions := by
  rw [fieldsOf, List.map_map]
  exact List.map_id' _

/-- What is defined keeps the fields of its definition. -/
theorem keeps_define {name : Text} (made : define name definitions = .ok e) :
    Keeps e (fieldsOf definitions) := by
  have distinct : (fieldNames definitions).Nodup := by
    rw [fieldNames, ← Keyed.keys_ofList]
    exact (Keyed.nodup_ofList definitions).filter _
  have shown : ∀ f ∈ fieldsOf definitions, isHidden f.1 = false := by
    intro f hf
    have named : f.1 ∈ fieldNames definitions :=
      map_fieldsOf definitions ▸ List.mem_map_of_mem hf
    simpa using (List.mem_filter.1 named).2
  have only (n : Text) (hn : isHidden n = false) (fresh : n ∉ (fieldsOf definitions).map (·.1)) :
      Keyed.find? n (Keyed.ofList definitions) = none := by
    rw [map_fieldsOf, fieldNames, List.mem_filter, List.mem_eraseDups] at fresh
    rw [Keyed.find?_ofList, Keyed.last?_eq_none_iff]
    exact fun given => fresh ⟨given, by simp [hn]⟩
  by_cases refused : IsRefused definitions
  · rw [define_of_refused refused] at made
    cases made
  · rw [define_of_not_refused refused] at made
    split at made
    · cases made
    · cases made
      exact keeps_ofFields (by rwa [map_fieldsOf]) shown only

/-! ## Runs -/

/-- What is done with an enumeration: it is read, a name of it is set, or an instance is asked for. -/
inductive Step where
  | names
  | sortedNames
  | values
  | members
  | describe
  | look (name : Text)
  | get (key : Datum)
  | has (value : Datum)
  | nameOf (value : Datum)
  | set (name : Text) (value : Datum)
  | new

/-- The enumeration after a step.  No reading changes it, and neither does what fails. -/
def after (e : Enumeration) : Step → Enumeration
  | .set name value => (e.set name value).toOption.getD e
  | .names | .sortedNames | .values | .members | .describe | .look _ | .get _ | .has _ | .nameOf _
  | .new => e

/-- Is the name one of those under which an enumeration tells of itself? -/
def IsReserved (name : Text) : Prop :=
  (text "__").isPrefixOf name ∧ (text "__").isSuffixOf name

instance : DecidablePred IsReserved := fun name =>
  inferInstanceAs (Decidable ((text "__").isPrefixOf name ∧ (text "__").isSuffixOf name))

/-- Does the step set no reserved name? -/
def Step.IsFree : Step → Prop
  | .set name _ => ¬ IsReserved name
  | .names | .sortedNames | .values | .members | .describe | .look _ | .get _ | .has _ | .nameOf _
  | .new => True

instance : DecidablePred Step.IsFree
  | .set name _ => inferInstanceAs (Decidable (¬ IsReserved name))
  | .names | .sortedNames | .values | .members | .describe | .look _ | .get _ | .has _ | .nameOf _
  | .new => isTrue trivial

theorem set_of_shown (h : isHidden n = false) (v : Datum) : e.set n v = .error .fixedEnum := by
  simp [set, h]

namespace Keeps

/-- A name that is set is hidden, and if it is not reserved the fields stay what they are. -/
theorem set (h : Keeps e fields) {v : Datum} (free : ¬ IsReserved n) (done : e.set n v = .ok e') :
    Keeps e' fields := by
  unfold Enumeration.set at done
  split at done
  · cases done
  · rename_i unshown
    have hidden : isHidden n = true := by simpa using unshown
    split at done
    · rename_i called
      exact absurd (called ▸ (by decide : IsReserved nameName)) free
    · cases done
      have listed : fieldsName ≠ n := by
        rintro rfl
        exact free (by decide)
      constructor
      · rw [Keyed.find?_put_of_ne listed]
        exact h.listed
      · exact h.members
      · exact h.shown
      · intro f hf
        rw [Keyed.find?_put_of_ne (ne_of_shown (h.shown f hf) hidden)]
        exact h.found f hf
      · intro m hm fresh
        rw [Keyed.find?_put_of_ne (ne_of_shown hm hidden)]
        exact h.only m hm fresh

theorem step (h : Keeps e fields) {step : Step} (free : step.IsFree) :
    Keeps (e.after step) fields := by
  cases step with
  | set name value =>
    rw [after]
    cases done : e.set name value with
    | error f => exact h
    | ok e' => exact h.set free done
  | _ => exact h

theorem run (h : Keeps e fields) {steps : List Step} (free : ∀ step ∈ steps, step.IsFree) :
    Keeps (steps.foldl after e) fields := by
  induction steps generalizing e with
  | nil => exact h
  | cons first steps ih =>
    obtain ⟨hfirst, hsteps⟩ := List.forall_mem_cons.1 free
    exact ih (h.step hfirst) hsteps

end Keeps

/-! ## What is told -/

/-- What an enumeration tells of its fields. -/
structure Tells (e : Enumeration) (fields : List (Text × Datum)) : Prop where
  named : e.names = fields.map (·.1)
  sorted : e.sortedNames.Perm (fields.map (·.1))
  valued : e.values = fields.map (·.2)
  members : e.fields = fields
  /-- The value under the name of a field. -/
  looked : ∀ f ∈ fields, e.find? f.1 = some f.2 ∧ e.get (.text f.1) = .ok f.2
  /-- There is nothing under other names that are not hidden. -/
  missed : ∀ n, isHidden n = false → n ∉ fields.map (·.1) →
    e.find? n = none ∧ e.get (.text n) = .error (.noItem (Quoted.quote n))
  has_iff : ∀ v, e.has v = true ↔ ∃ f ∈ fields, f.2.sameAs v
  /-- The first field with a value gives its name to it. -/
  nameOf_eq : ∀ v, e.nameOf v = match fields.find? fun f => f.2.sameAs v with
    | some f => .ok f.1
    | none => Fault.showOf v
  described : e.describe = if e.isBase then .ok (text "<vkshader.BaseEnum>") else do
    let package ← e.package
    let forms ← fields.mapM optionForm
    return text "<" ++ package ++ text "." ++ e.name ++ text " enum with options: "
      ++ List.intercalate (text ", ") forms ++ text ">"
  /-- A name that is not hidden cannot be set, whether or not it is that of a field. -/
  fixed : ∀ n v, isHidden n = false →
    e.set n v = .error .fixedEnum ∧ e.after (.set n v) = e
  unmade : e.new = .error .noInstances

theorem unset?_of_shown (h : isHidden n = false) : e.unset? n = none := by
  have home : n ≠ homeName := ne_of_shown h (by decide)
  have doc : n ≠ text "__doc__" := ne_of_shown h (by decide)
  simp [unset?, home, doc]

theorem mapM_congr {α β : Type} {f g : α → Except Fault β} {l : List α}
    (h : ∀ a ∈ l, f a = g a) : l.mapM f = l.mapM g := by
  induction l with
  | nil => rfl
  | cons a l ih =>
    obtain ⟨first, later⟩ := List.forall_mem_cons.1 h
    rw [List.mapM_cons, List.mapM_cons, first, ih later]

namespace Keeps

theorem names_eq (h : Keeps e fields) : e.names = fields.map (·.1) := by
  simp only [names, h.listed]
  rw [List.filterMap_map, ← List.filterMap_eq_map]
  rfl

theorem find?_eq (h : Keeps e fields) {f : Text × Datum} (hf : f ∈ fields) :
    e.find? f.1 = some f.2 := by
  rw [find?, h.found f hf, Option.some_or]

theorem get_eq (h : Keeps e fields) {f : Text × Datum} (hf : f ∈ fields) :
    e.get (.text f.1) = .ok f.2 := by
  simp only [get, h.find?_eq hf]

theorem find?_eq_none (h : Keeps e fields) (shown : isHidden n = false)
    (fresh : n ∉ fields.map (·.1)) : e.find? n = none := by
  rw [find?, h.only n shown fresh, Option.none_or]
  exact unset?_of_shown shown

theorem values_eq (h : Keeps e fields) : e.values = fields.map (·.2) := by
  rw [values, h.names_eq, List.filterMap_map, ← List.filterMap_eq_map]
  exact List.filterMap_congr fun f hf => h.find?_eq hf

theorem tells (h : Keeps e fields) : Tells e fields where
  named := h.names_eq
  sorted := by
    rw [sortedNames, h.names_eq]
    exact List.mergeSort_perm _ _
  valued := h.values_eq
  members := h.members
  looked f hf := ⟨h.find?_eq hf, h.get_eq hf⟩
  missed n shown fresh := by
    have missing := h.find?_eq_none shown fresh
    refine ⟨missing, ?_⟩
    simp only [get, missing]
  has_iff v := by
    rw [has, h.values_eq, List.any_map, List.any_eq_true]
    rfl
  nameOf_eq v := by
    have same : ∀ f ∈ fields, ((e.find? f.1).any fun w => w.sameAs v) = f.2.sameAs v := by
      intro f hf
      rw [h.find?_eq hf, Option.any_some]
    have first : (e.names.find? fun n => (e.find? n).any fun w => w.sameAs v) =
        (fields.find? fun f => f.2.sameAs v).map (·.1) := by
      rw [h.names_eq, List.find?_map]
      exact congrArg _ (List.find?_congr same)
    rw [nameOf, first]
    cases fields.find? fun f => f.2.sameAs v <;> rfl
  described := by
    have form : ∀ f ∈ fields, (do optionForm (f.1, ← e.get (.text f.1))) = optionForm f := by
      intro f hf
      rw [h.get_eq hf]
      rfl
    have forms : (e.names.mapM fun n => do optionForm (n, ← e.get (.text n))) =
        fields.mapM optionForm := by
      rw [h.names_eq, List.mapM_map]
      exact mapM_congr form
    rw [describe, forms]
  fixed n v shown := by
    have refused : e.set n v = .error .fixedEnum := set_of_shown shown v
    refine ⟨refused, ?_⟩
    rw [after, refused]
    rfl
  unmade := rfl

end Keeps

/-- **The fields of an enumeration are fixed.**

    An enumeration is made of any list of attributes, of which the last of a name counts.  That fails
    for the kind of a value just if a field is defined with something else than an integer, a text or
    nothing; and else it is done, if the enumeration can be called by its name.  Then, whatever is
    read, whatever names are set but the reserved ones, and however often an instance is asked for,
    the enumeration tells the fields of its definition. -/
theorem fields_kept (name : Text) (definitions : List (Text × Datum)) :
    ((∃ fault, define name definitions = .error (.type fault)) ↔ IsRefused definitions) ∧
    (¬ IsRefused definitions → refusal? name = none →
      ∃ e, define name definitions = .ok e) ∧
    ∀ e, define name definitions = .ok e → ∀ steps : List Step, (∀ step ∈ steps, step.IsFree) →
      Tells (steps.foldl after e) (fieldsOf definitions) := by
  refine ⟨⟨?_, ?_⟩, ?_, ?_⟩
  · rintro ⟨fault, failed⟩
    by_contra accepted
    rw [define_of_not_refused accepted] at failed
    split at failed
    · rename_i f refusal
      exact ne_type_of_refusal? refusal fault (Except.error.inj failed)
    · cases failed
  · intro refused
    exact ⟨_, define_of_refused refused name⟩
  · intro accepted proper
    rw [define_of_not_refused accepted, proper]
    exact ⟨_, rfl⟩
  · intro e made steps free
    exact ((keeps_define made).run free).tells

/-- Two fields with one value, another with its own name for a value, and a hidden name: fields are
    set in vain, the hidden name is set, and the first of the fields gives its name. -/
theorem fields_kept_aliases :
    let definitions : List (Text × Datum) := [(text "A", .absent), (text "_d", .int 5),
      (text "B", .text (text "A")), (text "C", .flag true), (text "D", .int 1)]
    let fields : List (Text × Datum) := [(text "A", .text (text "A")),
      (text "B", .text (text "A")), (text "C", .flag true), (text "D", .int 1)]
    let steps : List Step := [.set (text "A") (.int 2), .has (.int 1), .set (text "_d") .absent,
      .new, .set (text "F") (.int 3)]
    ¬ IsRefused definitions ∧ refusal? (text "E") = none ∧ (∀ step ∈ steps, step.IsFree) ∧
    (¬ ∃ fault, define (text "E") definitions = .error (.type fault)) ∧
    ∃ e, define (text "E") definitions = .ok e ∧ Tells (steps.foldl after e) fields ∧
      (steps.foldl after e).get (.text (text "_d")) = .ok .absent ∧
      (steps.foldl after e).nameOf (.int 1) = .ok (text "C") := by
  intro definitions fields steps
  have accepted : ¬ IsRefused definitions := by
    rcases fieldsOf?_ofList definitions with ⟨-, accepted⟩ | ⟨missing, -⟩
    · exact accepted
    · exact absurd missing (by decide)
  have proper : refusal? (text "E") = none := by decide
  have free : ∀ step ∈ steps, step.IsFree := by decide
  obtain ⟨refused_iff, making, kept⟩ := fields_kept (text "E") definitions
  obtain ⟨e, made⟩ := making accepted proper
  have tells : Tells (steps.foldl after e) fields := kept e made steps free
  refine ⟨accepted, proper, free, fun failed => accepted (refused_iff.1 failed), e, made, tells,
    ?_, ?_⟩
  · cases made
    rfl
  · rw [tells.nameOf_eq]
    rfl

/-- An enumeration with no attributes but its fields keeps them, whatever else is said about it. -/
theorem keeps_self (distinct : (e.fields.map (·.1)).Nodup)
    (shown : ∀ f ∈ e.fields, isHidden f.1 = false)
    (attributes : e.attributes = (ofFields e.name e.fields).attributes) : Keeps e e.fields := by
  have kept : Keeps (ofFields e.name e.fields) e.fields :=
    keeps_ofFields distinct shown fun _ _ _ => rfl
  constructor
  · rw [attributes]
    exact kept.listed
  · rfl
  · exact shown
  · rw [attributes]
    exact kept.found
  · rw [attributes]
    exact kept.only

/-- The enumerations of the library tell their fields, whatever is done with them. -/
theorem tells_of_mem_enumerations (h : e ∈ enumerations) {steps : List Step}
    (free : ∀ step ∈ steps, step.IsFree) : Tells (steps.foldl after e) e.fields := by
  have all : ∀ e ∈ enumerations, (e.fields.map (·.1)).Nodup ∧
      (∀ f ∈ e.fields, isHidden f.1 = false) ∧
      e.attributes = (ofFields e.name e.fields).attributes := by decide +kernel
  obtain ⟨distinct, shown, attributes⟩ := all e h
  exact ((keeps_self distinct shown attributes).run free).tells

end ShaderBuild.Enumeration
