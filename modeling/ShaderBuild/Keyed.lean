/-
  Values under keys, in the order in which the keys were first given.

  * `Keyed.find?`, `Keyed.put`, `Keyed.putAll`;
  * `Keyed.ofList`: a repeated key keeps its first place and its last value;
  * `Keyed.find?_put`, `Keyed.keys_put`: the value and the place that a key is given;
  * `Keyed.find?_putAll`, `Keyed.keys_putAll`: the same of several keys;
  * `Keyed.find?_of_mem`: what is found if no key is repeated.
-/
namespace ShaderBuild.Keyed

variable {α β : Type} [DecidableEq α]

/-- The value under a key. -/
def find? (key : α) (pairs : List (α × β)) : Option β :=
  (pairs.find? fun p => p.1 = key).map (·.2)

/-- The pairs with the value under a key replaced in its place, or added at the end. -/
def put (key : α) (value : β) : List (α × β) → List (α × β)
  | [] => [(key, value)]
  | (k, v) :: rest => if k = key then (key, value) :: rest else (k, v) :: put key value rest

/-- The pairs after more of them are given, one after the other. -/
def putAll (more pairs : List (α × β)) : List (α × β) :=
  more.foldl (fun ps p => put p.1 p.2 ps) pairs

/-- The pairs that are given one after the other. -/
def ofList (pairs : List (α × β)) : List (α × β) := putAll pairs []

/-- The value that is given last under a key. -/
def last? (key : α) (pairs : List (α × β)) : Option β :=
  (pairs.filter fun p => p.1 = key).getLast?.map (·.2)

theorem find?_put_self (key : α) (value : β) (pairs : List (α × β)) :
    find? key (put key value pairs) = some value := by
  induction pairs with
  | nil => simp [put, find?]
  | cons p rest ih =>
    obtain ⟨k, v⟩ := p
    by_cases h : k = key
    · simp [put, find?, h]
    · simpa [put, find?, h] using ih

theorem find?_put_of_ne {key other : α} (h : other ≠ key) (value : β) (pairs : List (α × β)) :
    find? other (put key value pairs) = find? other pairs := by
  induction pairs with
  | nil => simp [put, find?, h.symm]
  | cons p rest ih =>
    obtain ⟨k, v⟩ := p
    by_cases hk : k = key
    · simp [put, find?, hk, h.symm]
    · by_cases ho : k = other
      · subst ho
        simp [put, find?, hk]
      · simpa [put, find?, hk, ho] using ih

theorem find?_put (key other : α) (value : β) (pairs : List (α × β)) :
    find? other (put key value pairs) = if other = key then some value else find? other pairs := by
  by_cases h : other = key
  · rw [if_pos h, h, find?_put_self]
  · rw [if_neg h, find?_put_of_ne h]

/-- A key keeps its place, and a new one comes last. -/
theorem keys_put (key : α) (value : β) (pairs : List (α × β)) :
    (put key value pairs).map (·.1) =
      if key ∈ pairs.map (·.1) then pairs.map (·.1) else pairs.map (·.1) ++ [key] := by
  induction pairs with
  | nil => simp [put]
  | cons p rest ih =>
    obtain ⟨k, v⟩ := p
    by_cases h : k = key
    · simp [put, h]
    · have other : key ≠ k := fun same => h same.symm
      simp only [put, if_neg h, List.map_cons, ih, List.mem_cons, other, false_or]
      split <;> rfl

theorem find?_of_mem {pairs : List (α × β)} (h : (pairs.map (·.1)).Nodup) {p : α × β}
    (hp : p ∈ pairs) : find? p.1 pairs = some p.2 := by
  induction pairs with
  | nil => cases hp
  | cons q rest ih =>
    rw [List.map_cons, List.nodup_cons] at h
    obtain ⟨fresh, later⟩ := h
    rcases List.mem_cons.1 hp with rfl | hp
    · simp [find?]
    · have other : q.1 ≠ p.1 := by
        intro same
        rw [same] at fresh
        exact fresh (List.mem_map_of_mem hp)
      simpa [find?, other] using ih later hp

theorem put_put (key : α) (value value' : β) (pairs : List (α × β)) :
    put key value' (put key value pairs) = put key value' pairs := by
  induction pairs with
  | nil => simp [put]
  | cons p rest ih =>
    obtain ⟨k, v⟩ := p
    by_cases h : k = key
    · simp [put, h]
    · simpa [put, h] using ih

/-! ## Several pairs -/

theorem last?_cons (key : α) (p : α × β) (pairs : List (α × β)) :
    last? key (p :: pairs) = (last? key pairs).or (if p.1 = key then some p.2 else none) := by
  by_cases h : p.1 = key
  · simp only [last?, List.filter_cons, h, decide_true, if_true, List.getLast?_cons]
    cases (pairs.filter fun q => q.1 = key).getLast? <;> rfl
  · simp [last?, h]

theorem last?_eq_none_iff {key : α} {pairs : List (α × β)} :
    last? key pairs = none ↔ key ∉ pairs.map (·.1) := by
  rw [last?, Option.map_eq_none_iff, List.getLast?_eq_none_iff, List.filter_eq_nil_iff]
  simp only [decide_eq_true_eq, List.mem_map, not_exists, not_and]

/-- What is found is what was given last, or else what was there before. -/
theorem find?_putAll (key : α) (more pairs : List (α × β)) :
    find? key (putAll more pairs) = (last? key more).or (find? key pairs) := by
  induction more generalizing pairs with
  | nil => rfl
  | cons p more ih =>
    have first : putAll (p :: more) pairs = putAll more (put p.1 p.2 pairs) := rfl
    rw [first, ih, find?_put, last?_cons, Option.or_assoc]
    by_cases h : p.1 = key
    · simp [h]
    · have other : key ≠ p.1 := fun same => h same.symm
      simp [h, other]

/-- The keys that were there keep their places, and each new one stands where it first came. -/
theorem keys_putAll [BEq α] [LawfulBEq α] (more pairs : List (α × β)) :
    (putAll more pairs).map (·.1) = pairs.map (·.1) ++
      ((more.map (·.1)).filter fun k => k ∉ pairs.map (·.1)).eraseDups := by
  induction more generalizing pairs with
  | nil => simp [putAll]
  | cons p more ih =>
    have first : putAll (p :: more) pairs = putAll more (put p.1 p.2 pairs) := rfl
    rw [first, ih, keys_put]
    by_cases h : p.1 ∈ pairs.map (·.1)
    · rw [if_pos h, List.map_cons, List.filter_cons_of_neg (by simpa using h)]
    · rw [if_neg h, List.map_cons, List.filter_cons_of_pos (by simpa using h),
        List.eraseDups_cons, List.append_assoc, List.singleton_append, List.filter_filter]
      simp only [List.mem_append, List.mem_singleton, not_or, Bool.decide_and]
      congr 4
      funext k
      rw [Bool.and_comm]
      congr 1
      by_cases same : k = p.1 <;> simp [same]

theorem find?_ofList (key : α) (pairs : List (α × β)) :
    find? key (ofList pairs) = last? key pairs := by
  rw [ofList, find?_putAll]
  exact Option.or_none

theorem keys_ofList [BEq α] [LawfulBEq α] (pairs : List (α × β)) :
    (ofList pairs).map (·.1) = (pairs.map (·.1)).eraseDups := by
  have fresh : ∀ k ∈ pairs.map (·.1), decide (k ∉ ([] : List (α × β)).map (·.1)) = true := by simp
  rw [ofList, keys_putAll, List.filter_eq_self.2 fresh]
  rfl

theorem nodup_put {pairs : List (α × β)} (h : (pairs.map (·.1)).Nodup) (key : α) (value : β) :
    ((put key value pairs).map (·.1)).Nodup := by
  rw [keys_put]
  split
  · exact h
  · rename_i fresh
    refine List.nodup_append.2 ⟨h, List.pairwise_singleton _ _, ?_⟩
    intro k hk k' hk' same
    rw [same, List.mem_singleton.1 hk'] at hk
    exact fresh hk

theorem nodup_putAll {pairs : List (α × β)} (h : (pairs.map (·.1)).Nodup)
    (more : List (α × β)) : ((putAll more pairs).map (·.1)).Nodup := by
  induction more generalizing pairs with
  | nil => exact h
  | cons p more ih => exact ih (nodup_put h p.1 p.2)

theorem nodup_ofList (pairs : List (α × β)) : ((ofList pairs).map (·.1)).Nodup := by
  have none : (([] : List (α × β)).map (·.1)).Nodup := List.nodup_nil
  exact nodup_putAll none pairs

/-- If no key is repeated, what is given last is what is given. -/
theorem last?_of_mem {pairs : List (α × β)} (h : (pairs.map (·.1)).Nodup) {p : α × β}
    (hp : p ∈ pairs) : last? p.1 pairs = some p.2 := by
  induction pairs with
  | nil => cases hp
  | cons q rest ih =>
    rw [List.map_cons, List.nodup_cons] at h
    obtain ⟨fresh, later⟩ := h
    rw [last?_cons]
    rcases List.mem_cons.1 hp with rfl | hp
    · rw [last?_eq_none_iff.2 fresh, if_pos rfl, Option.none_or]
    · rw [ih later hp, Option.some_or]

end ShaderBuild.Keyed
