/-
  Paths in their shortest form.

  Normalization goes through a path component by component.  What it keeps are names, so that it
  keeps everything when it goes through the result.

  * `Path.IsName`, `Path.IsRoot`, `Path.IsCanonical`: names between single slashes, below a root;
  * `Path.pushAll`: the components of one path after those of another;
  * `Path.isCanonical_normalize`, `Path.IsCanonical.normalize_eq`: normalization leads to the
    shortest form, and leaves it as it is;
  * `Path.IsCanonical.isRoot_of_getLast?`: nothing but a root ends in a slash.
-/
import ShaderBuild.Proofs.Path
import ShaderBuild.Proofs.Text.Basic

namespace ShaderBuild.Path

variable {p q d c r : Text} {above names : List Text}

/-! ## Components -/

/-- A component that stands for nothing but a file or directory of that name. -/
structure IsName (c : Text) : Prop where
  ne_nil : c ≠ []
  ne_dot : c ≠ dot
  ne_dots : c ≠ dots
  noSlash : slash ∉ c

instance : DecidablePred IsName := fun c =>
  decidable_of_iff (c ≠ [] ∧ c ≠ dot ∧ c ≠ dots ∧ slash ∉ c)
    ⟨fun ⟨hn, hd, hds, hs⟩ => ⟨hn, hd, hds, hs⟩, fun h => ⟨h.1, h.2, h.3, h.4⟩⟩

theorem push_of_isName (h : IsName c) (above : List Text) : push above c = c :: above := by
  simp [push, h.ne_nil, h.ne_dot, h.ne_dots]

/-- Only names are kept. -/
theorem isName_push (h : ∀ name ∈ above, IsName name) (hc : slash ∉ c) :
    ∀ name ∈ push above c, IsName name := by
  intro name hname
  unfold push at hname
  split at hname
  · exact h name hname
  · rename_i some
    simp only [Bool.or_eq_true, List.isEmpty_iff, decide_eq_true_eq, not_or] at some
    split at hname
    · exact h name (List.mem_of_mem_tail hname)
    · rename_i dots
      rcases List.mem_cons.1 hname with rfl | hname
      · exact ⟨some.1, some.2, dots, hc⟩
      · exact h name hname

theorem foldl_push (h : ∀ name ∈ names, IsName name) :
    names.foldl push above = names.reverse ++ above := by
  induction names generalizing above with
  | nil => rfl
  | cons name names ih =>
    obtain ⟨first, rest⟩ := List.forall_mem_cons.1 h
    rw [List.foldl_cons, push_of_isName first, ih rest, List.reverse_cons, List.append_assoc]
    rfl

/-- The components of a path after others, with the last component first. -/
def pushAll (above : List Text) (p : Text) : List Text := (Text.splitOn slash p).foldl push above

theorem components_eq (p : Text) : components p = (pushAll [] p).reverse := rfl

theorem pushAll_nil (above : List Text) : pushAll above [] = above := rfl

theorem pushAll_of_notMem (h : slash ∉ c) (above : List Text) : pushAll above c = push above c := by
  rw [pushAll, Text.splitOn_of_notMem h]
  rfl

/-- What is behind a slash comes after what is before it. -/
theorem pushAll_append (above : List Text) (p q : Text) :
    pushAll above (p ++ slash :: q) = pushAll (pushAll above p) q := by
  rw [pushAll, Text.splitOn_append, List.foldl_append]
  rfl

theorem pushAll_cons (above : List Text) (p : Text) :
    pushAll above (slash :: p) = pushAll above p := pushAll_append above [] p

theorem pushAll_concat (above : List Text) (p : Text) :
    pushAll above (p ++ [slash]) = pushAll above p := pushAll_append above p []

theorem isName_pushAll (h : ∀ name ∈ above, IsName name) (p : Text) :
    ∀ name ∈ pushAll above p, IsName name := by
  have noSlash : ∀ piece ∈ Text.splitOn slash p, slash ∉ piece :=
    fun _ => Text.notMem_of_mem_splitOn
  unfold pushAll
  generalize Text.splitOn slash p = pieces at noSlash
  induction pieces generalizing above with
  | nil => exact h
  | cons piece pieces ih =>
    obtain ⟨first, rest⟩ := List.forall_mem_cons.1 noSlash
    exact ih (isName_push h first) rest

/-- The components of a path are names. -/
theorem isName_components (p : Text) : ∀ name ∈ components p, IsName name := by
  intro name hname
  rw [components_eq, List.mem_reverse] at hname
  exact isName_pushAll (List.forall_mem_nil _) p name hname

theorem pushAll_intercalate (h : ∀ name ∈ names, IsName name) (above : List Text) :
    pushAll above (List.intercalate [slash] names) = names.reverse ++ above := by
  by_cases hn : names = []
  · subst hn
    exact pushAll_nil above
  · rw [pushAll, Text.splitOn_eq_splitOn,
      List.splitOn_intercalate slash (fun name hname => (h name hname).noSlash) hn, foldl_push h]

/-! ## Roots -/

/-- What a path in its shortest form starts with. -/
inductive IsRoot : Text → Prop
  | one : IsRoot [slash]
  | two : IsRoot [slash, slash]

theorem isRoot_root (p : Text) : IsRoot (root p) := by
  unfold root
  split
  · exact .two
  · exact .one

theorem IsRoot.root_eq (h : IsRoot r) : root r = r := by
  cases h <;> rfl

theorem IsRoot.pushAll (h : IsRoot r) (above : List Text) (p : Text) :
    pushAll above (r ++ p) = Path.pushAll above p := by
  cases h with
  | one => exact pushAll_cons above p
  | two => exact (pushAll_cons above (slash :: p)).trans (pushAll_cons above p)

theorem takeWhile_slash (h : isAbsolute p = false) : p.takeWhile (· = slash) = [] := by
  cases p with
  | nil => rfl
  | cons c p =>
    have other : c ≠ slash := by simpa [isAbsolute] using h
    exact List.takeWhile_cons_of_neg (by simpa using other)

/-- What does not start with a slash adds nothing to the root before it. -/
theorem root_append (h : isAbsolute q = false) (d : Text) : root (d ++ q) = root d := by
  have same : (d ++ q).takeWhile (· = slash) = d.takeWhile (· = slash) := by
    rw [List.takeWhile_append]
    split
    · rename_i all
      rw [takeWhile_slash h, List.append_nil, (List.takeWhile_prefix _).eq_of_length all]
    · rfl
  rw [root, same, root]

/-- Nor does what is behind a slash add anything to it, if there is something between them. -/
theorem root_append_slash (h : ∃ c ∈ d, c ≠ slash) (q : Text) :
    root (d ++ slash :: q) = root d := by
  have same : (d ++ slash :: q).takeWhile (· = slash) = d.takeWhile (· = slash) := by
    rw [List.takeWhile_append, if_neg]
    intro all
    obtain ⟨c, hc, other⟩ := h
    have whole := (List.takeWhile_prefix (· = slash)).eq_of_length all
    exact other (by simpa using List.takeWhile_eq_self_iff.1 whole c hc)
  rw [root, same, root]

theorem isAbsolute_intercalate (h : ∀ name ∈ names, IsName name) :
    isAbsolute (List.intercalate [slash] names) = false := by
  cases names with
  | nil => rfl
  | cons name names =>
    obtain ⟨first, -⟩ := List.forall_mem_cons.1 h
    obtain ⟨c, rest, rfl⟩ := List.exists_cons_of_ne_nil first.ne_nil
    have other : c ≠ slash := fun hc => first.noSlash (hc ▸ List.mem_cons_self)
    cases names <;> simp [isAbsolute, List.intercalate_cons_cons, other]

section

variable (hr : IsRoot r) (h : ∀ name ∈ names, IsName name)

include hr h

theorem root_ofComponents : root (ofComponents r names) = r := by
  rw [ofComponents, root_append (isAbsolute_intercalate h), hr.root_eq]

theorem pushAll_ofComponents (above : List Text) :
    pushAll above (ofComponents r names) = names.reverse ++ above := by
  rw [ofComponents, hr.pushAll, pushAll_intercalate h]

theorem normalize_ofComponents : normalize (ofComponents r names) = ofComponents r names := by
  rw [normalize, root_ofComponents hr h, components_eq, pushAll_ofComponents hr h, List.append_nil,
    List.reverse_reverse]

end

/-! ## The shortest form -/

/-- A path in its shortest form: names between single slashes, below a root. -/
inductive IsCanonical : Text → Prop
  | ofComponents {root names} : IsRoot root → (∀ name ∈ names, IsName name) →
    IsCanonical (ofComponents root names)

/-- Normalization leads to the shortest form. -/
theorem isCanonical_normalize (p : Text) : IsCanonical (normalize p) :=
  .ofComponents (isRoot_root p) (isName_components p)

namespace IsCanonical

variable (h : IsCanonical p)

include h

theorem isAbsolute : isAbsolute p = true := by
  cases h with
  | ofComponents hr => cases hr <;> rfl

/-- The shortest form stays as it is. -/
theorem normalize_eq : normalize p = p := by
  cases h with
  | ofComponents hr hn => exact normalize_ofComponents hr hn

theorem absolute_eq (cwd : Text) : absolute cwd p = p := by
  rw [absolute_of_isAbsolute h.isAbsolute, h.normalize_eq]

end IsCanonical

theorem intercalate_concat (h : names ≠ []) (c : Text) :
    List.intercalate [slash] (names ++ [c]) = List.intercalate [slash] names ++ slash :: c := by
  induction names with
  | nil => exact absurd rfl h
  | cons name names ih =>
    cases names with
    | nil => simp [List.intercalate_cons_cons]
    | cons next names =>
      have later := ih (List.cons_ne_nil next names)
      rw [List.cons_append] at later
      rw [List.cons_append, List.cons_append, List.intercalate_cons_cons, later,
        List.intercalate_cons_cons, List.append_assoc _ _ (slash :: c)]

/-- A path goes on behind a slash, but for the first component, which follows the root. -/
theorem ofComponents_concat (h : names ≠ []) (r c : Text) :
    ofComponents r (names ++ [c]) = ofComponents r names ++ slash :: c := by
  rw [ofComponents, intercalate_concat h, ofComponents, List.append_assoc]

theorem ofComponents_singleton (r c : Text) : ofComponents r [c] = r ++ c := by
  rw [ofComponents, List.intercalate_singleton]

/-- A path with a component does not end in a slash. -/
theorem getLast?_ofComponents (hn : names ≠ []) (h : ∀ name ∈ names, IsName name) :
    (ofComponents r names).getLast? ≠ some slash := by
  obtain ⟨names, c, rfl⟩ : ∃ before c, names = before ++ [c] :=
    ⟨_, _, (List.dropLast_concat_getLast hn).symm⟩
  obtain ⟨start, hstart⟩ : ∃ start, ofComponents r (names ++ [c]) = start ++ c := by
    by_cases hfirst : names = []
    · subst hfirst
      exact ⟨r, ofComponents_singleton r c⟩
    · exact ⟨_, (ofComponents_concat hfirst r c).trans (List.append_cons _ _ _)⟩
  have last : IsName c := h c (by simp)
  intro hlast
  rw [hstart, List.getLast?_append, List.getLast?_eq_some_getLast last.ne_nil, Option.some_or,
    Option.some_inj] at hlast
  exact last.noSlash (hlast ▸ List.getLast_mem last.ne_nil)

/-- The shortest form ends in a slash only if there is nothing but the root. -/
theorem IsCanonical.isRoot_of_getLast? (h : IsCanonical p) (hl : p.getLast? = some slash) :
    IsRoot p := by
  cases h with
  | @ofComponents root names hr hn =>
    by_cases hnames : names = []
    · subst hnames
      rwa [Path.ofComponents, List.intercalate_nil, List.append_nil]
    · exact absurd hl (getLast?_ofComponents hnames hn)

end ShaderBuild.Path
