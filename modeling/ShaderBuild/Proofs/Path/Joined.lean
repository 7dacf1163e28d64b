/-
  Paths seen from directories.

  To go through a path that is seen from a directory is to go through the directory first and
  through the path then.  So a directory may be normalized before something is named in it, and the
  directory of what is found there is named in it too.

  * `Path.root_join`, `Path.pushAll_join`: the root and the components of a path in a directory;
  * `Path.normalize_join_normalize`, `Path.absolute_join`: only what the directory names matters;
  * `Path.directory_normalize_join`: the directory of what a path names in a directory.
-/
import Mathlib.Data.List.Induction
import ShaderBuild.Proofs.Path.Canonical

namespace ShaderBuild.Path

variable {p q d c r : Text} {above names : List Text}

/-! ## Joined paths -/

theorem join_of_empty (p : Text) : join [] p = p := by
  unfold join
  split <;> rfl

/-- A path that is not absolute is put behind a directory, with a slash between them if there is
    need for one. -/
theorem join_eq (h : isAbsolute p = false) (hd : d ≠ []) :
    join d p = d ++ p ∧ d.getLast? = some slash ∨
      join d p = d ++ slash :: p ∧ ∃ c ∈ d, c ≠ slash := by
  unfold join
  rw [if_neg (by simp [h])]
  split
  · rename_i ends
    exact .inl ⟨rfl, by simpa [hd] using ends⟩
  · rename_i open_
    refine .inr ⟨rfl, d.getLast hd, List.getLast_mem hd, fun hlast => open_ ?_⟩
    simp [List.getLast?_eq_some_getLast hd, hlast]

/-- The root is that of the directory. -/
theorem root_join (h : isAbsolute p = false) (d : Text) : root (join d p) = root d := by
  by_cases hd : d = []
  · subst hd
    rw [join_of_empty]
    exact root_append h []
  · rcases join_eq h hd with ⟨hj, -⟩ | ⟨hj, other⟩
    · rw [hj, root_append h]
    · rw [hj, root_append_slash other]

/-- The components are those of the directory and then those of the path. -/
theorem pushAll_join (h : isAbsolute p = false) (above : List Text) (d : Text) :
    pushAll above (join d p) = pushAll (pushAll above d) p := by
  by_cases hd : d = []
  · subst hd
    rw [join_of_empty, pushAll_nil]
  · rcases join_eq h hd with ⟨hj, ends⟩ | ⟨hj, -⟩
    · obtain ⟨start, rfl⟩ := List.getLast?_eq_some_iff.1 ends
      rw [hj, List.append_assoc, List.singleton_append, pushAll_append, pushAll_concat]
    · rw [hj, pushAll_append]

theorem isAbsolute_join_of_not (hd : isAbsolute d = false) (hp : isAbsolute p = false) :
    isAbsolute (join d p) = false := by
  cases d with
  | nil => rwa [join_of_empty]
  | cons c d =>
    have other : c ≠ slash := by simpa [isAbsolute] using hd
    rcases join_eq hp (List.cons_ne_nil c d) with ⟨hj, -⟩ | ⟨hj, -⟩ <;>
      simp [hj, isAbsolute, other]

theorem normalize_congr (hr : root p = root q) (hc : pushAll [] p = pushAll [] q) :
    normalize p = normalize q := by
  rw [normalize, hr, components_eq, hc, normalize, components_eq]

/-- What a path names in a directory only depends on what the directory names. -/
theorem normalize_join_normalize (d p : Text) :
    normalize (join (normalize d) p) = normalize (join d p) := by
  cases h : isAbsolute p with
  | true => rw [join_of_isAbsolute h, join_of_isAbsolute h]
  | false =>
    have hr := isRoot_root d
    have hn := isName_components d
    apply normalize_congr
    · rw [root_join h, root_join h, normalize, root_ofComponents hr hn]
    · rw [pushAll_join h, pushAll_join h, normalize, pushAll_ofComponents hr hn, List.append_nil,
        components_eq, List.reverse_reverse]

theorem normalize_join_congr (h : normalize d = normalize q) (p : Text) :
    normalize (join d p) = normalize (join q p) := by
  rw [← normalize_join_normalize, h, normalize_join_normalize]

/-- A path may be seen from a directory that is seen from another one. -/
theorem normalize_join_join (d e p : Text) :
    normalize (join d (join e p)) = normalize (join (join d e) p) := by
  cases hp : isAbsolute p with
  | true => rw [join_of_isAbsolute hp, join_of_isAbsolute hp, join_of_isAbsolute hp]
  | false =>
    cases he : isAbsolute e with
    | true => rw [join_of_isAbsolute he, join_of_isAbsolute (isAbsolute_join he p)]
    | false =>
      have hj := isAbsolute_join_of_not he hp
      apply normalize_congr
      · rw [root_join hj, root_join hp, root_join he]
      · rw [pushAll_join hj, pushAll_join hp, pushAll_join hp, pushAll_join he]

/-- The absolute path of what is named in a directory: the directory may be made absolute first. -/
theorem absolute_join (cwd d p : Text) :
    absolute cwd (join d p) = normalize (join (absolute cwd d) p) := by
  rw [absolute, normalize_join_join, absolute, normalize_join_normalize]

/-- What changes no components names the directory itself. -/
theorem normalize_join_of_pushAll (h : isAbsolute p = false)
    (none : ∀ above, pushAll above p = above) (d : Text) : normalize (join d p) = normalize d := by
  apply normalize_congr
  · exact root_join h d
  · rw [pushAll_join h, none]

/-! ## Directories -/

/-- A path is a last component alone, or one behind a slash. -/
theorem lastComponent_cases (p : Text) :
    slash ∉ p ∨ ∃ d c, slash ∉ c ∧ p = d ++ slash :: c := by
  by_cases h : slash ∈ p
  · obtain ⟨c, d, hp, hc⟩ := List.eq_append_cons_of_mem (List.mem_reverse.2 h)
    refine .inr ⟨d.reverse, c.reverse, by simpa using hc, ?_⟩
    rw [← List.reverse_reverse p, hp]
    simp
  · exact .inl h

theorem takeWhile_component (h : slash ∉ c) (rest : Text) :
    (c.reverse ++ rest).takeWhile (· ≠ slash) = c.reverse ++ rest.takeWhile (· ≠ slash) := by
  refine List.takeWhile_append_of_pos fun x hx => ?_
  rw [decide_eq_true_iff]
  rintro rfl
  exact h (List.mem_reverse.1 hx)

theorem lastComponent_append (h : slash ∉ c) (d : Text) : lastComponent (d ++ slash :: c) = c := by
  rw [lastComponent, List.reverse_append, List.reverse_cons, List.append_assoc,
    takeWhile_component h, List.singleton_append, List.takeWhile_cons_of_neg (by simp),
    List.append_nil, List.reverse_reverse]

theorem lastComponent_of_notMem (h : slash ∉ c) : lastComponent c = c := by
  have whole := takeWhile_component h []
  rw [List.append_nil, List.takeWhile_nil, List.append_nil] at whole
  rw [lastComponent, whole, List.reverse_reverse]

theorem directory_of_notMem (h : slash ∉ c) : directory c = [] := by
  rw [directory, lastComponent_of_notMem h, Nat.sub_self]
  rfl

theorem directory_append (h : slash ∉ c) (d : Text) :
    directory (d ++ slash :: c) =
      if d.all (· = slash) then d ++ [slash] else Text.stripEnd (· = slash) d := by
  have head : (d ++ slash :: c).take ((d ++ slash :: c).length - c.length) = d ++ [slash] := by
    rw [List.append_cons, List.length_append, Nat.add_sub_cancel, List.take_left]
  rw [directory, lastComponent_append h, head, List.all_append]
  simp [Text.stripEnd]

theorem pushAll_stripEnd (above : List Text) (d : Text) :
    pushAll above (Text.stripEnd (· = slash) d) = pushAll above d := by
  induction d using List.reverseRecOn with
  | nil => rfl
  | append_singleton d c ih =>
    by_cases hc : c = slash
    · subst hc
      rw [pushAll_concat, ← ih]
      simp [Text.stripEnd]
    · simp [Text.stripEnd, hc]

theorem stripEnd_of_getLast? (h : d.getLast? ≠ some slash) : Text.stripEnd (· = slash) d = d := by
  induction d using List.reverseRecOn with
  | nil => rfl
  | append_singleton d c => simp_all [Text.stripEnd]

/-- Slashes at the end of a directory add nothing to its components. -/
theorem pushAll_directory_append (h : slash ∉ c) (above : List Text) (d : Text) :
    pushAll above (directory (d ++ slash :: c)) = pushAll above d := by
  rw [directory_append h]
  split
  · exact pushAll_concat above d
  · exact pushAll_stripEnd above d

/-- A name comes after the components of its directory. -/
theorem pushAll_directory (h : IsName (lastComponent p)) (above : List Text) :
    pushAll above p = lastComponent p :: pushAll above (directory p) := by
  rcases lastComponent_cases p with hp | ⟨d, c, hc, rfl⟩
  · rw [lastComponent_of_notMem hp] at h ⊢
    rw [directory_of_notMem hp, pushAll_of_notMem hp, push_of_isName h, pushAll_nil]
  · rw [lastComponent_append hc] at h ⊢
    rw [pushAll_append, pushAll_of_notMem hc, push_of_isName h, pushAll_directory_append hc]

theorem stripEnd_isPrefix (d : Text) : Text.stripEnd (· = slash) d <+: d := by
  rw [← List.reverse_suffix, Text.stripEnd, List.reverse_reverse]
  exact List.dropWhile_suffix _

theorem directory_isPrefix (p : Text) : directory p <+: p := by
  unfold directory
  dsimp only
  split
  · exact List.take_prefix _ _
  · exact (stripEnd_isPrefix _).trans (List.take_prefix _ _)

theorem isAbsolute_directory_of_not (h : isAbsolute p = false) :
    isAbsolute (directory p) = false := by
  obtain ⟨rest, hp⟩ := directory_isPrefix p
  rw [Bool.eq_false_iff]
  intro absolute
  obtain ⟨start, hstart⟩ := isAbsolute_iff.1 absolute
  rw [hstart, List.cons_append] at hp
  rw [isAbsolute_iff.2 ⟨_, hp.symm⟩] at h
  cases h

/-- The directory of a path in its shortest form is the path without its last name. -/
theorem directory_ofComponents (hr : IsRoot r) (h : ∀ name ∈ names ++ [c], IsName name) :
    directory (ofComponents r (names ++ [c])) = ofComponents r names := by
  obtain ⟨before, last⟩ := List.forall_mem_append.1 h
  have hc : slash ∉ c := (last c (List.mem_singleton_self c)).noSlash
  by_cases hn : names = []
  · subst hn
    rw [List.nil_append, ofComponents_singleton, ofComponents, List.intercalate_nil,
      List.append_nil]
    cases hr with
    | one => exact directory_append hc []
    | two => exact directory_append hc [slash]
  · have ends : (ofComponents r names).getLast? ≠ some slash := getLast?_ofComponents hn before
    have some : ofComponents r names ≠ [] := by
      cases hr <;> exact List.cons_ne_nil _ _
    rw [ofComponents_concat hn, directory_append hc, if_neg, stripEnd_of_getLast? ends]
    intro all
    have last := List.all_eq_true.1 all _ (List.getLast_mem some)
    rw [List.getLast?_eq_some_getLast some] at ends
    exact ends (congrArg Option.some (by simpa using last))

/-- The directory of what a path names in a directory is what the directory of the path names
    there. -/
theorem directory_normalize_join (hp : isAbsolute p = false) (h : IsName (lastComponent p))
    (d : Text) : directory (normalize (join d p)) = normalize (join d (directory p)) := by
  have hq := isAbsolute_directory_of_not hp
  have same : components (join d p) = components (join d (directory p)) ++ [lastComponent p] := by
    rw [components_eq, pushAll_join hp, pushAll_directory h, List.reverse_cons, components_eq,
      pushAll_join hq]
  have names : ∀ name ∈ components (join d (directory p)) ++ [lastComponent p], IsName name :=
    same ▸ isName_components (join d p)
  rw [normalize, same, directory_ofComponents (isRoot_root _) names, root_join hp, normalize,
    root_join hq]

end ShaderBuild.Path
