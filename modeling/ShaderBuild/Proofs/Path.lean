/-
  Absolute paths.

  A path that starts at the root does so wherever it is seen from, and so do its directory and what
  is named in it.

  * `Path.isAbsolute_normalize`, `Path.isAbsolute_join`, `Path.isAbsolute_directory`;
  * `Path.absolute_of_isAbsolute`: the current directory does not matter to it.
-/
import Mathlib.Data.List.TakeWhile
import ShaderBuild.Path

namespace ShaderBuild.Path

variable {p d : Text}

theorem isAbsolute_iff : isAbsolute p = true ↔ ∃ rest, p = slash :: rest := by
  rw [isAbsolute, decide_eq_true_iff, List.head?_eq_some_iff]

theorem isAbsolute_normalize (p : Text) : isAbsolute (normalize p) = true := by
  refine isAbsolute_iff.2 ?_
  unfold normalize ofComponents root
  split
  · exact ⟨_, rfl⟩
  · exact ⟨_, rfl⟩

theorem join_of_isAbsolute (h : isAbsolute p = true) : join d p = p := if_pos h

/-- What is named in an absolute directory is absolute. -/
theorem isAbsolute_join (h : isAbsolute d = true) (p : Text) : isAbsolute (join d p) = true := by
  obtain ⟨rest, rfl⟩ := isAbsolute_iff.1 h
  unfold join
  split
  · assumption
  · split
    · exact isAbsolute_iff.2 ⟨_, rfl⟩
    · exact isAbsolute_iff.2 ⟨_, rfl⟩

theorem absolute_of_isAbsolute (h : isAbsolute p = true) (cwd : Text) :
    absolute cwd p = normalize p := by
  rw [absolute, join_of_isAbsolute h]

/-- The last component of an absolute path comes behind its first slash. -/
theorem length_lastComponent_lt (h : isAbsolute p = true) :
    (lastComponent p).length < p.length := by
  obtain ⟨rest, rfl⟩ := isAbsolute_iff.1 h
  have behind : (slash :: rest).reverse.takeWhile (· ≠ slash) <+: (slash :: rest).reverse :=
    List.takeWhile_prefix _
  have le : (lastComponent (slash :: rest)).length ≤ (slash :: rest).length := by
    simpa [lastComponent] using behind.length_le
  refine Nat.lt_of_le_of_ne le fun hlength => ?_
  -- if nothing were before it, it would hold the slash
  have whole := behind.eq_of_length (by simpa [lastComponent] using hlength)
  have all := List.takeWhile_eq_self_iff.1 whole slash (List.mem_reverse.2 List.mem_cons_self)
  simp at all

/-- The directory of an absolute path is absolute. -/
theorem isAbsolute_directory (h : isAbsolute p = true) : isAbsolute (directory p) = true := by
  have shorter := length_lastComponent_lt h
  obtain ⟨rest, rfl⟩ := isAbsolute_iff.1 h
  obtain ⟨n, hn⟩ := Nat.exists_eq_succ_of_ne_zero (Nat.sub_ne_zero_of_lt shorter)
  unfold directory
  rw [hn, List.take_succ_cons]
  dsimp only
  split
  · exact isAbsolute_iff.2 ⟨_, rfl⟩
  · rename_i other
    have left : (rest.take n).reverse.dropWhile (· = slash) ≠ [] := by
      simpa [List.dropWhile_eq_nil_iff] using other
    unfold Text.stripEnd
    rw [List.reverse_cons, List.dropWhile_append, if_neg (by simpa using left),
      List.reverse_append]
    exact isAbsolute_iff.2 ⟨_, rfl⟩

end ShaderBuild.Path
