/-
  Texts cut up and put together, and numerals.

  * `Text.splitOn_eq_splitOn`: the pieces of a text are those of a list;
  * `Text.head?_splitOn`, `Text.splitOn_append`: the first piece, and what a separator ends;
  * `Text.splitOn_ended`: pieces that each end with a separator;
  * `Text.stripEnd_concat`, `Text.stripEnd_append`, `Text.strip_append`: what is cut off at the
    ends of a text;
  * `Text.replaceFirst_append`: a text is replaced where it first can start;
  * `mapM_map_some`: pieces that are all read;
  * `Numeral.isDigit_of_mem_ofNat`, `Numeral.ofNat_injective`: how numbers are written;
  * `Numeral.decimalValue`, `Numeral.valueFrom?_of_values`: the values of numerals;
  * `Numeral.IsDecimal`, `Numeral.read_eq_ok_iff`: the numerals that are read.
-/
import Mathlib.Data.List.Induction
import Mathlib.Data.List.TakeWhile
import ShaderBuild.Text.Numeral

namespace ShaderBuild

namespace Text

variable {sep : CodePoint} {t : Text}

/-! ## Pieces -/

theorem splitOn_eq_splitOn (sep : CodePoint) (t : Text) : splitOn sep t = List.splitOn sep t := by
  rw [List.splitOn_eq_splitOnP]
  induction t with
  | nil => rfl
  | cons c t ih =>
    rw [splitOn, ih, List.splitOnP_cons_eq_if_modifyHead]
    simp only [beq_iff_eq]
    split
    · rfl
    · cases h : List.splitOnP (fun d => d == sep) t with
      | nil => exact absurd h (List.splitOnP_ne_nil _ _)
      | cons piece pieces => rfl

theorem splitOn_of_notMem (h : sep ∉ t) : splitOn sep t = [t] := by
  rw [splitOn_eq_splitOn, List.splitOn_eq_splitOnP, List.splitOnP_eq_singleton]
  intro c hc
  rw [beq_eq_false_iff_ne]
  rintro rfl
  exact h hc

/-- A separator ends a piece, and another one starts. -/
theorem splitOn_append (sep : CodePoint) (t rest : Text) :
    splitOn sep (t ++ sep :: rest) = splitOn sep t ++ splitOn sep rest := by
  simp only [splitOn_eq_splitOn, List.splitOn_append_cons_self]

theorem splitOn_append_cons (h : sep ∉ t) (rest : Text) :
    splitOn sep (t ++ sep :: rest) = t :: splitOn sep rest := by
  rw [splitOn_append, splitOn_of_notMem h, List.singleton_append]

/-- Pieces that each end with a separator, and nothing behind the last one. -/
theorem splitOn_ended {pieces : List Text} (h : ∀ piece ∈ pieces, sep ∉ piece) :
    splitOn sep (pieces.flatMap fun piece => piece ++ [sep]) = pieces ++ [[]] := by
  induction pieces with
  | nil => rfl
  | cons piece pieces ih =>
    obtain ⟨first, later⟩ := List.forall_mem_cons.1 h
    rw [List.flatMap_cons, List.append_assoc, List.singleton_append, splitOn_append_cons first,
      ih later, List.cons_append]

/-- There is no separator in a piece. -/
theorem notMem_of_mem_splitOn {piece : Text} (h : piece ∈ splitOn sep t) : sep ∉ piece := by
  induction t generalizing piece with
  | nil =>
    rw [splitOn, List.mem_singleton] at h
    subst h
    exact List.not_mem_nil
  | cons c t ih =>
    rw [splitOn] at h
    split at h
    · rcases List.mem_cons.1 h with rfl | h
      · exact List.not_mem_nil
      · exact ih h
    · rename_i other
      split at h
      · rw [List.mem_singleton] at h
        subst h
        exact fun hs => other (List.mem_singleton.1 hs).symm
      · rename_i first pieces hpieces
        rw [hpieces] at ih
        rcases List.mem_cons.1 h with rfl | h
        · intro hs
          rcases List.mem_cons.1 hs with hs | hs
          · exact other hs.symm
          · exact ih List.mem_cons_self hs
        · exact ih (List.mem_cons_of_mem _ h)

/-- The first piece ends before the first separator. -/
theorem head?_splitOn (sep : CodePoint) (t : Text) :
    (splitOn sep t).head? = some (t.takeWhile (· ≠ sep)) := by
  induction t with
  | nil => rfl
  | cons c t ih =>
    rw [splitOn]
    by_cases hc : c = sep
    · simp [hc]
    · cases h : splitOn sep t with
      | nil => simp [h] at ih
      | cons piece pieces =>
        rw [h, List.head?_cons, Option.some.injEq] at ih
        simp [hc, ih]

/-! ## Ends -/

theorem stripEnd_concat (p : CodePoint → Bool) (t : Text) (c : CodePoint) :
    stripEnd p (t ++ [c]) = if p c then stripEnd p t else t ++ [c] := by
  simp only [stripEnd, List.reverse_append, List.reverse_singleton, List.singleton_append,
    List.dropWhile_cons]
  split <;> simp

/-- What is cut off at the end is cut off the last part, and off the first one if nothing is left
    of the last. -/
theorem stripEnd_append (p : CodePoint → Bool) (t rest : Text) :
    stripEnd p (t ++ rest) =
      if stripEnd p rest = [] then stripEnd p t else t ++ stripEnd p rest := by
  simp only [stripEnd, List.reverse_append, List.dropWhile_append, List.reverse_eq_nil_iff,
    List.isEmpty_iff]
  split <;> simp

theorem stripEnd_eq_nil {p : CodePoint → Bool} (h : ∀ c ∈ t, p c) : stripEnd p t = [] := by
  rw [stripEnd, List.reverse_eq_nil_iff, List.dropWhile_eq_nil_iff]
  intro c hc
  exact h c (List.mem_reverse.1 hc)

theorem stripEnd_eq_self {p : CodePoint → Bool} (h : ∀ c ∈ t, p c = false) : stripEnd p t = t := by
  induction t using List.reverseRecOn with
  | nil => rfl
  | append_singleton t c =>
    rw [stripEnd_concat, h c (by simp)]
    rfl

/-- What is cut off around a text that holds nothing of the kind. -/
theorem strip_append {p : CodePoint → Bool} {ending : Text} (h : ∀ c ∈ t, p c = false)
    (he : ∀ c ∈ ending, p c) : strip p (t ++ ending) = t := by
  unfold strip
  cases t with
  | nil =>
    rw [List.nil_append, stripStart, List.dropWhile_eq_nil_iff.2 he]
    rfl
  | cons c t =>
    have first : stripStart p (c :: t ++ ending) = c :: t ++ ending := by
      rw [stripStart, List.cons_append, List.dropWhile_cons_of_neg]
      simp [h c List.mem_cons_self]
    rw [first, stripEnd_append, if_pos (stripEnd_eq_nil he), stripEnd_eq_self h]

/-- A text that nothing is cut off stays where it stands in front. -/
theorem stripEnd_concat_append {p : CodePoint → Bool} {c : CodePoint} (kept : p c = false)
    (t rest : Text) : stripEnd p (t ++ [c] ++ rest) = t ++ [c] ++ stripEnd p rest := by
  rw [stripEnd_append, stripEnd_concat, kept]
  by_cases gone : stripEnd p rest = []
  · simp [gone]
  · simp [gone]

/-! ## Replacing -/

/-- A text is replaced where it first can start. -/
theorem replaceFirst_append {old new before rest : Text} {c : CodePoint} (hc : old.head? = some c)
    (h : c ∉ before) : replaceFirst old new (before ++ (old ++ rest)) = before ++ (new ++ rest) := by
  obtain ⟨old, rfl⟩ := List.head?_eq_some_iff.1 hc
  induction before with
  | nil =>
    rw [List.nil_append, List.cons_append, replaceFirst, if_pos]
    · simp
    · simp [List.isPrefixOf_iff_prefix]
  | cons d before ih =>
    rw [List.mem_cons, not_or] at h
    rw [List.cons_append, replaceFirst, if_neg, ih h.2, List.cons_append]
    simp [List.isPrefixOf_iff_prefix, List.cons_prefix_cons, h.1]

end Text

theorem mapM_map_some {α β γ : Type} {f : α → β} {g : β → Option γ} {h : α → γ} {as : List α}
    (same : ∀ a ∈ as, g (f a) = some (h a)) : (as.map f).mapM g = some (as.map h) := by
  induction as with
  | nil => rfl
  | cons a as ih =>
    obtain ⟨first, later⟩ := List.forall_mem_cons.1 same
    rw [List.map_cons, List.mapM_cons, first, ih later]
    rfl

/-! ## Numerals -/

namespace Numeral

variable {value? : CodePoint → Option Nat} {t : Text}

/-! ### Writing -/

theorem isDigit_of_mem_ofNat {n : Nat} {c : CodePoint} (h : c ∈ ofNat n) : c.isDigit := by
  obtain ⟨d, hd, rfl⟩ := List.mem_map.1 h
  have digit := Nat.isDigit_of_mem_toDigits (by decide) (by decide) hd
  simp only [Char.isDigit, Bool.and_eq_true, decide_eq_true_eq, UInt32.le_iff_toNat_le] at digit
  rw [CodePoint.isDigit, Bool.and_eq_true]
  exact ⟨decide_eq_true digit.1, decide_eq_true digit.2⟩

theorem ofNat_ne_nil (n : Nat) : ofNat n ≠ [] := by
  rw [ofNat, Ne, List.map_eq_nil_iff]
  exact Nat.toDigits_ne_nil

theorem ofChar_injective {a b : Char} (h : CodePoint.ofChar a = CodePoint.ofChar b) : a = b := by
  have values := congrArg CodePoint.val h
  exact Char.ext (UInt32.toNat_inj.1 values)

/-- Different numbers have different numerals. -/
theorem ofNat_injective {m n : Nat} (h : ofNat m = ofNat n) : m = n := by
  have digits : Nat.toDigits 10 m = Nat.toDigits 10 n :=
    (List.map_inj_right fun _ _ => ofChar_injective).1 h
  rw [← Nat.ofDigitChars_toDigits (b := 10) (n := m) (by decide) (by decide), digits,
    Nat.ofDigitChars_toDigits (by decide) (by decide)]

/-! ### Reading -/

theorem valueFrom?_isSome_iff (base n : Nat) :
    (valueFrom? value? base n t).isSome ↔ ∀ c ∈ t, (value? c).isSome := by
  induction t generalizing n with
  | nil => simp [valueFrom?]
  | cons c t ih =>
    rw [valueFrom?, List.forall_mem_cons]
    cases h : value? c with
    | none => simp
    | some d => simp [ih]

/-- Digits that all have a value are read from the left. -/
theorem valueFrom?_of_values {value : CodePoint → Nat} {base : Nat}
    (h : ∀ c ∈ t, value? c = some (value c)) (n : Nat) :
    valueFrom? value? base n t = some (t.foldl (fun n c => n * base + value c) n) := by
  induction t generalizing n with
  | nil => rfl
  | cons c t ih =>
    obtain ⟨first, later⟩ := List.forall_mem_cons.1 h
    rw [valueFrom?, first]
    exact ih later _

/-- The number of decimal digits. -/
def decimalValue (t : Text) : Nat := t.foldl (fun n c => n * 10 + (c.val - 48)) 0

/-- Decimal digits, of which there are not too many. -/
def IsDecimal (t : Text) : Prop := t.length ≤ maxDigits ∧ ∀ c ∈ t, c.digitValue?.isSome

instance : DecidablePred IsDecimal := fun t =>
  inferInstanceAs (Decidable (t.length ≤ maxDigits ∧ ∀ c ∈ t, c.digitValue?.isSome))

/-- The texts that are read as numbers. -/
theorem read_eq_ok_iff (ht : t ≠ []) : (∃ n, read t = .ok n) ↔ IsDecimal t := by
  rw [IsDecimal, ← valueFrom?_isSome_iff 10 0]
  constructor
  · rintro ⟨n, h⟩
    unfold read at h
    simp only [List.isEmpty_iff, if_neg ht] at h
    split at h
    · cases h
    · rename_i short
      split at h
      · rename_i m hm
        have digits : ∀ c ∈ t, c.digitValue?.isSome :=
          (valueFrom?_isSome_iff _ _).1 (Option.isSome_of_eq_some hm)
        rw [List.takeWhile_eq_self_iff.2 digits] at short
        exact ⟨Nat.le_of_not_lt short, Option.isSome_of_eq_some hm⟩
      · cases h
  · rintro ⟨short, valued⟩
    obtain ⟨n, hn⟩ := Option.isSome_iff_exists.1 valued
    refine ⟨n, ?_⟩
    unfold read
    simp only [List.takeWhile_eq_self_iff.2 ((valueFrom?_isSome_iff _ _).1 valued),
      if_neg (Nat.not_lt.2 short), List.isEmpty_iff, if_neg ht, hn]

end Numeral

end ShaderBuild
