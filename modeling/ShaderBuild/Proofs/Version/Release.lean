/-
  Releases: numbers with points between.

  * `IsNumber`, `ofText_number`: the numerals of a version, and how they are read;
  * `Release`: a release, its text and its values;
  * `Release.splitOn_spelling`, `mapM_numbers`: a release is told from its text.
-/
import ShaderBuild.Proofs.Text.Basic
import ShaderBuild.Proofs.Text.Utf8
import ShaderBuild.Proofs.Version.Bump
import ShaderBuild.Version.Checkout

namespace ShaderBuild.Version

variable {t : Text} {c : CodePoint}

/-! ## Numbers -/

/-- The numeral of a number of a version: ASCII digits, of which there are not too many. -/
structure IsNumber (t : Text) : Prop where
  nonempty : t ≠ []
  digits : ∀ c ∈ t, c.isDigit
  short : t.length ≤ Numeral.maxDigits

instance : DecidablePred IsNumber := fun t =>
  decidable_of_iff (t ≠ [] ∧ (∀ c ∈ t, c.isDigit) ∧ t.length ≤ Numeral.maxDigits)
    ⟨fun ⟨nonempty, digits, short⟩ => ⟨nonempty, digits, short⟩,
      fun h => ⟨h.nonempty, h.digits, h.short⟩⟩

/-- What holds of every digit. -/
theorem digit_facts (h : c.isDigit) :
    c.isBlank = false ∧ c ∉ text ".-+v" ∧ c.isNumeric ∧ c.digitValue? = some (c.val - 48) := by
  have small : c.val < 128 := by
    simp only [CodePoint.isDigit, Bool.and_eq_true, decide_eq_true_eq] at h
    omega
  refine CodePoint.forall_ascii (P := fun c => c.isDigit → c.isBlank = false ∧ c ∉ text ".-+v" ∧
    c.isNumeric ∧ c.digitValue? = some (c.val - 48)) ?_ small h
  decide +kernel

/-- What is no digit is in no number. -/
theorem IsNumber.notMem (h : IsNumber t) (hc : c ∈ text ".-+v") : c ∉ t :=
  fun member => (digit_facts (h.digits c member)).2.1 hc

/-- A number is read. -/
theorem ofText_number (h : IsNumber t) : Part.ofText t = .ok (.number (Numeral.decimalValue t)) := by
  have numeric : isNumeric t :=
    isNumeric_iff.2 ⟨h.nonempty, fun c hc => (digit_facts (h.digits c hc)).2.2.1⟩
  have digits : t.takeWhile (fun c => c.digitValue?.isSome) = t := by
    rw [List.takeWhile_eq_self_iff]
    intro c hc
    rw [(digit_facts (h.digits c hc)).2.2.2]
    rfl
  have value : Numeral.valueFrom? CodePoint.digitValue? 10 0 t = some (Numeral.decimalValue t) :=
    Numeral.valueFrom?_of_values (fun c hc => (digit_facts (h.digits c hc)).2.2.2) 0
  rw [Part.ofText, if_pos numeric, Numeral.read]
  simp only [digits, if_neg (Nat.not_lt.2 h.short), List.isEmpty_iff, if_neg h.nonempty, value]

theorem mapM_numbers {ts : List Text} (h : ∀ t ∈ ts, IsNumber t) :
    ts.mapM Part.ofText = .ok (ts.map fun t => .number (Numeral.decimalValue t)) := by
  induction ts with
  | nil => rfl
  | cons t ts ih =>
    obtain ⟨first, later⟩ := List.forall_mem_cons.1 h
    rw [List.mapM_cons, ofText_number first, ih later]
    rfl

/-! ## Releases -/

/-- A release: numbers, at least one, with points between. -/
structure Release where
  numbers : List Text
  nonempty : numbers ≠ []
  isNumber : ∀ t ∈ numbers, IsNumber t

namespace Release

variable (x : Release)

/-- The text of a release. -/
def spelling : Text := List.intercalate [point] x.numbers

/-- The numbers of a release. -/
def values : List Nat := x.numbers.map Numeral.decimalValue

/-- The first three numbers. -/
def base : Release where
  numbers := x.numbers.take 3
  nonempty := by
    have nonempty := x.nonempty
    simpa [List.take_eq_nil_iff] using nonempty
  isNumber t ht := x.isNumber t (List.mem_of_mem_take ht)

theorem mem_spelling (h : c ∈ x.spelling) : c = point ∨ ∃ t ∈ x.numbers, c ∈ t := by
  obtain ⟨numbers, nonempty, isNumber⟩ := x
  simp only [spelling] at h ⊢
  clear nonempty isNumber
  induction numbers with
  | nil => simp at h
  | cons t numbers ih =>
    cases numbers with
    | nil => exact Or.inr ⟨t, by simp, by simpa using h⟩
    | cons u numbers =>
      rw [List.intercalate_cons_cons, List.mem_append, List.mem_append] at h
      rcases h with (h | h) | h
      · exact Or.inr ⟨t, by simp, h⟩
      · exact Or.inl (List.mem_singleton.1 h)
      · rcases ih h with rfl | ⟨v, hv, h⟩
        · exact Or.inl rfl
        · exact Or.inr ⟨v, List.mem_cons_of_mem _ hv, h⟩

theorem splitOn_spelling : Text.splitOn point x.spelling = x.numbers := by
  rw [Text.splitOn_eq_splitOn]
  exact List.splitOn_intercalate point
    (fun t ht => (x.isNumber t ht).notMem (by decide)) x.nonempty

theorem notMem_spelling (hc : c ∈ text "-+v") : c ∉ x.spelling := by
  have inside : ∀ c ∈ text "-+v", c ∈ text ".-+v" ∧ c ≠ point := by decide
  obtain ⟨listed, other⟩ := inside c hc
  intro h
  rcases x.mem_spelling h with same | ⟨t, ht, h⟩
  · exact other same
  · exact (x.isNumber t ht).notMem listed h

theorem isBlank_of_mem_spelling (h : c ∈ x.spelling) : c.isBlank = false := by
  rcases x.mem_spelling h with rfl | ⟨t, ht, h⟩
  · decide
  · exact (digit_facts ((x.isNumber t ht).digits c h)).1

theorem spelling_eq_cons : ∃ c t, x.spelling = c :: t := by
  obtain ⟨numbers, nonempty, isNumber⟩ := x
  obtain ⟨u, numbers, rfl⟩ := List.exists_cons_of_ne_nil nonempty
  obtain ⟨c, t, rfl⟩ := List.exists_cons_of_ne_nil (isNumber u List.mem_cons_self).nonempty
  simp only [spelling]
  cases numbers with
  | nil => exact ⟨c, t, by simp⟩
  | cons v numbers => exact ⟨c, _, by rw [List.intercalate_cons_cons]; rfl⟩

theorem baseRelease_spelling : baseRelease x.spelling = x.base.spelling := by
  have pieces := x.splitOn_spelling
  rw [point] at pieces
  rw [baseRelease, pieces]
  rfl

end Release

end ShaderBuild.Version
