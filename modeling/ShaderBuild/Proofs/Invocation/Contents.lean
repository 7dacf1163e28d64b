/-
  What numerals and strings denote.

  A decimal numeral denotes its number, and a string without escapes denotes what stands between its
  quotes.

  * `Lexeme.toTokens_eq_ok`, `Lexeme.toTokens_eq_error`: the tokens of lexemes, one by one;
  * `digits`, `literal?_numeral`: decimal numerals;
  * `quoted`, `raw`, `IsContents`: the spellings of strings, and what may stand in them as it is;
  * `read_quoted`, `read_raw`: what they denote.
-/
import ShaderBuild.Invocation.Tokenize
import ShaderBuild.Proofs.Invocation.Shapes
import ShaderBuild.Proofs.Text.Basic

namespace ShaderBuild

open CodePoint Shape

/-! ## Lexemes -/

namespace Lexeme

variable {origin : Text} {ls : List Lexeme} {tokens : List Token} {f : Fault}

/-- The tokens of lexemes are those of the single ones. -/
theorem toTokens_eq_ok (h : toTokens origin ls = .ok tokens) :
    ls.map (toToken origin) = tokens.map .ok := by
  induction ls generalizing tokens with
  | nil =>
    cases h
    rfl
  | cons l ls ih =>
    unfold toTokens at h
    split at h
    · cases h
    · rename_i token first
      split at h
      · cases h
      · rename_i later rest
        cases h
        rw [List.map_cons, List.map_cons, first, ih rest]

theorem exists_of_mem_toTokens (h : toTokens origin ls = .ok tokens) :
    ∀ token ∈ tokens, ∃ l ∈ ls, l.toToken origin = .ok token := by
  intro token mem
  have image : Except.ok token ∈ ls.map (toToken origin) := by
    rw [toTokens_eq_ok h]
    exact List.mem_map_of_mem mem
  exact List.mem_map.1 image

/-- The fault of lexemes is that of one of them. -/
theorem toTokens_eq_error (h : toTokens origin ls = .error f) :
    ∃ l ∈ ls, l.toToken origin = .error f := by
  induction ls with
  | nil => cases h
  | cons l ls ih =>
    unfold toTokens at h
    split at h
    · rename_i first
      cases h
      exact ⟨l, List.mem_cons_self, first⟩
    · split at h
      · rename_i rest
        cases h
        obtain ⟨l, mem, hl⟩ := ih rest
        exact ⟨l, List.mem_cons_of_mem _ mem, hl⟩
      · cases h

end Lexeme

/-! ## Numerals -/

namespace Numeral

variable {c : CodePoint} {t : Text}

/-- The digits of a numeral, without the low lines between them. -/
def digits (t : Text) : Text := t.filter fun c : CodePoint => c != '_'

theorem isDigit_or_low (h : IsGrouped t) : ∀ c ∈ t, c.isDigit ∨ c = '_' := by
  induction h with
  | nil => exact fun c hc => absurd hc List.not_mem_nil
  | digit hc _ ih => exact List.forall_mem_cons.2 ⟨.inl hc, ih⟩
  | low hc _ ih => exact List.forall_mem_cons.2 ⟨.inr rfl, List.forall_mem_cons.2 ⟨.inl hc, ih⟩⟩

theorem isDigit_digits (h : IsNumeral t) : ∀ c ∈ digits t, c.isDigit := by
  intro c mem
  obtain ⟨mem, low⟩ := List.mem_filter.1 mem
  have other : c ≠ '_' := by simpa using low
  cases h with
  | zero =>
    rw [List.mem_singleton.1 mem]
    decide
  | digits hd _ ht =>
    rcases List.mem_cons.1 mem with rfl | mem
    · exact hd
    · exact (isDigit_or_low ht c mem).resolve_right other

theorem valueFrom?_digits {n : Nat} (h : ∀ c ∈ t, c.isDigit) :
    valueFrom? CodePoint.hexValue? 10 n t =
      some (t.foldl (fun n c => n * 10 + (c.val - 48)) n) := by
  refine Numeral.valueFrom?_of_values (fun c hc => ?_) n
  rw [hexValue?, if_pos]
  simpa [isDigit] using h c hc

theorem isEither_digit (lower upper : CodePoint) (hc : c.isDigit)
    (h : lower.isDigit = false ∧ upper.isDigit = false) : isEither c lower upper = false := by
  have lowerOther : c ≠ lower := by
    rintro rfl
    exact absurd hc (by simp [h.1])
  have upperOther : c ≠ upper := by
    rintro rfl
    exact absurd hc (by simp [h.2])
  simp [isEither, lowerOther, upperOther]

/-- A decimal numeral that is not too long denotes its number. -/
theorem literal?_numeral (h : IsNumeral t) (short : (digits t).length ≤ maxDigits) :
    literal? t = some (decimalValue (digits t)) := by
  have isDigit := isDigit_digits h
  have all : (digits t).all CodePoint.isDigit = true := List.all_eq_true.2 isDigit
  have decimal : literal?.decimal? (digits t) = some (decimalValue (digits t)) := by
    rw [literal?.decimal?, if_pos (by simp [all, short])]
    exact valueFrom?_digits isDigit
  unfold literal?
  rw [← digits]
  dsimp only
  split
  · rename_i zero letter hpair
    -- only a letter behind a zero tells another base
    have second : letter.isDigit := isDigit letter (List.mem_of_mem_take (i := 2) (by simp [hpair]))
    simp only [isEither_digit 'x' 'X' second (by decide),
      isEither_digit 'b' 'B' second (by decide),
      isEither_digit 'o' 'O' second (by decide), decimal]
    simp
  · exact decimal

end Numeral

/-! ## Strings -/

namespace StringLiteral

variable {s t : Text}

/-- A string in double quotes. -/
def quoted (s : Text) : Text := mark :: (s ++ [mark])

/-- A raw string in three double quotes. -/
def raw (s : Text) : Text := 'r' :: (triple ++ (s ++ triple))

/-- What may stand in a string as it is. -/
def IsContents (s : Text) : Prop :=
  ∀ c ∈ s, c ≠ '\\' ∧ c ≠ mark ∧ c ≠ '\r' ∧ c.val ≠ 0 ∧ c.isSurrogate = false

theorem IsContents.isPlain (hs : IsContents s) : IsPlain s :=
  fun c hc => ⟨(hs c hc).1, (hs c hc).2.1⟩

theorem surrogatesFrom?_eq_none {n : Nat} (h : ∀ c ∈ t, c.isSurrogate = false) :
    surrogatesFrom? n t = none := by
  induction t generalizing n with
  | nil => rfl
  | cons c t ih =>
    obtain ⟨hc, ht⟩ := List.forall_mem_cons.1 h
    rw [surrogatesFrom?, if_neg (by simp [hc]), ih ht]

theorem unifyLineEnds_eq_self (h : ∀ c ∈ t, c ≠ '\r') : Text.unifyLineEnds t = t := by
  induction t with
  | nil => rfl
  | cons c t ih =>
    obtain ⟨hc, ht⟩ := List.forall_mem_cons.1 h
    rw [Text.unifyLineEnds.eq_def]
    simp only [if_neg hc, ih ht]

theorem breakFrom?_eq_none {n : Nat} (h : ∀ c ∈ t, c ≠ '\\' ∧ c ≠ lineFeed) :
    breakFrom? n t = none := by
  induction t generalizing n with
  | nil => rfl
  | cons c t ih =>
    obtain ⟨⟨escape, feed⟩, ht⟩ := List.forall_mem_cons.1 h
    rw [lineFeed] at feed
    rw [breakFrom?.eq_def]
    simp only [if_neg escape, if_neg feed, ih ht]

/-- What a string may hold, it may hold next to its quotes. -/
theorem IsContents.around (hs : IsContents s) (before after : Text)
    (h : ∀ c ∈ before ++ after, c ≠ '\r' ∧ c.val ≠ 0 ∧ c.isSurrogate = false) :
    ∀ c ∈ before ++ (s ++ after), c ≠ '\r' ∧ c.val ≠ 0 ∧ c.isSurrogate = false := by
  intro c mem
  rcases List.mem_append.1 mem with left | mem
  · exact h c (List.mem_append_left _ left)
  · rcases List.mem_append.1 mem with inner | right
    · exact (hs c inner).2.2
    · exact h c (List.mem_append_right _ right)

theorem read_eq_readParts (h : ∀ c ∈ t, c ≠ '\r' ∧ c.val ≠ 0 ∧ c.isSurrogate = false) :
    read t = readParts (Shape.literal t) := by
  have nulls : (t.any fun c => decide (c.val = 0)) = false := by
    rw [List.any_eq_false]
    intro c hc
    simpa using (h c hc).2.1
  rw [read, surrogatesFrom?_eq_none fun c hc => (h c hc).2.2,
    unifyLineEnds_eq_self fun c hc => (h c hc).1]
  simp only [nulls]
  rfl

/-- The parts of a literal with a given number of quotes. -/
theorem literal_append (before rest : Text) (quotes : Nat)
    (hbefore : ∀ c ∈ before, isEither c '\'' '"' = false) (hrest : rest.head? = some mark)
    (hquotes : (if triple.isPrefixOf rest && 6 ≤ rest.length then 3 else 1) = quotes) :
    Shape.literal (before ++ rest) =
      ⟨before, quotes, (rest.drop quotes).take (rest.length - 2 * quotes)⟩ := by
  obtain ⟨rest, rfl⟩ := List.head?_eq_some_iff.1 hrest
  have letters : (before ++ mark :: rest).takeWhile (fun c => !isEither c '\'' '"') = before := by
    rw [List.takeWhile_append_of_pos fun c hc => by simp [hbefore c hc],
      List.takeWhile_cons_of_neg (by decide), List.append_nil]
  unfold Shape.literal
  simp only [letters, List.drop_left]
  rw [← hquotes]
  rfl

theorem literal_quoted (hs : IsPlain s) : Shape.literal (quoted s) = ⟨[], 1, s⟩ := by
  have single : (triple.isPrefixOf (quoted s) && 6 ≤ (quoted s).length) = false := by
    cases s with
    | nil => rfl
    | cons c s =>
      have other := (hs c List.mem_cons_self).2
      simp [quoted, triple, List.isPrefixOf, other.symm]
  refine (literal_append [] (quoted s) 1 (by decide) rfl (by rw [single]; rfl)).trans ?_
  simp [quoted]

theorem literal_raw (s : Text) : Shape.literal (raw s) = ⟨['r'], 3, s⟩ := by
  refine (literal_append ['r'] _ 3 (by decide) rfl ?_).trans ?_ <;> simp [triple]

theorem unescape_eq_ok (hs : IsPlain s) : Escape.unescape s = .ok s := by
  have none : s.contains ('\\' : CodePoint) = false := by
    rw [List.contains_eq_mem, decide_eq_false_iff_not]
    exact fun mem => (hs _ mem).1 rfl
  rw [Escape.unescape, none]
  rfl

/-- A string in quotes denotes what stands between them. -/
theorem read_quoted (hs : IsContents s) (hline : lineFeed ∉ s) :
    read (quoted s) = .ok (.text s) := by
  have unbroken : breakFrom? 1 s = none :=
    breakFrom?_eq_none fun c hc => ⟨(hs c hc).1, fun feed => hline (feed ▸ hc)⟩
  have codePoints := hs.around [mark] [mark] (by decide)
  rw [read_eq_readParts (t := quoted s) codePoints, literal_quoted hs.isPlain, readParts]
  simp only [if_true, unbroken, unescape_eq_ok hs.isPlain]
  rfl

/-- A raw string denotes what stands between its quotes, over any number of lines. -/
theorem read_raw (hs : IsContents s) : read (raw s) = .ok (.text s) := by
  have codePoints := hs.around ('r' :: triple) triple (by decide)
  rw [read_eq_readParts (t := raw s) codePoints, literal_raw]
  rfl

end StringLiteral

end ShaderBuild
