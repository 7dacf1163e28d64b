/-
  What is recognized at the start of a text.

  A word, a numeral, a string and a comma or colon are recognized as what they are, whatever follows
  that cannot be a part of them.

  * `isLetter`, `isNamePart`, `separators`: ASCII letters, what a name goes on with, and what may
    stand behind anything;
  * `recognize_word`, `recognize_number`, `recognize_symbol`;
  * `recognize_quoted`, `recognize_raw`: strings that are closed in their line;
  * `recognize_openString`, `closeString_eq`: a string that goes over lines, and where it ends.
-/
import ShaderBuild.Invocation.Lexeme
import ShaderBuild.Proofs.Text.Utf8

namespace ShaderBuild

namespace CodePoint

/-- What ends a line. -/
def lineFeed : CodePoint := '\n'

/-- What starts a comment. -/
def hash : CodePoint := '#'

/-- What strings are quoted with. -/
def mark : CodePoint := '"'

/-- The equals sign, which makes another symbol of a colon. -/
def equals : CodePoint := '='

/-- Is it an ASCII letter, or the low line? -/
def isLetter (c : CodePoint) : Bool :=
  65 ≤ c.val && c.val ≤ 90 || c.val = 95 || 97 ≤ c.val && c.val ≤ 122

/-- Can it stand in a name of ASCII letters and digits? -/
def isNamePart (c : CodePoint) : Bool := c.isLetter || c.isDigit

/-- What ends every piece: blanks, line ends, comments, and the symbols of invocations. -/
def separators : Text := text " \t\n#,:"

theorem isNamePart_of_isLetter {c : CodePoint} (h : c.isLetter) : c.isNamePart := by
  rw [isNamePart, h, Bool.true_or]

theorem isNamePart_of_isDigit {c : CodePoint} (h : c.isDigit) : c.isNamePart := by
  rw [isNamePart, h, Bool.or_true]

theorem isNamePart_lt {c : CodePoint} (h : c.isNamePart) : c.val < 128 := by
  simp [isNamePart, isLetter, isDigit] at h
  omega

end CodePoint

open CodePoint

namespace Shape

variable {c d : CodePoint} {t rest : Text}

/-! ## Quotes -/

/-- The small letter of a letter, as prefixes of strings are compared. -/
def smallLetter (c : CodePoint) : CodePoint :=
  if 65 ≤ c.val && c.val ≤ 90 then .ofNat (c.val + 32) else c

theorem smallLetter_of_isStringPrefix (h : isStringPrefix t) (hc : c ∈ t) :
    smallLetter c ∈ text "bruf" := by
  have letters : ∀ s ∈ ["", "b", "r", "u", "f", "br", "rb", "fr", "rf"].map text,
      ∀ d ∈ s, d ∈ text "bruf" := by decide
  rw [isStringPrefix, List.contains_iff_mem] at h
  exact letters _ h _ (List.mem_map_of_mem hc)

/-- What is no quote, and is not a prefix of a string before one. -/
theorem quote?_eq_none (h : ∀ n ≤ 2, isStringPrefix (t.take n) →
    ∀ q ∈ (t.drop n).head?, isEither q '\'' '"' = false) : quote? t = none := by
  have after : ∀ n ≤ 2, quoteAfter? t n = none := by
    intro n hn
    unfold quoteAfter?
    split
    · rename_i isPrefix
      split
      · rename_i q _ hq
        have other := h n hn isPrefix q (by rw [hq]; rfl)
        rw [other]
        rfl
      · rfl
    · rfl
  simp [quote?, after 0 (by decide), after 1 (by decide), after 2 (by decide)]

/-- Behind a code point that is neither a quote nor in a prefix there is no quote either. -/
theorem quote?_cons_eq_none (hq : isEither c '\'' '"' = false) (hc : smallLetter c ∉ text "bruf") :
    quote? (c :: t) = none := by
  refine quote?_eq_none fun n hn isPrefix q mem => ?_
  rcases n with _ | n
  · cases mem
    exact hq
  · exact absurd (smallLetter_of_isStringPrefix isPrefix List.mem_cons_self) hc

/-- A name is no prefix of a string unless a quote follows. -/
theorem quote?_name_eq_none {name : Text} (hname : ∀ c ∈ name, isEither c '\'' '"' = false)
    (hd : isEither d '\'' '"' = false) (hlower : smallLetter d ∉ text "bruf") :
    quote? (name ++ d :: rest) = none := by
  refine quote?_eq_none fun n hn isPrefix q mem => ?_
  by_cases short : n ≤ name.length
  · rw [List.drop_append_of_le_length short] at mem
    cases later : name.drop n with
    | nil =>
      rw [later] at mem
      cases mem
      exact hd
    | cons a as =>
      rw [later] at mem
      cases mem
      exact hname _ (List.mem_of_mem_drop (by rw [later]; exact List.mem_cons_self))
  · obtain ⟨k, hk⟩ := Nat.exists_eq_add_of_lt (Nat.lt_of_not_le short)
    have inside : d ∈ (name ++ d :: rest).take n := by
      rw [List.take_append, hk, show name.length + k + 1 - name.length = k + 1 by omega]
      exact List.mem_append_right _ List.mem_cons_self
    exact absurd (smallLetter_of_isStringPrefix isPrefix inside) hlower

/-! ## Symbols -/

/-- No symbol starts with the code point. -/
theorem symbol?_eq_none (h : ∀ ns ∈ symbols, ∀ s ∈ ns.2, s.head? ≠ some c) :
    symbol? (c :: t) = none := by
  have long : ∀ ns ∈ symbols, ns.1 ≠ 0 := by decide
  rw [symbol?, Option.map_eq_none_iff, List.find?_eq_none]
  rintro ⟨n, ss⟩ hns found
  rw [List.contains_iff_mem] at found
  cases n with
  | zero => exact long _ hns rfl
  | succ n => exact h _ hns _ found rfl

/-- A symbol of one code point, where no longer one starts. -/
theorem symbol?_eq_one (hc : c ∈ text "(),:") (ht : t.head? ≠ some equals) :
    symbol? (c :: t) = some 1 := by
  have long : ∀ ns ∈ symbols, ns.1 ≠ 1 → 2 ≤ ns.1 := by decide
  have short : ∀ ns ∈ symbols, ns.1 = 1 → ∀ c ∈ text "(),:", [c] ∈ ns.2 := by decide
  have longer : ∀ ns ∈ symbols, ns.1 ≠ 1 → ∀ c ∈ text "(),:", ∀ s ∈ ns.2,
      s.head? = some c → s.tail.head? = some equals := by decide
  obtain ⟨one, hone, length⟩ : ∃ ns ∈ symbols, ns.1 = 1 := by decide
  have isFound : (symbols.find? fun ns => ns.2.contains ((c :: t).take ns.1)).isSome := by
    refine List.find?_isSome.2 ⟨one, hone, ?_⟩
    rw [List.contains_iff_mem, length]
    exact short one hone length c hc
  obtain ⟨ns, found⟩ := Option.isSome_iff_exists.1 isFound
  have hns : ns ∈ symbols := List.mem_of_find?_eq_some found
  have contained : ns.2.contains ((c :: t).take ns.1) = true :=
    List.find?_some (p := fun ns : Nat × List Text => ns.2.contains ((c :: t).take ns.1)) found
  rw [List.contains_iff_mem] at contained
  have first : ns.1 = 1 := by
    by_contra other
    obtain ⟨n, hn⟩ := Nat.exists_eq_add_of_le (long ns hns other)
    rw [hn, Nat.add_comm] at contained
    have second := longer ns hns other c hc _ contained rfl
    cases t with
    | nil => cases second
    | cons d t => exact ht second
  rw [symbol?]
  exact (congrArg (Option.map (·.1)) found).trans (congrArg some first)

/-! ## Words -/

theorem word?_append {name : Text} (hname : ∀ c ∈ name, c.isWord) (hne : name ≠ [])
    (hd : d.isWord = false) : word? (name ++ d :: rest) = some name.length := by
  have whole : (name ++ d :: rest).takeWhile isWord = name := by
    rw [List.takeWhile_append_of_pos hname, List.takeWhile_cons_of_neg (by simp [hd]),
      List.append_nil]
  have long : name.length ≠ 0 := by simpa using hne
  rw [word?, whole, if_neg long]

/-! ## Numerals -/

/-- Digits, each with at most one low line before it. -/
inductive IsGrouped : Text → Prop
  | nil : IsGrouped []
  | digit {c : CodePoint} {t : Text} : c.isDigit → IsGrouped t → IsGrouped (c :: t)
  | low {c : CodePoint} {t : Text} : c.isDigit → IsGrouped t → IsGrouped ('_' :: c :: t)

/-- A decimal numeral: zero, or digits that start with another one. -/
inductive IsNumeral : Text → Prop
  | zero : IsNumeral ['0']
  | digits {c : CodePoint} {t : Text} : c.isDigit → c ≠ '0' → IsGrouped t → IsNumeral (c :: t)

section

variable {p : CodePoint → Bool}

theorem groupedTail_digit (hc : p c) : groupedTail p (c :: t) = groupedTail p t + 1 := by
  rw [groupedTail.eq_def]
  simp [hc]

theorem groupedTail_low (hlow : p '_' = false) (hc : p c) :
    groupedTail p ('_' :: c :: t) = groupedTail p t + 2 := by
  rw [groupedTail.eq_def]
  simp [hlow, hc]

theorem groupedTail_other (hd : p d = false) (hd' : d ≠ '_') :
    groupedTail p (d :: t) = 0 := by
  rw [groupedTail.eq_def]
  simp [hd, hd']

theorem groupedTail_append (hp : ∀ c : CodePoint, c.isDigit → p c) (hlow : p '_' = false)
    (h : IsGrouped t) (hd : p d = false) (hd' : d ≠ '_') :
    groupedTail p (t ++ d :: rest) = t.length := by
  induction h with
  | nil => exact groupedTail_other hd hd'
  | digit hc _ ih => rw [List.cons_append, groupedTail_digit (hp _ hc), ih, List.length_cons]
  | low hc _ ih =>
    rw [List.cons_append, List.cons_append, groupedTail_low hlow (hp _ hc), ih]
    rfl

end

theorem IsNumeral.exists_cons (h : IsNumeral t) : ∃ c u, t = c :: u ∧ c.isDigit := by
  cases h with
  | zero => exact ⟨_, _, rfl, by decide⟩
  | digits hc _ _ => exact ⟨_, _, rfl, hc⟩

theorem IsNumeral.length_ne_zero (h : IsNumeral t) : t.length ≠ 0 := by
  obtain ⟨c, u, rfl, -⟩ := h.exists_cons
  exact Nat.succ_ne_zero _

section

variable (h : IsNumeral t) (hd : d ∈ separators)

include hd

theorem exponent_other : exponent (d :: rest) = 0 := by
  have letter : ∀ d ∈ separators, isEither d 'e' 'E' = false := by decide
  simp [exponent, letter d hd]

include h

theorem grouped_numeral : grouped isDigit (t ++ d :: rest) = t.length := by
  have digit : ∀ d ∈ separators, d.isDigit = false := by decide
  have low : ∀ d ∈ separators, d ≠ '_' := by decide
  cases h with
  | zero =>
    rw [List.cons_append, grouped, if_pos (by decide), List.nil_append,
      groupedTail_other (digit d hd) (low d hd)]
    rfl
  | digits hc _ ht =>
    rw [List.cons_append, grouped, if_pos hc,
      groupedTail_append (fun _ h => h) (by decide) ht (digit d hd) (low d hd)]
    rfl

theorem fractional_numeral : fractional (t ++ d :: rest) = 0 := by
  have point : ∀ d ∈ separators, d ≠ '.' := by decide
  have nonempty := h.length_ne_zero
  simp [fractional, grouped_numeral h hd, point d hd, exponent_other hd]

theorem imaginary_numeral : imaginary (t ++ d :: rest) = 0 := by
  have letter : ∀ d ∈ separators, isEither d 'j' 'J' = false := by decide
  simp [imaginary, grouped_numeral h hd, fractional_numeral h hd, letter d hd]

omit hd in
theorem based_numeral {lower upper : CodePoint} {p : CodePoint → Bool}
    (letter : isEither d lower upper = false) : based lower upper p (t ++ d :: rest) = 0 := by
  cases h with
  | zero => simp [based, letter]
  | digits hc other _ =>
    rename_i c t
    cases t <;> simp [based, other]

theorem plain_numeral : plain (t ++ d :: rest) = t.length := by
  have digit : ∀ d ∈ separators, d.isDigit = false := by decide
  have zero : ∀ d ∈ separators, decide (d = '0') = false := by decide
  have low : ∀ d ∈ separators, d ≠ '_' := by decide
  cases h with
  | zero =>
    rw [List.cons_append, plain, if_pos rfl, List.nil_append,
      groupedTail_other (zero d hd) (low d hd)]
    rfl
  | digits hc other ht =>
    rw [List.cons_append, plain, if_neg other, if_pos hc,
      groupedTail_append (fun _ h => h) (by decide) ht (digit d hd) (low d hd)]
    rfl

theorem number?_numeral : number? (t ++ d :: rest) = some t.length := by
  have hex : ∀ d ∈ separators, isEither d 'x' 'X' = false := by decide
  have binary : ∀ d ∈ separators, isEither d 'b' 'B' = false := by decide
  have octal : ∀ d ∈ separators, isEither d 'o' 'O' = false := by decide
  rw [number?, imaginary_numeral h hd, fractional_numeral h hd, based_numeral h (hex d hd),
    based_numeral h (binary d hd), based_numeral h (octal d hd), plain_numeral h hd]
  simp [h.length_ne_zero]

end

/-! ## Strings -/

/-- What stands on either side of a string of several lines. -/
def triple : Text := [mark, mark, mark]

/-- A text without escapes and quotes. -/
def IsPlain (t : Text) : Prop := ∀ c ∈ t, c ≠ '\\' ∧ c ≠ mark

theorem isPrefixOf_eq_false {quote : Text} (hquote : quote.head? = some mark) (hc : c ≠ mark) :
    quote.isPrefixOf (c :: t) = false := by
  obtain ⟨quote, rfl⟩ := List.head?_eq_some_iff.1 hquote
  simp [List.isPrefixOf, hc.symm]

section

variable {quote s line : Text} (hquote : quote.head? = some mark)

include hquote

/-- What is no quote goes on with a string. -/
theorem closing?_cons (hc : c ≠ '\\' ∧ c ≠ mark) (hline : c ≠ lineFeed) :
    closing? quote (c :: t) = (closing? quote t).map (· + 1) := by
  rw [lineFeed] at hline
  rw [closing?.eq_def]
  simp [hline, hc.1, isPrefixOf_eq_false hquote hc.2]

/-- A string is closed by the next quotes. -/
theorem closing?_append (hs : IsPlain s) (hline : lineFeed ∉ s) :
    closing? quote (s ++ (quote ++ rest)) = some (s.length + quote.length) := by
  induction s with
  | nil =>
    obtain ⟨quote, rfl⟩ := List.head?_eq_some_iff.1 hquote
    have feed : mark ≠ '\n' := by decide
    have escape : mark ≠ '\\' := by decide
    rw [List.nil_append, List.cons_append, closing?.eq_def]
    simp [feed, escape, List.isPrefixOf_iff_prefix]
  | cons c s ih =>
    obtain ⟨hc, hs⟩ := List.forall_mem_cons.1 hs
    rw [List.mem_cons, not_or] at hline
    rw [List.cons_append, closing?_cons hquote hc (Ne.symm hline.1), ih hs hline.2,
      Option.map_some, List.length_cons]
    simp only [Option.some.injEq]
    omega

/-- There are no quotes in the line. -/
theorem closing?_eq_none (hline : IsPlain line) :
    closing? quote (line ++ lineFeed :: rest) = none := by
  induction line with
  | nil =>
    rw [List.nil_append, closing?.eq_def]
    simp [lineFeed]
  | cons c line ih =>
    obtain ⟨hc, hline⟩ := List.forall_mem_cons.1 hline
    by_cases feed : c = lineFeed
    · rw [feed, List.cons_append, closing?.eq_def]
      simp [lineFeed]
    · rw [List.cons_append, closing?_cons hquote hc feed, ih hline, Option.map_none]

end

theorem firstLine_append {line : Text} (hline : lineFeed ∉ line) :
    firstLine (line ++ lineFeed :: rest) = line ++ [lineFeed] := by
  induction line with
  | nil => simp [firstLine, lineFeed]
  | cons c line ih =>
    rw [List.mem_cons, not_or] at hline
    have feed : c ≠ '\n' := Ne.symm hline.1
    rw [List.cons_append, firstLine, if_neg feed, ih hline.2, List.cons_append]

end Shape

namespace Lexeme

open Shape

variable {c d : CodePoint} {t s name rest : Text}

/-! ## Words, numbers and symbols -/

/-- Does it start a piece that is no lexeme? -/
def isSpecial (c : CodePoint) : Bool := c = '\\' || c = '#' || c = '\n' || c = '\r'

theorem isSpecial_eq_false_iff :
    isSpecial c = false ↔ c ≠ '\\' ∧ c ≠ '#' ∧ c ≠ '\n' ∧ c ≠ '\r' := by
  simp [isSpecial, and_assoc]

theorem recognizeString_eq_none (h : quote? (c :: t) = none) : recognizeString c t = none := by
  simp [recognizeString, h]

theorem recognize_of_string {m : Match} (hc : isSpecial c = false)
    (h : recognizeString c t = some m) : recognize c t = some m := by
  obtain ⟨escape, comment, feed, carriage⟩ := isSpecial_eq_false_iff.1 hc
  simp [recognize, escape, comment, feed, carriage, h]

section

variable {n : Nat} (hc : isSpecial c = false) (hquote : quote? (c :: t) = none)

include hc hquote

theorem recognize_of_number (hnumber : c.isDigit) (h : number? (c :: t) = some n) :
    recognize c t = some (.lexeme .number (n - 1)) := by
  obtain ⟨escape, comment, feed, carriage⟩ := isSpecial_eq_false_iff.1 hc
  simp [recognize, escape, comment, feed, carriage, recognizeString_eq_none hquote, hnumber, h]

variable (hnumber : (c.isDigit || c = '.') = false)

include hnumber

theorem recognize_of_symbol (h : symbol? (c :: t) = some n) :
    recognize c t = some (.lexeme .symbol (n - 1)) := by
  obtain ⟨escape, comment, feed, carriage⟩ := isSpecial_eq_false_iff.1 hc
  simp only [recognize, escape, comment, feed, carriage, recognizeString_eq_none hquote, hnumber, h]
  simp

theorem recognize_of_word (hstarts : c.startsIdentifier) (hsymbol : symbol? (c :: t) = none)
    (h : word? (c :: t) = some n) : recognize c t = some (.lexeme .word (n - 1)) := by
  obtain ⟨escape, comment, feed, carriage⟩ := isSpecial_eq_false_iff.1 hc
  simp only [recognize, escape, comment, feed, carriage, recognizeString_eq_none hquote, hnumber,
    hsymbol, h, hstarts]
  simp

end

theorem isNamePart_facts (h : c.isNamePart) :
    c.isWord ∧ isEither c '\'' '"' = false ∧ isGap c = false :=
  forall_ascii (P := fun c => c.isNamePart →
    c.isWord ∧ isEither c '\'' '"' = false ∧ isGap c = false) (by decide +kernel)
    (isNamePart_lt h) h

theorem isLetter_facts (h : c.isLetter) :
    isSpecial c = false ∧ (c.isDigit || c = '.') = false ∧ c.startsIdentifier :=
  forall_ascii (P := fun c => c.isLetter → isSpecial c = false ∧
    (c.isDigit || c = '.') = false ∧ c.startsIdentifier) (by decide +kernel)
    (isNamePart_lt (isNamePart_of_isLetter h)) h

/-- No symbol starts with a letter. -/
theorem symbol?_letter (h : c.isLetter) : symbol? (c :: t) = none := by
  have other : ∀ ns ∈ symbols, ∀ s ∈ ns.2, ∀ a ∈ s.head?, a.isLetter = false := by decide
  refine symbol?_eq_none fun ns hns s hs first => ?_
  exact absurd h (by simp [other ns hns s hs c first])

/-- A name, up to what ends it. -/
theorem recognize_word (hc : c.isLetter) (hname : ∀ a ∈ name, a.isNamePart)
    (hd : d ∈ separators) :
    recognize c (name ++ d :: rest) = some (.lexeme .word name.length) := by
  have quote : ∀ d ∈ separators, isEither d '\'' '"' = false := by decide
  have letter : ∀ d ∈ separators, smallLetter d ∉ text "bruf" := by decide
  have word : ∀ d ∈ separators, d.isWord = false := by decide
  have parts : ∀ a ∈ c :: name, a.isNamePart :=
    List.forall_mem_cons.2 ⟨isNamePart_of_isLetter hc, hname⟩
  obtain ⟨special, number, starts⟩ := isLetter_facts hc
  have unquoted : quote? (c :: name ++ d :: rest) = none :=
    quote?_name_eq_none (fun a ha => (isNamePart_facts (parts a ha)).2.1) (quote d hd) (letter d hd)
  have whole : word? (c :: name ++ d :: rest) = some (c :: name).length :=
    word?_append (fun a ha => (isNamePart_facts (parts a ha)).1) (List.cons_ne_nil _ _) (word d hd)
  rw [List.cons_append] at unquoted whole
  exact recognize_of_word special unquoted number starts (symbol?_letter hc) whole

/-- A numeral, up to what ends it. -/
theorem recognize_number (h : IsNumeral (c :: t)) (digit : c.isDigit) (hd : d ∈ separators) :
    recognize c (t ++ d :: rest) = some (.lexeme .number t.length) := by
  have other : isSpecial c = false ∧ isEither c '\'' '"' = false :=
    forall_ascii (P := fun c => c.isDigit → isSpecial c = false ∧ isEither c '\'' '"' = false)
      (by decide +kernel) (isNamePart_lt (isNamePart_of_isDigit digit)) digit
  obtain ⟨special, quote⟩ := other
  have letter : smallLetter c ∉ text "bruf" := by
    have letters : ∀ a ∈ text "bruf", a.isDigit = false := by decide
    have same : smallLetter c = c := by
      simp [isDigit] at digit
      simp [smallLetter]
      omega
    rw [same]
    exact fun mem => absurd digit (by simp [letters c mem])
  have whole : number? (c :: t ++ d :: rest) = some (c :: t).length := number?_numeral h hd
  rw [List.cons_append] at whole
  exact recognize_of_number special (quote?_cons_eq_none quote letter) digit whole

/-- A symbol of one code point. -/
theorem recognize_symbol (hc : c ∈ text "(),:") (ht : t.head? ≠ some equals) :
    recognize c t = some (.lexeme .symbol 0) := by
  have other : ∀ c ∈ text "(),:", isSpecial c = false ∧ isEither c '\'' '"' = false ∧
      smallLetter c ∉ text "bruf" ∧ (c.isDigit || c = '.') = false := by decide
  obtain ⟨special, quote, letter, number⟩ := other c hc
  exact recognize_of_symbol special (quote?_cons_eq_none quote letter) number (symbol?_eq_one hc ht)

/-! ## Strings -/

/-- A string of one line. -/
theorem recognize_quoted (hs : IsPlain s) (hline : lineFeed ∉ s) (hrest : rest.head? ≠ some mark) :
    recognize mark (s ++ mark :: rest) = some (.lexeme .string (s.length + 1)) := by
  have starts : quote? (mark :: (s ++ mark :: rest)) = some (0, mark) := rfl
  have single : triple.isPrefixOf (mark :: (s ++ mark :: rest)) = false := by
    cases s with
    | nil =>
      cases rest with
      | nil => rfl
      | cons d rest =>
        have other : d ≠ mark := fun h => hrest (congrArg some h)
        simp [triple, List.isPrefixOf, other.symm]
    | cons c s =>
      have other := (hs c List.mem_cons_self).2
      simp [triple, List.isPrefixOf, other.symm]
  have quotes : [mark].head? = some mark := rfl
  have closed : closing? [mark] (s ++ mark :: rest) = some (s.length + 1) :=
    closing?_append quotes hs hline
  refine recognize_of_string (by decide) ?_
  rw [recognizeString, starts, Option.bind_some]
  simp only [List.drop_zero]
  rw [← triple, single]
  simp [closed]

section

variable {after : Text}

/-- What is recognized at a raw string in three quotes depends on where it is closed. -/
theorem recognizeString_raw :
    recognizeString 'r' (triple ++ after) =
      (closing? triple after).elim (some (.openString triple false (3 + (firstLine after).length)))
        fun k => some (.lexeme .string (3 + k)) := by
  have starts : quote? ('r' :: (triple ++ after)) = some (1, mark) := rfl
  have isTriple : triple.isPrefixOf (triple ++ after) = true := by
    rw [List.isPrefixOf_iff_prefix]
    exact List.prefix_append _ _
  rw [recognizeString, starts, Option.bind_some]
  simp only [List.drop_succ_cons, List.drop_zero]
  rw [← triple, isTriple]
  have long : triple.length = 3 := rfl
  simp only [if_true, long, List.drop_left' long]
  cases closing? triple after <;> rfl

/-- A raw string that is closed in its line. -/
theorem recognize_raw (hs : IsPlain s) (hline : lineFeed ∉ s) :
    recognize 'r' (triple ++ (s ++ (triple ++ rest))) =
      some (.lexeme .string (3 + (s.length + 3))) := by
  refine recognize_of_string (by decide) ?_
  rw [recognizeString_raw, closing?_append rfl hs hline]
  rfl

/-- A raw string that goes over lines. -/
theorem recognize_openString (hs : IsPlain s) (hline : lineFeed ∉ s) :
    recognize 'r' (triple ++ (s ++ lineFeed :: rest)) =
      some (.openString triple false (3 + (s.length + 1))) := by
  refine recognize_of_string (by decide) ?_
  rw [recognizeString_raw, closing?_eq_none rfl hs, firstLine_append hline]
  simp

end

/-- A string ends in its first line, or in a later one. -/
theorem closeString_of_ne_nil (ht : t ≠ []) :
    closeString triple false t = match closing? triple t with
      | some k => some (.string, k)
      | none => (closeString triple false (t.drop (firstLine t).length)).map fun (k, n) =>
        (k, (firstLine t).length + n) := by
  cases t with
  | nil => exact absurd rfl ht
  | cons c t =>
    have long : (c :: t).drop (firstLine (c :: t)).length =
        t.drop ((firstLine (c :: t)).length - 1) := by
      rw [firstLine]
      split <;> rfl
    rw [closeString, long]
    rfl

/-- A line of a string that is not closed in it. -/
theorem closeString_line (hs : IsPlain s) (hline : lineFeed ∉ s) :
    closeString triple false (s ++ lineFeed :: rest) =
      (closeString triple false rest).map fun (k, n) => (k, s.length + 1 + n) := by
  rw [closeString_of_ne_nil (by simp), closing?_eq_none rfl hs, firstLine_append hline]
  simp

/-- The string ends with the next quotes. -/
theorem closeString_eq (hs : IsPlain s) :
    closeString triple false (s ++ (triple ++ rest)) = some (.string, s.length + 3) := by
  -- by the number of lines, so by induction on the length
  induction hn : s.length using Nat.strongRecOn generalizing s with
  | ind n ih =>
    by_cases hline : lineFeed ∈ s
    · obtain ⟨line, later, rfl, unbroken⟩ := List.eq_append_cons_of_mem hline
      have shorter : later.length < n := by
        rw [← hn, List.length_append, List.length_cons]
        omega
      have plain : IsPlain line := fun c hc => hs c (List.mem_append_left _ hc)
      have plain' : IsPlain later :=
        fun c hc => hs c (List.mem_append_right _ (List.mem_cons_of_mem _ hc))
      rw [List.append_assoc, List.cons_append, closeString_line plain unbroken,
        ih _ shorter plain' rfl, ← hn]
      simp only [Option.map_some, List.length_append, List.length_cons]
      congr 2
      omega
    · rw [closeString_of_ne_nil (by simp [triple]), closing?_append rfl hs hline, ← hn]
      rfl

end Lexeme

end ShaderBuild
