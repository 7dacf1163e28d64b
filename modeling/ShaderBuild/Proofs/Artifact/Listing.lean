/-
  Listings: literals with a comma behind each of them, over any number of lines.

  The lines of a generated module are read by the same tokenizer as invocations.  A literal is a
  quoted text or a word in hexadecimal, and blanks and line ends around them mean nothing, so that
  a single line and all lines together are read in the same way.

  * `Denotes`: a literal that is read as one token in front of a comma;
  * `denotes_quote`, `BuildOutput.denotes_wordText`: the literals of a module;
  * `Listing.Cell`, `Listing.readings?_spelling`: what the tokens of a listing denote;
  * `Listing.items?`, `Listing.tuple?`: what is read of them, with commas as ends or as separators;
  * `Listing.Spelled.listed`, `Listing.Spelled.lists`: the values of lines, one by one and together.
-/
import ShaderBuild.Artifact
import ShaderBuild.Proofs.Invocation.Quoted
import ShaderBuild.Proofs.Invocation.Scanning
import ShaderBuild.Proofs.Text.Basic

namespace ShaderBuild

open CodePoint
open Token (Content)

/-- A literal is read in front of a comma as one token, which denotes some content. -/
def Denotes (literal : Text) (content : Content) : Prop :=
  ∃ kind c u, literal = c :: u ∧ c ≠ equals ∧ Lexeme.isGap c = false ∧ kind ≠ .symbol ∧
    (∀ rest, Lexeme.recognize c (u ++ (',' : CodePoint) :: rest) = some (.lexeme kind u.length)) ∧
    ∀ position, Lexeme.content ⟨kind, literal, position⟩ = .ok content

/-! ## Quoted texts -/

theorem denotes_quote (s : Text) : Denotes (Quoted.quote s) (.str s) := by
  have quotes : ∀ q ∈ Quoted.marks,
      q ≠ equals ∧ Lexeme.isGap q = false ∧ (',' : CodePoint) ≠ q := by decide
  obtain ⟨unequal, gap, other⟩ := quotes _ (Quoted.mark_mem s)
  refine ⟨.string, _, _, Quoted.quote_eq s, unequal, gap, nofun, fun rest => ?_, fun position => ?_⟩
  · have follows : ((',' : CodePoint) :: rest).head? ≠ some (Quoted.mark s) := by simpa using other
    rw [List.append_assoc, List.singleton_append, Quoted.recognize_quote s follows,
      List.length_append, List.length_singleton]
  · simp only [Lexeme.content, Quoted.read_quote]

/-! ## Words -/

namespace Shape

variable {p : CodePoint → Bool} {t rest : Text} {d : CodePoint}

theorem groupedTail_of_forall (h : ∀ c ∈ t, p c) (hd : p d = false) (hd' : d ≠ '_') :
    groupedTail p (t ++ d :: rest) = t.length := by
  induction t with
  | nil => exact groupedTail_other hd hd'
  | cons c t ih =>
    obtain ⟨first, later⟩ := List.forall_mem_cons.1 h
    rw [List.cons_append, groupedTail_digit first, ih later, List.length_cons]

/-- A number in hexadecimal: behind its prefix, no other kind of number fits. -/
theorem number?_hexadecimal (h : groupedTail (isDigitOf 16) t ≠ 0) :
    number? (('0' : CodePoint) :: 'x' :: t) = some (2 + groupedTail (isDigitOf 16) t) := by
  have whole : grouped isDigit (('0' : CodePoint) :: 'x' :: t) = 1 := by
    rw [grouped, if_pos (by decide), groupedTail_other (by decide) (by decide)]
  have exponent : exponent (('x' : CodePoint) :: t) = 0 := by
    rw [Shape.exponent.eq_def]
    exact if_neg (by decide)
  have fractional : fractional (('0' : CodePoint) :: 'x' :: t) = 0 := by
    have noPoint : ('x' : CodePoint) ≠ '.' := by decide
    simp [Shape.fractional, whole, exponent, noPoint]
  have imaginary : imaginary (('0' : CodePoint) :: 'x' :: t) = 0 := by
    have noUnit : isEither 'x' 'j' 'J' = false := by decide
    simp [Shape.imaginary, whole, fractional, noUnit]
  have based : based 'x' 'X' (isDigitOf 16) (('0' : CodePoint) :: 'x' :: t) =
      2 + groupedTail (isDigitOf 16) t := by
    have letter : isEither 'x' 'x' 'X' = true := by decide
    simp [Shape.based, letter, h]
  simp [number?, fractional, imaginary, based]

end Shape

namespace Numeral

theorem literal?_hexadecimal (width n : Nat) :
    literal? (('0' : CodePoint) :: 'x' :: hexDigits width n) = some (n % 16 ^ width) := by
  have digits : ∀ c ∈ hexAlphabet, (c != '_') = true := by decide
  have ungrouped : (('0' : CodePoint) :: 'x' :: hexDigits width n).filter
      (fun c : CodePoint => c != '_') = ('0' : CodePoint) :: 'x' :: hexDigits width n :=
    List.filter_eq_self.2 (List.forall_mem_cons.2 ⟨by decide, List.forall_mem_cons.2
      ⟨by decide, fun c hc => digits c (mem_hexDigits hc)⟩⟩)
  have letter : Shape.isEither 'x' 'x' 'X' = true := by decide
  rw [literal?, ungrouped]
  simp [letter, valueFrom?_hexDigits]

theorem hexLength_le {n : Nat} (h : n < 16 ^ 8) : hexLength n ≤ 8 := by
  unfold hexLength
  split
  · decide
  · rename_i nonzero
    have short := (Nat.log2_lt nonzero).2 (show n < 2 ^ 32 from h)
    omega

end Numeral

namespace BuildOutput

variable {n : Int}

/-- A word is written with eight hexadecimal digits. -/
theorem wordText_eq (h : isWord n) : n.natAbs < 16 ^ 8 ∧ (n.natAbs : Int) = n ∧
    wordText n = ('0' : CodePoint) :: 'x' :: Numeral.hexDigits 8 n.natAbs := by
  have bounds : 0 ≤ n ∧ n < 2 ^ 32 := by simpa [isWord] using h
  have small : n.natAbs < 16 ^ 8 := by omega
  refine ⟨small, by omega, ?_⟩
  rw [wordText, if_neg (by omega), Numeral.hex, Nat.max_eq_left (Numeral.hexLength_le small)]
  rfl

theorem denotes_wordText (h : isWord n) : Denotes (wordText n) (.int n) := by
  obtain ⟨small, same, spelled⟩ := wordText_eq h
  rw [spelled]
  refine ⟨.number, _, _, rfl, by decide, by decide, nofun, fun rest => ?_, fun position => ?_⟩
  · have isHex : ∀ c ∈ Numeral.hexAlphabet, Shape.isDigitOf 16 c := by decide
    have digits : Shape.groupedTail (Shape.isDigitOf 16)
        (Numeral.hexDigits 8 n.natAbs ++ (',' : CodePoint) :: rest) = 8 := by
      rw [Shape.groupedTail_of_forall (fun c hc => isHex c (Numeral.mem_hexDigits hc)) (by decide)
        (by decide), Numeral.length_hexDigits]
    have whole := Shape.number?_hexadecimal (ne_of_eq_of_ne digits (by decide))
    have unquoted : Shape.quote? (('0' : CodePoint) :: 'x' ::
        (Numeral.hexDigits 8 n.natAbs ++ (',' : CodePoint) :: rest)) = none :=
      Shape.quote?_cons_eq_none (by decide) (by decide)
    rw [List.cons_append, Lexeme.recognize_of_number (by decide) unquoted (by decide) whole, digits,
      List.length_cons, Numeral.length_hexDigits]
  · simp only [Lexeme.content, Numeral.literal?_hexadecimal, Nat.mod_eq_of_lt small]
    exact congrArg (Except.ok <| Content.int ·) same

end BuildOutput

/-! ## Listings -/

/-- A literal of a listing, and the blanks and line ends before it. -/
structure Listing.Cell where
  gap : Text
  literal : Text
  content : Content
  isGap : ∀ c ∈ gap, c ∈ text " \n"
  denotes : Denotes literal content

/-- Literals with a comma behind each of them. -/
abbrev Listing := List Listing.Cell

/-- What a token denotes, and how it is written. -/
def Token.reading (t : Token) : Content × Text := (t.content, t.span.spelling)

/-- What the tokens of a text denote, and how they are written. -/
def readings? (t : Text) : Option (List (Content × Text)) :=
  match tokenize t [] with
  | .ok tokens => some (tokens.map Token.reading)
  | .error _ => none

namespace Listing

/-- What is read of a comma. -/
def comma : Content × Text := (.punct [','], [','])

/-- What is read of the end of a text. -/
def finish : Content × Text := (.finish, [])

namespace Cell

def spelling (cell : Cell) : Text := cell.gap ++ (cell.literal ++ text ",")

def readings (cell : Cell) : List (Content × Text) := [(cell.content, cell.literal), comma]

end Cell

def spelling (l : Listing) : Text := l.flatMap Cell.spelling

section

open Lexeme

variable {p : Position} {t : Text} {ls : List Lexeme}

theorem scans_gap {gap : Text} (h : ∀ c ∈ gap, c ∈ text " \n") (ht : Scans (p.after gap) t ls) :
    Scans p (gap ++ t) ls := by
  have blanks : ∀ c ∈ text " \n", c = lineFeed ∨ isGap c := by decide
  induction gap generalizing p with
  | nil => exact ht
  | cons c gap ih =>
    obtain ⟨first, later⟩ := List.forall_mem_cons.1 h
    have rest : Scans (p.next c) (gap ++ t) ls := ih later ht
    rcases blanks c first with rfl | blank
    · exact .feed rest
    · exact .blank blank rest

/-- What stands behind a comma is no equals sign. -/
theorem head?_ne (l : Listing) : (l.spelling ++ text "\n)").head? ≠ some equals := by
  cases l with
  | nil => decide
  | cons cell l =>
    obtain ⟨gap, literal, content, isGap, kind, c, u, rfl, unequal, -⟩ := cell
    cases gap with
    | nil => simpa [spelling, Cell.spelling] using unequal
    | cons d gap =>
      have blanks : ∀ c ∈ text " \n", c ≠ equals := by decide
      simpa [spelling, Cell.spelling] using blanks d (isGap d List.mem_cons_self)

theorem toTokens_cons {origin : Text} {l : Lexeme} {token : Token} {tokens : List Token}
    (h : l.toToken origin = .ok token) (hs : toTokens origin ls = .ok tokens) :
    toTokens origin (l :: ls) = .ok (token :: tokens) := by
  rw [toTokens, h]
  simp only [hs]

/-- The scanner finds two lexemes for each literal, and that of the closing bracket. -/
theorem scans (l : Listing) (origin : Text) (p : Position) :
    ∃ ls tokens bracket, Scans p (l.spelling ++ text "\n)") (ls ++ [bracket]) ∧
      toTokens origin ls = .ok tokens ∧ tokens.map Token.reading = l.flatMap Cell.readings := by
  induction l generalizing p with
  | nil => exact ⟨[], [], _, .feed (scans_closing _), rfl, rfl⟩
  | cons cell l ih =>
    obtain ⟨gap, literal, content, isGap, kind, c, u, rfl, unequal, noGap, noSymbol, recognized,
      means⟩ := cell
    let start := p.after gap
    let behind := start.after (c :: u)
    obtain ⟨ls, tokens, bracket, scans, denote, same⟩ := ih (behind.after (text ","))
    have comma : recognize ',' (spelling l ++ text "\n)") = some (.lexeme .symbol 0) :=
      recognize_symbol (by decide) (head?_ne l)
    have first : (Lexeme.mk kind (c :: u) start).toToken origin =
        .ok ⟨content, spanOf start (c :: u) origin⟩ := by
      simp only [toToken, means]
    have second : (Lexeme.mk .symbol (text ",") behind).toToken origin =
        .ok ⟨.punct (text ","), spanOf behind (text ",") origin⟩ := rfl
    refine ⟨_ :: _ :: ls, _, bracket, ?_, toTokens_cons first (toTokens_cons second denote), ?_⟩
    · have split (t : Text) : gap ++ (c :: u ++ text ",") ++ t =
          gap ++ (c :: u ++ (',' : CodePoint) :: t) := by simp [text]
      rw [spelling, List.flatMap_cons, List.append_assoc, Cell.spelling, split]
      refine scans_gap isGap (.lexeme noGap (recognized _) noSymbol ?_)
      exact .symbol (u := []) (by decide) comma (by decide) scans
    · rw [List.map_cons, List.map_cons, same]
      rfl

/-- The tokens of a listing: its literals, a comma behind each, and the end. -/
theorem readings?_spelling (l : Listing) :
    readings? l.spelling = some (l.flatMap Cell.readings ++ [finish]) := by
  obtain ⟨ls, tokens, bracket, scans, denote, same⟩ := l.scans [] ⟨1, 1⟩
  have lexemes := scan_opening l.head?_ne scans
  have parentheses : parenthesize l.spelling =
      ('(' : CodePoint) :: (l.spelling ++ text "\n)") := rfl
  rw [readings?, tokenize, parentheses, lexemes]
  simp only [List.drop_succ_cons, List.drop_zero, List.dropLast_concat, denote, List.map_append,
    same]
  rfl

end

/-! ## Reading -/

variable {α : Type} {value? : Content × Text → Option α} {rs : List (Content × Text)} {as : List α}

/-- The values of literals with a comma behind each of them, up to the end. -/
def items? (value? : Content × Text → Option α) : List (Content × Text) → Option (List α)
  | [] => none
  | [r] => if r = finish then some [] else none
  | r :: r' :: rs => do
    let a ← value? r
    if r' = comma then (items? value? rs).map (a :: ·) else none

/-- The values of literals with a comma between each two of them, and maybe behind the last. -/
def elements? (value? : Content × Text → Option α) : List (Content × Text) → Option (List α)
  | [] => none
  | [r] => if r = finish then some [] else none
  | r :: r' :: rs => do
    let a ← value? r
    if r' = comma then (elements? value? rs).map (a :: ·)
    else if r' = finish ∧ rs = [] then some [a] else none

/-- The elements of a tuple that is written in parentheses.  One literal alone is no tuple, unless
    there is a comma behind it. -/
def tuple? (value? : Content × Text → Option α) (rs : List (Content × Text)) : Option (List α) :=
  if rs[1]? = some finish then none else elements? value? rs

theorem items?_cases (h : items? value? rs = some as) : rs = [finish] ∧ as = [] ∨
    ∃ r rs' a as', rs = r :: comma :: rs' ∧ as = a :: as' ∧ value? r = some a ∧
      items? value? rs' = some as' := by
  rcases rs with - | ⟨r, - | ⟨r', rs⟩⟩
  · cases h
  · rw [items?] at h
    split at h
    · rename_i ends
      cases h
      exact .inl ⟨congrArg ([·]) ends, rfl⟩
    · cases h
  · rw [items?, Option.bind_eq_bind, Option.bind_eq_some_iff] at h
    obtain ⟨a, ha, h⟩ := h
    split at h
    · rename_i separated
      subst separated
      obtain ⟨as', has, rfl⟩ := Option.map_eq_some_iff.1 h
      exact .inr ⟨r, rs, a, as', rfl, rfl, ha, has⟩
    · cases h

theorem elements?_of_items? (h : items? value? rs = some as) : elements? value? rs = some as := by
  induction as generalizing rs with
  | nil =>
    rcases items?_cases h with ⟨rfl, -⟩ | ⟨_, _, _, _, -, ends, -⟩
    · rfl
    · cases ends
  | cons a as ih =>
    rcases items?_cases h with ⟨-, ends⟩ | ⟨r, rs, _, _, rfl, hcons, ha, h⟩
    · cases ends
    · cases hcons
      simp [elements?, ha, ih h]

/-- Literals with a comma behind each of them are a tuple. -/
theorem tuple?_of_items? (h : items? value? rs = some as) : tuple? value? rs = some as := by
  have other : rs[1]? ≠ some finish := by
    rcases items?_cases h with ⟨rfl, -⟩ | ⟨r, rs, a, as, rfl, -⟩
    · exact nofun
    · exact fun same => absurd (Option.some.inj same) (by decide)
  rw [tuple?, if_neg other, elements?_of_items? h]

theorem items?_readings (l : Listing) : items? value? (l.flatMap Cell.readings ++ [finish]) =
    l.mapM fun cell => value? (cell.content, cell.literal) := by
  induction l with
  | nil => rfl
  | cons cell l ih =>
    have split : List.flatMap Cell.readings (cell :: l) ++ [finish] =
        (cell.content, cell.literal) :: comma :: (l.flatMap Cell.readings ++ [finish]) := rfl
    rw [split, items?, ih, List.mapM_cons]
    simp [Option.map_eq_bind]

/-! ## Lines -/

/-- The values of a text of literals with a comma behind each of them. -/
def listed? (value? : Content × Text → Option α) (t : Text) : Option (List α) :=
  (readings? t).bind (items? value?)

/-- The elements of the tuple that a text is in parentheses. -/
def tupled? (value? : Content × Text → Option α) (t : Text) : Option (List α) :=
  (readings? t).bind (tuple? value?)

/-- A text is a listing of literals with some values. -/
def Lists (value? : Content × Text → Option α) (t : Text) (xs : List α) : Prop :=
  ∃ l : Listing, l.spelling = t ∧ (l.mapM fun cell => value? (cell.content, cell.literal)) = some xs

/-- A spelling of values by literals that they are read from. -/
def Spells (value? : Content × Text → Option α) (spell : α → Text) (x : α) : Prop :=
  ∃ content, Denotes (spell x) content ∧ value? (content, spell x) = some x

section

variable {t t' : Text} {xs ys : List α} {spell : α → Text} {x : α}

theorem Lists.listed (h : Lists value? t xs) : listed? value? t = some xs := by
  obtain ⟨l, rfl, values⟩ := h
  rw [listed?, readings?_spelling, Option.bind_some, items?_readings, values]

theorem Lists.tupled (h : Lists value? t xs) : tupled? value? t = some xs := by
  obtain ⟨l, rfl, values⟩ := h
  rw [tupled?, readings?_spelling, Option.bind_some]
  exact tuple?_of_items? ((items?_readings l).trans values)

theorem lists_nil (value? : Content × Text → Option α) : Lists value? [] [] := ⟨[], rfl, rfl⟩

theorem Lists.append (h : Lists value? t xs) (h' : Lists value? t' ys) :
    Lists value? (t ++ t') (xs ++ ys) := by
  obtain ⟨l, rfl, values⟩ := h
  obtain ⟨l', rfl, values'⟩ := h'
  refine ⟨l ++ l', List.flatMap_append, ?_⟩
  rw [List.mapM_append, values, values']
  rfl

theorem lists_literal (h : Spells value? spell x) {gap : Text} (hgap : ∀ c ∈ gap, c ∈ text " \n") :
    Lists value? (gap ++ (spell x ++ text ",")) [x] := by
  obtain ⟨content, denotes, value⟩ := h
  refine ⟨[⟨gap, spell x, content, hgap, denotes⟩], ?_, ?_⟩
  · simp [spelling, Cell.spelling]
  · simp [value]

/-- Literals with a comma behind each of them, and a space between each two. -/
def row (spell : α → Text) (xs : List α) : Text :=
  (text " ").intercalate (xs.map fun x => spell x ++ text ",")

/-- A line of a listing. -/
def line (spell : α → Text) (xs : List α) : Text := text "    " ++ row spell xs

/-- Lines, with a line end before each of them. -/
def block (lines : List Text) : Text := lines.flatMap fun line => text "\n" ++ line

theorem lists_row (h : ∀ x ∈ xs, Spells value? spell x) (nonempty : xs ≠ []) {gap : Text}
    (hgap : ∀ c ∈ gap, c ∈ text " \n") : Lists value? (gap ++ row spell xs) xs := by
  induction xs generalizing gap with
  | nil => exact absurd rfl nonempty
  | cons x xs ih =>
    obtain ⟨first, later⟩ := List.forall_mem_cons.1 h
    cases xs with
    | nil => simpa [row] using lists_literal first hgap
    | cons y ys =>
      have rest : Lists value? (text " " ++ row spell (y :: ys)) (y :: ys) :=
        ih later (List.cons_ne_nil _ _) (by decide)
      have split : row spell (x :: y :: ys) =
          (spell x ++ text ",") ++ (text " " ++ row spell (y :: ys)) := by
        simp [row, List.intercalate_cons_cons]
      rw [split, ← List.append_assoc]
      exact (lists_literal first hgap).append rest

/-- Rows of values that are read from their spelling, each of them with some values. -/
structure Spelled (value? : Content × Text → Option α) (spell : α → Text) (xss : List (List α)) :
    Prop where
  nonempty : ∀ xs ∈ xss, xs ≠ []
  spells : ∀ xs ∈ xss, ∀ x ∈ xs, Spells value? spell x

variable {xss : List (List α)} (h : Spelled value? spell xss)

include h

/-- The lines are read one by one. -/
theorem Spelled.listed : (xss.map (line spell)).mapM (listed? value?) = some xss := by
  rw [← List.map_id xss, List.map_map]
  refine mapM_map_some fun xs hxs => ?_
  exact (lists_row (h.spells xs hxs) (h.nonempty xs hxs) (by decide)).listed

/-- The lines are a listing as a whole. -/
theorem Spelled.lists : Lists value? (block (xss.map (line spell))) xss.flatten := by
  obtain ⟨nonempty, spells⟩ := h
  induction xss with
  | nil => exact lists_nil value?
  | cons xs xss ih =>
    obtain ⟨first, others⟩ := List.forall_mem_cons.1 nonempty
    obtain ⟨spelled, later⟩ := List.forall_mem_cons.1 spells
    have blanks : ∀ c ∈ text "\n    ", c ∈ text " \n" := by decide
    exact (lists_row spelled first blanks).append (ih others later)

end

end Listing

end ShaderBuild
