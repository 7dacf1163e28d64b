/-
  Layout means nothing in an invocation.

  An invocation is laid out as a sequence of items, with blanks, line ends and comments around them.
  Each item gives one token, which denotes what the item denotes and lies where the item stands; the
  end of the text gives another.  What stands between the items gives none.

  * `Position.behind`, `Position.start_after`: where a piece of a text lies;
  * `Layout.Item`, `Layout.Filler`, `Layout`: the items, what stands between them, and all of it;
  * `Layout.spelling`, `Layout.tokens`: the text of a layout, and the tokens of its items;
  * `Layout.Item.scans`, `Layout.Gap.scans`, `Layout.Pieces.scans`: what the scanner finds in it;
  * `Layout.tokenize_spelling`: the tokens of the text are those of the items.
-/
import Mathlib.Data.List.Chain
import Mathlib.Data.List.Induction
import ShaderBuild.Proofs.Invocation.Contents
import ShaderBuild.Proofs.Invocation.Scanning

namespace ShaderBuild

open CodePoint

/-! ## Places -/

namespace Position

variable {p : Position} {c : CodePoint} {s t : Text}

/-- Where a text goes on behind a part of it: the lines that end in that part, and the code points
    behind the last line end. -/
def behind (t : Text) : Position :=
  ⟨t.count lineFeed + 1, (t.reverse.takeWhile (· ≠ lineFeed)).length⟩

theorem after_append : p.after (s ++ t) = (p.after s).after t := List.foldl_append

theorem behind_concat : behind (t ++ [c]) = (behind t).next c := by
  by_cases hc : c = lineFeed
  · subst hc
    simp [behind, next, lineFeed]
  · have hc' : c ≠ '\n' := hc
    simp [behind, next, lineFeed, hc', List.count_append]

theorem start_after (t : Text) : start.after t = behind t := by
  induction t using List.reverseRecOn with
  | nil => rfl
  | append_singleton t c ih => rw [after_append, ih, behind_concat]; rfl

/-- A position where a code point was put before the text. -/
def shifted (p : Position) : Position := if p.line = 1 then ⟨1, p.col + 1⟩ else p

theorem next_shifted (hp : p.line ≠ 0) : p.shifted.next c = (p.next c).shifted := by
  by_cases first : p.line = 1 <;> by_cases hc : c = '\n' <;> simp [shifted, next, first, hc, hp]

theorem shifted_after (t : Text) : (⟨1, 1⟩ : Position).after t = (behind t).shifted := by
  induction t using List.reverseRecOn with
  | nil => rfl
  | append_singleton t c ih =>
    rw [after_append, ih, behind_concat, ← next_shifted (Nat.succ_ne_zero _)]
    rfl

/-- The shift is undone in the span. -/
theorem spanOf_shifted (p : Position) (spelling origin : Text) :
    spanOf p.shifted spelling origin = ⟨p.line, p.col, spelling, origin⟩ := by
  by_cases first : p.line = 1 <;> simp [spanOf, shifted, first]

end Position

open Shape StringLiteral Lexeme

/-! ## Layouts -/

namespace Layout

/-- A piece of an invocation that means something. -/
inductive Item where
  /-- An ASCII letter or low line, and the rest of the name. -/
  | word (initial : CodePoint) (name : Text) (isLetter : initial.isLetter)
      (isName : ∀ c ∈ name, c.isNamePart)
  | number (numeral : Text) (isNumeral : IsNumeral numeral)
      (short : (Numeral.digits numeral).length ≤ Numeral.maxDigits)
  | comma
  | colon
  /-- A string in double quotes, of one line. -/
  | quoted (contents : Text) (isContents : IsContents contents) (isLine : lineFeed ∉ contents)
  /-- A raw string in three double quotes, of any number of lines. -/
  | raw (contents : Text) (isContents : IsContents contents)

namespace Item

/-- How the item is written. -/
def spelling : Item → Text
  | word initial name _ _ => initial :: name
  | number numeral _ _ => numeral
  | comma => [',']
  | colon => [':']
  | quoted contents _ _ => StringLiteral.quoted contents
  | raw contents _ => StringLiteral.raw contents

/-- What the item denotes. -/
def content : Item → Token.Content
  | word initial name _ _ => .ident (initial :: name)
  | number numeral _ _ => .int (Numeral.decimalValue (Numeral.digits numeral))
  | comma => .punct [',']
  | colon => .punct [':']
  | quoted contents _ _ | raw contents _ => .str contents

/-- What the scanner takes the item for. -/
def kind : Item → Lexeme.Kind
  | word _ _ _ _ => .word
  | number _ _ _ => .number
  | comma | colon => .symbol
  | quoted _ _ _ | raw _ _ => .string

/-- Other items may stand right before it and right behind it. -/
def IsSymbol (i : Item) : Prop := i.kind = .symbol

/-- The token of the item, behind a part of the text. -/
def token (origin before : Text) (i : Item) : Token :=
  ⟨i.content, ⟨(Position.behind before).line, (Position.behind before).col, i.spelling, origin⟩⟩

end Item

/-- A piece of an invocation that means nothing. -/
inductive Filler where
  | space
  | tab
  | lineEnd
  /-- A comment, and the end of its line. -/
  | comment (body : Text) (isLine : ∀ c ∈ body, c ≠ lineFeed ∧ c ≠ '\r')

/-- How it is written. -/
def Filler.spelling : Filler → Text
  | space => [' ']
  | tab => ['\t']
  | lineEnd => [lineFeed]
  | comment body _ => hash :: body ++ [lineFeed]

/-- What stands between two items. -/
abbrev Gap := List Filler

def Gap.spelling (gap : Gap) : Text := gap.flatMap Filler.spelling

/-- Items, each behind a gap. -/
abbrev Pieces := List (Gap × Item)

namespace Pieces

def spelling (ps : Pieces) : Text := ps.flatMap fun p => p.1.spelling ++ p.2.spelling

/-- The items, each with all of the text before it, where `before` stands before the first gap. -/
def placed (before : Text) : Pieces → List (Text × Item)
  | [] => []
  | (gap, i) :: ps =>
    (before ++ gap.spelling, i) :: placed (before ++ gap.spelling ++ i.spelling) ps

/-- Is there something between two items that are both no symbols? -/
def Apart (ps : Pieces) : Prop := ps.IsChain fun a b => a.2.IsSymbol ∨ b.2.IsSymbol ∨ b.1 ≠ []

end Pieces

end Layout

open Layout in
/-- An invocation with its layout. -/
structure Layout where
  pieces : Pieces
  apart : pieces.Apart
  /-- What stands behind the last item. -/
  last : Gap
  /-- A comment in the last line, which has no end. -/
  remark : Option {body : Text // ∀ c ∈ body, c ≠ lineFeed ∧ c ≠ '\r'}

namespace Layout

/-- The text of a layout. -/
def spelling (l : Layout) : Text :=
  l.pieces.spelling ++ (l.last.spelling ++ match l.remark with
    | some body => hash :: body.1
    | none => [])

/-- The tokens of a layout: those of its items, and the end of the text. -/
def tokens (l : Layout) (origin : Text) : List Token :=
  (l.pieces.placed []).map (fun (before, i) => i.token origin before) ++
    [⟨.finish, ⟨(Position.behind l.spelling).line, (Position.behind l.spelling).col, [], origin⟩⟩]

/-! ## What the items denote -/

namespace Item

variable {i : Item}

/-- The lexeme of the item, behind a part of the text in parentheses. -/
def lexeme (before : Text) (i : Item) : Lexeme :=
  ⟨i.kind, i.spelling, (⟨1, 1⟩ : Position).after before⟩

theorem content_lexeme (before : Text) (i : Item) : (i.lexeme before).content = .ok i.content := by
  cases i with
  | word initial name isLetter isName => rfl
  | number numeral isNumeral short =>
    simp only [Lexeme.content, lexeme, kind, spelling, content]
    rw [Numeral.literal?_numeral isNumeral short]
  | comma => rfl
  | colon => rfl
  | quoted contents isContents isLine =>
    simp only [Lexeme.content, lexeme, kind, spelling, content]
    rw [read_quoted isContents isLine]
  | raw contents isContents =>
    simp only [Lexeme.content, lexeme, kind, spelling, content]
    rw [read_raw isContents]

theorem toToken_lexeme (origin before : Text) (i : Item) :
    (i.lexeme before).toToken origin = .ok (i.token origin before) := by
  rw [toToken, content_lexeme]
  simp only [lexeme, Position.shifted_after, Position.spanOf_shifted]
  rfl

theorem toTokens_map (origin : Text) (items : List (Text × Item)) :
    toTokens origin (items.map fun (before, i) => i.lexeme before) =
      .ok (items.map fun (before, i) => i.token origin before) := by
  induction items with
  | nil => rfl
  | cons head items ih =>
    obtain ⟨before, i⟩ := head
    rw [List.map_cons, toTokens, toToken_lexeme, ih]
    rfl

/-! ## What the scanner finds -/

/-- What may follow the item. -/
def Ends (i : Item) (t : Text) : Prop :=
  t.head? ≠ some equals ∧ (i.IsSymbol ∨ ∃ d rest, t = d :: rest ∧ d ∈ separators)

/-- No item is spelled with an equals sign in front. -/
theorem spelling_eq_cons (i : Item) : ∃ c t, i.spelling = c :: t ∧ c ≠ equals := by
  have namePart : ∀ c : CodePoint, c.isNamePart → c ≠ equals := by
    rintro c hc rfl
    exact absurd hc (by decide)
  cases i with
  | word initial name isLetter isName =>
    exact ⟨_, _, rfl, namePart _ (isNamePart_of_isLetter isLetter)⟩
  | number numeral isNumeral short =>
    obtain ⟨c, u, rfl, hc⟩ := isNumeral.exists_cons
    exact ⟨_, _, rfl, namePart _ (isNamePart_of_isDigit hc)⟩
  | comma => exact ⟨_, _, rfl, by decide⟩
  | colon => exact ⟨_, _, rfl, by decide⟩
  | quoted contents isContents isLine => exact ⟨_, _, rfl, by decide⟩
  | raw contents isContents => exact ⟨_, _, rfl, by decide⟩

theorem spelling_of_isSymbol (h : i.IsSymbol) : ∃ d, i.spelling = [d] ∧ d ∈ separators := by
  cases i with
  | comma => exact ⟨_, rfl, by decide⟩
  | colon => exact ⟨_, rfl, by decide⟩
  | _ => cases h

section

variable {p : Position} {t s : Text} {d : CodePoint} {ls : List Lexeme}

theorem scans_word {c : CodePoint} {name : Text} (hc : c.isLetter)
    (hname : ∀ a ∈ name, a.isNamePart) (hd : d ∈ separators)
    (h : Scans (p.after (c :: name)) (d :: t) ls) :
    Scans p (c :: name ++ d :: t) (⟨.word, c :: name, p⟩ :: ls) := by
  have gap := (isNamePart_facts (isNamePart_of_isLetter hc)).2.2
  exact Scans.lexeme gap (recognize_word hc hname hd) (by decide) h

theorem scans_number {numeral : Text} (hn : IsNumeral numeral) (hd : d ∈ separators)
    (h : Scans (p.after numeral) (d :: t) ls) :
    Scans p (numeral ++ d :: t) (⟨.number, numeral, p⟩ :: ls) := by
  obtain ⟨c, u, rfl, hc⟩ := hn.exists_cons
  have gap := (isNamePart_facts (isNamePart_of_isDigit hc)).2.2
  exact Scans.lexeme gap (recognize_number hn hc hd) (by decide) h

theorem scans_symbol {c : CodePoint} (hc : c ∈ text ",:") (ht : t.head? ≠ some equals)
    (h : Scans (p.after [c]) t ls) : Scans p (c :: t) (⟨.symbol, [c], p⟩ :: ls) := by
  have facts : ∀ c ∈ text ",:", isGap c = false ∧ depthAfter 1 c = 1 ∧ c ∈ text "(),:" := by decide
  obtain ⟨gap, depth, symbol⟩ := facts c hc
  exact Scans.symbol (u := []) gap (recognize_symbol symbol ht) depth h

theorem scans_quoted (hs : IsPlain s) (hline : lineFeed ∉ s) (ht : t.head? ≠ some mark)
    (h : Scans (p.after (StringLiteral.quoted s)) t ls) :
    Scans p (StringLiteral.quoted s ++ t) (⟨.string, StringLiteral.quoted s, p⟩ :: ls) := by
  have hm : recognize mark (s ++ [mark] ++ t) = some (.lexeme .string (s ++ [mark]).length) := by
    rw [List.append_assoc, List.singleton_append, recognize_quoted hs hline ht, List.length_append]
    rfl
  exact Scans.lexeme (by decide) hm (by decide) h

/-- A raw string, be it closed in its line or in a later one. -/
theorem scans_raw (hs : IsPlain s) (h : Scans (p.after (StringLiteral.raw s)) t ls) :
    Scans p (StringLiteral.raw s ++ t) (⟨.string, StringLiteral.raw s, p⟩ :: ls) := by
  by_cases hline : lineFeed ∈ s
  · obtain ⟨line, later, rfl, unbroken⟩ := List.eq_append_cons_of_mem hline
    have plain : IsPlain line := fun c hc => hs c (List.mem_append_left _ hc)
    have plain' : IsPlain later :=
      fun c hc => hs c (List.mem_append_right _ (List.mem_cons_of_mem _ hc))
    have split : StringLiteral.raw (line ++ lineFeed :: later) =
        ('r' : CodePoint) :: ((triple ++ (line ++ [lineFeed])) ++ (later ++ triple)) := by
      simp [StringLiteral.raw]
    rw [split] at h ⊢
    have hm : recognize 'r' (triple ++ (line ++ [lineFeed]) ++ (later ++ triple ++ t)) =
        some (.openString triple false (triple ++ (line ++ [lineFeed])).length) := by
      rw [List.append_assoc, List.append_assoc, List.singleton_append,
        recognize_openString plain unbroken, List.length_append, List.length_append]
      rfl
    have hclose : closeString triple false (later ++ triple ++ t) =
        some (.string, (later ++ triple).length) := by
      rw [List.append_assoc, closeString_eq plain', List.length_append]
      rfl
    exact Scans.openString (by decide) hm hclose h
  · have hm : recognize 'r' (triple ++ (s ++ triple) ++ t) =
        some (.lexeme .string (triple ++ (s ++ triple)).length) := by
      rw [List.append_assoc, List.append_assoc, recognize_raw hs hline, List.length_append,
        List.length_append]
      rfl
    exact Scans.lexeme (by decide) hm (by decide) h

/-- The item gives one lexeme. -/
theorem scans (ht : i.Ends t) (h : Scans (p.after i.spelling) t ls) :
    Scans p (i.spelling ++ t) (⟨i.kind, i.spelling, p⟩ :: ls) := by
  obtain ⟨unequal, follows⟩ := ht
  have separated : ¬ i.IsSymbol → ∃ d rest, t = d :: rest ∧ d ∈ separators :=
    follows.resolve_left
  cases i with
  | word initial name isLetter isName =>
    obtain ⟨d, rest, rfl, hd⟩ := separated nofun
    exact scans_word isLetter isName hd h
  | number numeral isNumeral short =>
    obtain ⟨d, rest, rfl, hd⟩ := separated nofun
    exact scans_number isNumeral hd h
  | comma => exact scans_symbol (by decide) unequal h
  | colon => exact scans_symbol (by decide) unequal h
  | quoted contents isContents isLine =>
    obtain ⟨d, rest, rfl, hd⟩ := separated nofun
    have unquoted : ∀ d ∈ separators, d ≠ mark := by decide
    exact scans_quoted isContents.isPlain isLine (by simpa using unquoted d hd) h
  | raw contents isContents => exact scans_raw isContents.isPlain h

end

end Item

/-! ## What the scanner finds between and behind them -/

section

variable {p : Position} {t : Text} {ls : List Lexeme} {gap : Gap}

theorem Filler.scans (f : Filler) (h : Scans (p.after f.spelling) t ls) :
    Scans p (f.spelling ++ t) ls := by
  cases f with
  | space => exact .blank (by decide) h
  | tab => exact .blank (by decide) h
  | lineEnd => exact .feed h
  | comment body isLine =>
    rw [spelling, Position.after_append] at h
    rw [spelling, List.append_assoc]
    exact .comment isLine (.feed h)

/-- A gap gives no lexeme. -/
theorem Gap.scans (gap : Gap) (h : Scans (p.after gap.spelling) t ls) :
    Scans p (gap.spelling ++ t) ls := by
  induction gap generalizing p with
  | nil => exact h
  | cons f gap ih =>
    have whole : Gap.spelling (f :: gap) = f.spelling ++ Gap.spelling gap := List.flatMap_cons
    rw [whole, Position.after_append] at h
    rw [whole, List.append_assoc]
    exact f.scans (ih h)

theorem Gap.spelling_eq_cons (hgap : gap ≠ []) :
    ∃ d rest, gap.spelling = d :: rest ∧ d ∈ separators := by
  obtain ⟨f, gap, rfl⟩ := List.exists_cons_of_ne_nil hgap
  cases f <;> exact ⟨_, _, rfl, by decide⟩

theorem Item.ends_separator (i : Item) {d : CodePoint} (hd : d ∈ separators) : i.Ends (d :: t) := by
  have unequal : ∀ d ∈ separators, d ≠ equals := by decide
  exact ⟨by simpa using unequal d hd, .inr ⟨d, t, rfl, hd⟩⟩

theorem Item.ends_gap (i : Item) (hgap : gap ≠ []) : i.Ends (gap.spelling ++ t) := by
  obtain ⟨d, rest, hrest, hd⟩ := Gap.spelling_eq_cons hgap
  rw [hrest]
  exact i.ends_separator hd

/-- Items that are apart end where the next one is to come. -/
theorem Item.ends (i : Item) (ps : Pieces) (hgap : gap ≠ [])
    (apart : ∀ next ∈ ps.head?, i.IsSymbol ∨ next.2.IsSymbol ∨ next.1 ≠ []) :
    i.Ends (ps.spelling ++ (gap.spelling ++ t)) := by
  cases ps with
  | nil => exact i.ends_gap hgap
  | cons next ps =>
    obtain ⟨between, j⟩ := next
    have split : Pieces.spelling ((between, j) :: ps) ++ (gap.spelling ++ t) =
        between.spelling ++ (j.spelling ++ (Pieces.spelling ps ++ (gap.spelling ++ t))) := by
      simp [Pieces.spelling]
    rw [split]
    by_cases hbetween : between = []
    · subst hbetween
      obtain ⟨c, u, hj, unequal⟩ := j.spelling_eq_cons
      rcases apart _ rfl with symbol | symbol | nonempty
      · rw [hj]
        exact ⟨by simpa [Gap.spelling] using unequal, .inl symbol⟩
      · obtain ⟨d, hj, hd⟩ := j.spelling_of_isSymbol symbol
        rw [hj]
        exact i.ends_separator hd
      · exact absurd rfl nonempty
    · exact i.ends_gap hbetween

/-- The scanner finds the lexemes of the items, and that of the closing bracket. -/
theorem Pieces.scans (ps : Pieces) (apart : ps.Apart) (hgap : gap ≠ []) (before : Text) :
    ∃ bracket, Scans ((⟨1, 1⟩ : Position).after before) (ps.spelling ++ (gap.spelling ++ text ")"))
      ((ps.placed before).map (fun (before, i) => i.lexeme before) ++ [bracket]) := by
  induction ps generalizing before with
  | nil => exact ⟨_, gap.scans (scans_closing _)⟩
  | cons piece ps ih =>
    obtain ⟨between, i⟩ := piece
    obtain ⟨first, apart⟩ := List.isChain_cons.1 apart
    obtain ⟨bracket, h⟩ := ih apart (before ++ between.spelling ++ i.spelling)
    have split : Pieces.spelling ((between, i) :: ps) ++ (gap.spelling ++ text ")") =
        between.spelling ++ (i.spelling ++ (Pieces.spelling ps ++ (gap.spelling ++ text ")"))) := by
      simp [Pieces.spelling]
    refine ⟨bracket, ?_⟩
    rw [split]
    refine between.scans ?_
    rw [← Position.after_append]
    rw [Position.after_append] at h
    exact i.scans (i.ends ps hgap first) h

end

/-! ## Tokens -/

/-- What stands between the last item and the closing bracket. -/
def closing (l : Layout) : Gap := l.last ++ [match l.remark with
  | some body => .comment body.1 body.2
  | none => .lineEnd]

theorem parenthesize_spelling (l : Layout) :
    parenthesize l.spelling =
      ('(' : CodePoint) :: (l.pieces.spelling ++ (l.closing.spelling ++ text ")")) := by
  obtain ⟨pieces, apart, last, remark⟩ := l
  have brackets : text "\n)" = [lineFeed] ++ text ")" := rfl
  cases remark <;>
    simp [parenthesize, spelling, closing, Gap.spelling, Filler.spelling, brackets] <;> rfl

/-- The tokens of a text are those of the items in it, wherever they stand. -/
theorem tokenize_spelling (l : Layout) (origin : Text) :
    tokenize l.spelling origin = .ok (l.tokens origin) := by
  have nonempty : l.closing ≠ [] := by simp [closing]
  obtain ⟨bracket, scans⟩ := l.pieces.scans l.apart nonempty []
  -- what may stand behind a comma may stand behind the opening bracket
  have unequal := (Item.comma.ends (t := text ")") l.pieces nonempty fun _ _ => .inl rfl).1
  have lexemes := scan_opening unequal scans
  rw [tokenize, parenthesize_spelling, lexemes]
  simp only [List.drop_succ_cons, List.drop_zero, List.dropLast_concat, Item.toTokens_map]
  rw [tokens, Token.endOf, Position.start_after]

example : ∃ l : Layout, l.spelling = text "v:\n 7 # end" ∧
    (l.tokens []).map (·.span.col) = [0, 1, 1, 8] :=
  ⟨⟨[([], .word 'v' [] (by decide) (by decide)), ([], .colon),
      ([.lineEnd, .space], .number ['7'] (.digits (by decide) (by decide) .nil) (by decide))],
    by simp [Pieces.Apart, Item.IsSymbol, Item.kind], [.space],
    some ⟨text " end", by decide⟩⟩, rfl, rfl⟩

end Layout

end ShaderBuild
