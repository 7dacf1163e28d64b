/-
  Lexemes: the words, numbers, strings and symbols of a text, with their positions.

  The scanner takes one piece after the other off the front of the text.  Most pieces are lexemes;
  blanks, comments and line ends are pieces that give none.  Where no lexeme starts, one code point
  is a stray lexeme; if blanks stand there, it is the first of them.

  Inside brackets, and after a line that ends in a backslash, line ends mean nothing.  Elsewhere the
  indentation of a line has to fit: deeper than the line before, or equal to one that is open.

  * `Lexeme`, `Lexeme.Kind`, `Lexeme.ScanFault`;
  * `Match`, `recognize`: the piece at the start of a text;
  * `State`, `Step`, `step`: one step of the scanner;
  * `Lexeme.scan`: the lexemes of a text.
-/
import ShaderBuild.Invocation.Shape
import ShaderBuild.Invocation.Span
import ShaderBuild.Text.Identifier

namespace ShaderBuild.Lexeme

inductive Kind where
  | word
  | number
  | string
  | symbol
  | stray
  deriving DecidableEq

/-- Why a text has no lexemes. -/
inductive Reason where
  /-- A string is not closed. -/
  | openString
  /-- A bracket is not closed, or closed too often, or the last line is continued. -/
  | openStatement
  /-- A line is indented less than the line before and not like an open one. -/
  | indentation
  deriving DecidableEq

/-- The wording of a reason. -/
def Reason.message : Reason → Text
  | .openString => text "EOF in multi-line string"
  | .openStatement => text "EOF in multi-line statement"
  | .indentation => text "unindent does not match any outer indentation level"

structure ScanFault where
  reason : Reason
  position : Position
  deriving DecidableEq

end Lexeme

/-- A lexeme: a piece of a text with its kind and its position. -/
structure Lexeme where
  kind : Lexeme.Kind
  spelling : Text
  position : Position
  deriving DecidableEq

namespace Lexeme

/-! ## The piece at the start of a text -/

/-- What a text that starts with a given code point starts with.  The numbers count the code points
    after that one. -/
inductive Match where
  /-- The end of the line. -/
  | lineEnd (more : Nat)
  /-- A backslash and the end of the line. -/
  | continuation (more : Nat)
  | comment (more : Nat)
  | lexeme (kind : Kind) (more : Nat)
  /-- The rest of a line, in which a string starts that is to be closed by `quote`; `strict` if each
      further line of it has to be continued by a backslash. -/
  | openString (quote : Text) (strict : Bool) (more : Nat)

/-- The string at the start of a text. -/
def recognizeString (c : CodePoint) (t : Text) : Option Match :=
  (Shape.quote? (c :: t)).bind fun (n, q) =>
    let triple : Text := [q, q, q]
    let quote : Text := if triple.isPrefixOf ((c :: t).drop n) then triple else [q]
    -- the code points of the prefix and the quotes, less the first one
    let opening := n + quote.length - 1
    match Shape.closing? quote (t.drop opening) with
    | some k => some (.lexeme .string (opening + k))
    | none =>
      let line := Shape.firstLine (t.drop opening)
      if quote.length = 3 then some (.openString quote false (opening + line.length))
      else if Shape.continues line then some (.openString quote true (opening + line.length))
      else none

/-- What a text starts with; none if no piece starts there. -/
def recognize (c : CodePoint) (t : Text) : Option Match :=
  if c = '\\' then
    if (text "\n").isPrefixOf t then some (.continuation 1)
    else if (text "\r\n").isPrefixOf t then some (.continuation 2)
    else none
  else if c = '#' then
    some (.comment (t.takeWhile fun d : CodePoint => d != '\r' && d != '\n').length)
  else if c = '\n' then some (.lineEnd 0)
  else if c = '\r' && (text "\n").isPrefixOf t then some (.lineEnd 1)
  else match recognizeString c t with
    | some m => some m
    | none =>
      let number := if c.isDigit || c = '.' then Shape.number? (c :: t) else none
      match number, Shape.symbol? (c :: t), Shape.word? (c :: t) with
      | some n, _, _ => some (.lexeme .number (n - 1))
      | none, some n, _ => some (.lexeme .symbol (n - 1))
      | none, none, some n =>
        some (.lexeme (if c.startsIdentifier then .word else .symbol) (n - 1))
      | none, none, none => none

/-- Is the code point a blank that separates lexemes? -/
def isGap (c : CodePoint) : Bool := c = ' ' || c = '\t' || c = '\x0c'

/-! ## The scanner -/

/-- What the scanner knows of the text before. -/
structure State where
  /-- The brackets that were opened less those that were closed. -/
  depth : Int := 0
  /-- The columns of the open indentations, the innermost first. -/
  indents : List Nat := [0]
  /-- Does every further line of a string have to be continued by a backslash?  So it is from a
      string of one quote that goes over lines, until a string of several lines is closed. -/
  strict : Bool := false
  /-- At the start of a line, whether the line before is continued. -/
  lineStart : Option Bool := some false

/-- One step at a text of at least one code point. -/
inductive Step where
  /-- Take the first code point and `more` others, as a lexeme of the kind if one is given. -/
  | take (kind : Option Kind) (more : Nat) (state : State)
  /-- The rest of the text has no lexemes. -/
  | stop
  | fail (fault : ScanFault)

/-- The end of an open string in the lines that follow: a string if it is closed, a stray lexeme if
    a line breaks off where `strict` forbids it; none if the text ends before. -/
def closeString (quote : Text) (strict : Bool) (t : Text) : Option (Kind × Nat) :=
  match t with
  | [] => none
  | c :: u =>
    match Shape.closing? quote (c :: u) with
    | some k => some (.string, k)
    | none =>
      let line := Shape.firstLine (c :: u)
      if strict && !Shape.endsInBackslash line then some (.stray, line.length)
      else (closeString quote strict (u.drop (line.length - 1))).map fun (k, n) =>
        (k, line.length + n)
  termination_by t.length
  decreasing_by simp only [List.length_drop, List.length_cons]; omega

/-- The depth after a symbol. -/
def depthAfter (depth : Int) (c : CodePoint) : Int :=
  if (text "([\x7b").contains c then depth + 1
  else if (text ")]\x7d").contains c then depth - 1
  else depth

/-- One step within a line. -/
def stepWithin (p : Position) (s : State) (c : CodePoint) (t : Text) : Step :=
  let s := { s with lineStart := none }
  let gap := ((c :: t).takeWhile isGap).length
  match (c :: t).drop gap with
  | [] => .take none (gap - 1) s
  | d :: u =>
    match recognize d u with
    | none => .take (some .stray) 0 s
    | some m =>
      if gap ≠ 0 then .take none (gap - 1) s
      else match m with
        | .lineEnd more => .take none more { s with lineStart := some false }
        | .continuation more => .take none more { s with lineStart := some true }
        | .comment more => .take none more s
        | .lexeme .symbol more => .take (some .symbol) more { s with depth := depthAfter s.depth c }
        | .lexeme kind more => .take (some kind) more s
        | .openString quote strict more =>
          let strict := strict || s.strict
          match closeString quote strict (t.drop more) with
          | none => .fail ⟨.openString, p⟩
          | some (.stray, n) =>
            .take (some .stray) (more + n) { s with strict, lineStart := some false }
          | some (kind, n) => .take (some kind) (more + n) { s with strict := false }

/-- The column that the blanks at the start of a line lead to, and their number.  A tab goes to the
    next multiple of eight, a form feed back to the start. -/
def indentation : Nat → Text → Nat × Nat
  | column, [] => (column, 0)
  | column, c :: t =>
    let go (column : Nat) := ((indentation column t).1, (indentation column t).2 + 1)
    if c = ' ' then go (column + 1)
    else if c = '\t' then go ((column / 8 + 1) * 8)
    else if c = '\x0c' then go 0
    else (column, 0)

/-- The open indentations after a line at a column; none if the column does not fit. -/
def indent? (column : Nat) (indents : List Nat) : Option (List Nat) :=
  if indents.headD 0 < column then some (column :: indents)
  else if indents.contains column then some (indents.dropWhile (column < ·))
  else none

/-- One step at the start of a line. -/
def stepLine (p : Position) (s : State) (continued : Bool) (c : CodePoint) (t : Text) : Step :=
  if s.depth ≠ 0 || continued then stepWithin p s c t
  else
    let (column, blanks) := indentation 0 (c :: t)
    match (c :: t).drop blanks with
    | [] => .stop
    | d :: _ =>
      if (text "#\r\n").contains d then
        -- a line without statements
        .take none ((Shape.firstLine (c :: t)).length - 1) s
      else match indent? column s.indents with
        | none => .fail ⟨.indentation, ⟨p.line, blanks - 1⟩⟩
        | some indents =>
          if blanks = 0 then stepWithin p { s with indents } c t
          else .take none (blanks - 1) { s with indents, lineStart := none }

/-- One step of the scanner. -/
def step (p : Position) (s : State) (c : CodePoint) (t : Text) : Step :=
  match s.lineStart with
  | some continued => stepLine p s continued c t
  | none => stepWithin p s c t

/-- At the end of the text, no statement may be open.  A fault is placed on the line behind. -/
def finish (p : Position) (s : State) : Except ScanFault (List Lexeme) :=
  if s.depth = 0 && s.lineStart != some true then .ok []
  else .error ⟨.openStatement, ⟨if p.col = 0 then p.line else p.line + 1, 0⟩⟩

/-- The lexemes of the rest of a text. -/
def scanFrom (p : Position) (s : State) : Text → Except ScanFault (List Lexeme)
  | [] => finish p s
  | c :: t =>
    match step p s c t with
    | .stop => .ok []
    | .fail f => .error f
    | .take kind more s =>
      let piece := c :: t.take more
      match scanFrom (p.after piece) s (t.drop more) with
      | .error f => .error f
      | .ok rest => .ok (match kind with
        | some kind => ⟨kind, piece, p⟩ :: rest
        | none => rest)
  termination_by t => t.length
  decreasing_by simp only [List.length_drop, List.length_cons]; omega

/-- The lexemes of a text. -/
def scan (t : Text) : Except ScanFault (List Lexeme) := scanFrom .start {} t

end Lexeme

end ShaderBuild
