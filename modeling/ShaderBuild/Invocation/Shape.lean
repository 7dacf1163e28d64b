/-
  The shapes of lexemes: for each kind of lexeme, how many code points at the start of a text belong
  to it.

  * `Shape.number?`: integers with a base prefix or without, numbers with a point or an exponent,
    and imaginary numbers; digits may be grouped by single low lines;
  * `Shape.symbol?`: the operators and delimiters, the longest first;
  * `Shape.word?`: a run of word characters;
  * `Shape.quote?`, `Shape.closing?`: how a string starts and where it ends;
  * `Shape.literal`: the parts of a string.
-/
import ShaderBuild.Text.Word
import ShaderBuild.Text.CodePoint

namespace ShaderBuild.Shape

/-! ## Numbers -/

/-- The length of a run of further digits: digits of `p`, each with at most one low line before. -/
def groupedTail (p : CodePoint → Bool) : Text → Nat
  | [] => 0
  | c :: t =>
    if p c then groupedTail p t + 1
    else if c = '_' then match t with
      | [] => 0
      | d :: t => if p d then groupedTail p t + 2 else 0
    else 0

/-- The length of a run of digits of `p`: a digit and further digits. -/
def grouped (p : CodePoint → Bool) : Text → Nat
  | [] => 0
  | c :: t => if p c then groupedTail p t + 1 else 0

/-- Is the code point one of the two letters of a case pair? -/
def isEither (c lower upper : CodePoint) : Bool := c = lower || c = upper

/-- The length of an exponent: the letter e, a sign or none, and digits. -/
def exponent : Text → Nat
  | [] => 0
  | c :: t =>
    if isEither c 'e' 'E' then
      let sign := match t with
        | s :: _ => if isEither s '+' '-' then 1 else 0
        | [] => 0
      let digits := grouped CodePoint.isDigit (t.drop sign)
      if digits = 0 then 0 else 1 + sign + digits
    else 0

/-- The length of a number with a point, an exponent or both; zero if there is none. -/
def fractional (t : Text) : Nat :=
  let whole := grouped CodePoint.isDigit t
  match t.drop whole with
  | [] => 0
  | c :: u =>
    if c = '.' then
      let part := grouped CodePoint.isDigit u
      if whole + part = 0 then 0 else whole + 1 + part + exponent (u.drop part)
    else if whole = 0 then 0
    else
      let e := exponent (c :: u)
      if e = 0 then 0 else whole + e

/-- The length of an imaginary number, which ends in the letter j; zero if there is none. -/
def imaginary (t : Text) : Nat :=
  let ends (n : Nat) : Bool := n != 0 && match t.drop n with
    | c :: _ => isEither c 'j' 'J'
    | [] => false
  let whole := grouped CodePoint.isDigit t
  let part := fractional t
  if ends whole then whole + 1 else if ends part then part + 1 else 0

/-- The length of an integer whose base a letter after a zero tells; zero if there is none. -/
def based (lower upper : CodePoint) (p : CodePoint → Bool) : Text → Nat
  | zero :: letter :: t =>
    if zero = '0' && isEither letter lower upper then
      let digits := groupedTail p t
      if digits = 0 then 0 else 2 + digits
    else 0
  | _ => 0

/-- Is the code point a digit of the given base, up to sixteen? -/
def isDigitOf (base : Nat) (c : CodePoint) : Bool :=
  match c.hexValue? with
  | some n => n < base
  | none => false

/-- The length of an integer without a base prefix: zeros, or digits that start with another one. -/
def plain : Text → Nat
  | [] => 0
  | c :: t =>
    if c = '0' then groupedTail (fun d => d = '0') t + 1
    else if c.isDigit then groupedTail CodePoint.isDigit t + 1
    else 0

/-- The length of a number; none if there is none.  The kinds are tried in a fixed order, so that
    `1.5j` is one number and `0x` is a zero before a word. -/
def number? (t : Text) : Option Nat :=
  [imaginary t, fractional t, based 'x' 'X' (isDigitOf 16) t, based 'b' 'B' (isDigitOf 2) t,
    based 'o' 'O' (isDigitOf 8) t, plain t].find? (· != 0)

/-! ## Symbols and words -/

/-- The symbols by length, the longest first. -/
def symbols : List (Nat × List Text) :=
  [(3, ["...", "**=", "//=", ">>=", "<<="].map text),
   (2, ["!=", "->", ":=", "==", "<=", ">=", "<<", ">>", "**", "//", "+=", "-=", "*=", "/=", "%=",
      "&=", "|=", "^=", "@="].map text),
   (1, ["%", "&", "(", ")", "*", "+", ",", "-", ".", "/", ":", ";", "<", "=", ">", "@", "[", "]",
      "^", "\x7b", "|", "\x7d", "~"].map text)]

/-- The length of the longest symbol the text starts with. -/
def symbol? (t : Text) : Option Nat :=
  (symbols.find? fun (n, ss) => ss.contains (t.take n)).map (·.1)

/-- The length of the word the text starts with. -/
def word? (t : Text) : Option Nat :=
  let n := (t.takeWhile CodePoint.isWord).length
  if n = 0 then none else some n

/-! ## Strings -/

/-- Is the text one of the prefixes a string literal may have? -/
def isStringPrefix (t : Text) : Bool :=
  let lower := t.map fun c => if 65 ≤ c.val && c.val ≤ 90 then .ofNat (c.val + 32) else c
  (["", "b", "r", "u", "f", "br", "rb", "fr", "rf"].map text).contains lower

/-- The quote after `n` code points that are a prefix. -/
def quoteAfter? (t : Text) (n : Nat) : Option CodePoint :=
  if isStringPrefix (t.take n) then match t.drop n with
    | q :: _ => if isEither q '\'' '"' then some q else none
    | [] => none
  else none

/-- The start of a string literal: the length of the prefix, and the quote. -/
def quote? (t : Text) : Option (Nat × CodePoint) :=
  [0, 1, 2].findSome? fun n => (quoteAfter? t n).map (n, ·)

/-- The parts of the spelling of a string literal. -/
structure Literal where
  literalPrefix : Text
  /-- How many quotes stand on either side of the body: one or three. -/
  quotes : Nat
  body : Text
  deriving DecidableEq

/-- Has the prefix of a literal the letter, given in both cases? -/
def Literal.hasLetter (l : Literal) (lower upper : CodePoint) : Bool :=
  l.literalPrefix.any fun c => isEither c lower upper

/-- Does the literal denote bytes? -/
def Literal.isBytes (l : Literal) : Bool := l.hasLetter 'b' 'B'

/-- Is the literal a template? -/
def Literal.isTemplate (l : Literal) : Bool := l.hasLetter 'f' 'F'

/-- Do escapes mean nothing in the literal? -/
def Literal.isRaw (l : Literal) : Bool := l.hasLetter 'r' 'R'

/-- The parts of a spelling. -/
def literal (spelling : Text) : Literal :=
  let literalPrefix := spelling.takeWhile fun c => !isEither c '\'' '"'
  let rest := spelling.drop literalPrefix.length
  let mark := rest.take 1
  let quotes := if (mark ++ mark ++ mark).isPrefixOf rest && 6 ≤ rest.length then 3 else 1
  ⟨literalPrefix, quotes, (rest.drop quotes).take (rest.length - 2 * quotes)⟩

/-- The number of code points up to the end of a string that is closed by `quote` in its line; none
    if it is not closed there.  A backslash takes the code point behind it along, but not the end of
    the line. -/
def closing? (quote : Text) : Text → Option Nat
  | [] => none
  | c :: t =>
    if c = '\n' then none
    else if c = '\\' then match t with
      | [] => none
      | d :: t => if d = '\n' then none else (closing? quote t).map (· + 2)
    else if quote.isPrefixOf (c :: t) then some quote.length
    else (closing? quote t).map (· + 1)

/-- Does the text start with a line end, of one code point or two? -/
def isLineEnd : Text → Bool
  | c :: d :: _ => c = '\n' || (c = '\r' && d = '\n')
  | [c] => c = '\n'
  | [] => false

/-- Does the rest of a line, inside a string, end in a backslash that continues the string? -/
def continues : Text → Bool
  | [] => false
  | c :: t =>
    if c = '\\' then isLineEnd t || match t with
      | [] => false
      | _ :: t => continues t
    else c != '\n' && continues t

/-- Does the line end in a backslash, whatever stands before that? -/
def endsInBackslash (line : Text) : Bool :=
  (text "\\\n").isSuffixOf line || (text "\\\r\n").isSuffixOf line

/-- The first line of a text, with its line feed. -/
def firstLine : Text → Text
  | [] => []
  | c :: t => if c = '\n' then [c] else c :: firstLine t

end ShaderBuild.Shape
