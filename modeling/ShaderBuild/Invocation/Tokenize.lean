/-
  The tokens of an invocation.

  The text is put in parentheses, so that line ends and indentation in it mean nothing; the lexemes
  of the two parentheses are dropped again, and columns on the first line are shifted back.  The
  scanner sees the whole text before the first lexeme is looked at, so a fault of the scanner wins
  over a fault of a lexeme.

  * `Lexeme.toToken`: what a lexeme denotes;
  * `Token.endOf`: the token behind a text;
  * `tokenize`: the tokens of a text, the end of the input included.
-/
import ShaderBuild.Fault

namespace ShaderBuild

namespace Numeral

/-- The number of an integer literal: with a base prefix, or in decimal with few enough digits.  Low
    lines do not count. -/
def literal? (t : Text) : Option Nat :=
  let digits := t.filter fun c : CodePoint => c != '_'
  let based (base : Nat) := valueFrom? CodePoint.hexValue? base 0 (digits.drop 2)
  match digits.take 2 with
  | [zero, letter] =>
    if zero = '0' && Shape.isEither letter 'x' 'X' then based 16
    else if zero = '0' && Shape.isEither letter 'b' 'B' then based 2
    else if zero = '0' && Shape.isEither letter 'o' 'O' then based 8
    else decimal? digits
  | _ => decimal? digits
where
  /-- The number of decimal digits, if they are not too many. -/
  decimal? (digits : Text) : Option Nat :=
    if digits.all CodePoint.isDigit && digits.length ≤ maxDigits then
      valueFrom? CodePoint.hexValue? 10 0 digits
    else none

end Numeral

/-- The span of a piece of the text in parentheses. -/
def spanOf (p : Position) (spelling origin : Text) : Span :=
  ⟨p.line, if p.line = 1 then p.col - 1 else p.col, spelling, origin⟩

namespace Lexeme

/-- What a lexeme denotes. -/
def content (l : Lexeme) : Except ConfigFault Token.Content :=
  match l.kind with
  | .word => .ok (.ident l.spelling)
  | .number => match Numeral.literal? l.spelling with
    | some n => .ok (.int n)
    | none => .ok (.number l.spelling)
  | .string => match StringLiteral.read l.spelling with
    | .ok (.text t) => .ok (.str t)
    | .ok .bytes => .error (.notText l.spelling)
    | .error f => .error (.invalidString l.spelling f)
  | .symbol => .ok (.punct l.spelling)
  | .stray => .error (.stray l.spelling)

/-- The token of a lexeme of the text in parentheses. -/
def toToken (origin : Text) (l : Lexeme) : Except Fault Token :=
  let span := spanOf l.position l.spelling origin
  match l.content with
  | .ok content => .ok ⟨content, span⟩
  | .error f => .error (.config f span)

/-- The tokens of lexemes, or the fault of the first that denotes nothing. -/
def toTokens (origin : Text) : List Lexeme → Except Fault (List Token)
  | [] => .ok []
  | l :: ls => match l.toToken origin with
    | .error f => .error f
    | .ok token => match toTokens origin ls with
      | .error f => .error f
      | .ok tokens => .ok (token :: tokens)

end Lexeme

/-- The end of a text, behind its last line. -/
def Token.endOf (t origin : Text) : Token :=
  let p := Position.start.after t
  ⟨.finish, ⟨p.line, p.col, [], origin⟩⟩

/-- A text in parentheses. -/
def parenthesize (t : Text) : Text := text "(" ++ t ++ text "\n)"

/-- The name of the text that an invocation is read from, unless another is given. -/
def defaultOrigin : Text := text "<invocation>"

/-- The tokens of an invocation, ending with the end of the input. -/
def tokenize (t origin : Text) : Except Fault (List Token) :=
  match Lexeme.scan (parenthesize t) with
  | .error f => .error (.config (.noLexemes f.reason) (spanOf f.position [] origin))
  | .ok lexemes => match Lexeme.toTokens origin (lexemes.drop 1).dropLast with
    | .error f => .error f
    | .ok tokens => .ok (tokens ++ [.endOf t origin])

end ShaderBuild
