/-
  Positions in a text, and the spans that diagnostics cite.

  * `Position`: a line, counted from one, and a column, counted from zero; `Position.after` is the
    position behind a piece of text;
  * `Span`: a position with the text found there and the name of the text it lies in.
-/
import ShaderBuild.Text.Quoted

namespace ShaderBuild

/-- A place in a text: lines from one, columns from zero.  Only line feeds end lines. -/
structure Position where
  line : Nat
  col : Nat
  deriving DecidableEq

namespace Position

/-- Where a text starts. -/
def start : Position := ⟨1, 0⟩

/-- The position behind a code point. -/
def next (p : Position) (c : CodePoint) : Position :=
  if c = '\n' then ⟨p.line + 1, 0⟩ else ⟨p.line, p.col + 1⟩

/-- The position behind a piece of text. -/
def after (p : Position) (t : Text) : Position := t.foldl next p

end Position

/-- The location of a token: where it is, how it is spelled there, and the name of the text it is
    part of. -/
structure Span where
  line : Int
  col : Int
  spelling : Text := []
  origin : Text := text "<invocation>"
  deriving DecidableEq

namespace Span

/-- Can the span be cited?  Its numbers must be short enough to be written. -/
def isCitable (s : Span) : Bool := Numeral.isWritable s.line && Numeral.isWritable (s.col + 1)

/-- The span as diagnostics cite it, with columns counted from one. -/
def cite (s : Span) : Text :=
  s.origin ++ text ":" ++ Numeral.ofInt s.line ++ text ":" ++ Numeral.ofInt (s.col + 1)

/-- The span with its text, for debugging. -/
def describe (s : Span) : Text :=
  text "<Span " ++ s.cite ++ text " " ++ Quoted.quote s.spelling ++ text ">"

end Span

end ShaderBuild
