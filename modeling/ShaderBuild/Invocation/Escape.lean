/-
  Escapes: the code points of a string literal that stand for others.

  A backslash starts an escape.  What follows it tells a code point, by a letter, by a number or by
  a name, or makes the backslash stand for itself.

  * `Escape.Fault`: what is wrong with an escape, and where;
  * `Escape.expand`, `Escape.unescape`: a body with escapes and the text it stands for.
-/
import ShaderBuild.Text.Name
import ShaderBuild.Text.Quoted

namespace ShaderBuild

namespace Escape

/-- Why an escape is ill-formed. -/
inductive Reason where
  /-- It has too few of the given number of hexadecimal digits; the letter tells the escape. -/
  | truncated (letter : CodePoint) (digits : Nat)
  /-- Its number is above the last code point. -/
  | illegalNumber
  | unknownName
  | malformedName
  deriving DecidableEq

/-- The wording of a reason. -/
def Reason.message : Reason → Text
  | .truncated letter digits =>
    text "truncated \\" ++ [letter] ++ List.replicate digits ('X' : CodePoint) ++ text " escape"
  | .illegalNumber => text "illegal Unicode character"
  | .unknownName => text "unknown Unicode character name"
  | .malformedName => text "malformed \\N character escape"

/-- An ill-formed escape: the offsets of its first and last code point in the expanded body. -/
structure Fault where
  first : Nat
  last : Nat
  reason : Reason
  deriving DecidableEq

/-- The wording of an ill-formed escape. -/
def Fault.message (f : Fault) : Text :=
  text "(unicode error) 'unicodeescape' codec can't decode bytes in position "
    ++ Numeral.ofNat f.first ++ text "-" ++ Numeral.ofNat f.last ++ text ": " ++ f.reason.message

/-- A body with the code points outside ASCII written as escapes by number, and so a backslash right
    before one.  Offsets count in this form. -/
def expand : Text → Text
  | [] => []
  | c :: t =>
    if c = '\\' then match t with
      | [] => text "\\u005c"
      | d :: t =>
        if d.val < 0x80 then c :: d :: expand t
        else text "\\u005c" ++ Quoted.wide d ++ expand t
    else if c.val < 0x80 then c :: expand t
    else Quoted.wide c ++ expand t

/-- What an escape of one letter stands for. -/
def simple? (c : CodePoint) : Option Text :=
  if c = '\n' then some []
  else if c = '\\' || c = '\'' || c = '"' then some [c]
  else if c = 'a' then some [.ofNat 7]
  else if c = 'b' then some [.ofNat 8]
  else if c = 'f' then some [.ofNat 12]
  else if c = 'n' then some ['\n']
  else if c = 'r' then some ['\r']
  else if c = 't' then some ['\t']
  else if c = 'v' then some [.ofNat 11]
  else none

/-- The number of hexadecimal digits of an escape by number, from its letter. -/
def width? (c : CodePoint) : Option Nat :=
  if c = 'x' then some 2 else if c = 'u' then some 4 else if c = 'U' then some 8 else none

def isOctal (c : CodePoint) : Bool := 48 ≤ c.val && c.val ≤ 55

/-- The octal digits, at most three, at the start of a text. -/
def octal (t : Text) : Text := (t.take 3).takeWhile isOctal

/-- The escape with letter `c` before `t`, whose backslash stands at offset `first`: what it stands
    for, and how many code points of `t` belong to it.  An unknown escape stands for itself. -/
def one (first : Nat) (c : CodePoint) (t : Text) : Except Fault (Text × Nat) :=
  match simple? c, width? c with
  | some r, _ => .ok (r, 0)
  | none, some width =>
    let digits := (t.take width).takeWhile fun d => d.hexValue?.isSome
    let n := (Numeral.valueFrom? CodePoint.hexValue? 16 0 digits).getD 0
    if digits.length < width then
      .error ⟨first, first + 1 + digits.length, .truncated c width⟩
    else if h : n < 0x110000 then .ok ([⟨n, h⟩], width)
    else .error ⟨first, first + 1 + width, .illegalNumber⟩
  | none, none =>
    if isOctal c then
      let digits := octal (c :: t)
      let n := (Numeral.valueFrom? CodePoint.hexValue? 8 0 digits).getD 0
      .ok ([.ofNat n], digits.length - 1)
    else if c = 'N' then
      match t with
      | [] => .error ⟨first, first + 1, .malformedName⟩
      | d :: u =>
        if d = '\x7b' then
          let name := u.takeWhile fun e : CodePoint => e != '\x7d'
          if name.length = u.length then .error ⟨first, first + 2 + u.length, .malformedName⟩
          else if name.isEmpty then .error ⟨first, first + 2, .malformedName⟩
          else match CodePoint.ofName? name with
            | some named => .ok ([named], 1 + name.length + 1)
            | none => .error ⟨first, first + 3 + name.length, .unknownName⟩
        else .error ⟨first, first + 1, .malformedName⟩
    else .ok (['\\', c], 0)

/-- The text of an expanded body whose start has the given offset. -/
def unescapeFrom (at_ : Nat) : Text → Except Fault Text
  | [] => .ok []
  | c :: t =>
    if c = '\\' then match t with
      | [] => .ok [c]
      | d :: u =>
        match one at_ d u with
        | .error f => .error f
        | .ok (r, n) => match unescapeFrom (at_ + 2 + n) (u.drop n) with
          | .error f => .error f
          | .ok rest => .ok (r ++ rest)
    else match unescapeFrom (at_ + 1) t with
      | .error f => .error f
      | .ok rest => .ok (c :: rest)
  termination_by t => t.length
  decreasing_by all_goals simp [List.length_drop]; try omega

/-- The text that a body with escapes stands for.  A body without backslashes stands for itself. -/
def unescape (body : Text) : Except Fault Text :=
  if body.contains ('\\' : CodePoint) then unescapeFrom 0 (expand body) else .ok body

end Escape

end ShaderBuild
