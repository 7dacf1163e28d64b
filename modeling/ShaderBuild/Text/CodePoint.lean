/-
  Text as a sequence of Unicode code points.  File names and program texts may hold any code point,
  surrogates included, so text is a list of code points and not a string of scalar values.

  * `CodePoint`, `Text`, and the literal texts `text "..."`;
  * `Text.splitOn`, `Text.stripStart`, `Text.stripEnd`, `Text.strip`: cutting a text up;
  * `Text.replaceFirst`, `Text.padLeft`: changing a text;
  * `Text.unifyLineEnds`, `Text.lines`: the lines of a text;
  * `Text.atMost`: the order of texts by their code points;
  * `Ranges`: a set of code points as a rising list of intervals.
-/
namespace ShaderBuild

/-- A Unicode code point, surrogates included. -/
structure CodePoint where
  val : Nat
  val_lt : val < 0x110000
  deriving DecidableEq

/-- A text: a sequence of code points. -/
abbrev Text := List CodePoint

/-- A sequence of bytes. -/
abbrev Bytes := List UInt8

namespace CodePoint

/-- The code point of a number; the replacement character if there is none. -/
def ofNat (n : Nat) : CodePoint :=
  if h : n < 0x110000 then ⟨n, h⟩ else ⟨0xFFFD, by decide⟩

theorem val_ofNat {n : Nat} (h : n < 0x110000) : (ofNat n).val = n := by
  simp [ofNat, h]

/-- A scalar value as a code point. -/
def ofChar (c : Char) : CodePoint := ⟨c.toNat, by
  have h : c.toNat.isValidChar := c.valid
  simp only [Nat.isValidChar] at h
  omega⟩

instance : Coe Char CodePoint := ⟨ofChar⟩

instance : Inhabited CodePoint := ⟨' '⟩

/-- Is the code point a surrogate, and so no scalar value? -/
def isSurrogate (c : CodePoint) : Bool := 0xD800 ≤ c.val && c.val ≤ 0xDFFF

/-- Is the code point one of the ASCII digits? -/
def isDigit (c : CodePoint) : Bool := 48 ≤ c.val && c.val ≤ 57

/-- The value of a hexadecimal digit. -/
def hexValue? (c : CodePoint) : Option Nat :=
  if 48 ≤ c.val ∧ c.val ≤ 57 then some (c.val - 48)
  else if 97 ≤ c.val ∧ c.val ≤ 102 then some (c.val - 87)
  else if 65 ≤ c.val ∧ c.val ≤ 70 then some (c.val - 55)
  else none

end CodePoint

/-- A set of code points: intervals with both ends included, in rising order. -/
abbrev Ranges := List (Nat × Nat)

/-- Membership in a rising list of intervals; the search ends at the first interval above. -/
def Ranges.contains : Ranges → Nat → Bool
  | [], _ => false
  | (lo, hi) :: rs, n => if n < lo then false else if n ≤ hi then true else contains rs n

/-- The text of a string. -/
def text (s : String) : Text := s.toList.map CodePoint.ofChar

namespace Text

/-- The string of a text without surrogates. -/
def toString? (t : Text) : Option String :=
  if t.any CodePoint.isSurrogate then none
  else some (String.ofList (t.map fun c => Char.ofNat c.val))

/-- The pieces between the occurrences of `sep`: one more than there are occurrences. -/
def splitOn (sep : CodePoint) : Text → List Text
  | [] => [[]]
  | c :: t =>
    if c = sep then [] :: splitOn sep t
    else match splitOn sep t with
      | [] => [[c]]
      | piece :: pieces => (c :: piece) :: pieces

/-- The text without the code points of `p` at its start. -/
def stripStart (p : CodePoint → Bool) (t : Text) : Text := t.dropWhile p

/-- The text without the code points of `p` at its end. -/
def stripEnd (p : CodePoint → Bool) (t : Text) : Text := (t.reverse.dropWhile p).reverse

/-- The text without the code points of `p` at both ends. -/
def strip (p : CodePoint → Bool) (t : Text) : Text := stripEnd p (stripStart p t)

/-- The text with the first occurrence of `old` replaced; unchanged if there is none. -/
def replaceFirst (old new : Text) : Text → Text
  | [] => if old.isEmpty then new else []
  | c :: t =>
    if old.isPrefixOf (c :: t) then new ++ (c :: t).drop old.length
    else c :: replaceFirst old new t

/-- The text with copies of `c` before it up to a width. -/
def padLeftWith (c : CodePoint) (width : Nat) (t : Text) : Text :=
  List.replicate (width - t.length) c ++ t

/-- The text with spaces before it up to a width. -/
def padLeft (width : Nat) (t : Text) : Text := padLeftWith ' ' width t

/-- The order of texts: by the first code points that differ, and a text comes after its starts. -/
def atMost : Text → Text → Bool
  | [], _ => true
  | _ :: _, [] => false
  | a :: s, b :: t => a.val < b.val || (a.val == b.val && atMost s t)

/-- The text with a line feed for each line end: a line feed, a carriage return, or both. -/
def unifyLineEnds : Text → Text
  | [] => []
  | c :: t =>
    if c = '\r' then match t with
      | [] => ['\n']
      | d :: rest =>
        if d = '\n' then '\n' :: unifyLineEnds rest else '\n' :: unifyLineEnds (d :: rest)
    else c :: unifyLineEnds t

/-- The lines of a text, each with its line feed; the last may lack one. -/
def lines : Text → List Text
  | [] => []
  | c :: t =>
    if c = '\n' then [c] :: lines t
    else match lines t with
      | [] => [[c]]
      | line :: rest => (c :: line) :: rest

end Text

end ShaderBuild
