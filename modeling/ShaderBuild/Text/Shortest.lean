/-
  Floating-point numbers of 64 bits as text: the shortest decimal that reads back as the number.

  A finite number is `significand * 2 ^ exponent`, and the reals that round to it form an interval
  (with its ends if the significand is even).  On the decimal grid of the multiples of `10 ^ p`, the
  two neighbours of the number are the only candidates; the coarsest grid with a candidate in the
  interval gives the digits, and of two candidates the nearer is taken.

  * `Binary64` and its parts;
  * `Binary64.shortest`: the digits and the power of ten;
  * `Binary64.toText`: positional from `0.0001` to below `10 ^ 16`, else with an exponent.
-/
import ShaderBuild.Text.Numeral

namespace ShaderBuild

/-- A floating-point number of 64 bits. -/
structure Binary64 where
  bits : UInt64
  deriving DecidableEq

namespace Binary64

def isNegative (x : Binary64) : Bool := Nat.pow 2 63 ≤ x.bits.toNat

/-- The exponent as it is stored. -/
def exponentField (x : Binary64) : Nat := x.bits.toNat / Nat.pow 2 52 % Nat.pow 2 11

/-- The fraction as it is stored. -/
def fraction (x : Binary64) : Nat := x.bits.toNat % Nat.pow 2 52

def isFinite (x : Binary64) : Bool := x.exponentField != 2047

def isNaN (x : Binary64) : Bool := x.exponentField == 2047 && x.fraction != 0

def isZero (x : Binary64) : Bool := x.exponentField == 0 && x.fraction == 0

/-- The integer significand of a finite number. -/
def significand (x : Binary64) : Nat :=
  if x.exponentField = 0 then x.fraction else Nat.pow 2 52 + x.fraction

/-- The power of two that the significand is multiplied by. -/
def exponent (x : Binary64) : Int := max x.exponentField 1 - 1075

/-- The integer that the number is, if it is one. -/
def integer? (x : Binary64) : Option Int :=
  let numerator := x.significand * Nat.pow 2 x.exponent.toNat
  let denominator := Nat.pow 2 (-x.exponent).toNat
  if x.isFinite && numerator % denominator == 0 then
    let magnitude : Int := numerator / denominator
    some (if x.isNegative then -magnitude else magnitude)
  else none

/-! ## The rounding interval -/

/-- The sign of `a * 10 ^ p - b * 2 ^ q`. -/
def compareScaled (a : Nat) (p : Int) (b : Nat) (q : Int) : Ordering :=
  compare (a * Nat.pow 10 p.toNat * Nat.pow 2 (-q).toNat)
    (b * Nat.pow 2 q.toNat * Nat.pow 10 (-p).toNat)

/-- The lower end of the rounding interval, in quarters of the last place.  The gap below a power of
    two is half the gap above it. -/
def lowerEnd (x : Binary64) : Nat :=
  if x.fraction = 0 ∧ 1 < x.exponentField then 4 * x.significand - 1 else 4 * x.significand - 2

/-- The upper end of the rounding interval, in quarters of the last place. -/
def upperEnd (x : Binary64) : Nat := 4 * x.significand + 2

/-- Does `d * 10 ^ p` round to the magnitude of `x`? -/
def roundsTo (x : Binary64) (d : Nat) (p : Int) : Bool :=
  let closed := x.significand % 2 == 0
  let above := compareScaled d p x.lowerEnd (x.exponent - 2)
  let below := compareScaled d p x.upperEnd (x.exponent - 2)
  (above == .gt || (closed && above == .eq)) && (below == .lt || (closed && below == .eq))

/-! ## The shortest decimal -/

/-- The greatest `d` with `d * 10 ^ p` at most the magnitude of `x`. -/
def gridBelow (x : Binary64) (p : Int) : Nat :=
  x.significand * Nat.pow 2 x.exponent.toNat * Nat.pow 10 (-p).toNat
    / (Nat.pow 10 p.toNat * Nat.pow 2 (-x.exponent).toNat)

/-- The candidate on the grid of `10 ^ p` that rounds to the magnitude of `x`, if there is one; of
    two the nearer, and the even one of two that are equally near. -/
def candidate? (x : Binary64) (p : Int) : Option Nat :=
  let d := x.gridBelow p
  match x.roundsTo d p, x.roundsTo (d + 1) p with
  | true, false => some d
  | false, true => some (d + 1)
  | false, false => none
  | true, true =>
    -- the magnitude against the middle of the two candidates
    match compareScaled (2 * d + 1) p (2 * x.significand) x.exponent with
    | .gt => some d
    | .lt => some (d + 1)
    | .eq => some (if d % 2 = 0 then d else d + 1)

/-- The first candidate on the `steps` grids from `10 ^ p` down, with its power of ten. -/
def firstCandidate (x : Binary64) : Nat → Int → Nat × Int
  | 0, p => (x.gridBelow p, p)
  | steps + 1, p => match x.candidate? p with
    | some d => (d, p)
    | none => firstCandidate x steps (p - 1)

/-- The shortest decimal `d * 10 ^ p` that rounds to the magnitude of `x`.  No magnitude reaches
    `10 ^ 309`, and seventeen digits are enough for the least. -/
def shortest (x : Binary64) : Nat × Int := x.firstCandidate 660 309

/-! ## Text -/

/-- A run of zeros. -/
def zeros (n : Nat) : Text := List.replicate n ('0' : CodePoint)

/-- The text of digits with the point after the first `point` of them, which may lie outside. -/
def positional (digits : Text) (point : Int) : Text :=
  if point ≤ 0 then text "0." ++ zeros (-point).toNat ++ digits
  else if digits.length ≤ point.toNat then
    digits ++ zeros (point.toNat - digits.length) ++ text ".0"
  else digits.take point.toNat ++ text "." ++ digits.drop point.toNat

/-- The text of digits with the point after the first one and an exponent of two digits or more. -/
def scientific (digits : Text) (exponent : Int) : Text :=
  let rest := digits.drop 1
  digits.take 1 ++ (if rest.isEmpty then [] else text "." ++ rest)
    ++ text (if exponent < 0 then "e-" else "e+")
    ++ Text.padLeftWith '0' 2 (Numeral.ofNat exponent.natAbs)

/-- The text of the magnitude of a finite number. -/
def magnitudeText (x : Binary64) : Text :=
  if x.isZero then text "0.0"
  else
    let (d, p) := x.shortest
    let digits := Numeral.ofNat d
    let exponent : Int := digits.length + p - 1
    if -4 ≤ exponent ∧ exponent < 16 then positional digits (exponent + 1)
    else scientific digits exponent

/-- The text of a number. -/
def toText (x : Binary64) : Text :=
  if x.isNaN then text "nan"
  else
    let magnitude := if x.isFinite then x.magnitudeText else text "inf"
    if x.isNegative then text "-" ++ magnitude else magnitude

end Binary64

end ShaderBuild
