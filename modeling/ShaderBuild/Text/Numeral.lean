/-
  Numerals.  Numbers are written in decimal and in hexadecimal; decimal numerals of more than 4300
  digits are neither written nor read, so that no input makes the conversion take too long.

  * `Numeral.ofNat`, `Numeral.ofInt`: the decimal numeral of a number;
  * `Numeral.isWritable`: is the numeral short enough to be written?
  * `Numeral.hex`: lower-case hexadecimal digits, padded with zeros;
  * `Numeral.read`: the number of a text of decimal digits of any script.
-/
import ShaderBuild.Text.Numeric

namespace ShaderBuild.Numeral

/-- The most digits a decimal numeral may have. -/
def maxDigits : Nat := 4300

/-- The decimal numeral of a natural number. -/
def ofNat (n : Nat) : Text := (Nat.toDigits 10 n).map CodePoint.ofChar

/-- The decimal numeral of an integer. -/
def ofInt : Int → Text
  | .ofNat n => ofNat n
  | .negSucc n => '-' :: ofNat (n + 1)

/-- The least number that has too many digits. -/
def bound : Nat := Nat.pow 10 maxDigits

/-- Has the numeral of the integer few enough digits to be written? -/
def isWritable (n : Int) : Bool := n.natAbs < bound

/-- An integer of at most twenty digits is short enough. -/
theorem isWritable_of_lt {n : Int} (h : n.natAbs < 100000000000000000000) :
    isWritable n = true := by
  have le {k m : Nat} (h : k ≤ m) : Nat.pow 10 k ≤ Nat.pow 10 m :=
    Nat.pow_le_pow_right (by decide) h
  have twenty : 20 ≤ maxDigits := by decide
  unfold isWritable bound
  exact decide_eq_true (Nat.lt_of_lt_of_le h (le twenty))

/-- A digit of a numeral with base up to sixteen. -/
def digit (n : Nat) : CodePoint := .ofNat (if n < 10 then 48 + n else 87 + n)

/-- The last `width` hexadecimal digits of a number. -/
def hexDigits : Nat → Nat → Text
  | 0, _ => []
  | width + 1, n => hexDigits width (n / 16) ++ [digit (n % 16)]

/-- The number of hexadecimal digits of a number; zero has one. -/
def hexLength (n : Nat) : Nat := if n = 0 then 1 else n.log2 / 4 + 1

/-- The hexadecimal numeral of a number, with at least `width` digits. -/
def hex (width n : Nat) : Text := hexDigits (max width (hexLength n)) n

/-- The same with capital letters. -/
def capitalHex (width n : Nat) : Text :=
  (hex width n).map fun c => if 97 ≤ c.val then .ofNat (c.val - 32) else c

/-- The number of a text of digits in a base, given the number of what stands before it. -/
def valueFrom? (value? : CodePoint → Option Nat) (base : Nat) : Nat → Text → Option Nat
  | n, [] => some n
  | n, c :: t => match value? c with
    | some d => valueFrom? value? base (n * base + d) t
    | none => none

/-- Why a text is not read as a number. -/
inductive Fault where
  /-- It holds something else than decimal digits. -/
  | notDecimal (t : Text)
  /-- It has that many digits, and that is too many. -/
  | tooLong (digits : Nat)
  deriving DecidableEq

/-- The number of a text of decimal digits of any script.  The count of its leading digits is
    judged before what follows them. -/
def read (t : Text) : Except Fault Nat :=
  let digits := (t.takeWhile fun c => c.digitValue?.isSome).length
  if maxDigits < digits then .error (.tooLong digits)
  else if t.isEmpty then .error (.notDecimal t)
  else match valueFrom? CodePoint.digitValue? 10 0 t with
    | some n => .ok n
    | none => .error (.notDecimal t)

end ShaderBuild.Numeral
