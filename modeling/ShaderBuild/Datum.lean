/-
  Plain data: the values of reports, of enumerations, and of arguments that may be anything.

  * `Datum` and `Datum.sameAs`, the equality by which truth values are the integers zero and one;
  * `Datum.form?`, `Datum.show?`: the written forms, with texts quoted or as they are;
  * `Datum.isTruthy`: what a value is as a truth value;
  * `Datum.className`: the name of the class of a value.
-/
import ShaderBuild.Text.Quoted
import ShaderBuild.Text.Shortest

namespace ShaderBuild

/-- A plain value. -/
inductive Datum where
  | absent
  | flag (b : Bool)
  | int (n : Int)
  | real (x : Binary64)
  | text (t : Text)
  | bytes (bs : Bytes)
  | list (items : List Datum)

namespace Datum

/-! ## Equality -/

mutual

/-- Are two values the same? -/
def decEq : (a b : Datum) → Decidable (a = b)
  | .absent, .absent => isTrue rfl
  | .flag a, .flag b => decidable_of_iff (a = b) (by simp)
  | .int a, .int b => decidable_of_iff (a = b) (by simp)
  | .real a, .real b => decidable_of_iff (a = b) (by simp)
  | .text a, .text b => decidable_of_iff (a = b) (by simp)
  | .bytes a, .bytes b => decidable_of_iff (a = b) (by simp)
  | .list as, .list bs => match decEqAll as bs with
    | isTrue h => isTrue (by rw [h])
    | isFalse h => isFalse (by simpa using h)
  | .absent, .flag _ | .absent, .int _ | .absent, .real _ | .absent, .text _ | .absent, .bytes _
  | .absent, .list _ | .flag _, .absent | .flag _, .int _ | .flag _, .real _ | .flag _, .text _
  | .flag _, .bytes _ | .flag _, .list _ | .int _, .absent | .int _, .flag _ | .int _, .real _
  | .int _, .text _ | .int _, .bytes _ | .int _, .list _ | .real _, .absent | .real _, .flag _
  | .real _, .int _ | .real _, .text _ | .real _, .bytes _ | .real _, .list _ | .text _, .absent
  | .text _, .flag _ | .text _, .int _ | .text _, .real _ | .text _, .bytes _ | .text _, .list _
  | .bytes _, .absent | .bytes _, .flag _ | .bytes _, .int _ | .bytes _, .real _
  | .bytes _, .text _ | .bytes _, .list _ | .list _, .absent | .list _, .flag _ | .list _, .int _
  | .list _, .real _ | .list _, .text _ | .list _, .bytes _ => isFalse nofun

/-- Are two sequences of values the same? -/
def decEqAll : (as bs : List Datum) → Decidable (as = bs)
  | [], [] => isTrue rfl
  | a :: as, b :: bs => match decEq a b, decEqAll as bs with
    | isTrue h, isTrue h' => isTrue (by rw [h, h'])
    | isFalse h, _ => isFalse (by simp [h])
    | _, isFalse h => isFalse (by simp [h])
  | [], _ :: _ | _ :: _, [] => isFalse nofun

end

instance : DecidableEq Datum := decEq

/-- Is the value a number?  Truth values are the integers zero and one. -/
def isNumber : Datum → Bool
  | .flag _ | .int _ | .real _ => true
  | .absent | .text _ | .bytes _ | .list _ => false

/-- The integer that a value is equal to, if there is one. -/
def int? : Datum → Option Int
  | .int n => some n
  | .flag b => some (if b then 1 else 0)
  | .real x => x.integer?
  | .absent | .text _ | .bytes _ | .list _ => none

mutual

/-- Are two values equal?  Truth values are the integers zero and one, and so are numbers that are
    integers; other numbers are equal to nothing. -/
def sameAs : Datum → Datum → Bool
  | .absent, .absent => true
  | .text a, .text b => a = b
  | .bytes a, .bytes b => a = b
  | .list as, .list bs => sameAll as bs
  | a, b => match a.int?, b.int? with
    | some m, some n => m = n
    | _, _ => false

/-- Are two sequences equal, value by value? -/
def sameAll : List Datum → List Datum → Bool
  | [], [] => true
  | a :: as, b :: bs => sameAs a b && sameAll as bs
  | [], _ :: _ | _ :: _, [] => false

end

/-! ## Written forms -/

/-- The word of a truth value. -/
def flagForm (b : Bool) : Text := ShaderBuild.text (if b then "True" else "False")

mutual

/-- The written form with quoted texts; none if an integer in it is too long to be written. -/
def form? : Datum → Option Text
  | .absent => some Quoted.absent
  | .flag b => some (flagForm b)
  | .int n => if Numeral.isWritable n then some (Numeral.ofInt n) else none
  | .real x => some x.toText
  | .text t => some (Quoted.quote t)
  | .bytes bs => some (Quoted.quoteBytes bs)
  | .list items => (formAll? items).map Quoted.list

/-- The written forms of the items of a sequence. -/
def formAll? : List Datum → Option (List Text)
  | [] => some []
  | d :: ds => match form? d, formAll? ds with
    | some t, some ts => some (t :: ts)
    | _, _ => none

end

/-- The written form; a text alone stands as it is. -/
def show? : Datum → Option Text
  | .text t => some t
  | d => d.form?

/-! ## Kinds -/

/-- What a value is as a truth value: nothing, zero and what is empty are false. -/
def isTruthy : Datum → Bool
  | .absent => false
  | .flag b => b
  | .int n => n ≠ 0
  | .real x => !x.isZero
  | .text t => !t.isEmpty
  | .bytes bs => !bs.isEmpty
  | .list items => !items.isEmpty

/-- The name of the class of a value. -/
def className : Datum → Text
  | .absent => ShaderBuild.text "NoneType"
  | .flag _ => ShaderBuild.text "bool"
  | .int _ => ShaderBuild.text "int"
  | .real _ => ShaderBuild.text "float"
  | .text _ => ShaderBuild.text "str"
  | .bytes _ => ShaderBuild.text "bytes"
  | .list _ => ShaderBuild.text "list"

end Datum

end ShaderBuild
