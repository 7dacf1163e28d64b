/-
  The version of this program, and versions as lists of parts.

  * `Version.current`;
  * `Version.parts`: the parts of a version, of which those in digits are numbers.
-/
import ShaderBuild.Fault

namespace ShaderBuild.Version

/-- The name of this program. -/
def project : Text := text "vkshader"

/-- The version of this program. -/
def current : Text := text "0.3.0"

/-- A part of a version. -/
inductive Part where
  | number (n : Nat)
  | label (t : Text)
  deriving DecidableEq

/-- Does the text hold numeric code points only, and at least one? -/
def isNumeric (t : Text) : Bool := !t.isEmpty && t.all CodePoint.isNumeric

/-- A part of a version from its text.  Numeric code points need not be digits: such a part is
    refused. -/
def Part.ofText (t : Text) : Except Fault Part :=
  if isNumeric t then
    match Numeral.read t with
    | .ok n => .ok (.number n)
    | .error f => .error (.value (.numeral f))
  else .ok (.label t)

/-- The text before the first plus sign. -/
def withoutLabels (version : Text) : Text := version.takeWhile fun c : CodePoint => c ≠ '+'

/-- The parts of a version, without what follows a plus sign. -/
def parts (version : Text) : Except Fault (List Part) :=
  (Text.splitOn '.' (withoutLabels version)).mapM Part.ofText

end ShaderBuild.Version
