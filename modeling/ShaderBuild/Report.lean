/-
  Reports: items in order, a key and a value each, as lines with aligned keys.

  * `Report.width`: the column of the colons;
  * `Report.line`: the line of an item;
  * `Report.render`: the text of a report.

  The keys are aligned to the right, and blanks at the end of a line are left out.  A truth value
  shows as a check mark or as a dash.
-/
import ShaderBuild.Fault
import ShaderBuild.Text.Blank

namespace ShaderBuild

/-- Items in order, a key and a value each. -/
abbrev Report := List (Text × Datum)

namespace Report

/-- How a truth value shows. -/
def flagMark (b : Bool) : Text := text (if b then "✓" else "-")

/-- How a value shows. -/
def showValue : Datum → Except Fault Text
  | .flag b => .ok (flagMark b)
  | d => Fault.showOf d

/-- The length of the longest key. -/
def width (r : Report) : Nat := (r.map fun item => item.1.length).foldl max 0

/-- The line of an item whose value shows as a text, with the colon in a column. -/
def line (column : Nat) (key value : Text) : Text :=
  Text.stripEnd CodePoint.isBlank
    (Text.padLeft (column + 1) (key ++ text ":") ++ text "  " ++ value)

/-- The lines of items, each with a line feed. -/
def lines (column : Nat) : Report → Except Fault Text
  | [] => .ok []
  | (key, value) :: rest => do
    let value ← showValue value
    return line column key value ++ text "\n" ++ (← lines column rest)

/-- The text of a report. -/
def render (r : Report) : Except Fault Text :=
  if r.isEmpty then .ok (text "No data\n") else lines r.width r

end Report

end ShaderBuild
