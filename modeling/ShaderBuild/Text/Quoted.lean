/-
  Quoted text: a text as a literal of a programming language, in which code points that do not show
  are written as escapes.

  * `Quoted.quote`, `Quoted.quoteBytes`: the quoted forms of a text and of bytes;
  * `Quoted.list`, `Quoted.pair`: the forms of a sequence and of a pair of quoted things.

  A text is quoted with apostrophes, or with quotation marks if it holds an apostrophe and no
  quotation mark.  The quote in use and the backslash are escaped with a backslash, the tab, the
  line feed and the carriage return have escapes of one letter, and the other code points that are
  not printable are escaped by number with two, four or eight hexadecimal digits.
-/
import ShaderBuild.Text.Numeral
import ShaderBuild.Text.Printable

namespace ShaderBuild.Quoted

/-- The quote a text is put in. -/
def mark (t : Text) : CodePoint :=
  if t.contains ('\'' : CodePoint) && !t.contains ('"' : CodePoint) then '"' else '\''

/-- The escape of a code point by number with eight digits. -/
def wide (c : CodePoint) : Text := text "\\U" ++ Numeral.hexDigits 8 c.val

/-- The escape of a code point by number with as few digits as there is an escape for. -/
def numbered (c : CodePoint) : Text :=
  if c.val < 0x100 then text "\\x" ++ Numeral.hexDigits 2 c.val
  else if c.val < 0x10000 then text "\\u" ++ Numeral.hexDigits 4 c.val
  else wide c

/-- The form of a code point inside quotes `q`. -/
def escape (q c : CodePoint) : Text :=
  if c = q ∨ c = '\\' then ['\\', c]
  else if c = '\t' then text "\\t"
  else if c = '\n' then text "\\n"
  else if c = '\r' then text "\\r"
  else if c.isPrintable then [c]
  else numbered c

/-- The quoted form of a text. -/
def quote (t : Text) : Text :=
  let q := mark t
  q :: t.flatMap (escape q) ++ [q]

/-- The quoted form of bytes: as a text of code points up to 255 of which only ASCII shows. -/
def quoteBytes (bs : Bytes) : Text :=
  let t : Text := bs.map fun b => .ofNat b.toNat
  let q := mark t
  let form (c : CodePoint) : Text := if 0x7F ≤ c.val then numbered c else escape q c
  text "b" ++ q :: t.flatMap form ++ [q]

/-- The form of an absent value. -/
def absent : Text := text "None"

/-- The quoted form of a text that may be absent. -/
def quote? : Option Text → Text
  | some t => quote t
  | none => absent

/-- The form of a sequence whose elements have the given forms. -/
def list (forms : List Text) : Text :=
  text "[" ++ List.intercalate (text ", ") forms ++ text "]"

/-- The form of a pair whose parts have the given forms. -/
def pair (a b : Text) : Text := text "(" ++ a ++ text ", " ++ b ++ text ")"

end ShaderBuild.Quoted
