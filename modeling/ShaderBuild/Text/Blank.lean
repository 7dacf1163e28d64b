/-
  White space: the separators, the line and tab controls and the four information separators.

  * `CodePoint.isBlank`, `CodePoint.isLineEnd`;
  * `Text.splitLines`: the lines of a text without their ends.
-/
import ShaderBuild.Text.CodePoint

namespace ShaderBuild

namespace CodePoint

/-- Ranges of the white space. -/
def blankRanges : Ranges :=
  [(9, 13), (28, 32), (133, 133), (160, 160), (5760, 5760), (8192, 8202), (8232, 8233),
   (8239, 8239), (8287, 8287), (12288, 12288)]

/-- Is the code point white space? -/
def isBlank (c : CodePoint) : Bool := blankRanges.contains c.val

/-- Ranges of the white space that ends a line. -/
def lineEndRanges : Ranges := [(10, 13), (28, 30), (133, 133), (8232, 8233)]

/-- Does the code point end a line? -/
def isLineEnd (c : CodePoint) : Bool := lineEndRanges.contains c.val

end CodePoint

namespace Text

/-- The pieces of a text before the code points that end a line, and the rest if it is not empty. -/
def splitAtEnds : Text → List Text
  | [] => []
  | c :: t =>
    if c.isLineEnd then [] :: splitAtEnds t
    else match splitAtEnds t with
      | [] => [[c]]
      | line :: rest => (c :: line) :: rest

/-- The lines of a text without their ends.  A carriage return and a line feed are one end. -/
def splitLines (t : Text) : List Text := splitAtEnds (unifyLineEnds t)

end Text

end ShaderBuild
