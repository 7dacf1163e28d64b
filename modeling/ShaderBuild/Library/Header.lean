/-
  The header of the compiler library, as a reader of plain declarations takes it.

  * `Library.Header.declarations`: the header without directives and without lines of comment.
-/
import ShaderBuild.Text.Blank

namespace ShaderBuild.Library.Header

/-- Is the line a directive? -/
def isDirective (line : Text) : Bool := (text "#").isPrefixOf line

/-- Is the line nothing but a comment? -/
def isComment (line : Text) : Bool :=
  (text "//").isPrefixOf (Text.stripStart CodePoint.isBlank line)

/-- The header without directives and without lines of comment. -/
def declarations (header : Text) : Text :=
  let lines := Text.lines (Text.unifyLineEnds header)
  (lines.filter fun line => !isDirective line && !isComment line).flatten

end ShaderBuild.Library.Header
