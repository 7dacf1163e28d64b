/-
  Paths: names of files, with the components separated by slashes.

  * `Path.join`, `Path.normalize`, `Path.absolute`: the absolute path that a path names in a
    directory;
  * `Path.directory`, `Path.lastComponent`, `Path.extension?`: the parts of a path.

  Normalization looks at the text only.  It drops empty components and single dots, and lets two
  dots take back the component before them; at the root there is none to take back.  Of the slashes
  that a path starts with, exactly two are kept, and more count as one.
-/
import ShaderBuild.Text.CodePoint

namespace ShaderBuild.Path

/-- The separator of components. -/
def slash : CodePoint := '/'

/-- The component that stands for the directory itself. -/
def dot : Text := text "."

/-- The component that stands for the directory above. -/
def dots : Text := text ".."

/-- Does the path start at the root? -/
def isAbsolute (p : Text) : Bool := p.head? = some slash

/-- A path, seen from a directory. -/
def join (directory p : Text) : Text :=
  if isAbsolute p then p
  else if directory.isEmpty || directory.getLast? = some slash then directory ++ p
  else directory ++ slash :: p

/-! ## Normalization -/

/-- What an absolute path starts with: one slash, or exactly two. -/
def root (p : Text) : Text :=
  if (p.takeWhile (· = slash)).length = 2 then [slash, slash] else [slash]

/-- The components of an absolute path after one more, with the last component first. -/
def push (above : List Text) (component : Text) : List Text :=
  if component.isEmpty || component = dot then above
  else if component = dots then above.tail
  else component :: above

/-- The components that remain of an absolute path. -/
def components (p : Text) : List Text := ((Text.splitOn slash p).foldl push []).reverse

/-- The path of components below a root. -/
def ofComponents (root : Text) (components : List Text) : Text :=
  root ++ List.intercalate [slash] components

/-- An absolute path in its shortest form. -/
def normalize (p : Text) : Text := ofComponents (root p) (components p)

/-- The absolute path that a path names in a directory. -/
def absolute (directory p : Text) : Text := normalize (join directory p)

/-! ## Parts -/

/-- What follows the last slash. -/
def lastComponent (p : Text) : Text := (p.reverse.takeWhile (· ≠ slash)).reverse

/-- What precedes the last component, without slashes at its end unless there is nothing else. -/
def directory (p : Text) : Text :=
  let head := p.take (p.length - (lastComponent p).length)
  if head.all (· = slash) then head else Text.stripEnd (· = slash) head

/-- What follows the last dot of a file name; none if nothing but dots precedes that dot. -/
def extension? (p : Text) : Option Text :=
  let name := lastComponent p
  let extension := (name.reverse.takeWhile fun c : CodePoint => c ≠ '.').reverse
  let stem := name.take (name.length - extension.length - 1)
  if stem.any fun c : CodePoint => c ≠ '.' then some extension else none

end ShaderBuild.Path
