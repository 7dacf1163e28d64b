/-
  File trees: what is found under the paths of a machine.

  A path is followed component by component from the root or from the current directory.  Every
  component but the last must name a directory that is there, also one before two dots; names and
  paths have a greatest length.

  * `FileTree`: files and directories by the components of their paths;
  * `FileTree.read`, `FileTree.create`: the contents of the file at a path, and an empty file in its
    place;
  * `FileTree.write`: a file with new contents.
-/
import ShaderBuild.Fault
import ShaderBuild.Keyed
import ShaderBuild.Path

namespace ShaderBuild

/-- What a path names. -/
inductive FileNode where
  | file (contents : Bytes)
  | directory
  deriving DecidableEq

/-- The components of a path from the root. -/
abbrev Place := List Bytes

/-- Files and directories by their places.  The root is a directory, and not among the nodes. -/
structure FileTree where
  nodes : List (Place × FileNode) := []

/-- What comes of an operation that changes files, and the files afterwards. -/
abbrev FileRun := Except Fault Unit × FileTree

namespace FileTree

/-- The node at a place. -/
def node? (t : FileTree) (place : Place) : Option FileNode :=
  if place.isEmpty then some .directory else Keyed.find? place t.nodes

/-- The tree with a node at a place. -/
def set (t : FileTree) (place : Place) (node : FileNode) : FileTree :=
  ⟨Keyed.put place node t.nodes⟩

/-! ## Following paths -/

/-- The most bytes of a path. -/
def maxPath : Nat := 4095

/-- The most bytes of a component. -/
def maxName : Nat := 255

/-- The pieces of a path between the slashes. -/
def pieces : Bytes → List Bytes
  | [] => [[]]
  | b :: bytes =>
    if b = 47 then [] :: pieces bytes
    else match pieces bytes with
      | [] => [[b]]
      | piece :: rest => (b :: piece) :: rest

/-- Does a component stand for the directory itself? -/
def isHere (component : Bytes) : Bool := component = [46]

/-- Does a component stand for the directory above? -/
def isAbove (component : Bytes) : Bool := component = [46, 46]

/-- Check that a place is a directory. -/
def enter (t : FileTree) (place : Place) : Except FileFault.Cause Unit :=
  match t.node? place with
  | some .directory => .ok ()
  | some (.file _) => .error .notDirectory
  | none => .error .notFound

/-- The place that a component leads to from a place. -/
def step (t : FileTree) (place : Place) (component : Bytes) : Except FileFault.Cause Place := do
  t.enter place
  if isHere component then return place
  else if isAbove component then return place.dropLast
  else if maxName < component.length then throw .nameTooLong
  else match t.node? (place ++ [component]) with
    | some _ => return place ++ [component]
    | none => throw .notFound

/-- The place that components lead to from a place. -/
def follow (t : FileTree) : Place → List Bytes → Except FileFault.Cause Place
  | place, [] => .ok place
  | place, component :: rest => do t.follow (← t.step place component) rest

/-- The bytes of a path that is neither empty nor too long. -/
def checkLength (bytes : Bytes) : Except FileFault.Cause Unit :=
  if bytes.isEmpty then .error .notFound
  else if maxPath < bytes.length then .error .nameTooLong
  else .ok ()

/-- The components of a path. -/
def componentsOf (bytes : Bytes) : List Bytes := (pieces bytes).filter fun piece => !piece.isEmpty

/-- Does the path end in a slash? -/
def endsInSlash (bytes : Bytes) : Bool := bytes.getLast? = some 47

/-- The place where a path starts: the root, or the current directory. -/
def origin (t : FileTree) (cwd : Text) (bytes : Bytes) : Except FileFault.Cause Place :=
  if bytes.head? = some 47 then .ok []
  else t.follow [] (componentsOf ((Utf8.encodeEscaped? cwd).getD []))

/-! ## Reading -/

/-- The place of the node at a path. -/
def find (t : FileTree) (cwd : Text) (bytes : Bytes) : Except FileFault.Cause Place := do
  checkLength bytes
  let place ← t.follow (← t.origin cwd bytes) (componentsOf bytes)
  if endsInSlash bytes then t.enter place
  return place

/-- The contents of the file at a place. -/
def contentsAt (t : FileTree) (place : Place) : Except FileFault.Cause Bytes :=
  match t.node? place with
  | some (.file contents) => .ok contents
  | some .directory => .error .isDirectory
  | none => .error .notFound

/-- A result with the path in its fault. -/
def cite (p : Text) (result : Except FileFault.Cause α) : Except Fault α :=
  match result with
  | .ok a => .ok a
  | .error cause => .error (.file ⟨cause, p⟩)

/-- The contents of the file at a path, seen from a directory. -/
def read (t : FileTree) (cwd p : Text) : Except Fault Bytes := do
  let bytes ← Fault.systemBytes p
  cite p (do t.contentsAt (← t.find cwd bytes))

/-! ## Changing -/

/-- The place at which a path lets a file be created. -/
def findNew (t : FileTree) (cwd : Text) (bytes : Bytes) : Except FileFault.Cause Place := do
  checkLength bytes
  let start ← t.origin cwd bytes
  match (componentsOf bytes).getLast? with
  | none => throw .isDirectory
  | some name =>
    let parent ← t.follow start (componentsOf bytes).dropLast
    t.enter parent
    if isHere name || isAbove name || endsInSlash bytes then throw .isDirectory
    else if maxName < name.length then throw .nameTooLong
    else if t.node? (parent ++ [name]) = some .directory then throw .isDirectory
    else return parent ++ [name]

/-- The tree with an empty file at a path, and the place of it. -/
def create (t : FileTree) (cwd p : Text) : Except Fault (Place × FileTree) := do
  let bytes ← Fault.systemBytes p
  let place ← cite p (t.findNew cwd bytes)
  return (place, t.set place (.file []))

/-- Write a file: empty it, then fill it with what is made. -/
def write (t : FileTree) (cwd path : Text) (contents : Except Fault Bytes) : FileRun :=
  match t.create cwd path with
  | .error f => (.error f, t)
  | .ok (place, t) => match contents with
    | .error f => (.error f, t)
    | .ok bytes => (.ok (), t.set place (.file bytes))

end FileTree

end ShaderBuild
