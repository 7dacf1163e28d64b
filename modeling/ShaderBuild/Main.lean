/-
  The program: a run of the command line on this machine.

  The variables and the source file are read first.  Then the run is computed, and what it prints
  comes last.  No library is loaded here, so a build that comes to a compiler ends with the error
  that there is none, and nothing is written.
-/
import ShaderBuild.CommandLine.Run

namespace ShaderBuild.CommandLine

/-- The nodes from the root down to a path, of which the last is given. -/
def nodesTo (path : Text) (last : FileNode) : List (Place × FileNode) :=
  let place := FileTree.componentsOf ((Utf8.encodeEscaped? path).getD [])
  (List.range place.length).map fun n =>
    (place.take (n + 1), if n + 1 = place.length then last else .directory)

/-- The absolute path of the file that arguments ask to compile. -/
def sourcePath? {ν : Type} (w : Workspace ν) (arguments : List Text) : Option Text :=
  match (Arguments.parse .late arguments).map Job.ofArguments with
  | .ok (.ok ⟨.file path _, root, _, _, _⟩) =>
    ((w.setting none).root root).toOption.map fun root =>
      Path.absolute w.cwd (Path.join root path)
  | _ => none

/-- The variables that are read. -/
def knownVariables : List Text :=
  [Environment.stripFlag, Environment.zeroFlag, Environment.rootVariable,
    Environment.libraryVariable]

/-- The environment of the process. -/
def readEnvironment : IO Environment :=
  knownVariables.filterMapM fun name => do
    let value ← IO.getEnv ((name.toString?).getD "")
    return value.map fun value => (name, text value)

/-- What a path names on this machine, if it can be read. -/
def readNode (path : String) : IO (Option FileNode) :=
  try
    if ← (← IO.FS.realPath path).isDir then return some .directory
    return some (.file (← IO.FS.readBinFile path).toList)
  catch _ => return none

/-- The workspace with the file that arguments ask to compile. -/
def loadSource {ν : Type} (w : Workspace ν) (arguments : List Text) : IO (Workspace ν) := do
  let some path := sourcePath? w arguments | return w
  let some name := path.toString? | return w
  let some node ← readNode name | return w
  return { w with files := ⟨w.files.nodes ++ nodesTo path node⟩ }

/-- Print a text; code points that have no bytes are printed as question marks. -/
def printText (out : IO.FS.Stream) (t : Text) : IO Unit :=
  out.write ⟨(Utf8.encodeLossy t).toArray⟩

end ShaderBuild.CommandLine

open ShaderBuild ShaderBuild.CommandLine in
def main (arguments : List String) : IO UInt32 := do
  let cwd := text (← IO.currentDir).toString
  let workspace : Workspace Empty :=
    { files := ⟨nodesTo cwd .directory⟩, cwd, environment := ← readEnvironment }
  let arguments := arguments.map text
  let outcome := run .late (← loadSource workspace arguments) arguments
  printText (← IO.getStdout) outcome.output
  printText (← IO.getStderr) outcome.errors
  match outcome.exit with
  | .status n => return n.toUInt32
  | .fault f =>
    printText (← IO.getStderr) (f.report ++ text "\n")
    return 1
