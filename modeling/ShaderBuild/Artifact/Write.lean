/-
  Writing the result of a build to files.

  A file is emptied before its contents are made, so a failure leaves it empty.

  * `BuildOutput.contentsFor`: what a file of a name gets;
  * `BuildOutput.write`: the module, and the rules for `make` if they are asked for.
-/
import ShaderBuild.Artifact
import ShaderBuild.FileTree

namespace ShaderBuild

namespace BuildOutput

/-- The bytes of a text, which must have no surrogates. -/
def encoded (t : Text) : Except Fault Bytes :=
  match Utf8.encode? t with
  | some bytes => .ok bytes
  | none => .error .unencodable

/-- Does the name of a file ask for source text? -/
def isModuleName (filename : Text) : Bool := (text ".py").isSuffixOf filename

/-- What a file of a name gets: source text, or the bytes of the words. -/
def contentsFor (o : BuildOutput) (filename : Text) (name : Datum) : Except Fault Bytes :=
  if isModuleName filename then do encoded (← o.toModuleNamed name) else o.toBytes

/-- What the file with the rules gets, for a module in a file seen from a directory. -/
def depfileContents (o : BuildOutput) (cwd filename : Text) : Except Fault Bytes :=
  encoded (o.toDepfile (Path.absolute cwd filename) false)

/-- Write the module, and the rules unless the name of their file is empty or missing. -/
def write (o : BuildOutput) (t : FileTree) (cwd filename : Text) (depfile : Option Text)
    (name : Datum) : FileRun :=
  match t.write cwd filename (o.contentsFor filename name) with
  | (.error f, t) => (.error f, t)
  | (.ok (), t) => match depfile with
    | none | some [] => (.ok (), t)
    | some (c :: rest) => t.write cwd (c :: rest) (o.depfileContents cwd filename)

end BuildOutput

end ShaderBuild
