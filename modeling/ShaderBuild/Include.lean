/-
  Includes: the files that a source asks for while it is compiled.

  An include in quotes is looked up in the directory of the source that asks; one in angle brackets,
  and one in quotes of a source that is no file, in the project root.

  * `IncludeRequest`, `ResolvedInclude`;
  * `Resolver.resolvePath`: the path of the file that a request is about;
  * `Resolver.resolve`: the file, and the path that goes on record.  A path goes on record when it
    can be written, whether or not the file is then read.
-/
import ShaderBuild.Environment
import ShaderBuild.Fault
import ShaderBuild.Options.Stage
import ShaderBuild.Path

namespace ShaderBuild

/-- A way to read files. -/
abbrev Reader := Text → Except Fault Bytes

namespace Reader

/-- The text of a file.  What is wrong with the file or its bytes is a fault of its own kind. -/
def readText (read : Reader) (fault : ReadFault → Fault) (path : Text) : Except Fault Text :=
  match read path with
  | .error (.file f) => .error (fault (.file f))
  | .error f => .error f
  | .ok bytes => match Utf8.decode bytes with
    | .ok t => .ok t
    | .error f => .error (fault (.undecodable f))

end Reader

/-- What a compiler asks for. -/
structure IncludeRequest where
  /-- The file as it is named in the source. -/
  requested : Text
  /-- The way in which it is named, which must be the number of one. -/
  kind : Datum
  /-- The name of the source that asks. -/
  requesting : Text
  /-- How deep the source is included itself. -/
  depth : Datum := .int 0
  deriving DecidableEq

/-- A file that was asked for. -/
structure ResolvedInclude where
  /-- The absolute path of the file. -/
  name : Text
  content : Text
  deriving DecidableEq

/-- The file, for debugging. -/
def ResolvedInclude.describe (r : ResolvedInclude) : Text :=
  text "<ResolvedInclude " ++ Quoted.quote r.name ++ text ">"

/-- What comes of a request. -/
structure Resolution where
  answer : Except Fault ResolvedInclude
  /-- The path that goes on record. -/
  recorded : Option Text

/-- How includes of one compilation are looked up. -/
structure Resolver where
  /-- The absolute project root. -/
  root : Text
  /-- The name of the source that is compiled. -/
  topName : Option Text
  /-- The path of that source, if it is a file. -/
  topPath : Option Text
  deriving DecidableEq

namespace Resolver

/-- The resolver of a project root seen from a directory. -/
def make (cwd root : Text) (topName topPath : Option Text) : Resolver :=
  ⟨Path.absolute cwd root, topName, topPath⟩

/-- The directory in which a request is looked up. -/
def base (r : Resolver) (kind : IncludeType) (requesting : Text) : Text :=
  match kind with
  | .standard => r.root
  | .relative =>
    if some requesting = r.topName && r.topPath.isNone then r.root else Path.directory requesting

/-- The absolute path of a request. -/
def resolvePath (r : Resolver) (cwd : Text) (request : IncludeRequest) : Except Fault Text :=
  match IncludeType.ofDatum? request.kind with
  | some kind =>
    .ok (Path.absolute cwd (Path.join (r.base kind request.requesting) request.requested))
  | none => do throw (.value (.includeType (← Fault.formOf request.kind)))

/-- The fault of a request for a path. -/
def fault (path : Text) (f : ResolutionFault) : Fault := .shader ⟨.resolution f path, none⟩

/-- The file at the path of a request. -/
def readAt (read : Reader) (path : Text) : Except Fault ResolvedInclude :=
  (read.readText (fun f => fault path (.unreadable f)) path).map fun content => ⟨path, content⟩

/-- The path of a request that goes on record.  The depth goes on the log with it. -/
def recordedPath (r : Resolver) (cwd : Text) (request : IncludeRequest) : Except Fault Text := do
  let path ← r.resolvePath cwd request
  if !Utf8.isEncodable path then throw (fault path .notUnicode)
  let _ ← Fault.showOf request.depth
  return path

/-- What comes of a request, with files read in some way. -/
def resolve (r : Resolver) (read : Reader) (cwd : Text) (request : IncludeRequest) : Resolution :=
  match r.recordedPath cwd request with
  | .error f => ⟨.error f, none⟩
  | .ok path => ⟨readAt read path, some path⟩

/-- What is logged about a request. -/
def log (request : IncludeRequest) (resolution : Resolution) : Log :=
  match resolution.recorded, request.depth.show? with
  | some path, some depth =>
    [⟨.debug, text "Resolved include " ++ Quoted.quote request.requested ++ text " (depth "
      ++ depth ++ text ") to " ++ path⟩]
  | _, _ => []

end Resolver

end ShaderBuild
