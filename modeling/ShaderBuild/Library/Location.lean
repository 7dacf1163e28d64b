/-
  Where the compiler library is.

  * `Library.locate`: the path of the library, and where it was looked for;
  * `Library.load`: the library at a path, or the reason why there is none.

  A path in the environment is taken as it is.  Else a copy beside this program is taken, and then
  what the system finds; failing all that, the system is left to find the plain name.
-/
import ShaderBuild.Environment
import ShaderBuild.Fault

namespace ShaderBuild.Library

/-- The file names of the library, the most wanted first. -/
def fileNames : List Text := ["libshaderc_shared.so", "libshaderc_shared.so.1"].map text

/-- The name by which the system knows the library. -/
def systemName : Text := text "shaderc_shared"

/-- A place where the library is looked for. -/
inductive Lookup where
  /-- A file beside this program. -/
  | resource (name : Text)
  /-- The libraries of the system. -/
  | system (name : Text)
  deriving DecidableEq

/-- What the library is looked up in. -/
structure Places where
  environment : Environment
  /-- The path of the file of a name beside this program, if there is one. -/
  resource? : Text → Option Text
  /-- What the system finds. -/
  system? : Option Text

/-- The first file of some names beside this program, and the lookups. -/
def firstResource (places : Places) : List Text → Option Text × List Lookup
  | [] => (none, [])
  | name :: names => match places.resource? name with
    | some path => (some path, [.resource name])
    | none =>
      let (found, lookups) := firstResource places names
      (found, .resource name :: lookups)

/-- The path of the library, and the lookups in their order. -/
def locate (places : Places) : Text × List Lookup :=
  let given := places.environment.trimmed Environment.libraryVariable
  if !given.isEmpty then (given, [])
  else match firstResource places fileNames with
    | (some path, lookups) => (path, lookups)
    | (none, lookups) =>
      let lookups := lookups ++ [.system systemName]
      match places.system? with
      | some (c :: path) => (c :: path, lookups)
      | some [] | none => (fileNames.headD [], lookups)

/-- The library at a path: that there is one, or the reason of the system why there is none. -/
def load (path : Text) (failure : Option Text) : Except Fault Unit :=
  match failure with
  | some reason => .error (.shader ⟨.unavailable (.noLibrary path reason), none⟩)
  | none => .ok ()

end ShaderBuild.Library
