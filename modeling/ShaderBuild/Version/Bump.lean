/-
  The file that defines the version, and the command that changes it.

  The file is a text with a line that gives the version in quotation marks.  Every run of the
  command first reads the version; a version whose numeric parts are no numbers stops it there.

  * `VersionFile.definition`, `VersionFile.version`: the line, and the version in it;
  * `VersionFile.run`: a run of the command on the file.
-/
import ShaderBuild.Version.Basic

namespace ShaderBuild

/-- The text of the file that defines the version. -/
structure VersionFile where
  contents : Text
  deriving DecidableEq

namespace VersionFile

open Version

/-- What the defining line starts with. -/
def opening : Text := text "__version__ = "

/-- The file that defines a version. -/
def ofVersion (version : Text) : VersionFile :=
  ⟨opening ++ text "\"" ++ version ++ text "\"\n"⟩

/-- The line that defines the version. -/
def definition (f : VersionFile) : Text :=
  ((Text.splitOn '\n' f.contents).find? opening.isPrefixOf).getD []

/-- The version that the file defines. -/
def version (f : VersionFile) : Text :=
  (f.definition.drop (opening.length + 1)).takeWhile fun c : CodePoint => c ≠ '"'

/-- How a run of the command ends. -/
inductive Exit where
  | done
  /-- The command ends with a message about its use. -/
  | usage (message : String)
  /-- The version of the file cannot be read. -/
  | failed (fault : Fault)

/-- How a run of the command ends, and what it prints. -/
structure Outcome where
  exit : Exit
  output : Text

/-- The run prints a line and ends well. -/
def Outcome.say (line : Text) : Outcome := ⟨.done, line ++ text "\n"⟩

/-- The run prints nothing and ends with a message. -/
def Outcome.refuse (message : String) : Outcome := ⟨.usage message, []⟩

/-- Why a text cannot be the new version, if it cannot: it takes three numbers. -/
def refusal? (version : Text) : Option String :=
  if (Text.splitOn '.' version).length ≠ 3 then some "Expected two dots in new version string."
  else if (Text.splitOn '.' version).all isNumeric then none
  else some "Expected only numbers in new version string."

/-- The file with a new version. -/
def bump (f : VersionFile) (new : Text) : VersionFile :=
  ⟨Text.replaceFirst f.version new f.contents⟩

/-- A run of the command, once the version is read. -/
def command (f : VersionFile) (arguments : List Text) : Outcome × VersionFile :=
  match arguments with
  | [] => (.say (project ++ text " v" ++ f.version), f)
  | name :: rest =>
    if name = text "version" then (.say (project ++ text " v" ++ f.version), f)
    else if name = text "bump" then
      match rest with
      | [new] =>
        let new := Text.stripStart (fun c : CodePoint => c = 'v') new
        match refusal? new with
        | some message => (.refuse message, f)
        | none => (.say (text "Bumped version from '" ++ f.version ++ text "' to '" ++ new
            ++ text "'."), f.bump new)
      | _ => (.refuse "Expected a version number to bump to.", f)
    else (.say (text "Unknown command for _version.py: " ++ Quoted.quote name), f)

/-- A run of the command: what comes of it, and the file afterwards. -/
def run (f : VersionFile) (arguments : List Text) : Outcome × VersionFile :=
  match parts f.version with
  | .error fault => (⟨.failed fault, []⟩, f)
  | .ok _ => f.command arguments

end VersionFile

end ShaderBuild
