/-
  Workspaces: what a series of builds shares.

  * `Backend`: a compiler that can be registered, and `Note`, what is noted of it;
  * `Workspace`: files, a current directory, an environment, a library, and the registered compiler;
  * `Workspace.setting`, `Workspace.settle`: what a build finds, and what it leaves;
  * `Workspace.register`, `Workspace.loadBackend`;
  * `Workspace.configTopic`, `Workspace.libraryTopic`: the diagnostics.

  A compiler that is passed to a build comes first, then the registered one.  If there is neither,
  the one that uses the library is loaded, and is registered from then on.  Compilers that are
  passed or registered may be any; they share a kind of notes.
-/
import ShaderBuild.Artifact.Write
import ShaderBuild.Compile
import ShaderBuild.Diagnostics
import ShaderBuild.Library.Compile
import ShaderBuild.Library.Location
import ShaderBuild.Version.Basic

namespace ShaderBuild

/-- What is noted of a compiler: the calls of the library, or what the compiler notes itself. -/
inductive Note (ν : Type) where
  | library (call : LibraryCall)
  | custom (n : ν)
  deriving DecidableEq

/-- A compiler that can be registered. -/
inductive Backend (ν : Type) where
  /-- Any compiler, with the form it has for debugging. -/
  | custom (form : Text) (compiler : Compiler ν)
  /-- The compiler that uses the library, whichever that is. -/
  | library

namespace Library

/-- The name of the library, as the system knows it. -/
def loadedPath : Text := fileNames.headD []

/-- The compiler that uses the library, for debugging. -/
def describeCompiler : Text := text "<ShadercBackend using " ++ loadedPath ++ text ">"

/-- What is logged when the library is first used. -/
def loadLog : Log := [⟨.debug, text "Using backend " ++ describeCompiler⟩]

/-- Why there is no library. -/
def missing : Fault :=
  .shader ⟨.unavailable (.noLibrary loadedPath
    (loadedPath ++ text ": cannot open shared object file: No such file or directory")), none⟩

end Library

variable {ν : Type}

/-- The compiler, for debugging. -/
def Backend.describe : Backend ν → Text
  | .custom form _ => form
  | .library => Library.describeCompiler

/-- What a series of builds shares. -/
structure Workspace (ν : Type) where
  files : FileTree := {}
  cwd : Text
  environment : Environment := []
  /-- The library that can be loaded. -/
  library : Option Library := none
  /-- The compiler that is registered. -/
  backend : Option (Backend ν) := none

namespace Workspace

/-- The files, seen from the current directory. -/
def reader (w : Workspace ν) : Reader := w.files.read w.cwd

/-- The compiler that uses the library, if there is one.  Of its steps the calls are noted. -/
def loaded (w : Workspace ν) : Except Fault (Compiler (Note ν)) :=
  match w.library with
  | some library =>
    .ok ((Library.compiler library).filterMapNotes fun step => step.call?.map .library)
  | none => .error Library.missing

/-- What a build finds that a compiler may be passed to. -/
def setting (w : Workspace ν) (passed : Option (Compiler ν)) : Setting (Note ν) :=
  let compiler := match passed, w.backend with
    | some c, _ | none, some (.custom _ c) => .ok (c.filterMapNotes fun n => some (.custom n))
    | none, some .library | none, none => w.loaded
  { read := w.reader
    cwd := w.cwd
    environment := w.environment
    compiler
    loadLog := if passed.isNone && w.backend.isNone then Library.loadLog else [] }

/-- The workspace after the compiler was asked for. -/
def withLoaded (w : Workspace ν) : Workspace ν :=
  match w.backend, w.library with
  | none, some _ => { w with backend := some .library }
  | _, _ => w

/-- The workspace after a build. -/
def settle (w : Workspace ν) (passed : Option (Compiler ν)) (run : BuildRun (Note ν)) :
    Workspace ν :=
  if run.asked && passed.isNone then w.withLoaded else w

/-- The compiler that builds use, which is loaded if need be, and what is logged then. -/
def loadBackend (w : Workspace ν) : Except Fault (Backend ν) × Log × Workspace ν :=
  match w.backend, w.library with
  | some b, _ => (.ok b, [], w)
  | none, some _ => (.ok .library, Library.loadLog, w.withLoaded)
  | none, none => (.error Library.missing, [], w)

/-- Register a compiler; what was registered before is told. -/
def register (w : Workspace ν) (b : Backend ν) : Text × Workspace ν :=
  ((w.backend.map Backend.describe).getD Quoted.absent, { w with backend := some b })

/-- The project root. -/
def projectRoot (w : Workspace ν) : Text := w.environment.projectRoot w.cwd

/-! ## Diagnostics -/

/-- The versions of this program and what it uses. -/
def versionsTopic : Topic := ⟨text "versions", some [(text "vkshader", .text Version.current)]⟩

/-- The settings that the environment makes. -/
def configTopic (w : Workspace ν) : Topic where
  name := text "config"
  data? := some [
    (text "project_root", .text w.projectRoot),
    (text "strip", .flag (w.environment.flag Environment.stripFlag)),
    (text "default_optimize_zero", .flag (w.environment.flag Environment.zeroFlag)),
    (text "shaderc_lib_path_env",
      .text ((w.environment.value? Environment.libraryVariable).getD []))]

/-- What is logged when the settings are read. -/
def configLog (w : Workspace ν) : Log :=
  w.environment.flagLog Environment.stripFlag ++ w.environment.flagLog Environment.zeroFlag

/-- The version of the modules that a library makes. -/
def moduleVersionText (library : Library) : Text :=
  let ((major, minor), revision) := library.moduleVersion
  Numeral.ofNat major ++ text "." ++ Numeral.ofNat minor ++ text " (revision "
    ++ Numeral.ofNat revision ++ text ")"

/-- The library, or why there is none. -/
def libraryTopic (w : Workspace ν) : Topic where
  name := text "shaderc"
  data? := some (match w.library with
    | none => [(text "available", .flag false), (text "error", .text Library.missing.report)]
    | some library => [
        (text "available", .flag true),
        (text "lib_path", .text Library.loadedPath),
        (text "spirv_version", .text (moduleVersionText library))])

/-- The diagnostics, without those of the machine. -/
def diagnostics (w : Workspace ν) : Diagnostics :=
  .ofTopics [versionsTopic, w.configTopic, w.libraryTopic]

end Workspace

end ShaderBuild
