/-
  Builds: one call of a compiler, and what comes of it.

  * `SourceUnit`: what is compiled;
  * `Setting`: what a build finds: files, a current directory, an environment and a compiler;
  * `BuildRun`: the result of a build, with the call, its events and the log;
  * `build`.

  A build succeeds if the compiler accepts the source without a warning.  Its sources are the file
  that is compiled and the paths that went on record, in the order of the requests.  An error
  without a span gets that of the invocation.
-/
import ShaderBuild.Artifact
import ShaderBuild.Compiler.Basic

namespace ShaderBuild

/-- What is compiled. -/
structure SourceUnit where
  source : Text
  /-- The name in diagnostics. -/
  name : Text
  /-- The absolute path, if it is a file. -/
  path : Option Text := none
  /-- The invocation that asks for it. -/
  span : Option Span := none
  deriving DecidableEq

namespace SourceUnit

/-- The name of a source that is no file. -/
def inlineName : Text := text "inline"

/-- The function that all shaders start with. -/
def entryPoint : Text := text "main"

/-- The unit, for debugging. -/
def describe (u : SourceUnit) : Text := text "<SourceUnit " ++ Quoted.quote u.name ++ text ">"

end SourceUnit

/-- The project root that an environment names, or else the current directory. -/
def Environment.projectRoot (env : Environment) (cwd : Text) : Text :=
  let root := env.trimmed Environment.rootVariable
  Path.absolute cwd (if root.isEmpty then cwd else root)

/-- What a build finds. -/
structure Setting (ν : Type) where
  read : Reader
  cwd : Text
  environment : Environment
  /-- The compiler, or the fault of loading one. -/
  compiler : Except Fault (Compiler ν)
  /-- What is logged when the compiler is loaded. -/
  loadLog : Log := []

/-- The project root of a setting, unless another is given, which must be a path. -/
def Setting.root {ν : Type} (s : Setting ν) : Option Datum → Except Fault Text
  | none | some .absent => .ok (s.environment.projectRoot s.cwd)
  | some (.text t) => .ok t
  | some d => .error (.type (.notPath d.className))

/-- A call of a compiler, what it gave back, and what happened in between. -/
structure CallRecord (ν : Type) where
  call : Call
  outcome : Except Fault CompilationResult
  events : List (Event ν)
  /-- The parameters of the call, as they are left behind. -/
  left : Parameters

/-- What comes of a build. -/
structure BuildRun (ν : Type) where
  result : Except Fault BuildOutput
  log : Log := []
  /-- The call of the compiler, if it came to that. -/
  record : Option (CallRecord ν) := none
  /-- Was a compiler asked for? -/
  asked : Bool := false

namespace BuildRun

variable {ν : Type}

/-- A build that fails before a compiler is asked for. -/
def failed (f : Fault) (log : Log := []) : BuildRun ν := { result := .error f, log }

/-- The run after something else was logged. -/
def after (log : Log) (run : BuildRun ν) : BuildRun ν := { run with log := log ++ run.log }

end BuildRun

namespace Fault

/-- The fault with a span, if it is one of a build without a span. -/
def locate (f : Fault) (span : Option Span) : Fault :=
  match f with
  | .shader e => .shader (e.locate span)
  | f => f

end Fault

/-- The fault of a result that has warnings: it says what they say, or else how many there are, if
    that can be written down. -/
def CompilationResult.complaint (r : CompilationResult) (span : Option Span) : Fault :=
  let message := Text.strip CodePoint.isBlank r.warnings
  if message.isEmpty then
    match Fault.writable r.warningCount with
    | .error f => f
    | .ok count => .shader ⟨.backend (.warnings count), span⟩
  else .shader ⟨.backend (.other message), span⟩

namespace CallRecord

variable {ν : Type}

/-- The paths that went on record. -/
def recorded (r : CallRecord ν) : List Text := r.events.filterMap Event.recorded?

/-- The output of a build of a unit. -/
def output (r : CallRecord ν) (unit : SourceUnit) : Except Fault BuildOutput :=
  match r.outcome with
  | .error f => .error (f.locate unit.span)
  | .ok result =>
    if result.warningCount = 0 then .ok ⟨unit.path.toList ++ r.recorded, result.words⟩
    else .error (result.complaint unit.span)

/-- What is logged during the call. -/
def log (r : CallRecord ν) : Log := r.events.flatMap Event.log

end CallRecord

variable {ν : Type}

/-- The call of a compiler for a unit. -/
def SourceUnit.call (unit : SourceUnit) (options : CompileOptions) : Call where
  source := unit.source
  stage := options.stageFor unit.path
  name := unit.name
  entry := SourceUnit.entryPoint
  parameters := .ofOptions options

/-- Make a call, with the includes looked up by a resolver.  However the call ends, nobody answers
    any more after it. -/
def Setting.perform (s : Setting ν) (compiler : Compiler ν) (resolver : Resolver) (call : Call) :
    CallRecord ν :=
  let call := call.answeredBy resolver
  let (outcome, events) := (compiler call).run.run (resolver.resolve s.read s.cwd)
  { call, outcome, events, left := call.parameters.setCallback none }

/-- Build a unit. -/
def build (s : Setting ν) (root : Option Datum) (unit : SourceUnit) (options : CompileOptions) :
    BuildRun ν :=
  match s.compiler with
  | .error f => { result := .error f, asked := true }
  | .ok compiler =>
    match s.root root, options.describe with
    | .error f, _ | .ok _, .error f => { result := .error f, log := s.loadLog, asked := true }
    | .ok root, .ok form =>
      let call := unit.call options
      let resolver := Resolver.make s.cwd root (some unit.name) unit.path
      let record := s.perform compiler resolver call
      let opening : LogRecord := ⟨.debug, text "Building " ++ unit.name ++ text " as "
        ++ text call.stage.name ++ text ": " ++ form⟩
      { result := record.output unit
        log := s.loadLog ++ opening :: record.log
        record := some record
        asked := true }

end ShaderBuild
