/-
  Runs of the command line: build a shader and write the result.

  * `CommandLine.Job`: what the arguments ask for;
  * `CommandLine.run`: what comes of it.

  A run ends with 0 if it did what it was asked for, with 1 if the build failed, and with 2 if the
  arguments make no sense.  Faults that are none of a build end it on the spot.
-/
import ShaderBuild.CommandLine.Arguments
import ShaderBuild.Workspace

namespace ShaderBuild.CommandLine

/-- What is compiled. -/
inductive Source where
  | file (path : Text) (options : Option Datum)
  | invocation (t : Text)
  deriving DecidableEq

/-- What the arguments ask for. -/
structure Job where
  source : Source
  projectRoot : Option Datum
  output : Text
  depfile : Option Text
  name : Datum
  deriving DecidableEq

/-- The text that is given, unless it is empty or missing. -/
def given? : Option Datum → Option Text
  | some (.text (c :: t)) => some (c :: t)
  | _ => none

/-- The file that the module of a source file is written to, unless another is given. -/
def defaultOutput (source : Text) : Text := source ++ text ".spv"

/-- What arguments ask for. -/
def Job.ofArguments (a : Arguments) : Except UsageFault Job :=
  let job (source : Source) (output : Text) : Job :=
    ⟨source, a.projectRoot, output, given? a.depfile, a.name⟩
  match given? (a.source.map .text), given? a.glsl with
  | none, none | some _, some _ => .error .noSingleSource
  | some path, none =>
    .ok (job (.file path a.options) ((given? a.output).getD (defaultOutput path)))
  | none, some invocation =>
    match given? a.options, given? a.output with
    | some _, _ => .error .optionsTwice
    | none, none => .error .outputMissing
    | none, some output => .ok (job (.invocation invocation) output)

/-- The name of the text of an invocation. -/
def invocationOrigin : Text := text "<--glsl>"

/-- The build that a job asks for. -/
def Job.build {μ : Type} (j : Job) (s : Setting μ) : BuildRun μ :=
  match j.source with
  | .file path options =>
    compileFile s j.projectRoot path (options.map OptionsArgument.ofDatum) none none
  | .invocation t => ShaderBuild.glsl s j.projectRoot t invocationOrigin

/-- How a run ends. -/
inductive Exit where
  | status (n : Nat)
  | fault (f : Fault)

variable {ν : Type}

/-- What comes of a run. -/
structure Outcome (ν : Type) where
  exit : Exit
  output : Text := []
  errors : Text := []
  workspace : Workspace ν
  /-- The build, if it came to one. -/
  build : Option (BuildRun (Note ν)) := none

/-- What is shown of a log record. -/
def show? (verbose : Bool) (r : LogRecord) : Option Text :=
  if verbose then some (text r.level.name ++ text ":vkshader:" ++ r.message ++ text "\n")
  else if r.level = .warning then some (r.message ++ text "\n")
  else none

/-- What is shown of a log. -/
def showLog (verbose : Bool) (log : Log) : Text := (log.filterMap (show? verbose)).flatten

/-- What is logged when the module is written. -/
def writeLog (output : Text) (o : BuildOutput) : Log :=
  [⟨.info, text "Wrote " ++ output ++ text " (" ++ Numeral.ofNat o.words.length
    ++ text " words, " ++ Numeral.ofNat o.sources.length ++ text " sources)"⟩]

/-- A run that ends because of the arguments. -/
def refuse (w : Workspace ν) (f : UsageFault) : Outcome ν :=
  { exit := .status 2
    errors := text "vkshader: error: " ++ f.message ++ text "\n"
    workspace := w }

/-- A run that prints the diagnostics. -/
def report (w : Workspace ν) (verbose : Bool) : Outcome ν :=
  let errors := showLog verbose w.configLog
  match w.diagnostics.print with
  | .ok output => { exit := .status 0, output, errors, workspace := w }
  | .error f => { exit := .fault f, errors, workspace := w }

/-- A run that does a job. -/
def perform (w : Workspace ν) (verbose : Bool) (j : Job) : Outcome ν :=
  let build := j.build (w.setting none)
  let w := w.settle none build
  let errors := showLog verbose build.log
  match build.result with
  | .error (.shader e) =>
    { exit := .status 1
      errors := errors ++ text "error: " ++ e.report ++ text "\n"
      workspace := w
      build := some build }
  | .error f => { exit := .fault f, errors, workspace := w, build := some build }
  | .ok o =>
    match o.write w.files w.cwd j.output j.depfile j.name with
    | (.error f, files) =>
      { exit := .fault f, errors, workspace := { w with files }, build := some build }
    | (.ok (), files) =>
      { exit := .status 0
        errors := errors ++ showLog verbose (writeLog j.output o)
        workspace := { w with files }
        build := some build }

/-- A run. -/
def run (convention : Convention) (w : Workspace ν) (arguments : List Text) : Outcome ν :=
  match Arguments.parse convention arguments with
  | .error .version =>
    { exit := .status 0
      output := text "vkshader " ++ Version.current ++ text "\n"
      workspace := w }
  | .error .help => { exit := .status 0, workspace := w }
  | .error (.usage f) => refuse w f
  | .ok a =>
    if a.report then report w a.verbose
    else match Job.ofArguments a with
      | .error f => refuse w f
      | .ok j => perform w a.verbose j

end ShaderBuild.CommandLine
