/-
  Compilers: what turns a source into the words of a module.

  * `Parameters`: the options as a compiler takes them, and `Parameters.ofOptions`;
  * `Call`, `CompilationResult`: what a compiler is given, and what it gives back;
  * `Compiler`: a dialogue for each call.
-/
import ShaderBuild.Compiler.Dialogue
import ShaderBuild.Options.Basic

namespace ShaderBuild

/-- The options of a compilation as a compiler takes them. -/
structure Parameters where
  /-- The GLSL version, if it is forced. -/
  version : Option UInt32
  profile : GlslProfile
  definitions : List Definition
  debugInfo : Bool
  optimization : OptimizationLevel
  env : TargetEnv
  /-- The number of the version of the interface. -/
  envVersion : Int
  /-- Who answers requests for includes, as long as there is somebody. -/
  callback : Option Resolver := none
  deriving DecidableEq

/-- The parameters for options, with nobody who answers. -/
def Parameters.ofOptions (o : CompileOptions) : Parameters where
  version := o.version
  profile := .none
  definitions := o.definitions
  debugInfo := o.debug
  optimization := o.optimization
  env := .vulkan
  envVersion := o.target

/-- The parameters with somebody else who answers, or nobody. -/
def Parameters.setCallback (p : Parameters) (callback : Option Resolver) : Parameters :=
  { p with callback }

/-- What a compiler is given. -/
structure Call where
  source : Text
  stage : Stage
  /-- The name of the source. -/
  name : Text
  /-- The function that the shader starts with. -/
  entry : Text
  parameters : Parameters
  deriving DecidableEq

/-- The call with somebody who answers requests for includes. -/
def Call.answeredBy (c : Call) (resolver : Resolver) : Call :=
  { c with parameters := c.parameters.setCallback (some resolver) }

/-- What a compiler gives back when it accepts the source. -/
structure CompilationResult where
  words : List Int
  warningCount : Int
  warnings : Text
  deriving DecidableEq

/-- The result with its sizes, for debugging. -/
def CompilationResult.describe (r : CompilationResult) : Text :=
  text "<CompilationResult " ++ Numeral.ofNat r.words.length ++ text " words, "
    ++ Numeral.ofInt r.warningCount ++ text " warnings>"

/-- A compiler: what it does with a call. -/
abbrev Compiler (ν : Type) := Call → Attempt ν CompilationResult

/-- The compiler with other notes, and without those that become nothing. -/
def Compiler.filterMapNotes {ν μ : Type} (compiler : Compiler ν) (f : ν → Option μ) : Compiler μ :=
  fun call => .mk ((compiler call).run.filterMapNotes f)

/-- The stage for a file: the one that is given, else the one that the file extension tells, else
    the source is to tell it. -/
def CompileOptions.stageFor (o : CompileOptions) (path : Option Text) : Stage :=
  match o.stage with
  | some stage => stage
  | none => match path.bind Path.extension? with
    | some extension => (Stage.ofExtension? extension).getD .inferFromSource
    | none => .inferFromSource

end ShaderBuild
