/-
  The options of one compilation.

  * `CompileOptions`: the options, with only values that make sense;
  * `OptionFields`: the arguments they are made from, some of which may be missing or wrong;
  * `CompileOptions.make`, `CompileOptions.makeLog`: the options of the arguments in an environment,
    and what is logged on the way;
  * `CompileOptions.describe`.
-/
import ShaderBuild.Environment
import ShaderBuild.Options.Stage
import ShaderBuild.Options.Vulkan

namespace ShaderBuild

/-- A preprocessor macro, and its value if it has one. -/
abbrev Definition := Text × Option Text

/-- The options for compiling a shader. -/
structure CompileOptions where
  /-- The stage, if it is given. -/
  stage : Option Stage
  /-- The GLSL version, if it is forced. -/
  version : Option UInt32
  /-- Is debug information generated? -/
  debug : Bool
  /-- The macros, in order; a name may come several times. -/
  definitions : List Definition
  optimization : OptimizationLevel
  /-- The number of the Vulkan version. -/
  target : Int
  deriving DecidableEq

/-- Arguments for options. -/
structure OptionFields where
  stage : Option Datum := none
  version : Option Datum := none
  debug : Option Bool := none
  /-- The macros; none if there is nothing where they should be. -/
  definitions : Option (List Definition) := some []
  optimization : Option Datum := none
  target : Int := Vulkan.version1_0

namespace CompileOptions

/-- The greatest version that a compiler can be told. -/
def maxVersion : Int := 0xffffffff

/-- The version of a number; none if it is out of range. -/
def version? (n : Int) : Option UInt32 :=
  if 0 ≤ n ∧ n ≤ maxVersion then some (.ofNat n.toNat) else none

/-- The options when nothing is said, which the environment decides. -/
def defaults (env : Environment) : CompileOptions where
  stage := none
  version := none
  debug := !env.flag Environment.stripFlag
  definitions := []
  optimization := if env.flag Environment.zeroFlag then .zero else .performance
  target := Vulkan.version1_0

/-- What is logged when options are made: the switches are read for what is not given. -/
def makeLog (env : Environment) (fields : OptionFields) : Log :=
  (if fields.debug.isNone then env.flagLog Environment.stripFlag else [])
    ++ (if fields.optimization.isNone then env.flagLog Environment.zeroFlag else [])

/-- The stage of an argument. -/
def makeStage : Option Datum → Except Fault (Option Stage)
  | none => .ok none
  | some d => match Stage.ofDatum? d with
    | some s => .ok (some s)
    | none => do throw (.value (.invalidStage (← Fault.formOf d)))

/-- The optimization level of an argument. -/
def makeLevel (default : OptimizationLevel) : Option Datum → Except Fault OptimizationLevel
  | none => .ok default
  | some d => match OptimizationLevel.ofDatum? d with
    | some l => .ok l
    | none => do throw (.value (.invalidLevel (← Fault.formOf d)))

/-- The version of an argument, which has to be a number. -/
def makeVersion : Option Datum → Except Fault (Option UInt32)
  | none => .ok none
  | some d =>
    if d.isNumber then match d.int?.bind version? with
      | some v => .ok (some v)
      | none => do throw (.value (.versionRange (← Fault.showOf d)))
    else .error (.type (.notOrdered d.className))

/-- The macros of an argument. -/
def makeDefinitions : Option (List Definition) → Except Fault (List Definition)
  | some ds => .ok ds
  | none => .error (.type (.notIterable Datum.absent.className))

/-- The options of arguments.  The stage is judged first, then the level, then the version, then the
    macros. -/
def make (env : Environment) (fields : OptionFields) : Except Fault CompileOptions := do
  let stage ← makeStage fields.stage
  let optimization ← makeLevel (defaults env).optimization fields.optimization
  let version ← makeVersion fields.version
  let definitions ← makeDefinitions fields.definitions
  return {
    stage, version, definitions, optimization
    debug := fields.debug.getD (defaults env).debug
    target := fields.target }

/-- The options, for debugging. -/
def describe (o : CompileOptions) : Except Fault Text := do
  let (major, minor) := Vulkan.decode o.target
  let major ← Fault.writable major
  let stage := match o.stage with
    | some s => text s.name
    | none => text "infer"
  let version := match o.version with
    | some v => Numeral.ofNat v.toNat
    | none => Quoted.absent
  let definitions := o.definitions.map fun d => Quoted.pair (Quoted.quote d.1) (Quoted.quote? d.2)
  return text "<CompileOptions kind=" ++ stage ++ text " version=" ++ version
    ++ text " debug=" ++ Datum.flagForm o.debug ++ text " definitions=" ++ Quoted.list definitions
    ++ text " optimization=" ++ text o.optimization.name ++ text " target=vulkan"
    ++ Numeral.ofInt major ++ text "." ++ Numeral.ofInt minor ++ text ">"

end CompileOptions

end ShaderBuild
