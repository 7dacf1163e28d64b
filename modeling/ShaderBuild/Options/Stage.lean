/-
  The fixed vocabularies of shader compilation, with the numbers that compilers know them by.

  * `Stage`: the pipeline stage a shader is for, and the file extensions that tell it;
  * `OptimizationLevel`, and the words that stand for it in options;
  * `TargetEnv`, `GlslProfile`, `IncludeType`;
  * `enumerations`: all of them as enumerations.
-/
import ShaderBuild.Enumeration

namespace ShaderBuild

/-- The pipeline stage that a shader is compiled for. -/
inductive Stage where
  | vertex
  | fragment
  | compute
  | geometry
  | tessControl
  | tessEvaluation
  /-- The source says the stage itself. -/
  | inferFromSource
  | spirvAssembly
  | rayGeneration
  | anyHit
  | closestHit
  | miss
  | intersection
  | callable
  | task
  | mesh
  deriving DecidableEq

namespace Stage

/-- All stages, in the order of their numbers. -/
def all : List Stage :=
  [vertex, fragment, compute, geometry, tessControl, tessEvaluation, inferFromSource,
   spirvAssembly, rayGeneration, anyHit, closestHit, miss, intersection, callable, task, mesh]

/-- The number of a stage. -/
def code : Stage → Nat
  | vertex => 0
  | fragment => 1
  | compute => 2
  | geometry => 3
  | tessControl => 4
  | tessEvaluation => 5
  | inferFromSource => 6
  | spirvAssembly => 13
  | rayGeneration => 14
  | anyHit => 15
  | closestHit => 16
  | miss => 17
  | intersection => 18
  | callable => 19
  | task => 26
  | mesh => 27

/-- The name of a stage. -/
def name : Stage → String
  | vertex => "Vertex"
  | fragment => "Fragment"
  | compute => "Compute"
  | geometry => "Geometry"
  | tessControl => "TessControl"
  | tessEvaluation => "TessEvaluation"
  | inferFromSource => "InferFromSource"
  | spirvAssembly => "SpirvAssembly"
  | rayGeneration => "RayGeneration"
  | anyHit => "AnyHit"
  | closestHit => "ClosestHit"
  | miss => "Miss"
  | intersection => "Intersection"
  | callable => "Callable"
  | task => "Task"
  | mesh => "Mesh"

/-- The file extension that tells a stage. -/
def extension? : Stage → Option String
  | vertex => some "vert"
  | fragment => some "frag"
  | compute => some "comp"
  | geometry => some "geom"
  | tessControl => some "tesc"
  | tessEvaluation => some "tese"
  | inferFromSource => none
  | spirvAssembly => some "spvasm"
  | rayGeneration => some "rgen"
  | anyHit => some "rahit"
  | closestHit => some "rchit"
  | miss => some "rmiss"
  | intersection => some "rint"
  | callable => some "rcall"
  | task => some "task"
  | mesh => some "mesh"

/-- The stage that a file extension, without its dot, tells. -/
def ofExtension? (t : Text) : Option Stage := all.find? fun s => s.extension?.map text = some t

/-- The stage with a number. -/
def ofDatum? (d : Datum) : Option Stage := all.find? fun s => (Datum.int s.code).sameAs d

def enumeration : Enumeration :=
  { Enumeration.ofFields (text "ShaderKind") (all.map fun s => (text s.name, .int s.code)) with
    doc := .text (text "The pipeline stage a shader is compiled for.") }

end Stage

/-- How much a compiler optimizes, and for what. -/
inductive OptimizationLevel where
  | zero
  | size
  | performance
  deriving DecidableEq

namespace OptimizationLevel

def all : List OptimizationLevel := [zero, size, performance]

def code : OptimizationLevel → Nat
  | zero => 0
  | size => 1
  | performance => 2

def name : OptimizationLevel → String
  | zero => "Zero"
  | size => "Size"
  | performance => "Performance"

/-- The word for a level in options. -/
def keyword : OptimizationLevel → String
  | zero => "zero"
  | size => "size"
  | performance => "performance"

def ofKeyword? (t : Text) : Option OptimizationLevel := all.find? fun l => text l.keyword = t

def ofDatum? (d : Datum) : Option OptimizationLevel :=
  all.find? fun l => (Datum.int l.code).sameAs d

def enumeration : Enumeration :=
  .ofFields (text "OptimizationLevel") (all.map fun l => (text l.name, .int l.code))

end OptimizationLevel

/-- How an include names its file. -/
inductive IncludeType where
  /-- In quotes: relative to the file that includes it. -/
  | relative
  /-- In angle brackets: relative to the project root. -/
  | standard
  deriving DecidableEq

namespace IncludeType

def code : IncludeType → Nat
  | relative => 0
  | standard => 1

def all : List IncludeType := [relative, standard]

/-- The way with a number. -/
def ofDatum? (d : Datum) : Option IncludeType := all.find? fun t => (Datum.int t.code).sameAs d

def enumeration : Enumeration :=
  { Enumeration.ofFields (text "IncludeType")
      [(text "Relative", .int 0), (text "Standard", .int 1)] with
    doc := .text (text
      "Whether an ``#include`` uses quotes (relative) or angle brackets (standard).") }

end IncludeType

/-- The interface that a module is compiled for. -/
inductive TargetEnv where
  | vulkan
  | openGL
  | openGLCompat
  deriving DecidableEq

namespace TargetEnv

def code : TargetEnv → Nat
  | vulkan => 0
  | openGL => 1
  | openGLCompat => 2

def enumeration : Enumeration :=
  .ofFields (text "TargetEnv")
    [(text "Vulkan", .int 0), (text "OpenGL", .int 1), (text "OpenGLCompat", .int 2)]

end TargetEnv

/-- The profile of a GLSL version. -/
inductive GlslProfile where
  | none
  | core
  | compatibility
  | es
  deriving DecidableEq

namespace GlslProfile

def code : GlslProfile → Nat
  | none => 0
  | core => 1
  | compatibility => 2
  | es => 3

def enumeration : Enumeration :=
  .ofFields (text "GlslProfile")
    [(text "NONE", .int 0), (text "Core", .int 1), (text "Compatibility", .int 2),
      (text "ES", .int 3)]

end GlslProfile

/-- The enumeration that has no fields. -/
def baseEnumeration : Enumeration :=
  { Enumeration.ofFields (text "BaseEnum") [] with
    isBase := true
    home := text "vkshader._coreutils"
    doc := .text (text ("Base class for enums.\n\n"
      ++ "    Looks like Python's builtin Enum class, but is simpler; fields are simply ints or "
      ++ "strings.\n    ")) }

/-- All enumerations. -/
def enumerations : List Enumeration :=
  [Stage.enumeration, OptimizationLevel.enumeration, IncludeType.enumeration,
   TargetEnv.enumeration, GlslProfile.enumeration].map (fun e =>
     { e with home := text "vkshader.enums" })
  ++ [baseEnumeration]

end ShaderBuild
