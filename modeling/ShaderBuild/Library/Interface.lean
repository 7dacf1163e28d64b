/-
  The interface of the compiler library, as bytes and handles.

  * `LibraryCall`: the calls of the library, and its own calls back for includes;
  * `Library.Step`: a call, a handle that a call lends, or a look at a result;
  * `Library`: how a library behaves, whatever its answers are made of;
  * `Library.Work`: what it does in a compilation: it asks for includes, and ends in a result.
-/
import ShaderBuild.Compiler.Basic

namespace ShaderBuild

/-- A call of the library, or of the library back, with what is passed. -/
inductive LibraryCall where
  | initializeCompiler
  | initializeOptions
  | setVersion (version : Int) (profile : Nat)
  | addMacro (name : Bytes) (nameLength : Nat) (value : Option Bytes) (valueLength : Nat)
  | setDebugInfo
  | setOptimization (level : Nat)
  | setTarget (env : Nat) (version : Int)
  | setIncludeCallbacks
  | compile (source : Bytes) (size stage : Nat) (name entry : Bytes)
  | assemble (source : Bytes) (size : Nat)
  /-- The library asks for an include, and gets a name and a content. -/
  | resolve (requested : Bytes) (kind : Int) (requesting : Bytes) (depth : Int)
      (name content : Bytes)
  | releaseResult
  | releaseOptions
  | releaseCompiler
  deriving DecidableEq

namespace Library

/-- What the library lends, to be released by the one who got it. -/
inductive Handle where
  | compiler
  | options
  | result
  deriving DecidableEq

/-- The call that releases a handle. -/
def Handle.release : Handle → LibraryCall
  | .compiler => .releaseCompiler
  | .options => .releaseOptions
  | .result => .releaseResult

/-- What is looked up in a result. -/
inductive Field where
  | status
  | message
  | length
  | bytes
  | warningCount
  deriving DecidableEq

/-- A step of the dealings with the library. -/
inductive Step where
  | call (c : LibraryCall)
  /-- A call has given a handle, and not null. -/
  | lend (h : Handle)
  | look (field : Field)
  deriving DecidableEq

/-- The call that a step is. -/
def Step.call? : Step → Option LibraryCall
  | .call c => some c
  | .lend _ | .look _ => none

/-- A request for an include, as the library makes it. -/
structure Request where
  requested : Bytes
  kind : Int
  requesting : Bytes
  depth : Int
  deriving DecidableEq

/-- An answer to a request: an empty name tells that the content is the message of an error. -/
structure Reply where
  name : Bytes
  content : Bytes
  deriving DecidableEq

/-- The result of a compilation. -/
structure Result where
  status : UInt32
  /-- The message, if there is one at all. -/
  message : Option Bytes
  /-- The bytes of the module, if there are any at all. -/
  bytes : Option Bytes
  warningCount : UInt64
  deriving DecidableEq

/-- What the library does in a compilation. -/
inductive Work where
  /-- The compilation ends; there may be no result. -/
  | finish (result : Option Result)
  | resolve (request : Request) (next : Reply → Work)

/-- What is compiled: a source in one of the two languages. -/
inductive Job where
  /-- A source in the shading language, with its stage, its name and the function to start with. -/
  | shader (source : Bytes) (stage : Nat) (name entry : Bytes)
  /-- A module as text. -/
  | assembly (source : Bytes)
  deriving DecidableEq

/-- The bytes of a C string: they end before the first zero. -/
def cString (bytes : Bytes) : Bytes := bytes.takeWhile fun b => b ≠ 0

end Library

/-- How a library behaves. -/
structure Library where
  /-- Does it give a compiler? -/
  hasCompiler : Bool
  /-- Does it give compile options? -/
  hasOptions : Bool
  /-- The version of the modules that it makes, in two bytes of a word. -/
  version : UInt32
  revision : UInt32
  /-- What it does for a job when it can ask for includes. -/
  compile : Library.Job → Library.Work
  /-- What comes of a job when there is nobody to ask. -/
  compileAlone : Library.Job → Option Library.Result

/-- The version of the modules that a library makes: the two numbers and the revision. -/
def Library.moduleVersion (library : Library) : (Nat × Nat) × Nat :=
  let version := library.version.toNat
  ((version / 0x10000 % 0x100, version / 0x100 % 0x100), library.revision.toNat)

end ShaderBuild
