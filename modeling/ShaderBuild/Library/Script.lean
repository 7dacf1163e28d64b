/-
  Scripted libraries: a library whose answers are fixed beforehand.

  It asks for the includes of the source, as far down as it goes, or for others that are fixed.  At
  the first include that fails it gives up, unless it is told not to mind.

  * `Library.Script`: what is fixed;
  * `Library.ofScript`: the library.
-/
import ShaderBuild.Library.Interface

namespace ShaderBuild.Library

/-- The answers of a library. -/
structure Script where
  hasCompiler : Bool := true
  hasOptions : Bool := true
  hasResult : Bool := true
  status : UInt32 := 0
  message : Option Bytes := some []
  /-- The bytes of the module, if there are any at all. -/
  bytes : Option Bytes := some []
  warningCount : UInt64 := 0
  version : UInt32 := 0x10000
  revision : UInt32 := 1
  /-- The requests it makes in place of those of the source. -/
  requests : Option (List Request) := none
  /-- Does it go on when an include fails? -/
  ignoresFailures : Bool := false

namespace Script

/-- The line feed. -/
def lineFeed : UInt8 := 10

/-- The lines of a source. -/
def lines : Bytes → List Bytes
  | [] => [[]]
  | b :: bytes =>
    if b = lineFeed then [] :: lines bytes
    else match lines bytes with
      | [] => [[b]]
      | line :: rest => (b :: line) :: rest

/-- The bytes of an ASCII text. -/
def ascii (s : String) : Bytes := s.toUTF8.toList

/-- What stands in a line between an opening and a closing, if they are all else of it. -/
def between? (opening closing line : Bytes) : Option Bytes :=
  if opening.isPrefixOf line && closing.isSuffixOf line
      && opening.length + closing.length ≤ line.length then
    some ((line.drop opening.length).take (line.length - opening.length - closing.length))
  else none

/-- The include that a line asks for. -/
def directive? (line : Bytes) : Option (Bytes × IncludeType) :=
  match between? (ascii "#include \"") (ascii "\"") line with
  | some requested => some (requested, .relative)
  | none => match between? (ascii "#include <") (ascii ">") line with
    | some requested => some (requested, .standard)
    | none => none

/-- The deepest level at which includes are looked for. -/
def maxDepth : Nat := 20

/-- The status of a compilation that an include failed. -/
def includeFailure : UInt32 := 2

/-- The result of the script. -/
def result (s : Script) : Option Result :=
  if s.hasResult then some ⟨s.status, s.message, s.bytes, s.warningCount⟩ else none

/-- The result after an include failed. -/
def failure (s : Script) (requesting : Bytes) (reply : Reply) : Option Result :=
  s.result.map fun r =>
    { r with status := includeFailure
             message := some (requesting ++ ascii ": include error: " ++ reply.content) }

/-- Make a request, and go on with the answer unless that ends the compilation. -/
def ask (s : Script) (request : Request) (next : Reply → Work) : Work :=
  .resolve request fun reply =>
    if reply.name.isEmpty && !s.ignoresFailures then .finish (s.failure request.requesting reply)
    else next reply

/-- Make requests one after the other. -/
def askAll (s : Script) : List Request → Work
  | [] => .finish s.result
  | request :: rest => s.ask request fun _ => askAll s rest

/-- Ask for the includes of lines at a depth, given what to do for a file, and go on. -/
def scanLines (s : Script) (name : Bytes) (depth : Nat) (scanFile : Reply → Work → Work) :
    List Bytes → Work → Work
  | [], next => next
  | line :: rest, next => match directive? line with
    | none => scanLines s name depth scanFile rest next
    | some (requested, kind) =>
      s.ask ⟨requested, kind.code, name, depth + 1⟩ fun reply =>
        let next := scanLines s name depth scanFile rest next
        if reply.name.isEmpty then next else scanFile reply next

/-- Ask for the includes of a source at a depth, with so many levels left, and go on. -/
def scan (s : Script) : Nat → Nat → Bytes → Bytes → Work → Work
  | 0, _, _, _, next => next
  | levels + 1, depth, name, source, next =>
    scanLines s name depth
      (fun reply next => scan s levels (depth + 1) reply.name reply.content next)
      (lines source) next

/-- What the library does for a job.  A module as text has no name. -/
def work (s : Script) : Job → Work
  | .shader source _ name _ => go name source
  | .assembly source => go [] source
where
  /-- What the library does for a source with a name. -/
  go (name source : Bytes) : Work :=
    match s.requests with
    | some requests => s.askAll requests
    | none => s.scan (maxDepth + 1) 0 name source (.finish s.result)

end Script

/-- The library of a script. -/
def ofScript (s : Script) : Library where
  hasCompiler := s.hasCompiler
  hasOptions := s.hasOptions
  version := s.version
  revision := s.revision
  compile := s.work
  compileAlone _ := s.result

end ShaderBuild.Library
