/-
  Stand-ins: compilers that expand the includes of a source and make up the rest.

  A line that is nothing but an include directive is replaced by the expanded content of the file;
  all other lines stay.  There is no bound on how deep includes are nested but the room that the
  host has for calls.

  * `Preprocessor`: what the lines of a source are, and which of them are directives;
  * `Preprocessor.expand`: the expansion;
  * `Preprocessor.shader`: the preprocessor of a stand-in;
  * `Checksum.ofBytes`: the cyclic redundancy check of 32 bits;
  * `StandIn.compile`: the compiler, which notes the expanded source.
-/
import ShaderBuild.Compiler.Basic
import ShaderBuild.Text.Blank

namespace ShaderBuild

/-! ## Expansion -/

/-- What a source is to one who expands it. -/
structure Preprocessor where
  /-- The lines of a source. -/
  lines : Text → List Text
  /-- The include that a line asks for. -/
  directive? : Text → Option (Text × IncludeType)

namespace Preprocessor

variable {ν : Type}

/-- Expand lines of a source at a depth, given how to expand what is included. -/
def expandLines (p : Preprocessor) (name : Text) (depth : Nat)
    (expandFile : ResolvedInclude → Attempt ν Text) : List Text → Attempt ν (List Text)
  | [] => pure []
  | line :: rest => do
    let expanded ← match p.directive? line with
      | none => pure line
      | some (requested, kind) => do
        expandFile (← Attempt.request ⟨requested, .int kind.code, name, .int (depth + 1)⟩)
    return expanded :: (← p.expandLines name depth expandFile rest)

/-- Expand a source at a depth, on a host with room for so many nested calls. -/
def expand (p : Preprocessor) : Nat → Nat → Text → Text → Attempt ν Text
  | 0, _, _, _ => throw Fault.recursion
  | room + 1, depth, name, source => do
    let lines ← p.expandLines name depth
      (fun file => p.expand room (depth + 1) file.name file.content) (p.lines source)
    return List.intercalate ['\n'] lines

/-- What stands before a closing, if it is not empty and there are but blanks behind the closing. -/
def enclosed? (closing : CodePoint) (t : Text) : Option Text :=
  let inside := t.takeWhile fun c => c ≠ closing
  match t.dropWhile fun c => c ≠ closing with
  | [] => none
  | _ :: rest => if !inside.isEmpty && rest.all CodePoint.isBlank then some inside else none

/-- The text behind a word and the blanks before it, if it starts that way. -/
def behind? (word t : Text) : Option Text :=
  let t := t.dropWhile CodePoint.isBlank
  if word.isPrefixOf t then some (t.drop word.length) else none

/-- The include that a line of a shader asks for.  There may be blanks around the parts of it. -/
def shaderDirective? (line : Text) : Option (Text × IncludeType) := do
  let t ← behind? (text "include") (← behind? (text "#") line)
  match behind? (text "\"") t with
  | some t => return (← enclosed? '"' t, .relative)
  | none => return (← enclosed? '>' (← behind? (text "<") t), .standard)

/-- The preprocessor of shaders. -/
def shader : Preprocessor where
  lines := Text.splitLines
  directive? := shaderDirective?

end Preprocessor

/-! ## Checksums -/

namespace Checksum

/-- The polynomial, with its lowest power in the highest bit. -/
def polynomial : UInt32 := 0xEDB88320

/-- Divide out a bit. -/
def shift (crc : UInt32) : UInt32 :=
  if crc &&& 1 = 1 then (crc >>> 1) ^^^ polynomial else crc >>> 1

/-- Take a byte in. -/
def addByte (crc : UInt32) (b : UInt8) : UInt32 := Nat.repeat shift 8 (crc ^^^ b.toUInt32)

/-- The cyclic redundancy check of bytes. -/
def ofBytes (bytes : Bytes) : UInt32 := bytes.foldl addByte 0xFFFFFFFF ^^^ 0xFFFFFFFF

end Checksum

/-! ## Compilers -/

/-- What a stand-in makes up. -/
structure StandIn where
  warningCount : Int := 0
  warnings : Text := []
  /-- The message of the error with which it rejects all sources, unless it is empty. -/
  error : Text := []
  deriving DecidableEq

namespace StandIn

/-- The words for a stage and the bytes of an expanded source: a header that tells the two apart. -/
def words (stage : Stage) (bytes : Bytes) : List Int :=
  [0x07230203, 0x10000, 0, stage.code, (Checksum.ofBytes bytes).toNat]

/-- The compiler, on a host with room for so many nested calls. -/
def compile (s : StandIn) (room : UInt64) : Compiler Text := fun call =>
  if s.error.isEmpty then do
    let expanded ← Preprocessor.shader.expand room.toNat 0 call.name call.source
    Attempt.tell expanded
    match Utf8.encode? expanded with
    | some bytes => return ⟨words call.stage bytes, s.warningCount, s.warnings⟩
    | none => throw .unencodable
  else throw (Fault.backend (.other s.error))

end StandIn

end ShaderBuild
