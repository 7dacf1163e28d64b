/-
  String literals: what the spelling of a string denotes.

  A literal has a prefix, an opening quote or three, a body and the closing quotes.  The prefix
  tells whether the body is raw (escapes mean nothing), whether the literal denotes bytes, and
  whether it is a template with replacement fields; only the others denote a text.  Within a
  literal, carriage returns count as line feeds, alone or before a line feed.

  * `StringLiteral.Fault`: what is wrong with a literal;
  * `StringLiteral.read`: the denotation of a literal, or what is wrong with it.
-/
import ShaderBuild.Invocation.Shape
import ShaderBuild.Invocation.Template

namespace ShaderBuild

namespace StringLiteral

/-- What is wrong with a literal. -/
inductive Fault where
  /-- It holds surrogates, the first from `first` to `last`. -/
  | surrogates (first last : Nat) (c : CodePoint)
  | nullByte
  /-- A string of one quote breaks off in its line, the given one of the literal. -/
  | unterminated (line : Nat)
  /-- An escape is ill-formed, in a literal with that many lines. -/
  | escape (fault : Escape.Fault) (lines : Nat)
  /-- A bytes literal holds something else than ASCII. -/
  | nonAsciiBytes (lines : Nat)
  /-- A bytes literal has an ill-formed escape at the offset. -/
  | bytesEscape (offset lines : Nat)
  /-- A template is ill-formed, in the given line of the literal. -/
  | template (fault : Template.Fault) (line : Nat)
  /-- A template is not a constant. -/
  | notConstant
  deriving DecidableEq

/-- The place of a fault of the literal's grammar. -/
def place (line : Nat) : Text := text " (<unknown>, line " ++ Numeral.ofNat line ++ text ")"

/-- The wording of a fault. -/
def Fault.message : Fault → Text
  | .surrogates first last c =>
    text "'utf-8' codec can't encode character" ++
      (if first = last then text " '" ++ Quoted.numbered c ++ text "' in position "
          ++ Numeral.ofNat first
       else text "s in position " ++ Numeral.ofNat first ++ text "-" ++ Numeral.ofNat last)
      ++ text ": surrogates not allowed"
  | .nullByte => text "source code string cannot contain null bytes"
  | .unterminated line =>
    text "unterminated string literal (detected at line " ++ Numeral.ofNat line ++ text ")"
      ++ place 1
  | .escape f lines => f.message ++ place lines
  | .nonAsciiBytes lines => text "bytes can only contain ASCII literal characters" ++ place lines
  | .bytesEscape offset lines =>
    text "(value error) invalid \\x escape at position " ++ Numeral.ofNat offset ++ place lines
  | .template f line => f.message line ++ place line
  | .notConstant => text "malformed node or string on line 1: <ast.JoinedStr object>"

/-- What a literal denotes. -/
inductive Value where
  | text (t : Text)
  | bytes
  deriving DecidableEq

/-- The first run of surrogates of a text that starts at an offset. -/
def surrogatesFrom? (at_ : Nat) : Text → Option Fault
  | [] => none
  | c :: t =>
    if c.isSurrogate then
      some (.surrogates at_ (at_ + (t.takeWhile CodePoint.isSurrogate).length) c)
    else surrogatesFrom? (at_ + 1) t

/-- The line of the first line feed in a body, counted from `line`, that no backslash takes away. -/
def breakFrom? (line : Nat) : Text → Option Nat
  | [] => none
  | c :: t =>
    if c = '\\' then match t with
      | [] => none
      | d :: u => breakFrom? (if d = '\n' then line + 1 else line) u
    else if c = '\n' then some line
    else breakFrom? line t

/-- The offset of the first ill-formed escape of a bytes literal. -/
def badBytesFrom? (at_ : Nat) : Text → Option Nat
  | [] => none
  | c :: t =>
    if c = '\\' then match t with
      | [] => none
      | d :: u =>
        if d = 'x' && ((u.take 2).takeWhile fun e => e.hexValue?.isSome).length < 2 then some at_
        else badBytesFrom? (at_ + 2) u
    else badBytesFrom? (at_ + 1) t

/-- The denotation of a literal without carriage returns. -/
def readParts (l : Shape.Literal) : Except Fault Value :=
  let lines := l.body.count ('\n' : CodePoint) + 1
  match if l.quotes = 1 then breakFrom? 1 l.body else none with
  | some line => .error (.unterminated line)
  | none =>
    if l.isBytes then
      if l.body.any fun c => 0x80 ≤ c.val then .error (.nonAsciiBytes lines)
      else match if l.isRaw then none else badBytesFrom? 0 l.body with
        | some offset => .error (.bytesEscape offset lines)
        | none => .ok .bytes
    else if l.isTemplate then
      match Template.finding? l.isRaw l.body with
      | some f => .error (.template f.fault (lines - f.below?.getD 0))
      | none => .error .notConstant
    else match if l.isRaw then .ok l.body else Escape.unescape l.body with
      | .error f => .error (.escape f lines)
      | .ok t => .ok (.text t)

/-- The denotation of the spelling of a literal. -/
def read (spelling : Text) : Except Fault Value :=
  match surrogatesFrom? 0 spelling with
  | some f => .error f
  | none =>
    if spelling.any fun c => c.val = 0 then .error .nullByte
    else readParts (Shape.literal (Text.unifyLineEnds spelling))

end StringLiteral

end ShaderBuild
