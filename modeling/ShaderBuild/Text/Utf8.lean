/-
  UTF-8.  Bytes are read as a sequence of segments: a code point, or the longest run of bytes that
  starts a well-formed sequence and does not complete one (at least one byte).  All ways of decoding
  differ only in what they do with the ill-formed runs.

  * `Utf8.encode?`: the bytes of a text, if it has no surrogates; `Utf8.encodeLossy` writes a
    question mark for each of them;
  * `Utf8.decode`: the text of well-formed bytes, or the first ill-formed run;
  * `Utf8.decodeSkipping` leaves ill-formed bytes out;
  * `Utf8.decodeEscaping`, `Utf8.encodeEscaped?`: ill-formed bytes stand as surrogates from U+DC80
    to U+DCFF, which are written back as the bytes they stand for.
-/
import ShaderBuild.Text.Numeral

namespace ShaderBuild.Utf8

/-! ## Encoding -/

/-- The continuation byte with the given six bits. -/
def tail (n : Nat) : UInt8 := .ofNat (0x80 + n % 64)

/-- The bytes of a code point by the general scheme, which makes sense for surrogates too. -/
def encodePoint (c : CodePoint) : Bytes :=
  let n := c.val
  if n < 0x80 then [.ofNat n]
  else if n < 0x800 then [.ofNat (0xC0 + n / 64), tail n]
  else if n < 0x10000 then [.ofNat (0xE0 + n / 4096), tail (n / 64), tail n]
  else [.ofNat (0xF0 + n / 262144), tail (n / 4096), tail (n / 64), tail n]

/-- Can the text be encoded: is it free of surrogates? -/
def isEncodable (t : Text) : Bool := t.all fun c => !c.isSurrogate

/-- The bytes of a text; none if it holds a surrogate. -/
def encode? (t : Text) : Option Bytes :=
  if isEncodable t then some (t.flatMap encodePoint) else none

/-- The bytes of a text, with a question mark for each surrogate. -/
def encodeLossy (t : Text) : Bytes :=
  t.flatMap fun c => if c.isSurrogate then [63] else encodePoint c

/-- The bytes of a text in which the surrogates from U+DC80 to U+DCFF stand for the bytes 80 to FF;
    none if it holds another surrogate. -/
def encodeEscaped? : Text → Option Bytes
  | [] => some []
  | c :: t =>
    if 0xDC80 ≤ c.val ∧ c.val ≤ 0xDCFF then
      (encodeEscaped? t).map (UInt8.ofNat (c.val - 0xDC00) :: ·)
    else if c.isSurrogate then none
    else (encodeEscaped? t).map (encodePoint c ++ ·)

/-! ## Decoding -/

/-- What is wrong with an ill-formed run of bytes. -/
inductive Reason where
  /-- No sequence starts with the byte. -/
  | invalidStart
  /-- The byte after the run does not continue it. -/
  | invalidContinuation
  /-- The input ends within the sequence. -/
  | unexpectedEnd
  deriving DecidableEq

/-- The wording of a reason. -/
def Reason.message : Reason → Text
  | .invalidStart => text "invalid start byte"
  | .invalidContinuation => text "invalid continuation byte"
  | .unexpectedEnd => text "unexpected end of data"

/-- A part of a sequence of bytes. -/
inductive Segment where
  | point (c : CodePoint)
  | illFormed (run : Bytes) (reason : Reason)
  deriving DecidableEq

/-- What a first byte announces: the number of bytes to come, the bounds of the next one, and the
    bits that the first byte contributes. -/
structure Lead where
  tails : Nat
  low : UInt8
  high : UInt8
  bits : Nat

/-- What a byte announces as the first of a sequence of two to four. -/
def lead? (b : UInt8) : Option Lead :=
  if 0xC2 ≤ b ∧ b ≤ 0xDF then some ⟨1, 0x80, 0xBF, b.toNat - 0xC0⟩
  else if b = 0xE0 then some ⟨2, 0xA0, 0xBF, 0⟩
  else if b = 0xED then some ⟨2, 0x80, 0x9F, 13⟩
  else if 0xE1 ≤ b ∧ b ≤ 0xEF then some ⟨2, 0x80, 0xBF, b.toNat - 0xE0⟩
  else if b = 0xF0 then some ⟨3, 0x90, 0xBF, 0⟩
  else if b = 0xF4 then some ⟨3, 0x80, 0x8F, 4⟩
  else if 0xF1 ≤ b ∧ b ≤ 0xF3 then some ⟨3, 0x80, 0xBF, b.toNat - 0xF0⟩
  else none

/-- Read the remaining `tails` bytes of a sequence, of which `seen` are read and give `bits`: the
    segment, and the number of bytes taken. -/
def readTails (low high : UInt8) (bits : Nat) (seen : Bytes) : Nat → Bytes → Segment × Nat
  | 0, _ => (.point (.ofNat bits), 0)
  | _ + 1, [] => (.illFormed seen .unexpectedEnd, 0)
  | tails + 1, b :: rest =>
    if low ≤ b ∧ b ≤ high then
      let r := readTails 0x80 0xBF (bits * 64 + (b.toNat - 0x80)) (seen ++ [b]) tails rest
      (r.1, r.2 + 1)
    else (.illFormed seen .invalidContinuation, 0)

/-- The first segment of `b :: rest`, and the number of bytes of `rest` that belong to it. -/
def firstSegment (b : UInt8) (rest : Bytes) : Segment × Nat :=
  if b < 0x80 then (.point (.ofNat b.toNat), 0)
  else match lead? b with
    | some l => readTails l.low l.high l.bits [b] l.tails rest
    | none => (.illFormed [b] .invalidStart, 0)

/-- The segments of a sequence of bytes. -/
def segments : Bytes → List Segment
  | [] => []
  | b :: rest => (firstSegment b rest).1 :: segments (rest.drop (firstSegment b rest).2)
  termination_by bs => bs.length
  decreasing_by simp only [List.length_drop, List.length_cons]; omega

/-- An ill-formed run, and where it starts. -/
structure Fault where
  run : Bytes
  start : Nat
  reason : Reason
  deriving DecidableEq

/-- The wording of a fault. -/
def Fault.message (f : Fault) : Text :=
  let place := match f.run with
    | [b] => text "byte 0x" ++ Numeral.hexDigits 2 b.toNat ++ text " in position "
        ++ Numeral.ofNat f.start
    | run => text "bytes in position " ++ Numeral.ofNat f.start ++ text "-"
        ++ Numeral.ofNat (f.start + run.length - 1)
  text "'utf-8' codec can't decode " ++ place ++ text ": " ++ f.reason.message

/-- The text of segments that start at a byte offset, or the first ill-formed run. -/
def joinFrom : Nat → List Segment → Except Fault Text
  | _, [] => .ok []
  | at_, .point c :: rest =>
    match joinFrom (at_ + (encodePoint c).length) rest with
    | .ok t => .ok (c :: t)
    | .error f => .error f
  | at_, .illFormed run reason :: _ => .error ⟨run, at_, reason⟩

/-- The text of well-formed bytes, or the first ill-formed run. -/
def decode (bs : Bytes) : Except Fault Text := joinFrom 0 (segments bs)

/-- The text of bytes without the ill-formed runs. -/
def decodeSkipping (bs : Bytes) : Text :=
  (segments bs).filterMap fun
    | .point c => some c
    | .illFormed .. => none

/-- The text of bytes, with surrogates from U+DC80 to U+DCFF for the bytes of ill-formed runs. -/
def decodeEscaping (bs : Bytes) : Text :=
  (segments bs).flatMap fun
    | .point c => [c]
    | .illFormed run _ => run.map fun b => .ofNat (0xDC00 + b.toNat)

end ShaderBuild.Utf8
