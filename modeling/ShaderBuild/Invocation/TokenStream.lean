/-
  Streams of tokens, and parsers on them.

  A stream is what is left of a sequence of tokens.  Behind the last token, and from the first end
  of the input on, it stands still at an end of the input.  A parser that fails leaves the stream
  where it stood at that point.

  * `TokenStream`, `current`, `next`, `peek`, `meets`;
  * `Parser`: a computation on a stream that may fail;
  * `Parser.expect`: take a token that is expected, or fail citing the token that stands there;
  * `Parser.ident`, `Parser.int`, `Parser.str`, `Parser.punct`, `Parser.finish`: the same for tokens
    of which the value is read off.
-/
import ShaderBuild.Invocation.Tokenize

namespace ShaderBuild

namespace Expectation

/-- The kind of the tokens that are expected. -/
def kind : Expectation → Token.Kind
  | .identifier => .ident
  | .integer => .int
  | .string => .str
  | .symbol _ => .punct

/-- The value that they must have, if they must have one. -/
def value : Expectation → Datum
  | .identifier | .integer | .string => .absent
  | .symbol t => .text t

end Expectation

/-- What is left of a sequence of tokens. -/
structure TokenStream where
  rest : List Token
  deriving DecidableEq

namespace TokenStream

/-- The end of the input where no token tells it. -/
def impliedEnd : Token := ⟨.finish, ⟨1, 0, [], defaultOrigin⟩⟩

/-- The stream of a sequence of tokens. -/
def ofTokens (tokens : List Token) : TokenStream := ⟨tokens⟩

/-- The stream of the tokens of a text. -/
def ofText (t origin : Text) : Except Fault TokenStream := (tokenize t origin).map ofTokens

/-- The token at which the stream stands. -/
def current (s : TokenStream) : Token := s.rest.headD impliedEnd

/-- Does the stream stand at the end of the input? -/
def isEmpty (s : TokenStream) : Bool := s.current.isFinish

/-- The stream behind its current token; at the end of the input it stays. -/
def next (s : TokenStream) : TokenStream := if s.isEmpty then s else ⟨s.rest.tail⟩

/-- Is the current token of a kind? -/
def peek (s : TokenStream) (kind : Token.Kind) : Bool := s.current.kind = kind

/-- Has the current token a value, if one is asked for? -/
def peekValue (s : TokenStream) (value : Datum) : Bool :=
  value = .absent || s.current.value.sameAs value

/-- Is the current token what is expected? -/
def meets (s : TokenStream) (what : Expectation) : Bool :=
  s.peek what.kind && s.peekValue what.value

/-- Does the current token denote just this? -/
def peekContent (s : TokenStream) (content : Token.Content) : Bool := s.current.content = content

/-- The number of tokens before the end of the input. -/
def size (s : TokenStream) : Nat := (s.rest.takeWhile fun t => !t.isFinish).length

theorem size_next (s : TokenStream) : s.next.size = s.size - 1 := by
  obtain ⟨rest⟩ := s
  cases rest with
  | nil => simp [next, isEmpty, current, size, impliedEnd, Token.isFinish, Token.kind,
      Token.Content.kind]
  | cons t ts =>
    by_cases h : t.isFinish <;> simp [next, isEmpty, current, size, h]

theorem size_pos_of_not_isEmpty {s : TokenStream} (h : s.isEmpty = false) : 0 < s.size := by
  obtain ⟨rest⟩ := s
  cases rest with
  | nil => simp [isEmpty, current, impliedEnd, Token.isFinish, Token.kind, Token.Content.kind] at h
  | cons t ts =>
    have ht : t.isFinish = false := by simpa [isEmpty, current] using h
    simp [size, ht]

end TokenStream

/-- A computation on a stream of tokens; the stream keeps its place when the computation fails. -/
def Parser (α : Type) := TokenStream → Except Fault α × TokenStream

namespace Parser

/-- Take the current token if it is what is expected. -/
def expect (what : Expectation) : Parser Token := fun s =>
  if s.meets what then (.ok s.current, s.next)
  else (.error (.config (.expected what s.current) s.current.span), s)

/-- A token that was taken, and what it gave. -/
structure Taken (α : Type) where
  value : α
  token : Token

/-- Take the current token if a partial function gives something for what it denotes. -/
def take (what : Expectation) (value? : Token.Content → Option α) : Parser (Taken α) := fun s =>
  match value? s.current.content with
  | some a => (.ok ⟨a, s.current⟩, s.next)
  | none => (.error (.config (.expected what s.current) s.current.span), s)

/-- Two parsers one after the other. -/
def andThen (p : Parser α) (q : α → Parser β) : Parser β := fun s =>
  match p s with
  | (.ok a, s) => q a s
  | (.error f, s) => (.error f, s)

/-- A parser that takes nothing. -/
def yield (a : α) : Parser α := fun s => (.ok a, s)

/-- A parser that fails. -/
def fail (f : Fault) : Parser α := fun s => (.error f, s)

instance : Monad Parser where
  pure := yield
  bind := andThen

/-- A parser that puts no token back. -/
def Steady (p : Parser α) : Prop := ∀ s, (p s).2.size ≤ s.size

theorem steady_yield (a : α) : Steady (yield a) := fun _ => Nat.le_refl _

theorem steady_fail (f : Fault) : Steady (fail f : Parser α) := fun _ => Nat.le_refl _

theorem steady_andThen {p : Parser α} {q : α → Parser β} (hp : Steady p) (hq : ∀ a, Steady (q a)) :
    Steady (andThen p q) := by
  intro s
  have h := hp s
  rcases hps : p s with ⟨r, s'⟩
  rw [hps] at h
  cases r with
  | ok a => simpa [andThen, hps] using Nat.le_trans (hq a s') h
  | error f => simpa [andThen, hps] using h

theorem steady_take (what : Expectation) (value? : Token.Content → Option α) :
    Steady (take what value?) := by
  intro s
  unfold take
  split
  · simp [TokenStream.size_next]
  · exact Nat.le_refl _

/-- Take an identifier. -/
def ident : Parser (Taken Text) := take .identifier fun
  | .ident name => some name
  | _ => none

/-- Take an integer. -/
def int : Parser (Taken Int) := take .integer fun
  | .int n => some n
  | _ => none

/-- Take a string. -/
def str : Parser (Taken Text) := take .string fun
  | .str t => some t
  | _ => none

/-- Take a given symbol. -/
def punct (symbol : Text) : Parser (Taken Unit) := take (.symbol symbol) fun content =>
  if content = .punct symbol then some () else none

/-- Take a given symbol if it stands there, and tell whether it does. -/
def punct? (symbol : Text) : Parser Bool := fun s =>
  if s.peekContent (.punct symbol) then (.ok true, s.next) else (.ok false, s)

/-- Check that the stream stands at the end of the input. -/
def finish : Parser Unit := fun s =>
  if s.isEmpty then (.ok (), s)
  else (.error (.config (.unexpected s.current) s.current.span), s)

end Parser

end ShaderBuild
