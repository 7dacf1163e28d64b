/-
  Tokens: what the lexemes of an invocation denote.

  * `Token.Content`: an identifier, an integer, another number, a string, a symbol, the end of the
    input, or anything else under the name of a kind;
  * `Token`: a content with its span;
  * `Token.kind`, `Token.value`: the two sides of a content;
  * `Token.describe`: how diagnostics name a token.
-/
import ShaderBuild.Datum
import ShaderBuild.Invocation.Span

namespace ShaderBuild

/-- What a token denotes. -/
inductive Token.Content where
  | ident (name : Text)
  | int (value : Int)
  /-- A number that is no integer, or too long an integer, as it is spelled. -/
  | number (numeral : Text)
  | str (contents : Text)
  | punct (symbol : Text)
  /-- The end of the input. -/
  | finish
  /-- A kind and a value that no text gives together. -/
  | other (kind : Text) (value : Datum)
  deriving DecidableEq

/-- A token of an invocation. -/
structure Token where
  content : Token.Content
  span : Span
  deriving DecidableEq

namespace Token

/-- The kinds of tokens. -/
inductive Kind where
  | ident
  | int
  | number
  | str
  | punct
  | finish
  /-- A kind that no text gives. -/
  | other (name : Text)
  deriving DecidableEq

/-- The name of a kind. -/
def Kind.name : Kind → Text
  | .ident => text "ident"
  | .int => text "int"
  | .number => text "number"
  | .str => text "str"
  | .punct => text "punct"
  | .finish => text "end"
  | .other name => name

/-- The kinds that texts give. -/
def Kind.ofTexts : List Kind := [.ident, .int, .number, .str, .punct, .finish]

/-- The kind with a name. -/
def Kind.ofName (name : Text) : Kind :=
  (Kind.ofTexts.find? fun k => k.name = name).getD (.other name)

/-- The kind of what a token denotes. -/
def Content.kind : Content → Kind
  | .ident _ => .ident
  | .int _ => .int
  | .number _ => .number
  | .str _ => .str
  | .punct _ => .punct
  | .finish => .finish
  | .other kind _ => .ofName kind

/-- The value of what a token denotes. -/
def Content.value : Content → Datum
  | .ident s | .number s | .str s | .punct s => .text s
  | .int n => .int n
  | .finish => .absent
  | .other _ value => value

/-- The content of a kind with a value. -/
def Content.make (kind : Kind) (value : Datum) : Content :=
  match kind, value with
  | .ident, .text s => .ident s
  | .int, .int n => .int n
  | .number, .text s => .number s
  | .str, .text s => .str s
  | .punct, .text s => .punct s
  | .finish, .absent => .finish
  | kind, value => .other kind.name value

def kind (t : Token) : Kind := t.content.kind

def value (t : Token) : Datum := t.content.value

/-- Is it the end of the input? -/
def isFinish (t : Token) : Bool := t.kind = .finish

/-- How diagnostics name the token: its kind and its spelling. -/
def describe (t : Token) : Text :=
  if t.isFinish then text "end of input"
  else t.kind.name ++ text " " ++ Quoted.quote t.span.spelling

/-- The token with its value, for debugging; none if the value is too long an integer. -/
def form? (t : Token) : Option Text :=
  t.value.form?.map fun v => text "<Token " ++ t.kind.name ++ text " " ++ v ++ text ">"

end Token

end ShaderBuild
