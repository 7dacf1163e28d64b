/-
  Terminals: the words, numbers, quoted texts and operators of an expression.

  They are read more strictly than the lexemes of an invocation.  A number must not run into a word,
  except into one that can follow an expression; a word is an identifier; a text in single quotes
  ends in its line.  Blanks and line feeds separate terminals and mean nothing else.

  * `Terminal`, `Terminal.Form`;
  * `Terminal.number`: the length of a number;
  * `Terminal.scan`: the terminals of an expression, or the first that is ill-formed.
-/
import ShaderBuild.Invocation.Shape
import ShaderBuild.Invocation.Template.Fault
import ShaderBuild.Text.Identifier

namespace ShaderBuild.Expression

open Template (Fault Finding)

/-- The forms of terminals. -/
inductive Form where
  /-- A name. -/
  | word
  /-- A word with a meaning of its own, or an operator. -/
  | fixed
  | number
  | quoted
  deriving DecidableEq

/-- A terminal of an expression. -/
structure Terminal where
  form : Form
  spelling : Text
  /-- The line feeds from its start to the end of the expression. -/
  below : Nat
  deriving DecidableEq

namespace Terminal

/-! ## Numbers -/

/-- The words that may follow a number at once, as they start. -/
def followers : List Text :=
  ["and", "else", "for", "if", "in", "is", "or", "not"].map text

/-- Does the code point go on with a word?  All code points above ASCII are taken for that. -/
def isWordPart (c : CodePoint) : Bool :=
  c.isDigit || (65 ≤ c.val && c.val ≤ 90) || (97 ≤ c.val && c.val ≤ 122) || c = '_' || 0x80 ≤ c.val

/-- A number of a form ends where no word of ASCII goes on. -/
def ending (form : Number) (t : Text) : Except Fault Unit :=
  if (t.head?.any fun c => isWordPart c && c.val < 0x80) && !followers.any (·.isPrefixOf t) then
    .error (.number form)
  else .ok ()

/-- What is wrong with a number that should go on with a digit. -/
def badDigit (form : Number) (t : Text) : Fault :=
  match form, t with
  | .octal, c :: _ | .binary, c :: _ => if c.isDigit then .digit c form else .number form
  | _, _ => .number form

/-- The length of a run of digits, each with at most one low line before. -/
def digits (form : Number) (p : CodePoint → Bool) : Text → Except Fault Nat
  | [] => .ok 0
  | c :: t =>
    if p c then (digits form p t).map (· + 1)
    else if c = '_' then match t with
      | [] => .error (badDigit form [])
      | d :: u => if p d then (digits form p u).map (· + 2) else .error (badDigit form (d :: u))
    else .ok 0

/-- The length of the digits at the start of a text, none if it starts with no digit. -/
def plainDigits (t : Text) : Except Fault Nat :=
  if t.head?.any CodePoint.isDigit then digits .decimal CodePoint.isDigit t else .ok 0

/-- The length of the sign of an imaginary number, behind a number. -/
def imaginary (t : Text) : Except Fault Nat :=
  if t.head?.any fun c => Shape.isEither c 'j' 'J' then do
    ending .imaginary (t.drop 1)
    return 1
  else do
    ending .decimal t
    return 0

/-- The length of an exponent and what follows it in a number. -/
def exponent (t : Text) : Except Fault Nat :=
  if t.head?.any fun c => Shape.isEither c 'e' 'E' then do
    let sign := if (t.drop 1).head?.any fun c => Shape.isEither c '+' '-' then 1 else 0
    let n ← plainDigits (t.drop (1 + sign))
    if n ≠ 0 then return 1 + sign + n + (← imaginary (t.drop (1 + sign + n)))
    else if sign ≠ 0 then throw (.number .decimal)
    else do
      ending .decimal t
      return 0
  else imaginary t

/-- The length of what follows the digits of a number. -/
def afterDigits (t : Text) : Except Fault Nat :=
  if t.head? = some '.' then do
    let n ← plainDigits (t.drop 1)
    return 1 + n + (← exponent (t.drop (1 + n)))
  else exponent t

/-- The length of a number without a base: digits, a fraction, an exponent.  Zeros in front of an
    integer are refused. -/
def plainNumber (t : Text) : Except Fault Nat := do
  let n ← plainDigits t
  let rest := t.drop n
  let goesOn := rest.head?.any fun c : CodePoint =>
    c = '.' || Shape.isEither c 'e' 'E' || Shape.isEither c 'j' 'J'
  if t.head? = some '0' && !goesOn
      && (t.take n).any fun c : CodePoint => c ≠ '0' && c ≠ '_' then
    throw .leadingZeros
  else return n + (← afterDigits rest)

/-- The length of the digits of a number whose base is told by a letter, behind that letter. -/
def basedDigits (form : Number) (base : Nat) (t : Text) : Except Fault Nat := do
  let low := if t.head? = some '_' then 1 else 0
  let u := t.drop low
  if u.head?.any (Shape.isDigitOf base) then
    let n ← digits form (Shape.isDigitOf base) u
    let rest := u.drop n
    if rest.head?.any CodePoint.isDigit then throw (badDigit form rest)
    ending form rest
    return low + n
  else throw (badDigit form u)

/-- The length of the number that a text starts with. -/
def number (t : Text) : Except Fault Nat :=
  let based (lower upper : CodePoint) : Bool :=
    t.head? = some '0' && (t.drop 1).head?.any fun c => Shape.isEither c lower upper
  if based 'x' 'X' then (basedDigits .hexadecimal 16 (t.drop 2)).map (· + 2)
  else if based 'o' 'O' then (basedDigits .octal 8 (t.drop 2)).map (· + 2)
  else if based 'b' 'B' then (basedDigits .binary 2 (t.drop 2)).map (· + 2)
  else plainNumber t

/-! ## Words -/

/-- The words with a meaning of their own. -/
def reserved : List Text :=
  ["False", "None", "True", "and", "as", "assert", "async", "await", "break", "class", "continue",
   "def", "del", "elif", "else", "except", "finally", "for", "from", "global", "if", "import", "in",
   "is", "lambda", "nonlocal", "not", "or", "pass", "raise", "return", "try", "while", "with",
   "yield"].map text

/-- The first code point of a word that an identifier cannot have there. -/
def stranger? : Text → Option CodePoint
  | [] => none
  | c :: t => if c.startsIdentifier then t.find? (!·.continuesIdentifier) else some c

/-- The word that a text starts with. -/
def word (t : Text) : Except Fault (Form × Nat) :=
  let w := t.takeWhile isWordPart
  match stranger? w with
  | some c => .error (.character c)
  | none => .ok (if reserved.contains w then .fixed else .word, w.length)

/-! ## Quoted texts and operators -/

/-- The number of code points up to the end of a text in three quotes; none if it is not closed. -/
def tripleClosing? (quote : Text) : Text → Option Nat
  | [] => none
  | c :: t =>
    if quote.isPrefixOf (c :: t) then some quote.length else (tripleClosing? quote t).map (· + 1)

/-- The quoted text that a text starts with, behind `n` letters and in quotes `q`. -/
def quotedText (t : Text) (n : Nat) (q : CodePoint) : Except Fault (Form × Nat) :=
  let rest := t.drop n
  let closed? :=
    if [q, q, q].isPrefixOf rest then (tripleClosing? [q, q, q] (rest.drop 3)).map (· + 3)
    else (Shape.closing? [q] (rest.drop 1)).map (· + 1)
  match closed? with
  | some k => .ok (.quoted, n + k)
  | none => .error .brokenQuote

/-- The operator that a text starts with.  A printable code point that is none is left to the rules
    of expressions, which have no place for it. -/
def operator (c : CodePoint) (t : Text) : Except Fault (Form × Nat) :=
  if (text "<>").isPrefixOf t then .ok (.fixed, 2)
  else match Shape.symbol? t with
    | some n => .ok (.fixed, n)
    | none => if c.isPrintable then .ok (.fixed, 1) else .error (.character c)

/-- The form and the length of the terminal that a text starts with. -/
def one (c : CodePoint) (t : Text) : Except Fault (Form × Nat) :=
  match Shape.quote? (c :: t) with
  | some (n, q) => quotedText (c :: t) n q
  | none =>
    if c.isDigit then (number (c :: t)).map (.number, ·)
    else if c = '.' && t.head?.any CodePoint.isDigit then
      (afterDigits (c :: t)).map (.number, ·)
    else if isWordPart c then word (c :: t)
    else operator c (c :: t)

/-! ## All terminals -/

/-- Does the code point separate terminals? -/
def isGap (c : CodePoint) : Bool := c = ' ' || c = '\t' || c = '\n' || c = '\x0c'

/-- The most brackets that are open at a time. -/
def maxDepth : Nat := 200

/-- The terminals of a text with `below` line feeds, within `depth` brackets. -/
def scanFrom (below depth : Nat) (t : Text) : Except Finding (List Terminal) :=
  match t with
  | [] => .ok []
  | c :: u =>
    if isGap c then scanFrom (if c = '\n' then below - 1 else below) depth u
    else match one c u with
      | .error f => .error ⟨f, some below⟩
      | .ok (form, n) =>
        let spelling := c :: u.take (n - 1)
        let opens := (text "([\x7b").contains c
        if opens && maxDepth ≤ depth then .error ⟨.tooDeep, some below⟩
        else
          let depth := if opens then depth + 1
            else if (text ")]\x7d").contains c then depth - 1 else depth
          (scanFrom (below - spelling.count ('\n' : CodePoint)) depth (u.drop (n - 1))).map
            (⟨form, spelling, below⟩ :: ·)
  termination_by t.length
  decreasing_by all_goals simp only [List.length_drop, List.length_cons]; omega

/-- The terminals of an expression. -/
def scan (t : Text) : Except Finding (List Terminal) :=
  scanFrom (t.count ('\n' : CodePoint)) 0 t

end Terminal

end ShaderBuild.Expression
