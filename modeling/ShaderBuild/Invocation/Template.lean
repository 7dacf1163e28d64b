/-
  Templates: string literals with replacement fields.

  A template is plain text with fields in braces; a brace written twice is plain text.  A field
  holds an expression, then perhaps an equals sign, a conversion behind an exclamation mark, and a
  format behind a colon.  The format is a template itself in which braces cannot be written twice,
  and whose fields have formats without fields.

  Where an expression ends is seen before it is read: brackets are matched, and quoted texts are
  passed over.  A quoted text in an expression may be a template again.

  * `Template.segment`: the plain text at the start of a template;
  * `Template.expression`: how long an expression is;
  * `Template.field`, `Template.pieces`: a field, and all of a template;
  * `Template.finding?`: the first fault of a template.
-/
import ShaderBuild.Invocation.Expression.Rules

namespace ShaderBuild.Template

open Expression.Terminal (isGap)

/-! ## Plain text -/

def openingBrace : CodePoint := '\x7b'

def closingBrace : CodePoint := '\x7d'

/-- How a segment of plain text ends. -/
inductive Boundary where
  /-- With a brace, which is written twice. -/
  | doubled
  /-- Before a field. -/
  | field
  /-- Before a closing brace. -/
  | closing
  | finish
  deriving DecidableEq

/-- How many code points of `t` go with the code point before it, which is no brace.  An escape by
    name takes its braces along, but no other escape takes a brace. -/
def passed (raw : Bool) (c : CodePoint) (t : Text) : Nat :=
  if raw || c ≠ '\\' then 0
  else match t with
    | [] => 0
    | d :: u =>
      if d = 'N' then
        if u.head? = some openingBrace then
          let name := u.takeWhile fun e => e ≠ closingBrace
          min (1 + name.length + 1) t.length
        else min 2 t.length
      else if d = openingBrace || d = closingBrace then 0
      else 1

/-- The length of the plain text at the start of a template, and how it ends.  Only at the top level
    a brace can be written twice; the first of the two counts. -/
def segment (raw nested : Bool) (t : Text) : Nat × Boundary :=
  match t with
  | [] => (0, .finish)
  | c :: u =>
    if c = openingBrace || c = closingBrace then
      if !nested && u.head? = some c then (1, .doubled)
      else (0, if c = openingBrace then .field else .closing)
    else
      let n := passed raw c u
      let (m, boundary) := segment raw nested (u.drop n)
      (1 + n + m, boundary)
  termination_by t.length
  decreasing_by simp only [List.length_drop, List.length_cons]; omega

/-! ## Expressions -/

/-- The quotes of a quoted text. -/
structure Quotes where
  mark : CodePoint
  isTriple : Bool
  deriving DecidableEq

/-- The opening bracket that a closing one needs. -/
def partner? (c : CodePoint) : Option CodePoint :=
  if c = ')' then some '(' else if c = ']' then some '['
  else if c = closingBrace then some openingBrace else none

def isOpening (c : CodePoint) : Bool := c = '(' || c = '[' || c = openingBrace

/-- Does an expression end at the code point when no bracket is open? -/
def endsExpression (c : CodePoint) : Bool := c = '!' || c = ':' || c = '=' || c = closingBrace

/-- Do the code point and an equals sign make a comparison? -/
def startsComparison (c : CodePoint) : Bool := c = '!' || c = '=' || c = '<' || c = '>'

/-- The length of the rest of an expression, within quotes or not, and within the brackets that are
    open with the innermost first. -/
def expression (quotes : Option Quotes) (brackets : List CodePoint) (t : Text) : Except Fault Nat :=
  match t with
  | [] => match quotes, brackets with
    | some _, _ => .error .openQuote
    | none, opening :: _ => .error (.unmatched opening)
    | none, [] => .error .openField
  | c :: u =>
    if c = '\\' then .error .backslash
    else match quotes with
      | some q =>
        if c ≠ q.mark then (expression quotes brackets u).map (· + 1)
        else if !q.isTriple then (expression none brackets u).map (· + 1)
        else if [c, c].isPrefixOf u then (expression none brackets (u.drop 2)).map (· + 3)
        else (expression quotes brackets u).map (· + 1)
      | none =>
        if c = '\'' || c = '"' then
          if [c, c].isPrefixOf u then (expression (some ⟨c, true⟩) brackets (u.drop 2)).map (· + 3)
          else (expression (some ⟨c, false⟩) brackets u).map (· + 1)
        else if isOpening c then
          if Expression.Terminal.maxDepth ≤ brackets.length then .error .tooManyBrackets
          else (expression none (c :: brackets) u).map (· + 1)
        else if c = '#' then .error .comment
        else if brackets.isEmpty && startsComparison c && u.head? = some '=' then
          (expression none brackets (u.drop 1)).map (· + 2)
        else if brackets.isEmpty && endsExpression c then .ok 0
        else match partner? c, brackets with
          | none, _ => (expression none brackets u).map (· + 1)
          | some _, [] => .error (.unmatched c)
          | some opening, bracket :: rest =>
            if bracket = opening then (expression none rest u).map (· + 1)
            else .error (.mismatched c bracket)
  termination_by t.length
  decreasing_by all_goals simp only [List.length_drop, List.length_cons]; omega

/-! ## Fields -/

/-- A reader of a part of a template: how long the part at the start of a text is. -/
abbrev Reader := Text → Except Finding Nat

/-- A fault that is cited as far as the template has been read. -/
def found {α : Type} (r : Except Fault α) : Except Finding α :=
  match r with
  | .error f => .error { fault := f }
  | .ok a => .ok a

/-- The length of the expression of a field, which must not be blank; `check` tells what is wrong
    with it. -/
def operand (check : Text → Option Finding) : Reader := fun t => do
  let n ← found (expression none [] t)
  let rest := t.drop n
  if (t.take n).all isGap then match rest.head? with
    | none => found (throw .emptyField)
    | some c => found (throw (if c = closingBrace then .emptyField else .emptyBefore c))
  else match check (t.take n) with
    | some f => throw (f.over (rest.count ('\n' : CodePoint)))
    | none => return n

/-- The length of an equals sign and the blanks after it; zero if there is none. -/
def equalsSign (t : Text) : Nat :=
  if t.head? = some '=' then
    1 + ((t.drop 1).takeWhile fun c => isGap c || c = '\r' || c = '\x0b').length
  else 0

/-- The length of a conversion; zero if there is none. -/
def conversion (t : Text) : Except Fault Nat :=
  if t.head? = some '!' then match t.drop 1 with
    | [] => .error .openField
    | c :: _ => if c = 's' || c = 'r' || c = 'a' then .ok 2 else .error .conversion
  else .ok 0

/-- The length of a format behind its colon; zero if there is none. -/
def formatting (format : Reader) : Reader := fun t =>
  if t.head? = some ':' then match t.drop 1 with
    | [] => found (.error .openField)
    | rest => (format rest).map (· + 1)
  else .ok 0

/-- The length of a field behind its opening brace. -/
def field (check : Text → Option Finding) (format : Reader) : Reader := fun t => do
  let n ← operand check t
  let n := n + equalsSign (t.drop n)
  let n := n + (← found (conversion (t.drop n)))
  let n := n + (← formatting format (t.drop n))
  if (t.drop n).head? = some closingBrace then return n + 1 else found (throw .openField)

/-! ## Templates -/

/-- The length of a template, which at the top level must be all of the text.  There may be fields
    if there is a way to read them. -/
def pieces (raw nested : Bool) (field? : Option Reader) (t : Text) : Except Finding Nat :=
  let (n, boundary) := segment raw nested t
  if boundary = .closing && !nested then found (.error .loneBrace)
  else match if raw then .ok [] else Escape.unescape (t.take n) with
    | .error f => found (.error (.escape f))
    | .ok _ => match boundary, _h : t.drop n with
      | .doubled, _ :: u => (pieces raw nested field? u).map (n + 1 + ·)
      | .field, _ :: u => match field? with
        | none => found (.error .nestedTooDeep)
        | some field => match field u with
          | .error f => .error f
          | .ok m => (pieces raw nested field? (u.drop m)).map (n + 1 + m + ·)
      | .doubled, [] | .field, [] | .closing, _ | .finish, _ => .ok n
  termination_by t.length
  decreasing_by
    all_goals
      have := congrArg List.length _h
      simp only [List.length_drop, List.length_cons] at this ⊢
      omega

/-- The length of all of a template.  The formats of its fields may have fields, but not the formats
    of those. -/
def whole (check : Text → Option Finding) (raw : Bool) : Reader :=
  let inner := field check (pieces raw true none)
  let outer := field check (pieces raw true (some inner))
  pieces raw false (some outer)

/-! ## Literals in expressions -/

/-- What is wrong with adjacent literals in an expression, and otherwise their kind; `template?`
    tells what is wrong with a template.  Literals of bytes stand alone. -/
def literals (template? : Bool → Text → Option Finding) (isBytes? : Option Bool) :
    List Expression.Terminal → Except Finding Expression.Kind
  | [] => .ok .literal
  | t :: ts => do
    let l := Shape.literal t.spelling
    if l.isBytes && l.body.any fun c => 0x80 ≤ c.val then found (throw .nonAsciiBytes)
    if isBytes? = some !l.isBytes then found (throw .mixedLiterals)
    if l.isTemplate then match template? l.isRaw l.body with
      | some ⟨f, none⟩ => found (throw (.within f))
      | some f => throw (f.over (t.below - t.spelling.count ('\n' : CodePoint)))
      | none => pure ()
    let kind ← literals template? (some l.isBytes) ts
    return if l.isTemplate then .template else kind

/-- What is wrong with a template in which templates are nested less than `depth` deep. -/
def findingWithin : Nat → Bool → Text → Option Finding
  | 0, _, _ => none
  | depth + 1, raw, body =>
    match whole (Expression.finding? (literals (findingWithin depth) none)) raw body with
    | .error f => some f
    | .ok _ => none

/-- What is wrong with a template, raw or not.  Each template is longer than those in it. -/
def finding? (raw : Bool) (body : Text) : Option Finding :=
  findingWithin (body.length + 1) raw body

end ShaderBuild.Template
