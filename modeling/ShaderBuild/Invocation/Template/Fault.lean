/-
  What can be wrong with a template, and where it is said to be.

  * `Expression.Kind`: what kind of value an expression denotes, as far as faults name it;
  * `Expression.Number`: the ways to write a number;
  * `Expression.Misuse`: faults of an expression that is made of terminals;
  * `Template.Fault`: all faults of a template;
  * `Template.Finding`: a fault with its line.
-/
import ShaderBuild.Invocation.Escape
import ShaderBuild.Text.Printable

namespace ShaderBuild

namespace Expression

/-- The kinds of expressions. -/
inductive Kind where
  | name (spelling : Text)
  | attribute
  | subscript
  | call
  | starred
  | list
  | tuple
  | set
  | dictionary
  | lambda
  | operation
  | comparison
  | conditional
  | assignment
  | generator
  | listComprehension
  | setComprehension
  | dictionaryComprehension
  | yield
  | await
  | template
  | literal
  | constant (spelling : Text)
  | ellipsis
  deriving DecidableEq

/-- The word for a kind. -/
def Kind.word : Kind → Text
  | .name _ => text "name"
  | .attribute => text "attribute"
  | .subscript => text "subscript"
  | .call => text "function call"
  | .starred => text "starred"
  | .list => text "list"
  | .tuple => text "tuple"
  | .set => text "set display"
  | .dictionary => text "dict literal"
  | .lambda => text "lambda"
  | .operation => text "expression"
  | .comparison => text "comparison"
  | .conditional => text "conditional expression"
  | .assignment => text "named expression"
  | .generator => text "generator expression"
  | .listComprehension => text "list comprehension"
  | .setComprehension => text "set comprehension"
  | .dictionaryComprehension => text "dict comprehension"
  | .yield => text "yield expression"
  | .await => text "await expression"
  | .template => text "f-string expression"
  | .literal => text "literal"
  | .constant spelling => spelling
  | .ellipsis => text "ellipsis"

/-- The ways to write a number. -/
inductive Number where
  | decimal
  | hexadecimal
  | octal
  | binary
  | imaginary
  deriving DecidableEq

/-- The word for a way to write a number. -/
def Number.word : Number → Text
  | .decimal => text "decimal"
  | .hexadecimal => text "hexadecimal"
  | .octal => text "octal"
  | .binary => text "binary"
  | .imaginary => text "imaginary"

/-- What is wrong with an expression whose terminals are well-formed. -/
inductive Misuse where
  /-- The terminals are in no order that an expression has. -/
  | order
  /-- Two expressions stand side by side. -/
  | missingComma
  | missingElse
  /-- A command stands where it has to be called. -/
  | uncalled (name : Text)
  | assignTo (kind : Kind)
  | nameTo (kind : Kind)
  | equalsName
  | equals (kind : Kind)
  | equalsArgument
  | starred
  | doubleStarred
  | starredComprehension
  | bareTarget
  | dictionaryUnpacking
  | starredValue
  | missingValue
  | missingColon
  | lateUnpacking
  | bareGenerator
  /-- An argument without a name stands after one with a name, or after the unpacking of some. -/
  | latePositional (unpacking : Bool)
  | lateDefault
  | parenthesized
  | leadingSlash
  | secondSlash
  | slashAfterStar
  | slashStar
  | bareStar
  | starDefault
  | secondStar
  | keywordsDefault
  | afterKeywords
  | missingDefault
  deriving DecidableEq

/-- The wording of a misuse. -/
def Misuse.message : Misuse → Text
  | .order => text "invalid syntax"
  | .missingComma => text "invalid syntax. Perhaps you forgot a comma?"
  | .missingElse => text "expected 'else' after 'if' expression"
  | .uncalled name => text "Missing parentheses in call to '" ++ name
      ++ text "'. Did you mean " ++ name ++ text "(...)?"
  | .assignTo kind => text "cannot assign to " ++ kind.word
  | .nameTo kind => text "cannot use assignment expressions with " ++ kind.word
  | .equalsName => text "invalid syntax. Maybe you meant '==' or ':=' instead of '='?"
  | .equals kind => text "cannot assign to " ++ kind.word
      ++ text " here. Maybe you meant '==' instead of '='?"
  | .equalsArgument =>
    text "expression cannot contain assignment, perhaps you meant \"==\"?"
  | .starred => text "cannot use starred expression here"
  | .doubleStarred => text "cannot use double starred expression here"
  | .starredComprehension => text "iterable unpacking cannot be used in comprehension"
  | .bareTarget => text "did you forget parentheses around the comprehension target?"
  | .dictionaryUnpacking => text "dict unpacking cannot be used in dict comprehension"
  | .starredValue => text "cannot use a starred expression in a dictionary value"
  | .missingValue => text "expression expected after dictionary key and ':'"
  | .missingColon => text "':' expected after dictionary key"
  | .lateUnpacking => text "iterable argument unpacking follows keyword argument unpacking"
  | .bareGenerator => text "Generator expression must be parenthesized"
  | .latePositional unpacking => text "positional argument follows keyword argument"
      ++ if unpacking then text " unpacking" else []
  | .lateDefault => text "non-default argument follows default argument"
  | .parenthesized => text "Lambda expression parameters cannot be parenthesized"
  | .leadingSlash => text "at least one argument must precede /"
  | .secondSlash => text "/ may appear only once"
  | .slashAfterStar => text "/ must be ahead of *"
  | .slashStar => text "expected comma between / and *"
  | .bareStar => text "named arguments must follow bare *"
  | .starDefault => text "var-positional argument cannot have default value"
  | .secondStar => text "* argument may appear only once"
  | .keywordsDefault => text "var-keyword argument cannot have default value"
  | .afterKeywords => text "arguments cannot follow var-keyword argument"
  | .missingDefault => text "expected default value expression"

end Expression

namespace Template

/-- What is wrong with a template. -/
inductive Fault where
  | escape (fault : Escape.Fault)
  /-- A closing brace stands without a field. -/
  | loneBrace
  /-- A field stands in the format of a field in a format. -/
  | nestedTooDeep
  /-- A backslash stands in an expression. -/
  | backslash
  /-- A number sign stands in an expression. -/
  | comment
  /-- A bracket has no partner. -/
  | unmatched (bracket : CodePoint)
  | mismatched (closing opening : CodePoint)
  | tooManyBrackets
  /-- A quoted text in an expression is not closed. -/
  | openQuote
  /-- A field is not closed. -/
  | openField
  /-- A field has no expression. -/
  | emptyField
  /-- A field has no expression before the code point. -/
  | emptyBefore (c : CodePoint)
  | conversion
  /-- A number is ill-formed. -/
  | number (form : Expression.Number)
  /-- A number has a digit that its base lacks. -/
  | digit (c : CodePoint) (form : Expression.Number)
  | leadingZeros
  /-- A code point that belongs to no terminal. -/
  | character (c : CodePoint)
  /-- A quoted text goes on behind the end of its line. -/
  | brokenQuote
  | tooDeep
  | misuse (misuse : Expression.Misuse)
  | nonAsciiBytes
  /-- Literals of bytes and of text stand side by side. -/
  | mixedLiterals
  /-- A template in an expression is ill-formed. -/
  | within (fault : Fault)
  deriving DecidableEq

/-- The wording of a fault in the given line. -/
def Fault.message (line : Nat) : Fault → Text
  | .escape f => f.message
  | .loneBrace => text "f-string: single '\x7d' is not allowed"
  | .nestedTooDeep => text "f-string: expressions nested too deeply"
  | .backslash => text "f-string expression part cannot include a backslash"
  | .comment => text "f-string expression part cannot include '#'"
  | .unmatched c => text "f-string: unmatched '" ++ [c] ++ text "'"
  | .mismatched closing opening => text "f-string: closing parenthesis '" ++ [closing]
      ++ text "' does not match opening parenthesis '" ++ [opening] ++ text "'"
  | .tooManyBrackets => text "f-string: too many nested parenthesis"
  | .openQuote => text "f-string: unterminated string"
  | .openField => text "f-string: expecting '\x7d'"
  | .emptyField => text "f-string: empty expression not allowed"
  | .emptyBefore c => text "f-string: expression required before '" ++ [c] ++ text "'"
  | .conversion =>
    text "f-string: invalid conversion character: expected 's', 'r', or 'a'"
  | .number form => text "invalid " ++ form.word ++ text " literal"
  | .digit c form =>
    text "invalid digit '" ++ [c] ++ text "' in " ++ form.word ++ text " literal"
  | .leadingZeros => text "leading zeros in decimal integer literals are not permitted; "
      ++ text "use an 0o prefix for octal integers"
  | .character c =>
    let number := text "U+" ++ Numeral.capitalHex 4 c.val
    if c.isPrintable then text "invalid character '" ++ [c] ++ text "' (" ++ number ++ text ")"
    else text "invalid non-printable character " ++ number
  | .brokenQuote =>
    text "unterminated string literal (detected at line " ++ Numeral.ofNat line ++ text ")"
  | .tooDeep => text "too many nested parentheses"
  | .misuse m => text "f-string: " ++ m.message
  | .nonAsciiBytes => text "f-string: bytes can only contain ASCII literal characters"
  | .mixedLiterals => text "f-string: cannot mix bytes and nonbytes literals"
  | .within f => text "f-string: " ++ f.message line

/-- A fault with the number of line feeds between its line and the end of the template; none if it
    is cited as far as the template has been read. -/
structure Finding where
  fault : Fault
  below? : Option Nat := none
  deriving DecidableEq

/-- The finding, told from a place with `n` more line feeds behind it. -/
def Finding.over (n : Nat) (f : Finding) : Finding :=
  { f with below? := f.below?.map (· + n) }

end Template

end ShaderBuild
