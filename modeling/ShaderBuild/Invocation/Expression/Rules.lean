/-
  The rules of expressions.

  An expression is a chain of operators of fifteen strengths over operands: names, literals,
  displays, calls, parts of values.  Each rule of faults stands where the rule it belongs to begins,
  so that the innermost and first fault is told.

  * `Rule`: the names of the rules;
  * `rules`: their patterns, as a grammar;
  * `finding?`: what is wrong with the text of an expression.
-/
import ShaderBuild.Invocation.Expression.Grammar

namespace ShaderBuild.Expression

open Template (Fault Finding)

/-- The names of the rules. -/
inductive Rule where
  -- lists of expressions
  | starExpressions
  | starExpression
  | starNamedList
  | starNamed
  -- expressions
  | named
  | namedFault
  | assignment
  | expression
  | lambda
  | disjunction
  | conjunction
  | inversion
  | comparison
  | comparisonStep
  | bitOr
  | bitXor
  | bitAnd
  | shift
  | sum
  | term
  | factor
  | power
  | awaited
  | primary
  | atom
  -- displays
  | group
  | tuple
  | generator
  | list
  | listComprehension
  | dictionary
  | set
  | dictionaryComprehension
  | setComprehension
  | comprehensionFault
  | pairs
  | pair
  | pairFault
  -- comprehensions
  | clauses
  | targets
  | target
  | targetAtom
  | targetOwner
  -- parts and calls
  | slices
  | slice
  | arguments
  | items
  | keywordItems
  | starredOrKeyword
  | doubleStarredOrKeyword
  | keywordFault
  -- parameters
  | parameters
  | starParameters
  | keywordsParameter
  deriving DecidableEq, Hashable

namespace Rule

/-! ## Shorthands -/

/-- One pattern after the other. -/
def sequence : List (Pattern Rule) → Pattern Rule
  | [] => .empty
  | [p] => p
  | p :: ps => .both p (sequence ps)

/-- The first that fits. -/
def first : List (Pattern Rule) → Pattern Rule
  | [] => .unless .empty
  | [p] => p
  | p :: ps => .either p (first ps)

def optional (p : Pattern Rule) : Pattern Rule := .either p .empty

/-- At least once. -/
def oneOrMore (p : Pattern Rule) : Pattern Rule := .both p (.many p)

/-- The operator or word `s`. -/
def s (s : String) : Pattern Rule := .spelled (text s)

/-- One of the operators or words. -/
def oneOf (ss : List String) : Pattern Rule := first (ss.map s)

/-- One or more of `p`, with commas between. -/
def commas (p : Pattern Rule) : Pattern Rule := .both p (.many (.both (s ",") p))

def optionalComma : Pattern Rule := optional (s ",")

/-- That `p` and then all of `rest` are there is a fault, at the start of the expression `p`. -/
def misused (p : Pattern Rule) (rest : List (Pattern Rule)) (m : Misuse) : Pattern Rule :=
  .fault p (sequence rest) fun o => some (m, some o.start)

/-- A fault that names the kind of the expression `p`. -/
def misusedKind (p : Pattern Rule) (rest : List (Pattern Rule)) (m : Kind → Misuse) :
    Pattern Rule :=
  .fault p (sequence rest) fun o => some (m o.kind, some o.start)

/-- Operands `p` with operators between, grouped from the left. -/
def leftGrouped (p : Pattern Rule) (operators : List String) : Pattern Rule :=
  .grown p (.steps (.kind .operation (.both (oneOf operators) p)))

/-! ## Parameters -/

/-- What follows a parameter. -/
def parameterEnd : Pattern Rule := first [s ",", .ahead (s ":")]

def defaultValue : Pattern Rule := first [.both (s "=") (.rule expression),
  .strictly (misused (s "=") [.ahead (oneOf [")", ","])] .missingDefault)]

def plainParameter : Pattern Rule := .both .word parameterEnd

def defaultParameter : Pattern Rule := sequence [.word, defaultValue, parameterEnd]

def parameter : Pattern Rule := sequence [.word, optional defaultValue, parameterEnd]

/-- Parameters without defaults, before the slash that ends those without names. -/
def plainSlash : Pattern Rule := sequence [oneOrMore plainParameter, s "/", parameterEnd]

/-- Parameters of which some have defaults, before such a slash. -/
def defaultSlash : Pattern Rule :=
  sequence [.many plainParameter, oneOrMore defaultParameter, s "/", parameterEnd]

/-- Parameters out of order. -/
def parametersFault : Pattern Rule := first [
  sequence [.many plainParameter, first [defaultSlash, oneOrMore defaultParameter],
    misused plainParameter [] .lateDefault],
  sequence [.many plainParameter,
    misused (s "(") [commas .word, optionalComma, s ")"] .parenthesized],
  misused (s "/") [s ","] .leadingSlash,
  sequence [first [plainSlash, defaultSlash], .many parameter, misused (s "/") [] .secondSlash],
  sequence [optional (first [plainSlash, defaultSlash]), .many parameter, s "*",
    first [s ",", plainParameter], .many parameter, misused (s "/") [] .slashAfterStar],
  sequence [oneOrMore parameter, s "/", misused (s "*") [] .slashStar]]

/-- A star that is misplaced or has a default. -/
def starFault : Pattern Rule := .both (s "*") (first [
  .fault (first [s ":", .both (s ",") (oneOf [":", "**"])]) .empty fun _ => some (.bareStar, none),
  sequence [.word, misused (s "=") [] .starDefault],
  sequence [first [plainParameter, s ","], .many parameter,
    misused (s "*") [first [plainParameter, s ","]] .secondStar]])

/-- The patterns of the parameters of a function. -/
def ofParameters : Rule → Pattern Rule
  | parameters => first [.strictly parametersFault,
      sequence [plainSlash, .many plainParameter, .many defaultParameter,
        optional (.rule starParameters)],
      sequence [defaultSlash, .many defaultParameter, optional (.rule starParameters)],
      sequence [oneOrMore plainParameter, .many defaultParameter, optional (.rule starParameters)],
      sequence [oneOrMore defaultParameter, optional (.rule starParameters)],
      .rule starParameters]
  | starParameters => first [.strictly starFault,
      sequence [s "*", plainParameter, .many parameter, optional (.rule keywordsParameter)],
      sequence [s "*", s ",", oneOrMore parameter, optional (.rule keywordsParameter)],
      .rule keywordsParameter]
  | keywordsParameter => first [
      .strictly (sequence [s "**", .word, first [
        misused (s "=") [] .keywordsDefault,
        .both (s ",") (misused (first [.word, oneOf ["*", "**", "/"]]) [] .afterKeywords)]]),
      .both (s "**") plainParameter]
  | _ => .unless .empty

/-! ## Parts and calls -/

/-- An argument without a name: an expression that no equals sign follows. -/
def positional : Pattern Rule := first [
  .both (s "*") (.rule expression),
  .both (first [.rule assignment, .both (.rule expression) (.unless (s ":="))]) (.unless (s "="))]

/-- An argument with a name. -/
def keyword : Pattern Rule := sequence [.word, s "=", .rule expression]

/-- Arguments out of order, and clauses among several arguments. -/
def argumentsFault : Pattern Rule := first [
  misused (.kind .call (.rule items)) [s ",", s "*"] .lateUnpacking,
  misused (.rule expression) [.rule clauses, s ",",
    optional (first [.rule items, .both (.rule expression) (.rule clauses)])] .bareGenerator,
  misused .word [s "=", .rule expression, .rule clauses] .equalsName,
  -- only a single argument may have clauses
  .both (oneOrMore (sequence [positional, s ",", .ahead positional]))
    (misused positional [optional (.both (s ",") (.rule keywordItems)), .rule clauses]
      .bareGenerator),
  .fault (.rule items) (.rule clauses) fun _ => none,
  sequence [.rule items, s ",", misused (.rule expression) [.rule clauses] .bareGenerator],
  .fault (.rule items) (sequence [s ",", .rule items])
    fun o => some (.latePositional (o.kind = .dictionary), none)]

/-- The patterns of parts of values, of arguments and of parameters. -/
def ofParts : Rule → Pattern Rule
  | slices => first [.both (.rule slice) (.unless (s ",")),
      .both (commas (first [.rule slice, .both (s "*") (.rule expression)])) optionalComma]
  | slice => first [
      sequence [optional (.rule expression), s ":", optional (.rule expression),
        optional (.both (s ":") (optional (.rule expression)))],
      .rule named]
  | arguments => first [
      sequence [.rule items, optionalComma, .ahead (s ")")],
      .strictly argumentsFault]
  | items => first [
      .both (.quiet (commas positional)) (optional (.both (s ",") (.rule keywordItems))),
      .rule keywordItems]
  | keywordItems => first [
      sequence [commas (.rule starredOrKeyword), s ",", commas (.rule doubleStarredOrKeyword)],
      commas (.rule starredOrKeyword),
      commas (.rule doubleStarredOrKeyword)]
  | starredOrKeyword => first [.rule keywordFault, .quiet keyword,
      .quiet (.both (s "*") (.rule expression))]
  | doubleStarredOrKeyword => first [.rule keywordFault, .quiet keyword,
      .kind .dictionary (.both (s "**") (.rule expression))]
  | keywordFault => .strictly (first [
      misusedKind (first [.kind (.constant (text "True")) (s "True"),
        .kind (.constant (text "False")) (s "False"),
        .kind (.constant (text "None")) (s "None")]) [s "="] .assignTo,
      misused .word [s "=", .rule expression, .rule clauses] .equalsName,
      .both (.unless (.both .word (s "=")))
        (misused (.rule expression) [s "="] .equalsArgument)])
  | r => r.ofParameters

/-! ## Displays and comprehensions -/

/-- The clauses of a comprehension, and what they start with. -/
def clauseStart : Pattern Rule := sequence [optional (s "async"), s "for"]

/-- A key that no value follows. -/
def valueFault : Pattern Rule := sequence [.rule expression, first [
  .both (s ":") (misused (.quiet (.both (s "*") (.rule bitOr))) [] .starredValue),
  misused (s ":") [.ahead (oneOf ["\x7d", ","])] .missingValue]]

/-- An expression with a star. -/
def starred : Pattern Rule := .container .starred (.both (s "*") (.rule expression))

/-- The patterns of all rules but those of expressions. -/
def ofDisplays : Rule → Pattern Rule
  | group => first [
      sequence [s "(", first [
          .kind .yield (sequence [s "yield", s "from", .rule expression]),
          .kind .yield (.both (s "yield") (optional (.rule starExpressions))),
          .rule named], s ")"],
      .strictly (.both (s "(") (first [misused starred [s ")"] .starred,
        misused (s "**") [.rule expression, s ")"] .doubleStarred]))]
  | tuple => .container .tuple (sequence [s "(",
      optional (sequence [.rule starNamed, s ",", optional (.rule starNamedList)]), s ")"])
  | generator => first [
      .kind .generator (sequence [s "(", first [.rule assignment,
        .both (.rule expression) (.unless (s ":="))], .rule clauses, s ")"]),
      .rule comprehensionFault]
  | list => .container .list (sequence [s "[", optional (.rule starNamedList), s "]"])
  | listComprehension => first [
      .kind .listComprehension (sequence [s "[", .rule named, .rule clauses, s "]"]),
      .rule comprehensionFault]
  | dictionary => first [
      .kind .dictionary (sequence [s "\x7b", optional (.rule pairs), s "\x7d"]),
      sequence [s "\x7b", .rule pairFault, s "\x7d"]]
  | set => .kind .set (sequence [s "\x7b", .rule starNamedList, s "\x7d"])
  | setComprehension => first [
      .kind .setComprehension (sequence [s "\x7b", .rule named, .rule clauses, s "\x7d"]),
      .rule comprehensionFault]
  | dictionaryComprehension => first [
      .kind .dictionaryComprehension (sequence [s "\x7b",
        sequence [.rule expression, s ":", .rule expression], .rule clauses, s "\x7d"]),
      .strictly (.both (s "\x7b")
        (misused (s "**") [.rule bitOr, .rule clauses, s "\x7d"] .dictionaryUnpacking))]
  | comprehensionFault => .strictly (first [
      .both (oneOf ["[", "(", "\x7b"]) (misused starred [.rule clauses] .starredComprehension),
      .both (oneOf ["[", "\x7b"])
        (misused (.rule starNamed) [s ",", .rule starNamedList, .rule clauses] .bareTarget),
      .both (oneOf ["[", "\x7b"]) (misused (.rule starNamed) [s ",", .rule clauses] .bareTarget)])
  | pairs => .both (commas (.rule pair)) optionalComma
  | pair => first [.both (s "**") (.rule bitOr),
      sequence [.rule expression, s ":", .rule expression]]
  | pairFault => first [
      sequence [commas (.rule pair), s ",", first [
        misused (.rule expression) [.unless (s ":")] .missingColon, valueFault]],
      valueFault]
  | clauses => oneOrMore (first [
      sequence [clauseStart, .rule targets, s "in", .rule disjunction,
        .many (.both (s "if") (.rule disjunction))],
      .strictly (.both (.unless (sequence [clauseStart, .rule targets, s "in"])) (.both clauseStart
        (.fault (.rule starExpressions) .empty
          fun o => o.blocked?.map fun (k, place) => (.assignTo k, some place))))])
  | targets => first [.both (.rule target) (.unless (s ",")),
      sequence [.rule target, .many (.both (s ",") (.rule target)), optionalComma]]
  | target => first [sequence [s "*", .unless (s "*"), .rule target], .rule targetAtom]
  | targetAtom =>
      let goesOn := oneOf ["(", "[", "."]
      first [
        sequence [.rule targetOwner, s ".", .word, .unless goesOn],
        sequence [.rule targetOwner, s "[", .rule slices, s "]", .unless goesOn],
        .word,
        sequence [s "(", .rule targetAtom, s ")"],
        sequence [s "(", optional (first [
          sequence [.rule target, oneOrMore (.both (s ",") (.rule target)), optionalComma],
          .both (.rule target) (s ",")]), s ")"],
        sequence [s "[", optional (.both (commas (.rule target)) optionalComma), s "]"]]
  | targetOwner =>
      let goesOn := .ahead (oneOf ["(", "[", "."])
      .both (.both (.rule atom) goesOn) (.many (first [
        sequence [s ".", .word, goesOn],
        sequence [s "[", .rule slices, s "]", goesOn],
        .both (.rule generator) goesOn,
        sequence [s "(", optional (.rule arguments), s ")", goesOn]]))
  | r => r.ofParts

/-! ## Expressions -/

/-- The name of a former command, if the expression is one. -/
def command? (o : Operand) : Option Text :=
  match o.kind with
  | .name w => if w = text "print" || w = text "exec" then some w else none
  | _ => none

/-- The words that are names here, and start statements elsewhere. -/
def softWords : List String := ["_", "case", "match"]

/-- Two expressions side by side, half a choice, or a command that is not called. -/
def expressionFault : Pattern Rule := first [
  .both (.unless (first [.both .word .quoted, oneOf softWords]))
    (.fault (.rule disjunction)
      (.leniently (first [
        sequence [.rule disjunction, s "if", .rule disjunction, s "else", .rule expression],
        .rule disjunction, .rule lambda]))
      fun o => if (command? o).isSome then none else some (.missingComma, some o.start)),
  misused (.rule disjunction)
    [s "if", .rule disjunction, .unless (oneOf ["else", ":"])] .missingElse,
  .fault .word (sequence [.unless (s "("), .rule starExpressions])
    fun o => (command? o).map fun w => (.uncalled w, some o.start)]

/-- The pattern of a rule. -/
def pattern : Rule → Pattern Rule
  | starExpressions => first [
      .container .tuple (sequence [.rule starExpression,
        oneOrMore (.both (s ",") (.rule starExpression)), optionalComma]),
      .container .tuple (.both (.rule starExpression) (s ",")),
      .rule starExpression]
  | starExpression => first [.container .starred (.both (s "*") (.rule bitOr)), .rule expression]
  | starNamedList => .both (commas (.rule starNamed)) optionalComma
  | starNamed => first [.container .starred (.both (s "*") (.rule bitOr)), .rule named]
  | named => first [.rule assignment, .rule namedFault,
      .both (.rule expression) (.unless (s ":="))]
  | namedFault => .strictly (first [
      misusedKind (.rule expression) [s ":=", .rule expression] .nameTo,
      misused .word [s "=", .rule bitOr, .unless (oneOf ["=", ":="])] .equalsName,
      .both (.unless (first [.rule list, .rule tuple, .rule generator,
          oneOf ["True", "None", "False"]]))
        (misusedKind (.rule bitOr) [s "=", .rule bitOr, .unless (oneOf ["=", ":="])] .equals)])
  | assignment => .kind .assignment (sequence [.word, s ":=", .rule expression])
  | expression => first [.strictly expressionFault,
      .kind .conditional
        (sequence [.rule disjunction, s "if", .rule disjunction, s "else", .rule expression]),
      .rule disjunction, .rule lambda]
  | lambda => .kind .lambda
      (sequence [s "lambda", optional (.rule parameters), s ":", .rule expression])
  | disjunction => leftGrouped (.rule conjunction) ["or"]
  | conjunction => leftGrouped (.rule inversion) ["and"]
  | inversion => first [.kind .operation (.both (s "not") (.rule inversion)), .rule comparison]
  | comparison => first [
      -- something can be assigned to what stands before the word of a clause
      .container .comparison (sequence [.rule bitOr,
        .quiet (sequence [s "in", .rule bitOr, .many (.rule comparisonStep)])]),
      .container .comparison (.quiet (.both (.rule bitOr) (oneOrMore (.rule comparisonStep)))),
      .rule bitOr]
  | comparisonStep => .both
      (first [oneOf ["==", "!=", "<=", "<", ">=", ">"], .both (s "not") (s "in"), s "in",
        .both (s "is") (s "not"), s "is"])
      (.rule bitOr)
  | bitOr => leftGrouped (.rule bitXor) ["|"]
  | bitXor => leftGrouped (.rule bitAnd) ["^"]
  | bitAnd => leftGrouped (.rule shift) ["&"]
  | shift => leftGrouped (.rule sum) ["<<", ">>"]
  | sum => leftGrouped (.rule term) ["+", "-"]
  | term => leftGrouped (.rule factor) ["*", "/", "//", "%", "@"]
  | factor => first [.kind .operation (.both (oneOf ["+", "-", "~"]) (.rule factor)), .rule power]
  | power => first [.kind .operation (sequence [.rule awaited, s "**", .rule factor]),
      .rule awaited]
  | awaited => first [.kind .await (.both (s "await") (.rule primary)), .rule primary]
  | primary => .grown (.rule atom) (.steps (first [
      .kind .attribute (.both (s ".") .word),
      .kind .call (.rule generator),
      .kind .call (sequence [s "(", optional (.rule arguments), s ")"]),
      .kind .subscript (sequence [s "[", .rule slices, s "]"])]))
  | atom => first [.word,
      .kind (.constant (text "True")) (s "True"),
      .kind (.constant (text "False")) (s "False"),
      .kind (.constant (text "None")) (s "None"),
      .quoted, .number,
      .both (.ahead (s "(")) (first [.rule tuple, .rule group, .rule generator]),
      .both (.ahead (s "[")) (first [.rule list, .rule listComprehension]),
      .both (.ahead (s "\x7b")) (first [.rule dictionary, .rule set, .rule dictionaryComprehension,
        .rule setComprehension]),
      .kind .ellipsis (s "...")]
  | r => r.ofDisplays

/-! ## The grammar -/

/-- Is what a rule did at a place remembered? -/
def isRemembered : Rule → Bool
  | starExpression | expression | namedFault | disjunction | conjunction | inversion | bitOr
  | bitXor | bitAnd | shift | sum | term | factor | awaited | primary | arguments | target
  | targetAtom | targetOwner => true
  | _ => false

end Rule

/-- The grammar of expressions. -/
def rules : Grammar Rule := ⟨Rule.pattern, Rule.isRemembered⟩

/-- What is wrong with the text of an expression; `literals` tells what is wrong with the quoted
    texts in it. -/
def finding? (literals : List Terminal → Except Finding Kind) (t : Text) : Option Finding :=
  match Terminal.scan (text "(" ++ t ++ text ")") with
  | .error f => some f
  | .ok terminals => rules.finding? literals (.rule .starExpressions) terminals

end ShaderBuild.Expression
