/-
  Parsing expressions: patterns of terminals, tried in order.

  A pattern takes terminals off the front of what is left, or refuses.  Of two alternatives the
  first that does not refuse counts, and repetition takes as much as it can.  Patterns of faults
  describe what is wrong, and the first of them that fits is the outcome.  Most of them count only
  in a second, strict run, after the first has refused.

  A rule is a named pattern.  What it does at a place is remembered for the rest of the run where
  the grammar says so, and so it is the same in strict and in lenient parts of the run.

  * `Pattern`: what a grammar is made of;
  * `Operand`: what is known of the expression that a pattern has taken;
  * `Grammar`: the pattern of each rule, and which rules are remembered;
  * `Grammar.run`, `Grammar.finding?`: one pattern at one place, and what is wrong with a list of
    terminals.
-/
import ShaderBuild.Invocation.Expression.Terminal
import Std.Data.HashMap

namespace ShaderBuild.Expression

open Template (Fault Finding)

/-- What is known of an expression: its kind, the place where it starts, and the first part of it
    that nothing can be assigned to. -/
structure Operand where
  kind : Kind
  start : Nat
  blocked? : Option (Kind × Nat)
  deriving DecidableEq

/-- An expression of a kind at a place.  Something can be assigned only to names and to parts of
    values. -/
def Operand.ofKind (start : Nat) (kind : Kind) : Operand :=
  match kind with
  | .name _ | .attribute | .subscript => ⟨kind, start, none⟩
  | _ => ⟨kind, start, some (kind, start)⟩

/-- Two expressions that belong together count as the latter, if there is one. -/
def Operand.join : Option Operand → Option Operand → Option Operand
  | some a, some b => some { b with blocked? := a.blocked? <|> b.blocked? }
  | a, b => b <|> a

/-- Patterns over rules named by `ρ`. -/
inductive Pattern (ρ : Type) where
  | empty
  /-- A name. -/
  | word
  /-- A number. -/
  | number
  /-- Adjacent quoted texts. -/
  | quoted
  /-- A terminal with that spelling that is no number and no quoted text. -/
  | spelled (spelling : Text)
  | rule (name : ρ)
  | both (first second : Pattern ρ)
  | either (first second : Pattern ρ)
  /-- As often as possible, all of it together. -/
  | many (p : Pattern ρ)
  /-- As often as possible; the last one is the expression. -/
  | steps (p : Pattern ρ)
  /-- An expression, then what makes another one of it, if that takes anything. -/
  | grown (first growth : Pattern ρ)
  /-- Takes nothing and refuses what `p` accepts. -/
  | unless (p : Pattern ρ)
  /-- Takes nothing and refuses what `p` refuses. -/
  | ahead (p : Pattern ρ)
  /-- An expression of the kind. -/
  | kind (kind : Kind) (p : Pattern ρ)
  /-- An expression of the kind to whose parts something is assigned. -/
  | container (kind : Kind) (p : Pattern ρ)
  /-- No expression. -/
  | quiet (p : Pattern ρ)
  /-- The pattern in a strict run, and nothing in the first. -/
  | strictly (p : Pattern ρ)
  /-- The pattern as in the first run. -/
  | leniently (p : Pattern ρ)
  /-- A fault if `p` and then `rest` are there.  Which one and where, the expression that `p` takes
      tells; without a place it is as far as the terminals have been read. -/
  | fault (p rest : Pattern ρ) (misuse? : Operand → Option (Misuse × Option Nat))

/-- What a pattern does at a place. -/
inductive Outcome where
  | refused
  /-- Accepted up to a place. -/
  | accepted (place : Nat) (operand? : Option Operand)
  | faulty (finding : Finding)

/-- What is known of a run so far. -/
structure Trace (ρ : Type) [BEq ρ] [Hashable ρ] where
  /-- What rules did at places. -/
  memory : Std.HashMap (ρ × Nat) Outcome := ∅
  /-- The first place that has not been looked at. -/
  reach : Nat := 0

/-- A grammar with rules named by `ρ`. -/
structure Grammar (ρ : Type) where
  pattern : ρ → Pattern ρ
  isRemembered : ρ → Bool

namespace Grammar

variable {ρ : Type} [BEq ρ] [Hashable ρ]

/-- The number of quoted texts from a place on. -/
def quotedFrom (input : Array Terminal) (place : Nat) : Nat :=
  if h : place < input.size then
    if input[place].form = .quoted then quotedFrom input (place + 1) + 1 else 0
  else 0
  termination_by input.size - place

/-- The place of one terminal that has to satisfy a test. -/
def take (input : Array Terminal) (place : Nat) (test : Terminal → Bool)
    (operand? : Terminal → Option Operand) (trace : Trace ρ) : Outcome × Trace ρ :=
  let trace := { trace with reach := max trace.reach (place + 1) }
  match input[place]? with
  | some t => (if test t then .accepted (place + 1) (operand? t) else .refused, trace)
  | none => (.refused, trace)

/-- The line feeds from a terminal to the end of the expression. -/
def cite? (input : Array Terminal) (place : Nat) : Option Nat := input[place]?.map (·.below)

/-- What follows if a pattern has been accepted. -/
def andThen (done : Outcome × Trace ρ)
    (next : Nat → Option Operand → Trace ρ → Outcome × Trace ρ) : Outcome × Trace ρ :=
  match done with
  | (.accepted place operand?, trace) => next place operand? trace
  | other => other

/-- What follows if a pattern has been refused. -/
def orElse (done : Outcome × Trace ρ) (next : Trace ρ → Outcome × Trace ρ) :
    Outcome × Trace ρ :=
  match done with
  | (.refused, trace) => next trace
  | other => other

/-- Accepted, with another operand. -/
def withOperand (done : Outcome × Trace ρ) (f : Option Operand → Option Operand) :
    Outcome × Trace ρ :=
  andThen done fun place operand? trace => (.accepted place (f operand?), trace)

/-- One pattern at one place of the input.  `literals` tells what is wrong with adjacent quoted
    texts, and otherwise their kind; `strict` in a strict run. -/
def run (g : Grammar ρ) (literals : List Terminal → Except Finding Kind)
    (input : Array Terminal) : Nat → Bool → Pattern ρ → Nat → Trace ρ → Outcome × Trace ρ
  | 0, _, _, _, trace => (.refused, trace)
  | fuel + 1, strict, pattern, place, trace =>
    let go := run g literals input fuel strict
    match pattern with
    | .empty => (.accepted place none, trace)
    | .word =>
      take input place (·.form = .word) (fun t => some (.ofKind place (.name t.spelling))) trace
    | .number => take input place (·.form = .number) (fun _ => some (.ofKind place .literal)) trace
    | .spelled spelling =>
      take input place (fun t => (t.form = .word || t.form = .fixed) && t.spelling = spelling)
        (fun _ => none) trace
    | .quoted =>
      let n := quotedFrom input place
      let trace := { trace with reach := max trace.reach (place + n + 1) }
      if n = 0 then (.refused, trace)
      else match literals (input.extract place (place + n)).toList with
        | .error f =>
          (.faulty { f with below? := f.below? <|> cite? input (trace.reach - 1) }, trace)
        | .ok kind => (.accepted (place + n) (some (.ofKind place kind)), trace)
    | .rule name =>
      match if g.isRemembered name then trace.memory[(name, place)]? else none with
      | some outcome => (outcome, trace)
      | none =>
        let (outcome, trace) := go (g.pattern name) place trace
        if g.isRemembered name then
          (outcome, { trace with memory := trace.memory.insert (name, place) outcome })
        else (outcome, trace)
    | .both p q =>
      andThen (go p place trace) fun place operand? trace =>
        withOperand (go q place trace) (Operand.join operand?)
    | .either p q => orElse (go p place trace) fun trace => go q place trace
    | .many p =>
      orElse (andThen (go p place trace) fun place operand? trace =>
          withOperand (go (.many p) place trace) (Operand.join operand?))
        fun trace => (.accepted place none, trace)
    | .steps p =>
      orElse (andThen (go p place trace) fun place operand? trace =>
          withOperand (go (.steps p) place trace) (· <|> operand?))
        fun trace => (.accepted place none, trace)
    | .grown p q =>
      let start := place
      andThen (go p place trace) fun place operand? trace =>
        withOperand (go q place trace) fun grown? =>
          (grown?.map fun o => .ofKind start o.kind) <|> operand?
    | .unless p =>
      match go p place trace with
      | (.accepted _ _, trace) => (.refused, trace)
      | (.refused, trace) => (.accepted place none, trace)
      | other => other
    | .ahead p => andThen (go p place trace) fun _ _ trace => (.accepted place none, trace)
    | .kind kind p => withOperand (go p place trace) fun _ => some (.ofKind place kind)
    | .container kind p =>
      withOperand (go p place trace) fun operand? =>
        some ⟨kind, place, operand?.bind (·.blocked?)⟩
    | .quiet p => withOperand (go p place trace) fun _ => none
    | .strictly p => if strict then go p place trace else (.refused, trace)
    | .leniently p => run g literals input fuel false p place trace
    | .fault p rest misuse? =>
      andThen (go p place trace) fun next operand? trace =>
        andThen (go rest next trace) fun _ _ trace =>
          match misuse? (operand?.getD (.ofKind place .literal)) with
          | some (m, place?) =>
            (.faulty ⟨.misuse m, cite? input (place?.getD (trace.reach - 1))⟩, trace)
          | none => (.refused, trace)

/-- What is wrong with terminals that should match a pattern at their start. -/
def finding? (g : Grammar ρ) (literals : List Terminal → Except Finding Kind) (p : Pattern ρ)
    (terminals : List Terminal) : Option Finding :=
  let input := terminals.toArray
  let fuel := 300 * (input.size + 2)
  match run g literals input fuel false p 0 {} with
  | (.accepted _ _, _) => none
  | (.faulty f, _) => some f
  | (.refused, trace) =>
    match run g literals input fuel true p 0 {} with
    | (.faulty f, _) => some f
    | _ => some ⟨.misuse .order, cite? input (trace.reach - 1)⟩

end Grammar

end ShaderBuild.Expression
