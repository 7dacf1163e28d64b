/-
  Dialogues: computations that ask for includes, and note what they do.

  A dialogue is a finite tree.  It ends in a value, logs a record and goes on, notes something of
  its own kind and goes on, or asks for an include and goes on as the answer tells.  Whoever answers
  is not part of the dialogue, so a dialogue can be held with any file tree.

  * `Dialogue`, a monad, and `Attempt`, a dialogue that may fail;
  * `Event`: what happens in a dialogue;
  * `Dialogue.run`: the value and the events of a dialogue with someone who answers.
-/
import ShaderBuild.Include

namespace ShaderBuild

/-- What a request is answered with. -/
abbrev IncludeAnswer := Except Fault ResolvedInclude

/-- A computation that asks for includes. -/
inductive Dialogue (ν α : Type) where
  | done (value : α)
  | log (record : LogRecord) (rest : Dialogue ν α)
  | note (n : ν) (rest : Dialogue ν α)
  | ask (request : IncludeRequest) (next : IncludeAnswer → Dialogue ν α)

/-- What happens in a dialogue. -/
inductive Event (ν : Type) where
  | logged (record : LogRecord)
  | noted (n : ν)
  | asked (request : IncludeRequest) (resolution : Resolution)

namespace Dialogue

variable {ν α β : Type}

/-- Two dialogues one after the other. -/
def andThen : Dialogue ν α → (α → Dialogue ν β) → Dialogue ν β
  | .done a, f => f a
  | .log r rest, f => .log r (rest.andThen f)
  | .note n rest, f => .note n (rest.andThen f)
  | .ask request next, f => .ask request fun answer => (next answer).andThen f

instance : Monad (Dialogue ν) where
  pure := done
  bind := andThen

/-- Note something. -/
def tell (n : ν) : Dialogue ν Unit := .note n (.done ())

/-- Log a record. -/
def write (r : LogRecord) : Dialogue ν Unit := .log r (.done ())

/-- Ask for an include. -/
def request (r : IncludeRequest) : Dialogue ν IncludeAnswer := .ask r .done

/-- A dialogue with other notes, and without those that become nothing. -/
def filterMapNotes {μ : Type} (f : ν → Option μ) : Dialogue ν α → Dialogue μ α
  | .done a => .done a
  | .log r rest => .log r (rest.filterMapNotes f)
  | .note n rest => match f n with
    | some m => .note m (rest.filterMapNotes f)
    | none => rest.filterMapNotes f
  | .ask request next => .ask request fun answer => (next answer).filterMapNotes f

/-- The value and the events of a dialogue. -/
def run (resolve : IncludeRequest → Resolution) : Dialogue ν α → α × List (Event ν)
  | .done a => (a, [])
  | .log r rest =>
    let (a, events) := rest.run resolve
    (a, .logged r :: events)
  | .note n rest =>
    let (a, events) := rest.run resolve
    (a, .noted n :: events)
  | .ask request next =>
    let resolution := resolve request
    let (a, events) := (next resolution.answer).run resolve
    (a, .asked request resolution :: events)

theorem run_andThen (resolve : IncludeRequest → Resolution) (d : Dialogue ν α)
    (f : α → Dialogue ν β) :
    (d.andThen f).run resolve =
      (((f (d.run resolve).1).run resolve).1,
        (d.run resolve).2 ++ ((f (d.run resolve).1).run resolve).2) := by
  induction d with
  | done a => rfl
  | log r rest ih => simp only [andThen, run, ih, List.cons_append]
  | note n rest ih => simp only [andThen, run, ih, List.cons_append]
  | ask request next ih => simp only [andThen, run, ih, List.cons_append]

end Dialogue

/-- A dialogue that may fail. -/
abbrev Attempt (ν : Type) := ExceptT Fault (Dialogue ν)

/-- Note something. -/
def Attempt.tell {ν : Type} (n : ν) : Attempt ν Unit := ExceptT.lift (.tell n)

/-- Log a record. -/
def Attempt.write {ν : Type} (r : LogRecord) : Attempt ν Unit := ExceptT.lift (.write r)

/-- Ask for an include, and fail if it is not resolved. -/
def Attempt.request {ν : Type} (r : IncludeRequest) : Attempt ν ResolvedInclude :=
  .mk (Dialogue.request r)

namespace Event

variable {ν : Type}

/-- What an event adds to the log. -/
def log : Event ν → Log
  | .logged r => [r]
  | .noted _ => []
  | .asked request resolution => Resolver.log request resolution

/-- The path that goes on record by an event. -/
def recorded? : Event ν → Option Text
  | .logged _ | .noted _ => none
  | .asked _ resolution => resolution.recorded

/-- What is noted by an event. -/
def noted? : Event ν → Option ν
  | .noted n => some n
  | .logged _ | .asked .. => none

end Event

end ShaderBuild
