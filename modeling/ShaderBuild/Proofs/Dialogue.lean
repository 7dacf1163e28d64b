/-
  Runs of dialogues.

  Whoever answers the requests of a dialogue may answer the same request differently at different
  times, so the runs of a dialogue are a relation: any answer leads to a run.

  * `Dialogue.Runs`: a dialogue can end in a value after some events;
  * `Dialogue.runs_run`, `Dialogue.asked_run`: holding the dialogue with one who answers by a rule
    is such a run;
  * `Dialogue.runs_andThen`, `Attempt.runs_bind`: the runs of two dialogues one after the other.
-/
import ShaderBuild.Compiler.Dialogue

namespace ShaderBuild

variable {ν α β : Type}

namespace Dialogue

/-- A dialogue can end in a value after some events. -/
inductive Runs : Dialogue ν α → α → List (Event ν) → Prop
  | done (a : α) : Runs (.done a) a []
  | log {r rest a events} : Runs rest a events → Runs (.log r rest) a (.logged r :: events)
  | note {n rest a events} : Runs rest a events → Runs (.note n rest) a (.noted n :: events)
  | ask {request next a events} (resolution : Resolution) :
      Runs (next resolution.answer) a events →
        Runs (.ask request next) a (.asked request resolution :: events)

theorem runs_run (resolve : IncludeRequest → Resolution) (d : Dialogue ν α) :
    d.Runs (d.run resolve).1 (d.run resolve).2 := by
  induction d with
  | done a => exact .done a
  | log r rest ih => exact .log ih
  | note n rest ih => exact .note ih
  | ask request next ih => exact .ask _ (ih _)

/-- In a run, every request is answered by the rule. -/
theorem asked_run {resolve : IncludeRequest → Resolution} {d : Dialogue ν α}
    {request : IncludeRequest} {resolution : Resolution}
    (h : .asked request resolution ∈ (d.run resolve).2) : resolution = resolve request := by
  induction d with
  | done a => cases h
  | log r rest ih => exact ih ((List.mem_cons.1 h).resolve_left nofun)
  | note n rest ih => exact ih ((List.mem_cons.1 h).resolve_left nofun)
  | ask request next ih =>
    rcases List.mem_cons.1 h with h | h
    · cases h
      rfl
    · exact ih _ h

theorem Runs.andThen {d : Dialogue ν α} {f : α → Dialogue ν β} {a : α} {b : β}
    {before after : List (Event ν)} (hd : d.Runs a before) (hf : (f a).Runs b after) :
    (d.andThen f).Runs b (before ++ after) := by
  induction hd with
  | done => exact hf
  | log _ ih => exact .log (ih hf)
  | note _ ih => exact .note (ih hf)
  | ask resolution _ ih => exact .ask resolution (ih hf)

/-- A run of two dialogues is a run of the first with a run of the second behind it. -/
theorem runs_andThen {d : Dialogue ν α} {f : α → Dialogue ν β} {b : β} {events : List (Event ν)} :
    (d.andThen f).Runs b events ↔
      ∃ a before after, d.Runs a before ∧ (f a).Runs b after ∧ events = before ++ after := by
  constructor
  · intro h
    induction d generalizing events with
    | done a => exact ⟨a, [], events, .done a, h, rfl⟩
    | log r rest ih =>
      cases h with
      | log h =>
        obtain ⟨a, before, after, hd, hf, rfl⟩ := ih h
        exact ⟨a, _, after, .log hd, hf, rfl⟩
    | note n rest ih =>
      cases h with
      | note h =>
        obtain ⟨a, before, after, hd, hf, rfl⟩ := ih h
        exact ⟨a, _, after, .note hd, hf, rfl⟩
    | ask request next ih =>
      cases h with
      | ask resolution h =>
        obtain ⟨a, before, after, hd, hf, rfl⟩ := ih _ h
        exact ⟨a, _, after, .ask resolution hd, hf, rfl⟩
  · rintro ⟨a, before, after, hd, hf, rfl⟩
    exact hd.andThen hf

end Dialogue

/-- What an event answers to a request for an include. -/
def Event.answer? : Event ν → Option IncludeAnswer
  | .asked _ resolution => some resolution.answer
  | .logged _ | .noted _ => none

namespace Attempt

theorem runs_pure {a : α} {outcome : Except Fault α} {events : List (Event ν)} :
    (pure a : Attempt ν α).run.Runs outcome events ↔ outcome = .ok a ∧ events = [] := by
  constructor
  · intro h
    cases h
    exact ⟨rfl, rfl⟩
  · rintro ⟨rfl, rfl⟩
    exact .done _

theorem runs_throw {f : Fault} {outcome : Except Fault α} {events : List (Event ν)} :
    (throw f : Attempt ν α).run.Runs outcome events ↔ outcome = .error f ∧ events = [] := by
  constructor
  · intro h
    cases h
    exact ⟨rfl, rfl⟩
  · rintro ⟨rfl, rfl⟩
    exact .done _

theorem runs_tell {n : ν} {outcome : Except Fault Unit} {events : List (Event ν)} :
    (Attempt.tell n).run.Runs outcome events ↔ outcome = .ok () ∧ events = [.noted n] := by
  constructor
  · intro h
    cases h with
    | note h =>
      cases h
      exact ⟨rfl, rfl⟩
  · rintro ⟨rfl, rfl⟩
    exact .note (.done _)

theorem runs_write {r : LogRecord} {outcome : Except Fault Unit} {events : List (Event ν)} :
    (Attempt.write r).run.Runs outcome events ↔ outcome = .ok () ∧ events = [.logged r] := by
  constructor
  · intro h
    cases h with
    | log h =>
      cases h
      exact ⟨rfl, rfl⟩
  · rintro ⟨rfl, rfl⟩
    exact .log (.done _)

/-- A run of two attempts is one of the first that fails, or one that succeeds with a run of the
    second behind it. -/
theorem runs_bind {p : Attempt ν α} {q : α → Attempt ν β} {outcome : Except Fault β}
    {events : List (Event ν)} :
    (p >>= q).run.Runs outcome events ↔
      (∃ f, outcome = .error f ∧ p.run.Runs (.error f) events) ∨
      ∃ a before after, p.run.Runs (.ok a) before ∧ (q a).run.Runs outcome after ∧
        events = before ++ after := by
  refine Dialogue.runs_andThen.trans ⟨?_, ?_⟩
  · rintro ⟨r, before, after, hp, hq, rfl⟩
    cases r with
    | ok a => exact .inr ⟨a, before, after, hp, hq, rfl⟩
    | error f =>
      cases hq
      exact .inl ⟨f, rfl, by rwa [List.append_nil]⟩
  · rintro (⟨f, rfl, hp⟩ | ⟨a, before, after, hp, hq, rfl⟩)
    · exact ⟨.error f, events, [], hp, .done _, by rw [List.append_nil]⟩
    · exact ⟨.ok a, before, after, hp, hq, rfl⟩

end Attempt

end ShaderBuild
