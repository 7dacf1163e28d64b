/-
  What comes of the job of a compilation.

  Most of what happens in a compilation says nothing about its job: handles are asked for and
  released, options are set, a result is looked at.  What does is the call that passes the job on,
  the conversation about includes, and whether the library has a result.

  * `Library.Aside`: an event that says nothing about a job;
  * `Library.Worked`: what is seen of a job, and what the compilation ends with;
  * `Library.worked_or_fails`: a compilation has a job worked off, or fails before it comes to that.
-/
import ShaderBuild.Proofs.Library.Steps

namespace ShaderBuild.Library

variable {events before after : List (Event Step)}

/-- A step that passes no job on, brings no reply, and no result. -/
def Step.Aside (step : Step) : Prop :=
  step.call?.bind LibraryCall.job? = none ∧ step.call?.bind LibraryCall.reply? = none ∧
    step ≠ .lend .result

/-- An event that says nothing about a job. -/
def Aside (event : Event Step) : Prop :=
  event.answer? = none ∧ ∀ step, event.noted? = some step → step.Aside

theorem aside_noted {step : Step} (h : step.Aside) : Aside (.noted step) :=
  ⟨rfl, fun _ he => by cases he; exact h⟩

theorem aside_logged (r : LogRecord) : Aside (.logged r) := ⟨rfl, nofun⟩

theorem IsSetting.aside {event : Event Step} (h : IsSetting event) : Aside event := by
  obtain ⟨c, rfl, hc⟩ := h
  exact aside_noted ⟨job?_eq_none hc, reply?_eq_none hc, nofun⟩

theorem aside_stepsOf (h : ∀ e ∈ events, Aside e) : ∀ step ∈ stepsOf events, step.Aside := by
  intro step hs
  obtain ⟨e, he, hn⟩ := List.mem_filterMap.1 hs
  exact (h e he).2 step hn

theorem jobsOf_append (first second : List Step) :
    jobsOf (first ++ second) = jobsOf first ++ jobsOf second := List.filterMap_append

theorem repliesOf_append (first second : List Step) :
    repliesOf (first ++ second) = repliesOf first ++ repliesOf second := List.filterMap_append

theorem jobsOf_asides (h : ∀ e ∈ events, Aside e) : jobsOf (stepsOf events) = [] :=
  List.filterMap_eq_nil_iff.2 fun step hs => (aside_stepsOf h step hs).1

theorem repliesOf_asides (h : ∀ e ∈ events, Aside e) : repliesOf (stepsOf events) = [] :=
  List.filterMap_eq_nil_iff.2 fun step hs => (aside_stepsOf h step hs).2.1

theorem answersOf_asides (h : ∀ e ∈ events, Aside e) : answersOf events = [] :=
  List.filterMap_eq_nil_iff.2 fun e he => (h e he).1

theorem lends_asides (h : ∀ e ∈ events, Aside e) : (stepsOf events).count (.lend .result) = 0 :=
  List.count_eq_zero.2 fun hs => (aside_stepsOf h _ hs).2.2 rfl

/-! ## Jobs that are worked off -/

/-- What a result tells, or that there is none. -/
def told : Option Result → Except Fault CompilationResult
  | none => .error (.backend .noResult)
  | some r => r.read

/-- What is seen of a job that is worked off, and what comes of it: what is reported of the first
    fault of an answer, and of what the library tells. -/
structure Worked (library : Library) (hasCallback : Bool) (outcome : Except Fault CompilationResult)
    (events : List (Event Step)) (job : Job) : Prop where
  jobs : jobsOf (stepsOf events) = [job]
  replies : repliesOf (stepsOf events) = (answersOf events).map replyTo
  lends : (stepsOf events).count (.lend .result) =
    if (resultOf library hasCallback job (repliesOf (stepsOf events))).isSome then 1 else 0
  outcome : outcome = reported ((answersOf events).findSome? faultOf?)
    (told (resultOf library hasCallback job (repliesOf (stepsOf events))))

variable {library : Library} {hasCallback : Bool} {job : Job} {settings : Settings}
  {outcome : Except Fault CompilationResult}

/-- What is seen of a job stays the same with asides around it. -/
theorem Worked.around (h : Worked library hasCallback outcome events job)
    (hb : ∀ e ∈ before, Aside e) (ha : ∀ e ∈ after, Aside e) :
    Worked library hasCallback outcome (before ++ (events ++ after)) job := by
  have steps : stepsOf (before ++ (events ++ after))
      = stepsOf before ++ (stepsOf events ++ stepsOf after) := by
    rw [stepsOf_append, stepsOf_append]
  have answers : answersOf (before ++ (events ++ after)) = answersOf events := by
    rw [answersOf_append, answersOf_append, answersOf_asides hb, answersOf_asides ha,
      List.nil_append, List.append_nil]
  have replies : repliesOf (stepsOf (before ++ (events ++ after)))
      = repliesOf (stepsOf events) := by
    rw [steps, repliesOf_append, repliesOf_append, repliesOf_asides hb, repliesOf_asides ha,
      List.nil_append, List.append_nil]
  refine ⟨?_, ?_, ?_, ?_⟩
  · rw [steps, jobsOf_append, jobsOf_append, jobsOf_asides hb, jobsOf_asides ha, h.jobs]
    rfl
  · rw [answers, replies]
    exact h.replies
  · rw [replies, ← h.lends, steps, List.count_append, List.count_append, lends_asides hb,
      lends_asides ha, Nat.zero_add, Nat.add_zero]
  · rw [answers, replies]
    exact h.outcome

/-- The event of getting a result, if there is one. -/
def brought (result : Option Result) : List (Event Step) :=
  result.toList.map fun _ => .noted (.lend .result)

/-- Looking at a result brings it, if there is one, and nothing else that says something. -/
theorem runs_takeResult_brought {result : Option Result}
    (h : (takeResult result).run.Runs outcome events) :
    outcome = told result ∧ ∃ looks, events = brought result ++ looks ∧ ∀ e ∈ looks, Aside e := by
  rcases runs_takeResult h with ⟨rfl, rfl, rfl⟩ | ⟨r, rfl, rfl, rfl⟩
  · exact ⟨rfl, [], rfl, List.forall_mem_nil _⟩
  · refine ⟨rfl, _, rfl, fun e he => ?_⟩
    rcases List.mem_append.1 he with he | he
    · obtain ⟨field, -, rfl⟩ := List.mem_map.1 he
      exact aside_noted ⟨rfl, rfl, nofun⟩
    · obtain rfl := List.mem_singleton.1 he
      exact aside_noted ⟨rfl, rfl, nofun⟩

/-- A job, the conversation about it, and its result. -/
theorem worked_of_conversation {call : LibraryCall} {talk : List (Event Step)}
    {result : Option Result} (hjob : call.job? = some job) (hconv : Conversation talk)
    (hresult : result = resultOf library hasCallback job ((answersOf talk).map replyTo)) :
    Worked library hasCallback (reported ((answersOf talk).findSome? faultOf?) (told result))
      (.noted (.call call) :: (talk ++ brought result)) job := by
  have answers : answersOf (.noted (.call call) :: (talk ++ brought result)) = answersOf talk := by
    change answersOf (talk ++ _) = _
    rw [answersOf_append]
    cases result <;> exact List.append_nil _
  have steps : stepsOf (.noted (.call call) :: (talk ++ brought result))
      = [.call call] ++ (stepsOf talk ++ stepsOf (brought result)) := by
    rw [← stepsOf_append]
    rfl
  have replies : repliesOf (stepsOf (.noted (.call call) :: (talk ++ brought result)))
      = (answersOf talk).map replyTo := by
    have hcall : repliesOf [.call call] = [] := by
      cases call <;> first | rfl | cases hjob
    rw [steps, repliesOf_append, repliesOf_append, hcall, hconv.replies]
    cases result <;> exact List.append_nil _
  refine ⟨?_, ?_, ?_, ?_⟩
  · have hcall : jobsOf [.call call] = [job] := by
      simp [jobsOf, Step.call?, hjob]
    rw [steps, jobsOf_append, jobsOf_append, hcall, hconv.jobs]
    cases result <;> rfl
  · rw [answers, replies]
  · have hcall : [Step.call call].count (.lend .result) = 0 := rfl
    have htalk : (stepsOf talk).count (.lend .result) = 0 := List.count_eq_zero.2 fun hs => by
      obtain ⟨request, reply, hc⟩ := hconv.steps _ hs
      cases hc
    rw [replies, ← hresult, steps, List.count_append, List.count_append, hcall, htalk]
    cases result <;> rfl
  · rw [answers, replies, ← hresult]

theorem worked_perform {call : LibraryCall} {work : List (Event Step)}
    (hjob : call.job? = some job)
    (h : (perform library hasCallback job).run.Runs outcome work) :
    Worked library hasCallback outcome (.noted (.call call) :: work) job := by
  obtain ⟨result, first, talk, outcome', look, htalk, hlook, rfl, rfl⟩ := runs_perform h
  obtain ⟨hconv, hresult, rfl⟩ := runs_work htalk
  obtain ⟨rfl, looks, rfl, hlooks⟩ := runs_takeResult_brought hlook
  have all := (worked_of_conversation hjob hconv hresult).around (List.forall_mem_nil _) hlooks
  simpa using all

/-! ## Compilations -/

/-- A compilation has one job worked off, or fails before it comes to that. -/
theorem worked_or_fails {s : Source}
    (h : (compileWith library s settings).run.Runs outcome events) :
    (∃ job, Worked library settings.hasCallback outcome events job) ∨
      ((∃ f, outcome = .error f) ∧ ∀ e ∈ events, Aside e) := by
  obtain ⟨rest, rfl, course⟩ := runs_compileWith h
  have first : Aside (.logged s.log) := aside_logged _
  have ask {c : LibraryCall} (hj : c.job? = none) (hr : c.reply? = none) :
      Aside (.noted (.call c)) := aside_noted ⟨hj, hr, nofun⟩
  have lend {handle : Handle} (hh : handle ≠ .result) : Aside (.noted (.lend handle)) :=
    aside_noted ⟨rfl, rfl, fun he => hh (Step.lend.inj he)⟩
  cases course with
  | unencodable =>
    refine .inr ⟨⟨_, rfl⟩, ?_⟩
    simp only [List.forall_mem_cons]
    exact ⟨first, List.forall_mem_nil _⟩
  | noCompiler =>
    refine .inr ⟨⟨_, rfl⟩, ?_⟩
    simp only [List.forall_mem_cons]
    exact ⟨first, ask rfl rfl, List.forall_mem_nil _⟩
  | noOptions =>
    refine .inr ⟨⟨_, rfl⟩, ?_⟩
    simp only [List.forall_mem_cons]
    exact ⟨first, ask rfl rfl, lend nofun, ask rfl rfl, ask rfl rfl, List.forall_mem_nil _⟩
  | @used bytes _ inner _ _ _ hinner =>
    have opened : ∀ e ∈ [.logged s.log, .noted (.call .initializeCompiler),
        .noted (.lend .compiler), .noted (.call .initializeOptions), .noted (.lend .options)],
        Aside e := by
      simp only [List.forall_mem_cons]
      exact ⟨first, ask rfl rfl, lend nofun, ask rfl rfl, lend nofun, List.forall_mem_nil _⟩
    have closed : ∀ e ∈ [.noted (.call .releaseOptions), .noted (.call .releaseCompiler)],
        Aside e := by
      simp only [List.forall_mem_cons]
      exact ⟨ask rfl rfl, ask rfl rfl, List.forall_mem_nil _⟩
    rcases runs_compileConfigured hinner with ⟨hf, hset⟩ |
      ⟨before, call, job, work, rfl, hset, hjob, -, hwork⟩
    · have all := List.forall_mem_append.2 ⟨opened, List.forall_mem_append.2
        ⟨fun e he => (hset e he).aside, closed⟩⟩
      simp only [List.cons_append, List.nil_append] at all
      exact .inr ⟨hf, all⟩
    · have all := (worked_perform hjob hwork).around
        (List.forall_mem_append.2 ⟨opened, fun e he => (hset e he).aside⟩) closed
      simp only [List.cons_append, List.nil_append, List.append_assoc] at all ⊢
      exact .inl ⟨job, all⟩

end ShaderBuild.Library
