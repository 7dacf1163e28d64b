/-
  What the steps of a compilation with the library are.

  A run of the compiler is taken apart along its parts: the settings, the call that passes the job
  on, the conversation about includes, and the look at the result.

  * `Library.stepsOf`: the steps of a run;
  * `Library.resultOf`: the result that the library gives for a job after some replies;
  * `Library.runs_withHandle`: a handle is released right behind its use;
  * `Library.runs_work`: every request gets the reply to its answer, and the first fault is kept;
  * `Library.runs_compileConfigured`: what happens between getting options and releasing them;
  * `Library.Course`, `Library.runs_compileWith`: the ways in which a compilation goes.
-/
import ShaderBuild.Library.Compile
import ShaderBuild.Proofs.Dialogue

namespace ShaderBuild

namespace LibraryCall

/-- Does the call set something on compile options? -/
def isSetting : LibraryCall → Bool
  | .setVersion .. | .addMacro .. | .setDebugInfo | .setOptimization .. | .setTarget ..
  | .setIncludeCallbacks => true
  | _ => false

/-- The job that the call passes on. -/
def job? : LibraryCall → Option Library.Job
  | .compile source _ stage name entry => some (.shader source stage name entry)
  | .assemble source _ => some (.assembly source)
  | _ => none

/-- The source that the call passes on, and its size. -/
def source? : LibraryCall → Option (Bytes × Nat)
  | .compile source size .. | .assemble source size => some (source, size)
  | _ => none

/-- The reply that the library gets in the call. -/
def reply? : LibraryCall → Option Library.Reply
  | .resolve _ _ _ _ name content => some ⟨name, content⟩
  | _ => none

end LibraryCall

namespace Library

variable {α : Type} {events : List (Event Step)}

/-! ## What is seen of a run -/

/-- The steps of a run. -/
def stepsOf (events : List (Event Step)) : List Step := events.filterMap Event.noted?

/-- What the requests of a run are answered with. -/
def answersOf (events : List (Event Step)) : List IncludeAnswer := events.filterMap Event.answer?

/-- The jobs that are passed on in steps. -/
def jobsOf (steps : List Step) : List Job := steps.filterMap fun s => s.call?.bind LibraryCall.job?

/-- The sources that are passed on in steps, with their sizes. -/
def sourcesOf (steps : List Step) : List (Bytes × Nat) :=
  steps.filterMap fun s => s.call?.bind LibraryCall.source?

/-- What the library gets for its requests in steps. -/
def repliesOf (steps : List Step) : List Reply :=
  steps.filterMap fun s => s.call?.bind LibraryCall.reply?

/-- The fault of an answer. -/
def faultOf? (answer : IncludeAnswer) : Option Fault :=
  match replyOrFault answer with
  | .ok _ => none
  | .error f => some f

/-- What the library is told for an answer. -/
def replyTo (answer : IncludeAnswer) : Reply :=
  match replyOrFault answer with
  | .ok reply => reply
  | .error f => .ofFault f

/-- The result of work that gets some replies; none if it is null. -/
def Work.result : Work → List Reply → Option Result
  | .finish result, _ => result
  | .resolve _ next, reply :: replies => (next reply).result replies
  | .resolve .., [] => none

/-- The result that a library gives for a job after some replies; none if it is null. -/
def resultOf (library : Library) (hasCallback : Bool) (job : Job) (replies : List Reply) :
    Option Result :=
  if hasCallback then (library.compile job).result replies else library.compileAlone job

theorem stepsOf_append (before after : List (Event Step)) :
    stepsOf (before ++ after) = stepsOf before ++ stepsOf after := List.filterMap_append

theorem answersOf_append (before after : List (Event Step)) :
    answersOf (before ++ after) = answersOf before ++ answersOf after := List.filterMap_append

/-! ## Settings -/

theorem runs_encodeName {t : Text} {outcome : Except Fault Bytes}
    (h : (encodeName t).run.Runs outcome events) : events = [] := by
  unfold encodeName at h
  split at h
  · exact (Attempt.runs_pure.1 h).2
  · exact (Attempt.runs_throw.1 h).2

/-- A text is encoded without a step. -/
theorem runs_encode {t : Text} {outcome : Except Fault Bytes}
    (h : (encode t).run.Runs outcome events) :
    events = [] ∧ ((∃ bytes, Utf8.encode? t = some bytes ∧ outcome = .ok bytes) ∨
      Utf8.encode? t = none ∧ outcome = .error .unencodable) := by
  unfold encode at h
  cases he : Utf8.encode? t with
  | some bytes =>
    rw [he] at h
    obtain ⟨rfl, rfl⟩ := Attempt.runs_pure.1 h
    exact ⟨rfl, .inl ⟨bytes, rfl, rfl⟩⟩
  | none =>
    rw [he] at h
    obtain ⟨rfl, rfl⟩ := Attempt.runs_throw.1 h
    exact ⟨rfl, .inr ⟨rfl, rfl⟩⟩

/-- Is the event a call that sets something on compile options? -/
def IsSetting (event : Event Step) : Prop :=
  ∃ c : LibraryCall, event = .noted (.call c) ∧ c.isSetting

/-- An attempt that does nothing but set compile options. -/
def OnlySets (p : Attempt Step α) : Prop :=
  ∀ outcome events, p.run.Runs outcome events → ∀ e ∈ events, IsSetting e

theorem onlySets_pure (a : α) : OnlySets (pure a) := by
  intro outcome events h
  obtain ⟨-, rfl⟩ := Attempt.runs_pure.1 h
  simp

theorem onlySets_throw (f : Fault) : OnlySets (throw f : Attempt Step α) := by
  intro outcome events h
  obtain ⟨-, rfl⟩ := Attempt.runs_throw.1 h
  simp

theorem onlySets_tell {c : LibraryCall} (hc : c.isSetting) : OnlySets (tell c) := by
  intro outcome events h
  obtain ⟨-, rfl⟩ := Attempt.runs_tell.1 h
  simpa using ⟨c, rfl, hc⟩

theorem onlySets_bind {β : Type} {p : Attempt Step α} {q : α → Attempt Step β} (hp : OnlySets p)
    (hq : ∀ a, OnlySets (q a)) : OnlySets (p >>= q) := by
  intro outcome events h
  rcases Attempt.runs_bind.1 h with ⟨f, -, hf⟩ | ⟨a, before, after, h1, h2, rfl⟩
  · exact hp _ _ hf
  · intro e he
    rcases List.mem_append.1 he with he | he
    · exact hp _ _ h1 e he
    · exact hq a _ _ h2 e he

theorem onlySets_tell? {c : Option LibraryCall} (hc : ∀ d ∈ c, d.isSetting) :
    OnlySets (tell? c) := by
  cases c with
  | none => exact onlySets_pure ()
  | some c => exact onlySets_tell (hc c rfl)

theorem onlySets_encode (t : Text) : OnlySets (encode t) := by
  intro outcome events h
  rw [(runs_encode h).1]
  exact List.forall_mem_nil _

theorem onlySets_addMacro (d : Definition) : OnlySets (addMacro d) := by
  refine onlySets_bind (onlySets_encode _) fun name => ?_
  split
  · exact onlySets_tell rfl
  · exact onlySets_bind (onlySets_encode _) fun value => onlySets_tell rfl

theorem onlySets_forM {p : α → Attempt Step Unit} (hp : ∀ a, OnlySets (p a)) (as : List α) :
    OnlySets (as.forM p) := by
  induction as with
  | nil => exact onlySets_pure ()
  | cons a as ih => exact onlySets_bind (hp a) fun _ => ih

theorem onlySets_setTarget (env : TargetEnv) (version : Int) :
    OnlySets (setTarget env version) := by
  unfold setTarget
  split
  · exact onlySets_tell rfl
  · exact onlySets_throw _

theorem onlySets_configure (s : Settings) : OnlySets (configure s) := by
  refine onlySets_bind (onlySets_tell? ?_) fun _ =>
    onlySets_bind (onlySets_forM onlySets_addMacro _) fun _ =>
    onlySets_bind (onlySets_tell? ?_) fun _ => onlySets_bind (onlySets_tell? ?_) fun _ =>
    onlySets_bind (onlySets_setTarget _ _) fun _ => onlySets_tell? ?_
  · cases s.version <;> simp [LibraryCall.isSetting]
  · cases s.debugInfo <;> simp [LibraryCall.isSetting]
  · cases s.optimization <;> simp [LibraryCall.isSetting]
  · cases s.hasCallback <;> simp [LibraryCall.isSetting]

theorem stepsOf_settings (h : ∀ e ∈ events, IsSetting e) :
    ∀ step ∈ stepsOf events, ∃ c : LibraryCall, step = .call c ∧ c.isSetting := by
  intro step hs
  obtain ⟨e, he, hn⟩ := List.mem_filterMap.1 hs
  obtain ⟨c, rfl, hc⟩ := h e he
  cases hn
  exact ⟨c, rfl, hc⟩

theorem job?_eq_none {c : LibraryCall} (h : c.isSetting) : c.job? = none := by
  cases c <;> first | rfl | cases h

theorem reply?_eq_none {c : LibraryCall} (h : c.isSetting) : c.reply? = none := by
  cases c <;> first | rfl | cases h

/-! ## Jobs -/

/-- Finding out the job is no step, and the call that is found passes the job on, with the bytes and
    the number of them. -/
theorem runs_job {s : Source} {bytes : Bytes} {outcome : Except Fault (Job × LibraryCall)}
    (h : (s.job bytes).run.Runs outcome events) :
    events = [] ∧ ∀ job call, outcome = .ok (job, call) →
      call.job? = some job ∧ call.source? = some (bytes, bytes.length) := by
  unfold Source.job at h
  split at h
  · obtain ⟨rfl, rfl⟩ := Attempt.runs_pure.1 h
    refine ⟨rfl, fun job call he => ?_⟩
    cases he
    exact ⟨rfl, rfl⟩
  · rcases Attempt.runs_bind.1 h with ⟨f, rfl, hf⟩ | ⟨name, before, after, h1, h2, rfl⟩
    · exact ⟨runs_encodeName hf, nofun⟩
    obtain rfl := runs_encodeName h1
    rcases Attempt.runs_bind.1 h2 with ⟨f, rfl, hf⟩ | ⟨entry, before, after, h3, h4, rfl⟩
    · exact ⟨(runs_encode hf).1, nofun⟩
    obtain ⟨rfl, -⟩ := runs_encode h3
    obtain ⟨rfl, rfl⟩ := Attempt.runs_pure.1 h4
    refine ⟨rfl, fun job call he => ?_⟩
    cases he
    exact ⟨rfl, rfl⟩

/-! ## Handles -/

/-- A handle that is lent is released right behind its use, however the use ended. -/
theorem runs_withHandle {h : Handle} {isLent : Bool} {missing : BackendFault}
    {use : Attempt Step α} {outcome : Except Fault α} :
    (withHandle h isLent missing use).run.Runs outcome events ↔
      (isLent = false ∧ outcome = .error (.backend missing) ∧ events = []) ∨
      (isLent = true ∧ ∃ inner, use.run.Runs outcome inner ∧
        events = .noted (.lend h) :: (inner ++ [.noted (.call h.release)])) := by
  cases isLent with
  | false => simpa [withHandle] using Attempt.runs_throw
  | true =>
    have shape : (withHandle h true missing use).run =
        .note (.lend h) (use.run.andThen fun o => .note (.call h.release) (.done o)) := rfl
    rw [shape]
    simp only [Bool.true_eq_false, false_and, true_and, false_or]
    constructor
    · intro run
      cases run with
      | note run =>
        obtain ⟨o, inner, after, hinner, hafter, rfl⟩ := Dialogue.runs_andThen.1 run
        cases hafter with
        | note hafter =>
          cases hafter
          exact ⟨inner, hinner, rfl⟩
    · rintro ⟨inner, hinner, rfl⟩
      exact .note (hinner.andThen (.note (.done _)))

theorem runs_examine {r : Result} {outcome : Except Fault CompilationResult}
    (h : r.examine.run.Runs outcome events) :
    outcome = r.read ∧ events = r.fields.map fun field => .noted (.look field) := by
  have looks : ∀ (fields : List Field) (o : Except Fault Unit) (es : List (Event Step)),
      ((fields.forM fun field => Attempt.tell (.look field)) : Attempt Step Unit).run.Runs o es →
      o = .ok () ∧ es = fields.map fun field => .noted (.look field) := by
    intro fields
    induction fields with
    | nil => exact fun o es h => Attempt.runs_pure.1 h
    | cons field fields ih =>
      intro o es h
      rcases Attempt.runs_bind.1 h with ⟨f, -, hf⟩ | ⟨_, before, after, h1, h2, rfl⟩
      · cases (Attempt.runs_tell.1 hf).1
      · obtain ⟨-, rfl⟩ := Attempt.runs_tell.1 h1
        obtain ⟨rfl, rfl⟩ := ih _ _ h2
        exact ⟨rfl, rfl⟩
  rcases Attempt.runs_bind.1 h with ⟨f, -, hf⟩ | ⟨_, before, after, h1, h2, rfl⟩
  · cases (looks _ _ _ hf).1
  · obtain ⟨-, rfl⟩ := looks _ _ _ h1
    cases h2
    exact ⟨rfl, List.append_nil _⟩

/-- A result is looked at, and released; where there is none, nothing happens. -/
theorem runs_takeResult {result : Option Result} {outcome : Except Fault CompilationResult}
    (h : (takeResult result).run.Runs outcome events) :
    (result = none ∧ outcome = .error (.backend .noResult) ∧ events = []) ∨
    ∃ r, result = some r ∧ outcome = r.read ∧
      events = .noted (.lend .result) ::
        (r.fields.map (fun field => .noted (.look field)) ++ [.noted (.call .releaseResult)]) := by
  cases result with
  | none =>
    obtain ⟨rfl, rfl⟩ := Attempt.runs_throw.1 h
    exact .inl ⟨rfl, rfl, rfl⟩
  | some r =>
    rcases runs_withHandle.1 h with ⟨h, -⟩ | ⟨-, inner, hinner, rfl⟩
    · cases h
    · obtain ⟨rfl, rfl⟩ := runs_examine hinner
      exact .inr ⟨r, rfl, rfl, rfl⟩

/-! ## Conversations -/

/-- Requests, each with the reply to its answer behind it. -/
inductive Conversation : List (Event Step) → Prop
  | nil : Conversation []
  | cons {rest} (request : Request) (resolution : Resolution) : Conversation rest →
      Conversation (.asked request.toInclude resolution ::
        .noted (.call (converse.callOf request (replyTo resolution.answer))) :: rest)

theorem Conversation.steps (h : Conversation events) :
    ∀ step ∈ stepsOf events, ∃ request reply, step = .call (converse.callOf request reply) := by
  induction h with
  | nil => exact fun step hs => nomatch hs
  | cons request resolution _ ih =>
    intro step hs
    rcases List.mem_cons.1 hs with rfl | hs
    · exact ⟨request, _, rfl⟩
    · exact ih step hs

theorem Conversation.jobs (h : Conversation events) : jobsOf (stepsOf events) = [] := by
  refine List.filterMap_eq_nil_iff.2 fun step hs => ?_
  obtain ⟨request, reply, rfl⟩ := h.steps step hs
  rfl

theorem Conversation.replies (h : Conversation events) :
    repliesOf (stepsOf events) = (answersOf events).map replyTo := by
  induction h with
  | nil => rfl
  | cons request resolution _ ih => exact congrArg (replyTo resolution.answer :: ·) ih

theorem converse_resolve (request : Request) (next : Reply → Work) (first : Option Fault) :
    converse (.resolve request next) first =
      .ask request.toInclude fun answer =>
        .note (.call (converse.callOf request (replyTo answer)))
          (converse (next (replyTo answer)) (first.or (faultOf? answer))) := by
  rw [converse]
  congr 1
  funext answer
  unfold replyTo faultOf?
  cases replyOrFault answer with
  | ok reply => simp only [Option.or_none]
  | error f => rfl

/-- Every request gets the reply to its own answer.  The first fault is kept, whatever comes
    behind it. -/
theorem runs_converse {w : Work} {first last : Option Fault} {result : Option Result}
    (h : (converse w first).Runs (result, last) events) :
    Conversation events ∧ result = w.result ((answersOf events).map replyTo) ∧
      last = first.or ((answersOf events).findSome? faultOf?) := by
  induction w generalizing first events with
  | finish r =>
    cases h
    exact ⟨.nil, rfl, (Option.or_none).symm⟩
  | resolve request next ih =>
    rw [converse_resolve] at h
    cases h with
    | ask resolution h =>
      cases h with
      | @note _ _ _ rest h =>
        obtain ⟨hconv, hresult, hlast⟩ := ih _ h
        refine ⟨.cons request resolution hconv, hresult, hlast.trans ?_⟩
        change _ = first.or (List.findSome? faultOf? (resolution.answer :: answersOf rest))
        rw [Option.or_assoc, List.findSome?_cons]
        cases faultOf? resolution.answer <;> rfl

/-- What comes of a job: the result of the library after the replies, and the first fault. -/
theorem runs_work {library : Library} {hasCallback : Bool} {job : Job} {result : Option Result}
    {first : Option Fault} (h : (work library hasCallback job).Runs (result, first) events) :
    Conversation events ∧
      result = resultOf library hasCallback job ((answersOf events).map replyTo) ∧
      first = (answersOf events).findSome? faultOf? := by
  unfold work at h
  cases hasCallback with
  | false =>
    cases h
    exact ⟨.nil, rfl, rfl⟩
  | true =>
    obtain ⟨hconv, hresult, hfirst⟩ := runs_converse h
    exact ⟨hconv, hresult, by rwa [Option.none_or] at hfirst⟩

/-- What comes of a job is what is reported of the first fault and of what the library tells. -/
theorem runs_perform {library : Library} {hasCallback : Bool} {job : Job}
    {outcome : Except Fault CompilationResult}
    (h : (perform library hasCallback job).run.Runs outcome events) :
    ∃ result first talk told look, (work library hasCallback job).Runs (result, first) talk ∧
      (takeResult result).run.Runs told look ∧ events = talk ++ look ∧
      outcome = reported first told := by
  obtain ⟨⟨result, first⟩, talk, after, htalk, hafter, rfl⟩ := Dialogue.runs_andThen.1 h
  obtain ⟨told, look, rest, hlook, hrest, rfl⟩ := Dialogue.runs_andThen.1 hafter
  cases hrest
  exact ⟨result, first, talk, told, look, htalk, hlook, by rw [List.append_nil], rfl⟩

/-- Between getting options and releasing them they are set, and if that goes well, one job is
    passed on and worked off. -/
theorem runs_compileConfigured {library : Library} {s : Source} {bytes : Bytes}
    {settings : Settings} {outcome : Except Fault CompilationResult}
    (h : (compileConfigured library s bytes settings).run.Runs outcome events) :
    ((∃ f, outcome = .error f) ∧ ∀ e ∈ events, IsSetting e) ∨
    ∃ before call job work, events = before ++ .noted (.call call) :: work ∧
      (∀ e ∈ before, IsSetting e) ∧ call.job? = some job ∧
      call.source? = some (bytes, bytes.length) ∧
      (perform library settings.hasCallback job).run.Runs outcome work := by
  have hset := onlySets_configure settings
  rcases Attempt.runs_bind.1 h with ⟨f, rfl, hf⟩ | ⟨_, before, after, h1, h2, rfl⟩
  · exact .inl ⟨⟨f, rfl⟩, hset _ _ hf⟩
  rcases Attempt.runs_bind.1 h2 with ⟨f, rfl, hf⟩ | ⟨⟨job, call⟩, nothing, work, h3, h4, rfl⟩
  · obtain ⟨rfl, -⟩ := runs_job hf
    exact .inl ⟨⟨f, rfl⟩, by simpa using hset _ _ h1⟩
  obtain ⟨rfl, hjob⟩ := runs_job h3
  rcases Attempt.runs_bind.1 h4 with ⟨f, -, hf⟩ | ⟨_, told, work, h5, h6, rfl⟩
  · cases (Attempt.runs_tell.1 hf).1
  obtain ⟨-, rfl⟩ := Attempt.runs_tell.1 h5
  exact .inr ⟨before, call, job, work, rfl, hset _ _ h1, (hjob job call rfl).1,
    (hjob job call rfl).2, h6⟩

/-! ## Compilations -/

/-- A handle that is asked for by a call, and used. -/
theorem runs_tell_withHandle {c : LibraryCall} {h : Handle} {isLent : Bool}
    {missing : BackendFault} {use : Attempt Step α} {outcome : Except Fault α}
    (run : (do tell c; withHandle h isLent missing use : Attempt Step α).run.Runs outcome events) :
    (isLent = false ∧ outcome = .error (.backend missing) ∧ events = [.noted (.call c)]) ∨
    (isLent = true ∧ ∃ inner, use.run.Runs outcome inner ∧
      events = .noted (.call c) :: .noted (.lend h) :: (inner ++ [.noted (.call h.release)])) := by
  rcases Attempt.runs_bind.1 run with ⟨f, -, hf⟩ | ⟨_, before, after, h1, h2, rfl⟩
  · cases (Attempt.runs_tell.1 hf).1
  obtain ⟨-, rfl⟩ := Attempt.runs_tell.1 h1
  rcases runs_withHandle.1 h2 with ⟨hl, rfl, rfl⟩ | ⟨hl, inner, hinner, rfl⟩
  · exact .inl ⟨hl, rfl, rfl⟩
  · exact .inr ⟨hl, inner, hinner, rfl⟩

/-- How a compilation goes, behind the first record of the log. -/
inductive Course (library : Library) (s : Source) (settings : Settings) :
    Except Fault CompilationResult → List (Event Step) → Prop
  /-- The source has no bytes. -/
  | unencodable : Utf8.encode? s.source = none → Course library s settings (.error .unencodable) []
  | noCompiler : library.hasCompiler = false →
      Course library s settings (.error (.backend .noCompiler)) [.noted (.call .initializeCompiler)]
  | noOptions : library.hasCompiler = true → library.hasOptions = false →
      Course library s settings (.error (.backend .noOptions))
        [.noted (.call .initializeCompiler), .noted (.lend .compiler),
          .noted (.call .initializeOptions), .noted (.call .releaseCompiler)]
  | used {bytes outcome inner} : Utf8.encode? s.source = some bytes →
      library.hasCompiler = true → library.hasOptions = true →
      (compileConfigured library s bytes settings).run.Runs outcome inner →
      Course library s settings outcome
        (.noted (.call .initializeCompiler) :: .noted (.lend .compiler) ::
          .noted (.call .initializeOptions) :: .noted (.lend .options) ::
          (inner ++ [.noted (.call .releaseOptions), .noted (.call .releaseCompiler)]))

theorem runs_compileWith {library : Library} {s : Source} {settings : Settings}
    {outcome : Except Fault CompilationResult}
    (h : (compileWith library s settings).run.Runs outcome events) :
    ∃ rest, events = .logged s.log :: rest ∧ Course library s settings outcome rest := by
  rcases Attempt.runs_bind.1 h with ⟨f, -, hf⟩ | ⟨_, before, rest, h1, h2, rfl⟩
  · cases (Attempt.runs_write.1 hf).1
  obtain ⟨-, rfl⟩ := Attempt.runs_write.1 h1
  refine ⟨rest, rfl, ?_⟩
  rcases Attempt.runs_bind.1 h2 with ⟨f, rfl, hf⟩ | ⟨bytes, before, rest, h3, h4, rfl⟩
  · obtain ⟨rfl, ⟨bytes, -, he⟩ | ⟨hnone, he⟩⟩ := runs_encode hf
    · cases he
    · cases he
      exact .unencodable hnone
  obtain ⟨rfl, encoded⟩ := runs_encode h3
  have hbytes : Utf8.encode? s.source = some bytes := by
    obtain ⟨_, hbytes, he⟩ | ⟨-, he⟩ := encoded
    · cases he
      exact hbytes
    · cases he
  rcases runs_tell_withHandle h4 with ⟨hc, rfl, rfl⟩ | ⟨hc, inner, h5, rfl⟩
  · exact .noCompiler hc
  rcases runs_tell_withHandle h5 with ⟨ho, rfl, rfl⟩ | ⟨ho, inner, h6, rfl⟩
  · exact .noOptions hc ho
  · have course := Course.used hbytes hc ho h6
    simpa [Handle.release] using course

end Library

end ShaderBuild
