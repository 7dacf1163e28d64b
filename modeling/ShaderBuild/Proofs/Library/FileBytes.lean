/-
  The library sees the bytes that are in the files.

  A file is decoded to a text, and the text is encoded again for the library.  Bytes that are well
  formed come out as they went in; others never come to the library.

  * `Library.sourcesOf_compileWith`: a compilation passes the bytes of its text on, once;
  * `Library.Answered`, `Library.answered_compileWith`: behind every request of a run is the call
    that brings the library the reply to it;
  * `Library.Delivered`: what that reply is, by the path and the file there;
  * `compileFile_of_read`, `compileFile_of_unread`: the compilation of a file, by what is read;
  * `Library.files_passed_on`: all of this together.
-/
import ShaderBuild.Proofs.Build.Course
import ShaderBuild.Proofs.Include
import ShaderBuild.Proofs.Library.FirstFailure
import ShaderBuild.Proofs.Library.Settings

namespace ShaderBuild

/-! ## Reading -/

section

variable {ν : Type} {s : Setting ν} {argument : Option OptionsArgument}
  {fields : Option OptionFields} {options : CompileOptions} {root : Option Text} {path : Text}
  {span : Option Span}

/-- A call about a file that is not read. -/
theorem compileFile_of_unread {f : Fault}
    (ho : OptionsArgument.resolve s.environment argument fields = .ok options)
    (hread : s.read.readText (sourceFault (s.filePath root path) span) (s.filePath root path) =
      .error f) :
    let run := compileFile s (root.map .text) path argument fields span
    run.record = none ∧ run.result = .error f := by
  intro run
  have failed : run = .after (OptionsArgument.log s.environment argument fields) (.failed f) := by
    simp only [run, compileFile, withOptions, ho, compileFileWith_of_unread hread]
  rw [failed]
  exact ⟨rfl, rfl⟩

/-- A call about a file that is read. -/
theorem compileFile_of_read {t : Text}
    (ho : OptionsArgument.resolve s.environment argument fields = .ok options)
    (hread : s.read.readText (sourceFault (s.filePath root path) span) (s.filePath root path) =
      .ok t) :
    let run := compileFile s (root.map .text) path argument fields span
    let built := build s ((some (s.rootPath root)).map .text)
      ⟨t, s.filePath root path, some (s.filePath root path), span⟩ options
    run.record = built.record ∧ run.result = built.result := by
  intro run built
  have same : run = .after (OptionsArgument.log s.environment argument fields) built := by
    simp only [run, compileFile, withOptions, ho, compileFileWith_of_read hread, built]
  rw [same]
  exact ⟨rfl, rfl⟩

end

namespace Library

variable {library : Library} {events first second : List (Event Step)}
  {outcome : Except Fault CompilationResult}

/-! ## Sources -/

theorem sourcesOf_append (first second : List Step) :
    sourcesOf (first ++ second) = sourcesOf first ++ sourcesOf second := List.filterMap_append

/-- The calls that pass a source on are those that pass a job on. -/
theorem source?_eq_none {c : LibraryCall} (h : c.job? = none) : c.source? = none := by
  cases c <;> first | rfl | cases h

theorem sourcesOf_of_jobsOf {steps : List Step} (h : jobsOf steps = []) : sourcesOf steps = [] := by
  refine List.filterMap_eq_nil_iff.2 fun step hs => ?_
  have none := List.filterMap_eq_nil_iff.1 h step hs
  cases step with
  | call c => exact source?_eq_none none
  | lend handle => rfl
  | look field => rfl

theorem sourcesOf_asides (h : ∀ e ∈ events, Aside e) : sourcesOf (stepsOf events) = [] :=
  sourcesOf_of_jobsOf (jobsOf_asides h)

/-- The call that passes the job on is the only one that passes a source on. -/
theorem sourcesOf_perform {hasCallback : Bool} {job : Job} {call : LibraryCall}
    {work : List (Event Step)} {source : Bytes × Nat} (hjob : call.job? = some job)
    (hsource : call.source? = some source)
    (h : (perform library hasCallback job).run.Runs outcome work) :
    sourcesOf (stepsOf (.noted (.call call) :: work)) = [source] := by
  have jobs := (worked_perform hjob h).jobs
  have shape : stepsOf (.noted (.call call) :: work) = [.call call] ++ stepsOf work := rfl
  have job : jobsOf [.call call] = [job] := by simp [jobsOf, Step.call?, hjob]
  have source : sourcesOf [.call call] = [source] := by simp [sourcesOf, Step.call?, hsource]
  rw [shape, jobsOf_append, job] at jobs
  rw [shape, sourcesOf_append, source, sourcesOf_of_jobsOf (List.cons.inj jobs).2,
    List.append_nil]

/-- An attempt that has a run in which it fails. -/
def CanFail {α : Type} (p : Attempt Step α) : Prop := ∃ f events, p.run.Runs (.error f) events

theorem sourcesOf_compileConfigured {s : Source} {bytes : Bytes} {settings : Settings}
    (h : (compileConfigured library s bytes settings).run.Runs outcome events) :
    sourcesOf (stepsOf events) = [] ∧ (CanFail (configure settings) ∨ CanFail (s.job bytes)) ∨
      sourcesOf (stepsOf events) = [(bytes, bytes.length)] := by
  have hset := onlySets_configure settings
  rcases Attempt.runs_bind.1 h with ⟨f, -, hf⟩ | ⟨_, before, after, h1, h2, rfl⟩
  · exact .inl ⟨sourcesOf_asides fun e he => (hset _ _ hf e he).aside, .inl ⟨f, _, hf⟩⟩
  have quiet := sourcesOf_asides fun e he => (hset _ _ h1 e he).aside
  rw [stepsOf_append, sourcesOf_append, quiet, List.nil_append]
  rcases Attempt.runs_bind.1 h2 with ⟨f, -, hf⟩ | ⟨⟨job, call⟩, nothing, work, h3, h4, rfl⟩
  · obtain ⟨rfl, -⟩ := runs_job hf
    exact .inl ⟨rfl, .inr ⟨f, _, hf⟩⟩
  obtain ⟨rfl, hjob⟩ := runs_job h3
  obtain ⟨hjob, hsource⟩ := hjob job call rfl
  rcases Attempt.runs_bind.1 h4 with ⟨f, -, hf⟩ | ⟨_, told, work, h5, h6, rfl⟩
  · cases (Attempt.runs_tell.1 hf).1
  obtain ⟨-, rfl⟩ := Attempt.runs_tell.1 h5
  exact .inr (sourcesOf_perform hjob hsource h6)

/-- A compilation that has all it needs passes the bytes of its text on, with the number of them,
    and does so once.  Another one passes nothing on. -/
theorem sourcesOf_compileWith {s : Source} {settings : Settings}
    (h : (compileWith library s settings).run.Runs outcome events) :
    sourcesOf (stepsOf events) = [] ∧
        (library.hasCompiler → library.hasOptions → ∀ bytes, Utf8.encode? s.source = some bytes →
          CanFail (configure settings) ∨ CanFail (s.job bytes)) ∨
      ∃ bytes, Utf8.encode? s.source = some bytes ∧
        sourcesOf (stepsOf events) = [(bytes, bytes.length)] := by
  obtain ⟨rest, rfl, course⟩ := runs_compileWith h
  cases course with
  | unencodable hn => exact .inl ⟨rfl, fun _ _ bytes hb => by rw [hn] at hb; cases hb⟩
  | noCompiler hc => exact .inl ⟨rfl, fun hc' => by rw [hc] at hc'; cases hc'⟩
  | noOptions hc ho => exact .inl ⟨rfl, fun _ ho' => by rw [ho] at ho'; cases ho'⟩
  | @used bytes _ inner hb hc ho hinner =>
    have same : sourcesOf (stepsOf (.logged s.log :: .noted (.call .initializeCompiler) ::
        .noted (.lend .compiler) :: .noted (.call .initializeOptions) :: .noted (.lend .options) ::
        (inner ++ [.noted (.call .releaseOptions), .noted (.call .releaseCompiler)])))
        = sourcesOf (stepsOf inner) := by
      simp only [sourcesOf, stepsOf, List.filterMap_cons, List.filterMap_append, Event.noted?,
        Step.call?, Option.bind_some, Option.bind_none, LibraryCall.source?, List.filterMap_nil,
        List.append_nil]
    rw [same]
    rcases sourcesOf_compileConfigured hinner with ⟨hnone, hfail⟩ | hone
    · refine .inl ⟨hnone, fun _ _ bytes' hb' => ?_⟩
      cases hb.symm.trans hb'
      exact hfail
    · exact .inr ⟨bytes, hb, hone⟩

/-- Settings for options that can be passed on do not fail. -/
theorem not_canFail_configure {p : Parameters} {o : CompileOptions} (ho : o.Passable)
    (hp : p.setCallback none = .ofOptions o) : ¬ CanFail (configure (.ofParameters p)) := by
  rintro ⟨f, events, h⟩
  cases (makes_configure ho hp _ _ h).1

/-- A job is found if the name and the function to start with have bytes. -/
theorem not_canFail_job {s : Source} {name entry : Bytes}
    (hn : Utf8.encodeEscaped? s.name = some name) (he : Utf8.encode? s.entry = some entry)
    (bytes : Bytes) : ¬ CanFail (s.job bytes) := by
  rintro ⟨f, events, h⟩
  unfold Source.job at h
  split at h
  · cases (Attempt.runs_pure.1 h).1
  · simp only [encodeName, encode, hn, he] at h
    cases (Attempt.runs_pure.1 h).1

/-! ## Includes -/

/-- Behind every request is the call that brings the library the reply to it. -/
def Answered (events : List (Event Step)) : Prop :=
  ∀ before request resolution after, events = before ++ .asked request resolution :: after →
    ∃ q rest, request = Request.toInclude q ∧
      after = .noted (.call (converse.callOf q (replyTo resolution.answer))) :: rest

theorem answered_of_answersOf (h : answersOf events = []) : Answered events := by
  rintro before request resolution after rfl
  rw [answersOf_append] at h
  cases (List.append_eq_nil_iff.1 h).2

theorem answered_asides (h : ∀ e ∈ events, Aside e) : Answered events :=
  answered_of_answersOf (answersOf_asides h)

theorem Answered.append (h : Answered first) (h' : Answered second) :
    Answered (first ++ second) := by
  intro before request resolution after he
  rcases List.append_eq_append_iff.1 he with ⟨middle, rfl, hs⟩ | ⟨middle, rfl, hs⟩
  · exact h' middle request resolution after hs
  · cases middle with
    | nil => exact h' [] request resolution after hs.symm
    | cons event middle =>
      obtain ⟨rfl, rfl⟩ := List.cons.inj hs
      obtain ⟨q, rest, hq, rfl⟩ := h before request resolution middle rfl
      exact ⟨q, rest ++ second, hq, rfl⟩

theorem Conversation.answered (h : Conversation events) : Answered events := by
  induction h with
  | nil => exact answered_of_answersOf rfl
  | @cons rest request resolution _ ih =>
    have first : Answered [.asked request.toInclude resolution,
        .noted (.call (converse.callOf request (replyTo resolution.answer)))] := by
      intro before q r after he
      cases before with
      | nil =>
        obtain ⟨he, rfl⟩ := List.cons.inj he
        cases he
        exact ⟨request, [], rfl, rfl⟩
      | cons event before =>
        cases before with
        | nil => cases (List.cons.inj (List.cons.inj he).2).1
        | cons event before => simp at he
    exact first.append ih

theorem answered_perform {hasCallback : Bool} {job : Job}
    (h : (perform library hasCallback job).run.Runs outcome events) : Answered events := by
  obtain ⟨result, first, talk, told, look, htalk, hlook, rfl, -⟩ := runs_perform h
  obtain ⟨-, looks, rfl, hlooks⟩ := runs_takeResult_brought hlook
  refine (runs_work htalk).1.answered.append (Answered.append ?_ (answered_asides hlooks))
  cases result <;> exact answered_of_answersOf rfl

theorem answered_compileConfigured {s : Source} {bytes : Bytes} {settings : Settings}
    (h : (compileConfigured library s bytes settings).run.Runs outcome events) :
    Answered events := by
  rcases runs_compileConfigured h with ⟨-, hset⟩ |
    ⟨before, call, job, work, rfl, hset, -, -, hwork⟩
  · exact answered_asides fun e he => (hset e he).aside
  · have passed : Answered [.noted (.call call)] := answered_of_answersOf rfl
    exact (answered_asides fun e he => (hset e he).aside).append
      (passed.append (answered_perform hwork))

/-- Every request of a compilation is answered at once. -/
theorem answered_compileWith {s : Source} {settings : Settings}
    (h : (compileWith library s settings).run.Runs outcome events) : Answered events := by
  obtain ⟨rest, rfl, course⟩ := runs_compileWith h
  cases course with
  | unencodable => exact answered_of_answersOf rfl
  | noCompiler => exact answered_of_answersOf rfl
  | noOptions => exact answered_of_answersOf rfl
  | @used bytes _ inner _ _ _ hinner =>
    have opened : Answered [.logged s.log, .noted (.call .initializeCompiler),
        .noted (.lend .compiler), .noted (.call .initializeOptions), .noted (.lend .options)] :=
      answered_of_answersOf rfl
    have closed : Answered [.noted (.call .releaseOptions), .noted (.call .releaseCompiler)] :=
      answered_of_answersOf rfl
    exact opened.append ((answered_compileConfigured hinner).append closed)

theorem replyTo_of_encode {path t : Text} {name bytes : Bytes} (hn : Utf8.encode? path = some name)
    (ht : Utf8.encode? t = some bytes) : replyTo (.ok ⟨path, t⟩) = ⟨name, bytes⟩ := by
  simp only [replyTo, replyOrFault, hn, ht]

/-- A failure is the first one if there was none before it. -/
theorem firstFailure_of_before {before after : List (Event Step)} {request : IncludeRequest}
    {resolution : Resolution} {f : Fault} (hb : firstFailure before = none)
    (hf : faultOf? resolution.answer = some f) :
    firstFailure (before ++ .asked request resolution :: after) = some (request, f) := by
  unfold firstFailure at hb ⊢
  rw [List.findSome?_append, hb, Option.none_or, List.findSome?_cons]
  simp only [hf, Option.map_some]

/-! ## Files -/

section

variable {s : Setting Step} {files : FileTree} {root : Option Text} {unit : SourceUnit}
  {options : CompileOptions}

/-- The source of a build, as the library gets it. -/
def sourceOf (unit : SourceUnit) (options : CompileOptions) : Source :=
  ⟨unit.source, options.stageFor unit.path, unit.name, SourceUnit.entryPoint⟩

/-- What is set for a build. -/
def settingsOf (options : CompileOptions) (resolver : Resolver) : Settings :=
  .ofParameters ((Parameters.ofOptions options).setCallback (some resolver))

/-- What is on record of a build is a compilation with the library. -/
theorem runs_of_record (hc : s.compiler = .ok (compiler library)) {record : CallRecord Step}
    (hr : (build s (root.map .text) unit options).record = some record) :
    (compileWith library (sourceOf unit options)
      (settingsOf options (s.resolver root unit))).run.Runs record.outcome record.events := by
  obtain ⟨compiler', rootPath, hc', hroot, rfl, -⟩ := build_of_record hr
  cases hc.symm.trans hc'
  cases (s.root_eq_ok root).symm.trans hroot
  exact Dialogue.runs_run _ _

/-- The only source that a build passes on is its text, and if nothing is missing, it does. -/
theorem sources_of_build (hc : s.compiler = .ok (compiler library)) {bytes : Bytes}
    (hb : Utf8.encode? unit.source = some bytes) (root : Option Text) (options : CompileOptions) :
    let run := build s (root.map .text) unit options
    (∀ record, run.record = some record →
      ∀ source ∈ sourcesOf (stepsOf record.events), source = (bytes, bytes.length)) ∧
    (library.hasCompiler → library.hasOptions → options.Passable →
      (∃ name, Utf8.encodeEscaped? unit.name = some name) →
      ∃ record, run.record = some record ∧
        sourcesOf (stepsOf record.events) = [(bytes, bytes.length)]) := by
  intro run
  refine ⟨fun record hr source hs => ?_, fun hcompiler hoptions ho ⟨name, hn⟩ => ?_⟩
  · rcases sourcesOf_compileWith (runs_of_record hc hr) with ⟨hnone, -⟩ | ⟨bytes', hb', hone⟩
    · rw [hnone] at hs
      cases hs
    · rw [hone] at hs
      cases hb.symm.trans hb'
      exact List.mem_singleton.1 hs
  · obtain ⟨form, hform⟩ := CompileOptions.describe_eq_ok ho.target
    obtain ⟨hrecord, -⟩ := build_eq hc hform root unit
    refine ⟨_, hrecord, ?_⟩
    rcases sourcesOf_compileWith (runs_of_record hc hrecord) with
      ⟨-, hmissing⟩ | ⟨bytes', hb', hone⟩
    · rcases hmissing hcompiler hoptions bytes hb with hfail | hfail
      · exact absurd hfail (not_canFail_configure ho rfl)
      · have entry : Utf8.encode? SourceUnit.entryPoint = some [109, 97, 105, 110] := by
          decide +kernel
        exact absurd hfail (not_canFail_job hn entry bytes)
    · cases hb.symm.trans hb'
      exact hone

/-- A build ends with the error of an include if no include failed before it. -/
theorem result_of_failure (hc : s.compiler = .ok (compiler library)) {record : CallRecord Step}
    (hr : (build s (root.map .text) unit options).record = some record)
    {before after : List (Event Step)} {request : IncludeRequest} {resolution : Resolution}
    (he : record.events = before ++ .asked request resolution :: after) {path : Text}
    {cause : ResolutionFault} (hf : resolution.answer = .error (Resolver.fault path cause))
    (hb : firstFailure before = none)
    (hbytes : GivesBytes library true (stepsOf record.events)) :
    (build s (root.map .text) unit options).result =
      .error (.shader ⟨.resolution cause path, unit.span⟩) := by
  have first : firstFailure record.events = some (request, Resolver.fault path cause) := by
    rw [he]
    exact firstFailure_of_before hb (by rw [hf]; rfl)
  obtain ⟨-, -, -, -, -, hresult⟩ := build_of_record hr
  rw [hresult,
    CallRecord.output_of_error (outcome_of_failure (runs_of_record hc hr) hbytes first)]
  rfl

/-- What the library gets for a path: the bytes of the path and those of the file if both are
    texts.  Otherwise it gets no name, and the compilation ends in a fault. -/
structure Delivered (read : Reader) (path : Text) (reply : Reply) (endsIn : ResolutionFault → Prop) :
    Prop where
  notUnicode : Utf8.isEncodable path = false → reply.name = [] ∧ endsIn .notUnicode
  wellFormed : ∀ bytes, Utf8.isEncodable path → read path = .ok bytes → Utf8.IsWellFormed bytes →
    Utf8.encode? path = some reply.name ∧ reply.content = bytes
  illFormed : ∀ bytes, Utf8.isEncodable path → read path = .ok bytes → ¬ Utf8.IsWellFormed bytes →
    reply.name = [] ∧ ∃ f, endsIn (.unreadable (.undecodable f))

theorem Delivered.mono {read : Reader} {path : Text} {reply : Reply}
    {endsIn endsIn' : ResolutionFault → Prop} (h : Delivered read path reply endsIn)
    (ends : ∀ cause, endsIn cause → endsIn' cause) : Delivered read path reply endsIn' where
  notUnicode hn := (h.notUnicode hn).imp_right (ends _)
  wellFormed := h.wellFormed
  illFormed bytes hn hread hb := by
    obtain ⟨name, f, hf⟩ := h.illFormed bytes hn hread hb
    exact ⟨name, f, ends _ hf⟩

/-- An answer of the resolver delivers the file of its path, or is the fault that it ends in. -/
theorem delivered_resolve {r : Resolver} {read : Reader} {cwd path shown : Text}
    {request : IncludeRequest} (hp : r.resolvePath cwd request = .ok path)
    (hd : request.depth.show? = some shown) :
    Delivered read path (replyTo (r.resolve read cwd request).answer) fun cause =>
      (r.resolve read cwd request).answer = .error (Resolver.fault path cause) := by
  have recorded := Resolver.recordedPath_of_path hp hd
  refine ⟨fun hn => ?_, fun bytes hn hread ⟨t, ht⟩ => ?_, fun bytes hn hread hb => ?_⟩
  · have failed : (r.resolve read cwd request).answer =
        .error (Resolver.fault path .notUnicode) := by
      rw [hn] at recorded
      simp only [Resolver.resolve, recorded]
      rfl
    exact ⟨by rw [failed]; rfl, failed⟩
  · rw [if_pos hn] at recorded
    rw [Resolver.resolve_of_encode recorded hread ht, replyTo_of_encode (encode?_eq_some hn) ht]
    exact ⟨encode?_eq_some hn, rfl⟩
  · rw [if_pos hn] at recorded
    obtain ⟨f, hf⟩ := Resolver.resolve_of_illFormed recorded hread hb
    exact ⟨by rw [hf]; rfl, f, hf⟩

/-- Right behind a request the library gets what is delivered for its path. -/
theorem includes_of_build (hc : s.compiler = .ok (compiler library)) {record : CallRecord Step}
    (hr : (build s (root.map .text) unit options).record = some record)
    {before after : List (Event Step)} {request : IncludeRequest} {resolution : Resolution}
    (he : record.events = before ++ .asked request resolution :: after) :
    ∃ q reply rest, request = Request.toInclude q ∧
      after = .noted (.call (converse.callOf q reply)) :: rest ∧
      (0 ≤ q.depth ∧ q.depth < 2 ^ 64 →
        ∀ path, (s.resolver root unit).resolvePath s.cwd request = .ok path →
          Delivered s.read path reply fun cause => firstFailure before = none →
            GivesBytes library true (stepsOf record.events) →
            (build s (root.map .text) unit options).result =
              .error (.shader ⟨.resolution cause path, unit.span⟩)) := by
  obtain ⟨q, rest, rfl, rfl⟩ :=
    answered_compileWith (runs_of_record hc hr) before request resolution after he
  refine ⟨q, _, rest, rfl, rfl, fun hword path hp => ?_⟩
  have asked : .asked q.toInclude resolution ∈ record.events := by
    rw [he]
    exact List.mem_append_right _ List.mem_cons_self
  have answer : resolution = (s.resolver root unit).resolve s.read s.cwd q.toInclude := by
    obtain ⟨compiler', rootPath, hc', hroot, rfl, -⟩ := build_of_record hr
    cases (s.root_eq_ok root).symm.trans hroot
    exact (asked_of_perform asked).1
  have short : Numeral.isWritable q.depth = true := Numeral.isWritable_of_lt (by omega)
  have shown : (Datum.int q.depth).show? = some (Numeral.ofInt q.depth) := by
    simp only [Datum.show?, Datum.form?, short, if_true]
  rw [answer]
  refine (delivered_resolve hp shown).mono fun cause failed => ?_
  exact fun hb hbytes => result_of_failure hc hr he (answer ▸ failed) hb hbytes

/-- **The library sees the bytes that are in the files.**

    The file that is compiled is passed on with its bytes and the number of them, and nothing else
    is; if nothing is missing it is passed on, once.  A file that is not well formed is an error of
    its own, and the library is not called.

    Right behind each request is the call that brings the library the reply to it.  Its depth is a
    word of the machine, and then what is delivered are the bytes of its path and of the file there;
    or else no name, and the build ends with the error for this path, unless an include failed
    before, or the library tells of success without having bytes. -/
theorem files_passed_on (hc : s.compiler = .ok (compiler library))
    (hs : s.read = files.read s.cwd) {argument : Option OptionsArgument}
    {fields : Option OptionFields}
    (ho : OptionsArgument.resolve s.environment argument fields = .ok options)
    (root : Option Text) (path : Text) (span : Option Span) :
    let run := compileFile s (root.map .text) path argument fields span
    let top := s.filePath root path
    (∀ bytes, s.read top = .ok bytes → ¬ Utf8.IsWellFormed bytes →
      run.record = none ∧
        ∃ f, run.result = .error (.shader ⟨.sourceRead (.unreadable (.undecodable f)) top, span⟩)) ∧
    (∀ bytes, s.read top = .ok bytes → Utf8.IsWellFormed bytes →
      (∀ record, run.record = some record →
        ∀ source ∈ sourcesOf (stepsOf record.events), source = (bytes, bytes.length)) ∧
      (library.hasCompiler → library.hasOptions → options.Passable →
        ∃ record, run.record = some record ∧
          sourcesOf (stepsOf record.events) = [(bytes, bytes.length)])) ∧
    ∀ record, run.record = some record → ∀ before request resolution after,
      record.events = before ++ .asked request resolution :: after →
      ∃ q reply rest, request = Request.toInclude q ∧
        after = .noted (.call (converse.callOf q reply)) :: rest ∧
        (0 ≤ q.depth ∧ q.depth < 2 ^ 64 → ∀ path,
          (Resolver.make s.cwd (s.rootPath root) (some top) (some top)).resolvePath s.cwd request =
            .ok path →
          Delivered s.read path reply fun cause => firstFailure before = none →
            GivesBytes library true (stepsOf record.events) →
            run.result = .error (.shader ⟨.resolution cause path, span⟩)) := by
  intro run top
  refine ⟨fun bytes hread hb => ?_, fun bytes hread ⟨t, ht⟩ => ?_, fun record hr => ?_⟩
  · obtain ⟨f, hf⟩ := Reader.readText_of_illFormed hread hb
    obtain ⟨hrecord, hresult⟩ := compileFile_of_unread ho (hf (sourceFault top span))
    exact ⟨hrecord, f, hresult⟩
  · obtain ⟨hrecord, -⟩ :=
      compileFile_of_read ho (Reader.readText_of_encode hread ht (sourceFault top span))
    let unit : SourceUnit := ⟨t, top, some top, span⟩
    obtain ⟨only, passed⟩ :=
      sources_of_build hc (show Utf8.encode? unit.source = some bytes from ht)
        (some (s.rootPath root)) options
    rw [show run.record = _ from hrecord]
    exact ⟨only, fun hcompiler hoptions ho =>
      passed hcompiler hoptions ho (FileTree.encodeEscaped_of_read (hs ▸ hread))⟩
  · cases hread : s.read.readText (sourceFault top span) top with
    | error f =>
      obtain ⟨hrecord, -⟩ := compileFile_of_unread ho hread
      cases hrecord.symm.trans hr
    | ok t =>
      obtain ⟨hrecord, hresult⟩ := compileFile_of_read ho hread
      rw [show run.result = _ from hresult]
      intro before request resolution after he
      exact includes_of_build hc (hrecord.symm.trans hr) he

end

/-- Builds in the root directory, with the library of a script. -/
def scripted (script : Script) (files : FileTree) : Setting Step where
  read := files.read (text "/")
  cwd := text "/"
  environment := []
  compiler := .ok (compiler (ofScript script))

/-- A byte order mark, a line end of two bytes and a zero are passed on as they are. -/
theorem files_passed_on_marks :
    let request : Request := ⟨[98], 0, [47, 97], 1⟩
    let files : FileTree :=
      ⟨[([[97]], .file [0xEF, 0xBB, 0xBF, 13, 10]), ([[98]], .file [0, 0xC3, 0xA9])]⟩
    let s := scripted { requests := some [request] } files
    let run := compileFile s none (text "a") none none none
    ∃ record, run.record = some record ∧
      sourcesOf (stepsOf record.events) = [([0xEF, 0xBB, 0xBF, 13, 10], 5)] ∧
      ∃ q, q.toInclude = request.toInclude ∧
        .noted (.call (converse.callOf q ⟨[47, 98], [0, 0xC3, 0xA9]⟩)) ∈ record.events := by
  intro request files s run
  have resolved : OptionsArgument.resolve s.environment none none = .ok (.defaults []) := by
    decide +kernel
  have topRead : s.read (s.filePath none (text "a")) = .ok [0xEF, 0xBB, 0xBF, 13, 10] := by
    decide +kernel
  have topText : Utf8.encode? [.ofNat 0xFEFF, .ofNat 13, .ofNat 10] =
      some [0xEF, 0xBB, 0xBF, 13, 10] := by decide +kernel
  have passable : (CompileOptions.defaults []).Passable := ⟨by decide +kernel, by decide +kernel⟩
  have compiled : s.compiler = .ok (compiler (ofScript { requests := some [request] })) := rfl
  have found : s.read = files.read s.cwd := rfl
  obtain ⟨-, whole, parts⟩ := files_passed_on compiled found resolved none (text "a") none
  obtain ⟨record, hr, hsources⟩ := (whole _ topRead ⟨_, topText⟩).2 rfl rfl passable
  refine ⟨record, hr, hsources, ?_⟩
  have asked : (run.record.map fun r => r.events.filterMap Event.request?) =
      some [request.toInclude] := by decide +kernel
  rw [show run.record = _ from hr, Option.map_some, Option.some.injEq] at asked
  obtain ⟨event, hevent, hrequest⟩ := List.mem_filterMap.1 (asked ▸ List.mem_singleton_self _)
  cases event with
  | logged r => cases hrequest
  | noted n => cases hrequest
  | asked other resolution =>
    obtain rfl : other = request.toInclude := Option.some.inj hrequest
    obtain ⟨before, after, he⟩ := List.append_of_mem hevent
    obtain ⟨q, ⟨name, content⟩, rest, hq, rfl, reply⟩ := parts record hr _ _ _ _ he
    have depth : q.depth = 1 := Datum.int.inj (congrArg IncludeRequest.depth hq).symm
    have delivered := reply (by omega) (text "/b") (by decide +kernel)
    obtain ⟨hname, rfl⟩ := delivered.wellFormed [0, 0xC3, 0xA9] (by decide +kernel)
      (by decide +kernel) ⟨[.ofNat 0, .ofNat 0xE9], by decide +kernel⟩
    obtain rfl : [47, 98] = name := Option.some.inj hname
    refine ⟨q, hq.symm, ?_⟩
    rw [he]
    exact List.mem_append_right _ (List.mem_cons_of_mem _ List.mem_cons_self)

/-- A file whose name is a single byte, which is no text: its contents are well formed, but the
    library does not get them.  And a file that is not well formed, with a library that tells of
    success nevertheless, and has no bytes: the build does not end with the error for this path. -/
theorem files_passed_on_limit :
    let request : Request := ⟨[0xFF], 1, [113], 1⟩
    let s := scripted { requests := some [request] }
      ⟨[([[97]], .file [120]), ([[0xFF]], .file [121])]⟩
    let run := compileFile s none (text "a") none none none
    let path : Text := text "/" ++ [.ofNat 0xDCFF]
    let empty := scripted { requests := some [⟨[98], 0, [47, 97], 1⟩], bytes := none,
                            ignoresFailures := true }
      ⟨[([[97]], .file [120]), ([[98]], .file [0xFF])]⟩
    ((s.resolver none ⟨text "x", text "/a", some (text "/a"), none⟩).resolvePath s.cwd
        request.toInclude = .ok path ∧
      s.read path = .ok [121] ∧ Utf8.IsWellFormed [121] ∧
      run.record.map (fun record => (repliesOf (stepsOf record.events)).map fun reply =>
        (reply.name, decide (reply.content = [121]))) = some [([], false)] ∧
      run.result = .error (.shader ⟨.resolution .notUnicode path, none⟩)) ∧
    empty.read (text "/b") = .ok [0xFF] ∧
      (compileFile empty none (text "a") none none none).result = .error .noBytes := by
  intro request s run path empty
  have resolved : (s.resolver none ⟨text "x", text "/a", some (text "/a"), none⟩).resolvePath s.cwd
      request.toInclude = .ok path := by decide +kernel
  have read : s.read path = .ok [121] := by decide +kernel
  have wellFormed : Utf8.encode? (text "y") = some [121] := by decide +kernel
  have replies : run.record.map (fun record => (repliesOf (stepsOf record.events)).map fun reply =>
      (reply.name, decide (reply.content = [121]))) = some [([], false)] := by decide +kernel
  have result : run.result = .error (.shader ⟨.resolution .notUnicode path, none⟩) := by
    decide +kernel
  have readEmpty : empty.read (text "/b") = .ok [0xFF] := by decide +kernel
  have resultEmpty : (compileFile empty none (text "a") none none none).result =
      .error .noBytes := by decide +kernel
  exact ⟨⟨resolved, read, ⟨_, wellFormed⟩, replies, result⟩, readEmpty, resultEmpty⟩

end Library

end ShaderBuild
