/-
  The handles of a compilation: each that the library lends is released once.

  * `LibraryCall.needs`, `Library.Step.needs`: the handles that a step is taken with;
  * `Library.Supplied`: each step finds the handles it needs among those that are held;
  * `Library.Balanced`: steps that give back what they get, the last first;
  * `Library.count_lends`, `Library.count_lends_result`: what is lent, by the calls that ask for it;
  * `Library.handles_released`: the steps of a compilation, however it goes, are supplied, and
    release what was lent.
-/
import ShaderBuild.Proofs.Library.Jobs
import ShaderBuild.Proofs.Outcome
import ShaderBuild.Library.Script

namespace ShaderBuild

/-- The handles that a call is made with.  The library asks for includes while it compiles. -/
def LibraryCall.needs : LibraryCall → List Library.Handle
  | .initializeCompiler | .initializeOptions => []
  | .setVersion .. | .addMacro .. | .setDebugInfo | .setOptimization .. | .setTarget ..
  | .setIncludeCallbacks => [.options]
  | .compile .. | .assemble .. | .resolve .. => [.compiler, .options]
  | .releaseResult => [.result]
  | .releaseOptions => [.options]
  | .releaseCompiler => [.compiler]

/-- The handle that a call releases. -/
def LibraryCall.released? : LibraryCall → Option Library.Handle
  | .releaseResult => some .result
  | .releaseOptions => some .options
  | .releaseCompiler => some .compiler
  | _ => none

namespace Library

namespace Step

/-- The handles that a step is taken with. -/
def needs : Step → List Handle
  | .call c => c.needs
  | .lend _ => []
  | .look _ => [.result]

/-- The handle that a step brings. -/
def lent? : Step → Option Handle
  | .lend h => some h
  | .call _ | .look _ => none

/-- The handle that a step takes away. -/
def released? : Step → Option Handle
  | .call c => c.released?
  | .lend _ | .look _ => none

/-- The handles that are held after a step. -/
def heldAfter (held : List Handle) (step : Step) : List Handle :=
  match step.lent?, step.released? with
  | some h, _ => h :: held
  | none, some h => held.erase h
  | none, none => held

end Step

/-- Each step finds the handles it needs among those that are held. -/
def Supplied : List Handle → List Step → Prop
  | _, [] => True
  | held, step :: steps => (∀ h ∈ step.needs, h ∈ held) ∧ Supplied (step.heldAfter held) steps

theorem supplied_append {held : List Handle} {first second : List Step} :
    Supplied held (first ++ second) ↔
      Supplied held first ∧ Supplied (first.foldl Step.heldAfter held) second := by
  induction first generalizing held with
  | nil => simp [Supplied]
  | cons step steps ih => simp only [List.cons_append, Supplied, ih, List.foldl_cons, and_assoc]

/-- Steps that, with some handles held, get at most certain others in turn, and give back what they
    got, the last first. -/
structure Balanced (held others : List Handle) (steps : List Step) : Prop where
  supplied : Supplied held steps
  lent : steps.filterMap Step.lent? <+: others
  returned : steps.filterMap Step.released? = (steps.filterMap Step.lent?).reverse
  restored : steps.foldl Step.heldAfter held = held

/-- A step that neither gets nor releases a handle, and needs none but those that are held. -/
def Step.Keeps (held : List Handle) (step : Step) : Prop :=
  step.lent? = none ∧ step.released? = none ∧ ∀ h ∈ step.needs, h ∈ held

namespace Balanced

variable {held others : List Handle} {first steps : List Step}

theorem nil : Balanced held others [] where
  supplied := trivial
  lent := List.nil_prefix
  returned := rfl
  restored := rfl

theorem cons {step : Step} (hk : step.Keeps held) (h : Balanced held others steps) :
    Balanced held others (step :: steps) := by
  obtain ⟨hl, hr, hn⟩ := hk
  have same : step.heldAfter held = held := by simp only [Step.heldAfter, hl, hr]
  refine ⟨⟨hn, ?_⟩, ?_, ?_, ?_⟩
  · rw [same]
    exact h.supplied
  · rw [List.filterMap_cons_none hl]
    exact h.lent
  · rw [List.filterMap_cons_none hl, List.filterMap_cons_none hr]
    exact h.returned
  · rw [List.foldl_cons, same]
    exact h.restored

theorem append (hk : ∀ step ∈ first, step.Keeps held) (h : Balanced held others steps) :
    Balanced held others (first ++ steps) := by
  induction first with
  | nil => exact h
  | cons step first ih =>
    exact .cons (hk step List.mem_cons_self) (ih fun s hs => hk s (List.mem_cons_of_mem _ hs))

/-- A handle around the use of it. -/
theorem bracket {h : Handle} (use : Balanced (h :: held) others steps) :
    Balanced held (h :: others) (.lend h :: (steps ++ [.call h.release])) := by
  have hreleased : (Step.call h.release).released? = some h := by cases h <;> rfl
  have hlent : (Step.call h.release).lent? = none := rfl
  refine ⟨⟨nofun, supplied_append.2 ⟨use.supplied, ?_, trivial⟩⟩, ?_, ?_, ?_⟩
  · change ∀ g ∈ (Step.call h.release).needs, g ∈ steps.foldl Step.heldAfter (h :: held)
    rw [use.restored]
    cases h <;> simp [Step.needs, Handle.release, LibraryCall.needs]
  · simp only [Step.lent?, List.filterMap_append, List.filterMap_cons, List.filterMap_nil,
      List.append_nil]
    exact (List.prefix_cons_inj h).2 use.lent
  · simp only [List.filterMap_cons, List.filterMap_append, List.filterMap_nil, hreleased, hlent,
      List.append_nil, use.returned]
    simp [Step.lent?, Step.released?]
  · simp only [List.foldl_cons, List.foldl_append, List.foldl_nil]
    change Step.heldAfter (steps.foldl Step.heldAfter (h :: held)) (.call h.release) = held
    rw [use.restored]
    simp [Step.heldAfter, hreleased, hlent]

end Balanced

/-! ## The parts of a compilation -/

theorem keeps_setting {held : List Handle} {c : LibraryCall} (hc : c.isSetting)
    (ho : .options ∈ held) : Step.Keeps held (.call c) := by
  have hn : c.needs = [.options] ∧ c.released? = none := by
    cases c <;> simp [LibraryCall.isSetting, LibraryCall.needs, LibraryCall.released?] at hc ⊢
  exact ⟨rfl, hn.2, by simpa [Step.needs, hn.1] using ho⟩

theorem keeps_of_job {held : List Handle} {c : LibraryCall} {job : Job} (hc : c.job? = some job)
    (hh : .compiler ∈ held ∧ .options ∈ held) : Step.Keeps held (.call c) := by
  have hn : c.needs = [.compiler, .options] ∧ c.released? = none := by
    cases c <;> simp [LibraryCall.job?, LibraryCall.needs, LibraryCall.released?] at hc ⊢
  exact ⟨rfl, hn.2, by simpa [Step.needs, hn.1] using hh⟩

theorem keeps_callOf {held : List Handle} (request : Request) (reply : Reply)
    (hh : .compiler ∈ held ∧ .options ∈ held) :
    Step.Keeps held (.call (converse.callOf request reply)) :=
  ⟨rfl, rfl, by simpa [Step.needs, converse.callOf, LibraryCall.needs] using hh⟩

theorem balanced_takeResult {held : List Handle} {result : Option Result}
    {outcome : Except Fault CompilationResult} {events : List (Event Step)}
    (h : (takeResult result).run.Runs outcome events) :
    Balanced held [.result] (stepsOf events) := by
  rcases runs_takeResult h with ⟨-, -, rfl⟩ | ⟨r, -, -, rfl⟩
  · exact .nil
  · have steps : stepsOf (.noted (.lend .result) ::
          (r.fields.map (fun field => .noted (.look field)) ++ [.noted (.call .releaseResult)]))
        = .lend .result :: (r.fields.map .look ++ [.call .releaseResult]) := by
      simp [stepsOf, Event.noted?, List.filterMap_map, Function.comp_def]
    rw [steps]
    refine .bracket (?_ : Balanced (.result :: held) [] (r.fields.map .look))
    rw [← List.append_nil (r.fields.map Step.look)]
    refine .append (fun step hs => ?_) .nil
    obtain ⟨field, -, rfl⟩ := List.mem_map.1 hs
    exact ⟨rfl, rfl, by simp [Step.needs]⟩

theorem balanced_perform {library : Library} {hasCallback : Bool} {job : Job}
    {held : List Handle} {outcome : Except Fault CompilationResult} {events : List (Event Step)}
    (h : (perform library hasCallback job).run.Runs outcome events)
    (hh : .compiler ∈ held ∧ .options ∈ held) : Balanced held [.result] (stepsOf events) := by
  obtain ⟨result, first, talk, told, look, htalk, hlook, rfl, -⟩ := runs_perform h
  rw [stepsOf_append]
  refine .append (fun step hs => ?_) (balanced_takeResult hlook)
  obtain ⟨request, reply, rfl⟩ := (runs_work htalk).1.steps step hs
  exact keeps_callOf request reply hh

theorem balanced_compileConfigured {library : Library} {s : Source} {bytes : Bytes}
    {settings : Settings} {held : List Handle} {outcome : Except Fault CompilationResult}
    {events : List (Event Step)}
    (h : (compileConfigured library s bytes settings).run.Runs outcome events)
    (hh : .compiler ∈ held ∧ .options ∈ held) : Balanced held [.result] (stepsOf events) := by
  have keeps {before : List (Event Step)} (hset : ∀ e ∈ before, IsSetting e) :
      ∀ step ∈ stepsOf before, step.Keeps held := by
    intro step hs
    obtain ⟨c, rfl, hc⟩ := stepsOf_settings hset step hs
    exact keeps_setting hc hh.2
  rcases runs_compileConfigured h with ⟨-, hset⟩ | ⟨before, call, job, work, rfl, hset, hjob, -, hwork⟩
  · rw [← List.append_nil (stepsOf events)]
    exact .append (keeps hset) .nil
  · rw [stepsOf_append]
    exact .append (keeps hset) (.cons (keeps_of_job hjob hh) (balanced_perform hwork hh))

theorem balanced_compileWith {library : Library} {s : Source} {settings : Settings}
    {outcome : Except Fault CompilationResult} {events : List (Event Step)}
    (h : (compileWith library s settings).run.Runs outcome events) :
    Balanced [] [.compiler, .options, .result] (stepsOf events) := by
  obtain ⟨rest, rfl, course⟩ := runs_compileWith h
  change Balanced [] [.compiler, .options, .result] (stepsOf rest)
  have free (held : List Handle) {c : LibraryCall} (hc : c.needs = []) (hr : c.released? = none) :
      Step.Keeps held (.call c) := ⟨rfl, hr, by simp [Step.needs, hc]⟩
  cases course with
  | unencodable => exact .nil
  | noCompiler => exact .cons (free _ rfl rfl) .nil
  | noOptions =>
    exact .cons (free _ rfl rfl) <| .bracket <| .cons (free _ rfl rfl) .nil
  | @used bytes _ inner _ _ _ hinner =>
    have steps : stepsOf (.noted (.call .initializeCompiler) :: .noted (.lend .compiler) ::
          .noted (.call .initializeOptions) :: .noted (.lend .options) ::
          (inner ++ [.noted (.call .releaseOptions), .noted (.call .releaseCompiler)]))
        = .call .initializeCompiler :: .lend .compiler :: ((.call .initializeOptions ::
          .lend .options :: (stepsOf inner ++ [.call .releaseOptions]))
          ++ [.call .releaseCompiler]) := by
      simp [stepsOf, Event.noted?]
    rw [steps]
    exact .cons (free _ rfl rfl) <| .bracket <| .cons (free _ rfl rfl) <| .bracket <|
      balanced_compileConfigured hinner (by simp)

/-! ## What is lent -/

/-- What is done with a result needs it, once it is there. -/
theorem needs_of_takeResult {result : Option Result} {outcome : Except Fault CompilationResult}
    {events : List (Event Step)} (h : (takeResult result).run.Runs outcome events) :
    ∀ step ∈ stepsOf events, step = .lend .result ∨ step.needs ≠ [] := by
  intro step hs
  rcases runs_takeResult h with ⟨-, -, rfl⟩ | ⟨r, -, -, rfl⟩
  · cases hs
  rcases List.mem_cons.1 hs with rfl | hs
  · exact .inl rfl
  obtain ⟨event, he, hn⟩ := List.mem_filterMap.1 hs
  rcases List.mem_append.1 he with he | he
  · obtain ⟨field, -, rfl⟩ := List.mem_map.1 he
    cases hn
    exact .inr (List.cons_ne_nil _ _)
  · obtain rfl := List.mem_singleton.1 he
    cases hn
    exact .inr (List.cons_ne_nil _ _)

/-- While options are held, a step needs handles, unless it brings the result. -/
theorem needs_of_inner {library : Library} {s : Source} {bytes : Bytes} {settings : Settings}
    {outcome : Except Fault CompilationResult} {events : List (Event Step)}
    (h : (compileConfigured library s bytes settings).run.Runs outcome events) :
    ∀ step ∈ stepsOf events, step = .lend .result ∨ step.needs ≠ [] := by
  have set {before : List (Event Step)} (hset : ∀ e ∈ before, IsSetting e) :
      ∀ step ∈ stepsOf before, step = .lend .result ∨ step.needs ≠ [] := by
    intro step hs
    obtain ⟨c, rfl, hc⟩ := stepsOf_settings hset step hs
    refine .inr ?_
    cases c <;> first | exact List.cons_ne_nil _ _ | cases hc
  rcases runs_compileConfigured h with ⟨-, hset⟩ |
    ⟨before, call, job, work, rfl, hset, hjob, -, hwork⟩
  · exact set hset
  obtain ⟨result, first, talk, told, look, htalk, hlook, rfl, -⟩ := runs_perform hwork
  intro step hs
  rw [stepsOf_append] at hs
  rcases List.mem_append.1 hs with hs | hs
  · exact set hset step hs
  rcases List.mem_cons.1 hs with rfl | hs
  · refine .inr ?_
    cases call <;> first | exact List.cons_ne_nil _ _ | cases hjob
  change step ∈ stepsOf (talk ++ look) at hs
  rw [stepsOf_append] at hs
  rcases List.mem_append.1 hs with hs | hs
  · obtain ⟨request, reply, rfl⟩ := (runs_work htalk).1.steps step hs
    exact .inr (List.cons_ne_nil _ _)
  · exact needs_of_takeResult hlook step hs

/-- A compiler is lent for every call for one, if the library has any to give; so are options. -/
theorem count_lends {library : Library} {s : Source} {settings : Settings}
    {outcome : Except Fault CompilationResult} {events : List (Event Step)}
    (h : (compileWith library s settings).run.Runs outcome events) :
    ((stepsOf events).count (.lend .compiler) =
      if library.hasCompiler then (stepsOf events).count (.call .initializeCompiler) else 0) ∧
    (stepsOf events).count (.lend .options) =
      if library.hasOptions then (stepsOf events).count (.call .initializeOptions) else 0 := by
  obtain ⟨rest, rfl, course⟩ := runs_compileWith h
  cases course with
  | unencodable => exact ⟨(ite_self 0).symm, (ite_self 0).symm⟩
  | noCompiler hc =>
    rw [hc]
    exact ⟨rfl, (ite_self 0).symm⟩
  | noOptions hc ho =>
    rw [hc, ho]
    exact ⟨rfl, rfl⟩
  | @used bytes _ inner _ hc ho hinner =>
    have once (step : Step) (hn : step.needs = []) (hr : step ≠ .lend .result) :
        (stepsOf inner).count step = 0 := by
      refine List.count_eq_zero.2 fun hs => ?_
      rcases needs_of_inner hinner step hs with he | he
      · exact hr he
      · exact he hn
    have steps : stepsOf (.logged s.log :: .noted (.call .initializeCompiler) ::
          .noted (.lend .compiler) :: .noted (.call .initializeOptions) ::
          .noted (.lend .options) ::
          (inner ++ [.noted (.call .releaseOptions), .noted (.call .releaseCompiler)]))
        = [.call .initializeCompiler, .lend .compiler, .call .initializeOptions, .lend .options]
          ++ (stepsOf inner ++ [.call .releaseOptions, .call .releaseCompiler]) := by
      exact congrArg ([.call .initializeCompiler, .lend .compiler, .call .initializeOptions,
        .lend .options] ++ ·) (stepsOf_append inner _)
    rw [steps, hc, ho]
    simp only [List.count_append, once (.lend .compiler) rfl nofun,
      once (.call .initializeCompiler) rfl nofun, once (.lend .options) rfl nofun,
      once (.call .initializeOptions) rfl nofun]
    exact ⟨rfl, rfl⟩

/-- A result is lent for every job that is passed on, if the library gives one for it. -/
theorem count_lends_result {library : Library} {s : Source} {settings : Settings}
    {outcome : Except Fault CompilationResult} {events : List (Event Step)}
    (h : (compileWith library s settings).run.Runs outcome events) :
    (stepsOf events).count (.lend .result) = (jobsOf (stepsOf events)).countP fun job =>
      (resultOf library settings.hasCallback job (repliesOf (stepsOf events))).isSome := by
  rcases worked_or_fails h with ⟨job, worked⟩ | ⟨-, asides⟩
  · rw [worked.jobs, worked.lends, List.countP_singleton]
  · rw [jobsOf_asides asides, lends_asides asides, List.countP_nil]

/-- **Each handle that the library lends is released once, the result before the options and the
    options before the compiler, and none is used after that.**  It does not matter how the
    compilation goes: what the library gives, what it asks for, what it is answered, and which of
    the texts have no bytes.

    At most one handle of each kind is lent.  A compiler and options are lent for the calls that ask
    for them, and a result for the job, unless the library has none to give. -/
theorem handles_released {library : Library} {s : Source} {settings : Settings}
    {outcome : Except Fault CompilationResult} {events : List (Event Step)}
    (h : (compileWith library s settings).run.Runs outcome events) :
    let steps := stepsOf events
    let lent := steps.filterMap Step.lent?
    lent <+: [.compiler, .options, .result] ∧
      steps.filterMap Step.released? = lent.reverse ∧
      steps.foldl Step.heldAfter [] = [] ∧ Supplied [] steps ∧
      (steps.count (.lend .compiler) =
        if library.hasCompiler then steps.count (.call .initializeCompiler) else 0) ∧
      (steps.count (.lend .options) =
        if library.hasOptions then steps.count (.call .initializeOptions) else 0) ∧
      steps.count (.lend .result) = (jobsOf steps).countP fun job =>
        (resultOf library settings.hasCallback job (repliesOf steps)).isSome := by
  intro steps lent
  have balanced := balanced_compileWith h
  obtain ⟨hcompiler, hoptions⟩ := count_lends h
  exact ⟨balanced.lent, balanced.returned, balanced.restored, balanced.supplied, hcompiler,
    hoptions, count_lends_result h⟩

/-- An include is not resolved, and the result that comes nevertheless is released first. -/
theorem handles_released_failed_include :
    let library := ofScript { requests := some [⟨[98], 0, [97], 1⟩] }
    let s : Source := ⟨text "x", .vertex, text "a", text "main"⟩
    let run := (compileWith library s { hasCallback := true }).run.run
      fun _ => ⟨.error (.type .sourceNotText), none⟩
    let steps := stepsOf run.2
    run.1 = .error (.type .sourceNotText) ∧
      steps.filterMap Step.lent? = [.compiler, .options, .result] ∧
      steps.filterMap Step.released? = [.result, .options, .compiler] := by
  intro library s run steps
  have outcome : run.1 = .error (.type .sourceNotText) := by decide +kernel
  have lent : steps.filterMap Step.lent? = [.compiler, .options, .result] := by decide +kernel
  have runs : (compileWith library s { hasCallback := true }).run.Runs run.1 run.2 :=
    Dialogue.runs_run _ _
  exact ⟨outcome, lent, (handles_released runs).2.1.trans (congrArg List.reverse lent)⟩

end Library

end ShaderBuild
