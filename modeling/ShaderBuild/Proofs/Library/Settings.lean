/-
  No option is lost on the way to the library.

  The options of a compilation become calls with the handle of the compile options.  These calls can
  be read back: the version is a signed integer, a macro is bytes with their number, and a macro
  without a value has none, which is not the same as an empty one.

  * `Library.optionCalls`: the calls of a compilation that pass an option on;
  * `Library.callsOf`: what these are for parameters;
  * `Library.optionCalls_eq`: they are made whenever the library lends compile options;
  * `Library.options_of_calls`: options that lead to the same calls are the same, and each length
    that is passed is the number of the bytes it stands beside.
-/
import Mathlib.Data.Option.Basic
import Mathlib.Data.UInt
import ShaderBuild.Library.Script
import ShaderBuild.Proofs.Library.Steps
import ShaderBuild.Proofs.Text.Utf8

namespace ShaderBuild

namespace LibraryCall

/-- Does the call pass an option on? -/
def passesOption : LibraryCall → Bool
  | .setVersion .. | .addMacro .. | .setDebugInfo | .setOptimization .. | .setTarget .. => true
  | _ => false

/-- The version that the call passes on. -/
def version? : LibraryCall → Option Int
  | .setVersion version _ => some version
  | _ => none

/-- The name and the value of the macro that the call passes on. -/
def macro? : LibraryCall → Option (Bytes × Option Bytes)
  | .addMacro name _ value _ => some (name, value)
  | _ => none

/-- The level that the call passes on. -/
def level? : LibraryCall → Option Nat
  | .setOptimization level => some level
  | _ => none

/-- The version of the interface that the call passes on. -/
def target? : LibraryCall → Option Int
  | .setTarget _ version => some version
  | _ => none

end LibraryCall

/-- Options that can be passed on: the target is a word, and the macros have bytes. -/
structure CompileOptions.Passable (o : CompileOptions) : Prop where
  target : 0 ≤ o.target ∧ o.target < 2 ^ 32
  encodable : ∀ d ∈ o.definitions, Utf8.isEncodable d.1 ∧ ∀ value ∈ d.2, Utf8.isEncodable value

/-- Different levels have different numbers. -/
theorem OptimizationLevel.code_injective {l l' : OptimizationLevel} (h : l.code = l'.code) :
    l = l' := by
  cases l <;> cases l' <;> first | rfl | cases h

namespace Library

/-! ## The calls -/

/-- The calls of some steps that pass an option on. -/
def optionCalls (steps : List Step) : List LibraryCall :=
  (steps.filterMap Step.call?).filter LibraryCall.passesOption

/-- The bytes of a text that has them. -/
def bytesOf (t : Text) : Bytes := (Utf8.encode? t).getD []

/-- The call for a macro. -/
def macroCall (d : Definition) : LibraryCall :=
  .addMacro (bytesOf d.1) (bytesOf d.1).length (d.2.map bytesOf) ((d.2.map bytesOf).getD []).length

/-- The calls for parameters. -/
def callsOf (p : Parameters) : List LibraryCall :=
  (p.version.map fun version => .setVersion (signed version.toNat) p.profile.code).toList
    ++ p.definitions.map macroCall
    ++ (if p.debugInfo then [.setDebugInfo] else [])
    ++ [.setOptimization p.optimization.code, .setTarget p.env.code p.envVersion]

theorem optionCalls_append (first second : List Step) :
    optionCalls (first ++ second) = optionCalls first ++ optionCalls second := by
  simp only [optionCalls, List.filterMap_append, List.filter_append]

theorem optionCalls_eq_nil {steps : List Step}
    (h : ∀ c : LibraryCall, .call c ∈ steps → c.passesOption = false) : optionCalls steps = [] := by
  refine List.filter_eq_nil_iff.2 fun c hc => ?_
  obtain ⟨step, hstep, hcall⟩ := List.mem_filterMap.1 hc
  cases step with
  | call c' =>
    cases hcall
    simp [h c hstep]
  | lend handle => cases hcall
  | look field => cases hcall

/-! ## Passing options on -/

/-- An attempt that makes some calls, and does nothing else. -/
def Makes (p : Attempt Step Unit) (calls : List LibraryCall) : Prop :=
  ∀ outcome events, p.run.Runs outcome events →
    outcome = .ok () ∧ events = calls.map fun c => .noted (.call c)

theorem makes_tell (c : LibraryCall) : Makes (tell c) [c] :=
  fun _ _ h => Attempt.runs_tell.1 h

theorem makes_pure : Makes (pure ()) [] := fun _ _ h => Attempt.runs_pure.1 h

theorem makes_tell? (c : Option LibraryCall) : Makes (tell? c) c.toList := by
  cases c with
  | none => exact makes_pure
  | some c => exact makes_tell c

theorem makes_bind {p q : Attempt Step Unit} {first second : List LibraryCall}
    (hp : Makes p first) (hq : Makes q second) : Makes (p >>= fun _ => q) (first ++ second) := by
  intro outcome events h
  rcases Attempt.runs_bind.1 h with ⟨f, -, hf⟩ | ⟨_, before, after, h1, h2, rfl⟩
  · cases (hp _ _ hf).1
  · obtain ⟨-, rfl⟩ := hp _ _ h1
    obtain ⟨hq, rfl⟩ := hq _ _ h2
    exact ⟨hq, (List.map_append).symm⟩

theorem makes_forM {α : Type} {p : α → Attempt Step Unit} {call : α → LibraryCall} {as : List α}
    (hp : ∀ a ∈ as, Makes (p a) [call a]) : Makes (as.forM p) (as.map call) := by
  induction as with
  | nil => exact makes_pure
  | cons a as ih =>
    exact makes_bind (hp a List.mem_cons_self) (ih fun b hb => hp b (List.mem_cons_of_mem _ hb))

theorem encode?_eq_some {t : Text} (h : Utf8.isEncodable t) : Utf8.encode? t = some (bytesOf t) := by
  simp [bytesOf, Utf8.encode?, h]

theorem encode_eq_pure {t : Text} (h : Utf8.isEncodable t) : encode t = pure (bytesOf t) := by
  simp only [encode, encode?_eq_some h]

/-- A macro with bytes is passed on by one call. -/
theorem makes_addMacro {d : Definition} (hn : Utf8.isEncodable d.1)
    (hv : ∀ value ∈ d.2, Utf8.isEncodable value) : Makes (addMacro d) [macroCall d] := by
  have eq : addMacro d = tell (macroCall d) := by
    obtain ⟨name, value⟩ := d
    simp only [addMacro, encode_eq_pure hn]
    cases value with
    | none => rfl
    | some value =>
      simp only [encode_eq_pure (hv value rfl)]
      rfl
  rw [eq]
  exact makes_tell _

theorem makes_setTarget {env : TargetEnv} {version : Int} (h : 0 ≤ version ∧ version < 2 ^ 32) :
    Makes (setTarget env version) [.setTarget env.code version] := by
  have word : 0 ≤ version ∧ version < 0x100000000 := ⟨h.1, by omega⟩
  rw [setTarget, if_pos word]
  exact makes_tell _

/-- What is set on compile options for parameters. -/
theorem makes_configure {p : Parameters} {o : CompileOptions} (ho : o.Passable)
    (hp : p.setCallback none = .ofOptions o) :
    Makes (configure (.ofParameters p))
      (callsOf p ++ if p.callback.isSome then [.setIncludeCallbacks] else []) := by
  have target : p.envVersion = o.target := congrArg Parameters.envVersion hp
  have definitions : p.definitions = o.definitions := congrArg Parameters.definitions hp
  have macros : Makes (p.definitions.forM addMacro) (p.definitions.map macroCall) :=
    makes_forM fun d hd => by
      obtain ⟨hn, hv⟩ := ho.encodable d (definitions ▸ hd)
      exact makes_addMacro hn hv
  have interface : Makes (setTarget p.env p.envVersion) [.setTarget p.env.code p.envVersion] :=
    makes_setTarget (by rw [target]; exact ho.target)
  have all := makes_bind
    (makes_tell? (p.version.map fun version => .setVersion (signed version.toNat) p.profile.code)) <|
    makes_bind macros <|
    makes_bind (makes_tell? (if p.debugInfo then some .setDebugInfo else none)) <|
    makes_bind (makes_tell? (some (.setOptimization p.optimization.code))) <|
    makes_bind interface <|
    makes_tell? (if p.callback.isSome then some .setIncludeCallbacks else none)
  have shape (b : Bool) (c : LibraryCall) :
      (if b then some c else none).toList = if b then [c] else [] := by cases b <;> rfl
  simp only [shape, Option.toList_some, List.cons_append, List.nil_append] at all
  simp only [callsOf, List.append_assoc, List.cons_append, List.nil_append]
  exact all

/-! ## Compilations -/

variable {library : Library} {events : List (Event Step)} {outcome : Except Fault CompilationResult}

/-- Having a job done passes no option on. -/
theorem optionCalls_perform {hasCallback : Bool} {job : Job}
    (h : (perform library hasCallback job).run.Runs outcome events) :
    optionCalls (stepsOf events) = [] := by
  obtain ⟨result, first, talk, told, look, htalk, hlook, rfl, -⟩ := runs_perform h
  have talks : optionCalls (stepsOf talk) = [] := optionCalls_eq_nil fun c hc => by
    obtain ⟨request, reply, he⟩ := (runs_work htalk).1.steps _ hc
    cases he
    rfl
  have looks : optionCalls (stepsOf look) = [] := by
    rcases runs_takeResult hlook with ⟨-, -, rfl⟩ | ⟨r, -, -, rfl⟩
    · rfl
    · refine optionCalls_eq_nil fun c hc => ?_
      obtain ⟨e, he, hcall⟩ := List.mem_filterMap.1 hc
      rcases List.mem_cons.1 he with rfl | he
      · cases hcall
      rcases List.mem_append.1 he with he | he
      · obtain ⟨field, -, rfl⟩ := List.mem_map.1 he
        cases hcall
      · cases List.mem_singleton.1 he
        cases hcall
        rfl
  rw [stepsOf_append, optionCalls_append, talks, looks, List.append_nil]

/-- The calls between getting compile options and releasing them. -/
theorem optionCalls_compileConfigured {s : Source} {bytes : Bytes} {p : Parameters}
    {o : CompileOptions} (ho : o.Passable) (hp : p.setCallback none = .ofOptions o)
    (h : (compileConfigured library s bytes (.ofParameters p)).run.Runs outcome events) :
    optionCalls (stepsOf events) = callsOf p := by
  have makes := makes_configure ho hp
  have stepsOf_calls (calls : List LibraryCall) :
      stepsOf (calls.map fun c => .noted (.call c)) = calls.map .call := by
    simp [stepsOf, List.filterMap_map, Function.comp_def, Event.noted?]
  have all : ∀ c ∈ callsOf p, c.passesOption = true := by
    simp only [callsOf, List.forall_mem_append, List.forall_mem_map]
    refine ⟨⟨⟨fun c hc => ?_, fun d _ => rfl⟩, fun c hc => ?_⟩, by simp [LibraryCall.passesOption]⟩
    · obtain ⟨v, -, rfl⟩ := Option.map_eq_some_iff.1 (Option.mem_toList.1 hc)
      rfl
    · split at hc
      · rw [List.mem_singleton.1 hc]
        rfl
      · cases hc
  have configured (more : List LibraryCall) (hmore : more.filter LibraryCall.passesOption = []) :
      optionCalls ((callsOf p ++ more).map .call) = callsOf p := by
    simp only [optionCalls, List.filterMap_map, Function.comp_def, Step.call?, List.filterMap_some,
      List.filter_append, hmore, List.append_nil]
    exact List.filter_eq_self.2 all
  rcases Attempt.runs_bind.1 h with ⟨f, -, hf⟩ | ⟨_, before, after, h1, h2, rfl⟩
  · cases (makes _ _ hf).1
  obtain ⟨-, rfl⟩ := makes _ _ h1
  have rest : optionCalls (stepsOf after) = [] := by
    rcases Attempt.runs_bind.1 h2 with ⟨f, -, hf⟩ | ⟨⟨job, call⟩, nothing, work, h3, h4, rfl⟩
    · rw [(runs_job hf).1]
      rfl
    obtain ⟨rfl, hjob⟩ := runs_job h3
    rcases Attempt.runs_bind.1 h4 with ⟨f, -, hf⟩ | ⟨_, told, work, h5, h6, rfl⟩
    · cases (Attempt.runs_tell.1 hf).1
    obtain ⟨-, rfl⟩ := Attempt.runs_tell.1 h5
    have jobCall : call.passesOption = false := by
      have hj := (hjob job call rfl).1
      cases call <;> first | rfl | cases hj
    have one : optionCalls (stepsOf [.noted (.call call)]) = [] := by
      simp [optionCalls, stepsOf, Event.noted?, Step.call?, jobCall]
    rw [List.nil_append, stepsOf_append, optionCalls_append, one, optionCalls_perform h6]
    rfl
  rw [stepsOf_append, optionCalls_append, rest, List.append_nil, stepsOf_calls]
  refine configured _ ?_
  split <;> rfl

/-- The options are passed on by the same calls whenever the library lends compile options, whatever
    else happens. -/
theorem optionCalls_eq {call : Call} {o : CompileOptions} (ho : o.Passable)
    (hp : call.parameters.setCallback none = .ofOptions o)
    (h : (compiler library call).run.Runs outcome events) (lent : .lend .options ∈ stepsOf events) :
    optionCalls (stepsOf events) = callsOf (.ofOptions o) := by
  obtain ⟨rest, rfl, course⟩ := runs_compileWith h
  rw [← hp]
  change _ = callsOf call.parameters
  cases course with
  | unencodable => simp [stepsOf, Event.noted?] at lent
  | noCompiler => simp [stepsOf, Event.noted?] at lent
  | noOptions => simp [stepsOf, Event.noted?] at lent
  | @used bytes _ inner _ _ _ hinner =>
    have hcalls := optionCalls_compileConfigured ho hp hinner
    simp only [optionCalls, stepsOf, List.filterMap_cons, List.filterMap_append, Event.noted?,
      Step.call?, List.filter_cons, List.filter_append, LibraryCall.passesOption] at hcalls ⊢
    simpa using hcalls

/-! ## Reading the calls back -/

section

variable {o o' : CompileOptions}

/-- A version is told by the signed integer that it is passed on as. -/
theorem signed_injective {v w : UInt32} (h : signed v.toNat = signed w.toNat) : v = w := by
  have hv := v.toNat_lt
  have hw := w.toNat_lt
  refine UInt32.toNat_inj.1 ?_
  unfold signed at h
  dsimp only at h
  split at h <;> split at h <;> omega

/-- What is read off the calls for options, one option after the other. -/
theorem filterMap_callsOf {α : Type} (read : LibraryCall → Option α) (o : CompileOptions) :
    (callsOf (.ofOptions o)).filterMap read =
      (o.version.toList.filterMap fun v =>
          read (.setVersion (signed v.toNat) (Parameters.ofOptions o).profile.code))
        ++ (o.definitions.filterMap fun d => read (macroCall d))
        ++ (if o.debug then (read .setDebugInfo).toList else [])
        ++ (read (.setOptimization o.optimization.code)).toList
        ++ (read (.setTarget (Parameters.ofOptions o).env.code o.target)).toList := by
  have cons (c : LibraryCall) (cs : List LibraryCall) :
      (c :: cs).filterMap read = (read c).toList ++ cs.filterMap read := by
    rw [List.filterMap_cons]
    cases read c <;> rfl
  have versions : ((Parameters.ofOptions o).version.map fun version =>
      LibraryCall.setVersion (signed version.toNat) (Parameters.ofOptions o).profile.code).toList
      = o.version.toList.map fun v =>
          .setVersion (signed v.toNat) (Parameters.ofOptions o).profile.code := by
    simp only [Parameters.ofOptions]
    cases o.version <;> rfl
  have debug : (if (Parameters.ofOptions o).debugInfo then [.setDebugInfo] else []).filterMap read
      = if o.debug then (read .setDebugInfo).toList else [] := by
    by_cases h : o.debug <;> simp [Parameters.ofOptions, h, cons]
  rw [callsOf, versions]
  simp only [List.filterMap_append, List.filterMap_map, debug, cons, List.filterMap_nil,
    List.append_nil, List.append_assoc]
  rfl

theorem version_of_callsOf (h : callsOf (.ofOptions o) = callsOf (.ofOptions o')) :
    o.version = o'.version := by
  have versions (o : CompileOptions) : ((callsOf (.ofOptions o)).filterMap LibraryCall.version?).head?
      = o.version.map fun v => signed v.toNat := by
    rw [filterMap_callsOf]
    cases o.version <;> cases o.debug <;> simp [LibraryCall.version?, macroCall]
  refine Option.map_injective (fun v w => signed_injective) ?_
  rw [← versions o, h, versions o']

theorem definitions_of_callsOf (ho : o.Passable) (ho' : o'.Passable)
    (h : callsOf (.ofOptions o) = callsOf (.ofOptions o')) : o.definitions = o'.definitions := by
  have macros (o : CompileOptions) : (callsOf (.ofOptions o)).filterMap LibraryCall.macro?
      = o.definitions.map fun d => (bytesOf d.1, d.2.map bytesOf) := by
    rw [filterMap_callsOf]
    cases o.version <;> cases o.debug <;> simp [LibraryCall.macro?, macroCall]
  -- the texts are read back from their bytes
  let read (bytes : Bytes) : Text := (Utf8.decode bytes).toOption.getD []
  have read_bytesOf {t : Text} (ht : Utf8.isEncodable t) : read (bytesOf t) = t := by
    simp only [read, Utf8.decode_encode (encode?_eq_some ht)]
    rfl
  have back {o : CompileOptions} (ho : o.Passable) :
      (o.definitions.map fun d => (bytesOf d.1, d.2.map bytesOf)).map
        (fun m => (read m.1, m.2.map read)) = o.definitions := by
    rw [List.map_map]
    refine (List.map_congr_left fun d hd => ?_).trans (List.map_id _)
    obtain ⟨hn, hv⟩ := ho.encodable d hd
    obtain ⟨name, value⟩ := d
    refine Prod.ext (read_bytesOf hn) ?_
    cases value with
    | none => rfl
    | some value => exact congrArg some (read_bytesOf (hv value rfl))
  have same := congrArg (List.filterMap LibraryCall.macro?) h
  rw [macros, macros] at same
  rw [← back ho, same, back ho']

theorem debug_of_callsOf (h : callsOf (.ofOptions o) = callsOf (.ofOptions o')) :
    o.debug = o'.debug := by
  have debug (o : CompileOptions) : (callsOf (.ofOptions o)).contains .setDebugInfo = o.debug := by
    cases hv : o.version <;> cases hd : o.debug <;>
      simp [callsOf, Parameters.ofOptions, hv, hd, macroCall]
  rw [← debug o, h, debug o']

theorem level_of_callsOf (h : callsOf (.ofOptions o) = callsOf (.ofOptions o')) :
    o.optimization = o'.optimization := by
  have levels (o : CompileOptions) : (callsOf (.ofOptions o)).filterMap LibraryCall.level?
      = [o.optimization.code] := by
    rw [filterMap_callsOf]
    cases o.version <;> cases o.debug <;> simp [LibraryCall.level?, macroCall]
  have same := congrArg (List.filterMap LibraryCall.level?) h
  rw [levels, levels] at same
  exact OptimizationLevel.code_injective (List.head_eq_of_cons_eq same)

theorem target_of_callsOf (h : callsOf (.ofOptions o) = callsOf (.ofOptions o')) :
    o.target = o'.target := by
  have targets (o : CompileOptions) : (callsOf (.ofOptions o)).filterMap LibraryCall.target?
      = [o.target] := by
    rw [filterMap_callsOf]
    cases o.version <;> cases o.debug <;> simp [LibraryCall.target?, macroCall]
  have same := congrArg (List.filterMap LibraryCall.target?) h
  rw [targets, targets] at same
  exact List.head_eq_of_cons_eq same

/-- A macro is passed on with its bytes and their number. -/
theorem definition_of_callsOf (ho : o.Passable) {name : Bytes} {n : Nat} {value : Option Bytes}
    {m : Nat} (h : .addMacro name n value m ∈ callsOf (.ofOptions o)) :
    ∃ d ∈ o.definitions, Utf8.encode? d.1 = some name ∧ n = name.length ∧
      d.2.bind Utf8.encode? = value ∧ m = (value.getD []).length := by
  have found : LibraryCall.addMacro name n value m ∈ o.definitions.map macroCall := by
    simp only [callsOf, List.mem_append, List.mem_cons, reduceCtorEq, List.not_mem_nil, or_false,
      Option.mem_toList, Option.map_eq_some_iff, and_false, exists_false, false_or] at h
    rcases h with h | h
    · exact h
    · split at h <;> simp at h
  obtain ⟨⟨text, content⟩, hd, hcall⟩ := List.mem_map.1 found
  obtain ⟨hn, hv⟩ := ho.encodable _ hd
  cases hcall
  refine ⟨_, hd, encode?_eq_some hn, rfl, ?_, rfl⟩
  cases content with
  | none => rfl
  | some content => exact encode?_eq_some (hv content rfl)

end

/-! ## The options of the calls -/

/-- Nothing of the options is lost: options that lead to the same calls are the same, up to the
    stage, which is passed on with the text.  Every macro is among the definitions, and comes with
    the numbers of its bytes. -/
theorem options_of_calls {library' : Library} {call call' : Call} {o o' : CompileOptions}
    {events' : List (Event Step)} {outcome' : Except Fault CompilationResult}
    (ho : o.Passable) (ho' : o'.Passable)
    (hp : call.parameters.setCallback none = .ofOptions o)
    (hp' : call'.parameters.setCallback none = .ofOptions o')
    (h : (compiler library call).run.Runs outcome events)
    (h' : (compiler library' call').run.Runs outcome' events')
    (lent : .lend .options ∈ stepsOf events) (lent' : .lend .options ∈ stepsOf events')
    (same : optionCalls (stepsOf events) = optionCalls (stepsOf events')) :
    (o.version = o'.version ∧ o.definitions = o'.definitions ∧ o.debug = o'.debug ∧
      o.optimization = o'.optimization ∧ o.target = o'.target) ∧
    ∀ name n value m, .addMacro name n value m ∈ optionCalls (stepsOf events) →
      ∃ d ∈ o.definitions, Utf8.encode? d.1 = some name ∧ n = name.length ∧
        d.2.bind Utf8.encode? = value ∧ m = (value.getD []).length := by
  have made := optionCalls_eq ho hp h lent
  have calls : callsOf (.ofOptions o) = callsOf (.ofOptions o') := by
    rw [← made, same, optionCalls_eq ho' hp' h' lent']
  refine ⟨⟨version_of_callsOf calls, definitions_of_callsOf ho ho' calls, debug_of_callsOf calls,
    level_of_callsOf calls, target_of_callsOf calls⟩, fun name n value m hmacro => ?_⟩
  exact definition_of_callsOf ho (made ▸ hmacro)

/-- Options with the greatest version, and with macros that have an empty value and none. -/
def brimmingOptions (stage : Option Stage) : CompileOptions where
  stage := stage
  version := some (2 ^ 32 - 1)
  debug := true
  definitions := [(text "A", some []), (text "é", none), (text "A", none)]
  optimization := .size
  target := 2 ^ 32 - 1

/-- Two compilations that pass the same options on differ in their stages only. -/
theorem options_of_calls_stages :
    let steps (stage : Stage) (o : CompileOptions) := stepsOf
      ((compiler (ofScript {}) ⟨text "x", stage, text "a", text "main", .ofOptions o⟩).run.run
        fun _ => ⟨.error (.type .sourceNotText), none⟩).2
    optionCalls (steps .vertex (brimmingOptions none)) =
        [.setVersion (-1) 0, .addMacro [65] 1 (some []) 0, .addMacro [195, 169] 2 none 0,
          .addMacro [65] 1 none 0, .setDebugInfo, .setOptimization 1, .setTarget 0 (2 ^ 32 - 1)] ∧
      (brimmingOptions none).definitions = (brimmingOptions (some .fragment)).definitions := by
  intro steps
  have passable (stage : Option Stage) : (brimmingOptions stage).Passable :=
    ⟨(by decide : 0 ≤ (2 ^ 32 - 1 : Int) ∧ (2 ^ 32 - 1 : Int) < 2 ^ 32),
      (by decide +kernel : ∀ d ∈ (brimmingOptions none).definitions, _)⟩
  have calls (stage : Stage) (o : CompileOptions) :=
    Dialogue.runs_run (fun _ => ⟨.error (.type .sourceNotText), none⟩)
      (compiler (ofScript {}) ⟨text "x", stage, text "a", text "main", .ofOptions o⟩).run
  exact ⟨by decide +kernel, (options_of_calls (passable none) (passable (some .fragment)) rfl rfl
    (calls .vertex (brimmingOptions none)) (calls .fragment (brimmingOptions (some .fragment)))
    (by decide +kernel) (by decide +kernel) (by decide +kernel)).1.2.1⟩

end Library

end ShaderBuild
