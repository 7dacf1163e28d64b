/-
  What comes of a build.

  The compiler is called once, and what it ends with decides what comes of the build.  What it asks
  for on the way goes on record, whether or not it puts up with the answers.

  * `Dialogue.recorded_run`: the paths that go on record in a run are those of its requests;
  * `CompileOptions.describe_eq_ok`: options for a version that is a word can be written down;
  * `CompilationResult.IsMute`: warnings about which nothing can be said;
  * `build_eq`: a build that has a compiler is one call of it;
  * `compileFileWith_of_read`, `compileFileWith_of_unread`: a file is built if it is read;
  * `build_by_outcome`: what comes of a build, by the outcome of that call.
-/
import Mathlib.Algebra.Group.Int.Defs
import Mathlib.Algebra.Group.Nat.Defs
import ShaderBuild.Proofs.Build.Dependencies

namespace ShaderBuild

variable {ν α : Type}

/-! ## Requests -/

/-- The request that an event is. -/
def Event.request? : Event ν → Option IncludeRequest
  | .asked request _ => some request
  | .logged _ | .noted _ => none

/-- The path of a request that goes on record, if one does. -/
def Resolver.recordedPath? (r : Resolver) (cwd : Text) (request : IncludeRequest) : Option Text :=
  (r.recordedPath cwd request).toOption

theorem Resolver.recorded_resolve (r : Resolver) (read : Reader) (cwd : Text)
    (request : IncludeRequest) :
    (r.resolve read cwd request).recorded = r.recordedPath? cwd request := by
  unfold Resolver.resolve Resolver.recordedPath?
  cases r.recordedPath cwd request <;> rfl

/-- The paths that go on record in a run are those of its requests, in their order. -/
theorem Dialogue.recorded_run (r : Resolver) (read : Reader) (cwd : Text) (d : Dialogue ν α) :
    (d.run (r.resolve read cwd)).2.filterMap Event.recorded? =
      ((d.run (r.resolve read cwd)).2.filterMap Event.request?).filterMap
        (r.recordedPath? cwd) := by
  induction d with
  | done a => rfl
  | log record rest ih => exact ih
  | note n rest ih => exact ih
  | ask request next ih =>
    have first : Event.recorded? (ν := ν) (.asked request (r.resolve read cwd request))
        = r.recordedPath? cwd request := r.recorded_resolve read cwd request
    simp only [Dialogue.run, List.filterMap_cons, first, Event.request?, ih]

/-! ## Outcomes -/

/-- Options for a version that is a word can be written down. -/
theorem CompileOptions.describe_eq_ok {o : CompileOptions} (h : 0 ≤ o.target ∧ o.target < 2 ^ 32) :
    ∃ form, o.describe = .ok form := by
  have major : Fault.writable (o.target / 0x400000) = .ok (o.target / 0x400000) :=
    if_pos (Numeral.isWritable_of_lt (by omega))
  unfold CompileOptions.describe Vulkan.decode
  simp only [major]
  exact ⟨_, rfl⟩

namespace CompilationResult

variable {r : CompilationResult}

/-- Warnings that say nothing, and are too many for their number to be written down. -/
structure IsMute (r : CompilationResult) : Prop where
  blank : (Text.strip CodePoint.isBlank r.warnings).isEmpty = true
  endless : Numeral.isWritable r.warningCount = false

theorem IsMute.warningCount_ne_zero (h : r.IsMute) : r.warningCount ≠ 0 := by
  intro zero
  have short : Numeral.isWritable 0 = true := Numeral.isWritable_of_lt (by decide)
  cases short.symm.trans (zero ▸ h.endless)

theorem complaint_of_isMute (h : r.IsMute) (span : Option Span) :
    r.complaint span = .value .tooLongToWrite := by
  simp only [complaint, h.blank, Fault.writable, h.endless, if_true, if_false, Bool.false_eq_true]

/-- Otherwise a complaint is an error of the compiler that says something. -/
theorem complaint_of_not_isMute (h : ¬ r.IsMute) (span : Option Span) :
    ∃ f, r.complaint span = .shader ⟨.backend f, span⟩ ∧ f.message ≠ [] := by
  cases blank : (Text.strip CodePoint.isBlank r.warnings).isEmpty with
  | true =>
    have short : Numeral.isWritable r.warningCount = true :=
      eq_true_of_ne_false fun endless => h ⟨blank, endless⟩
    refine ⟨.warnings r.warningCount, ?_, by simp [BackendFault.message, text]⟩
    simp only [complaint, blank, Fault.writable, short, if_true]
  | false =>
    refine ⟨.other (Text.strip CodePoint.isBlank r.warnings), ?_, ?_⟩
    · simp only [complaint, blank, if_false, Bool.false_eq_true]
    · simpa [BackendFault.message] using blank

end CompilationResult

namespace CallRecord

variable {record : CallRecord ν} {unit : SourceUnit}

/-- A build has an output exactly if the compiler accepts the source without a warning. -/
theorem output_eq_ok_iff {out : BuildOutput} :
    record.output unit = .ok out ↔ ∃ r, record.outcome = .ok r ∧ r.warningCount = 0 ∧
      out.words = r.words ∧ out.sources = unit.path.toList ++ record.recorded := by
  unfold CallRecord.output
  cases ho : record.outcome with
  | error f => simp
  | ok r =>
    dsimp only
    split
    · rename_i hw
      constructor
      · rintro h
        cases h
        exact ⟨r, rfl, hw, rfl, rfl⟩
      · rintro ⟨r', hr, -, hwords, hsources⟩
        cases hr
        obtain ⟨sources, words⟩ := out
        obtain rfl : words = r.words := hwords
        obtain rfl : sources = _ := hsources
        rfl
    · rename_i hw
      constructor
      · rintro h
        cases h
      · rintro ⟨r', hr, hw', -⟩
        cases hr
        exact absurd hw' hw

theorem output_of_warnings {r : CompilationResult} (ho : record.outcome = .ok r)
    (hw : r.warningCount ≠ 0) :
    record.output unit = .error (r.complaint unit.span) := by
  simp only [CallRecord.output, ho, if_neg hw]

theorem output_of_error {f : Fault} (ho : record.outcome = .error f) :
    record.output unit = .error (f.locate unit.span) := by
  simp only [CallRecord.output, ho]

end CallRecord

/-- An error of a build gets a span where it has none. -/
theorem Fault.locate_shader (e : ShaderError) (span : Option Span) :
    (Fault.shader e).locate span = .shader ⟨e.problem, e.span.or span⟩ := by
  obtain ⟨problem, own⟩ := e
  cases own <;> rfl

theorem Fault.locate_of_ne {f : Fault} (h : ∀ e, f ≠ .shader e) (span : Option Span) :
    f.locate span = f := by
  cases f with
  | shader e => exact absurd rfl (h e)
  | _ => rfl

/-! ## Builds -/

/-- The project root of a build: the one that is given, or else that of the environment. -/
def Setting.rootPath (s : Setting ν) (root : Option Text) : Text :=
  root.getD (s.environment.projectRoot s.cwd)

theorem Setting.root_eq_ok (s : Setting ν) (root : Option Text) :
    s.root (root.map .text) = .ok (s.rootPath root) := by
  cases root <;> rfl

/-- How the includes of a unit are looked up. -/
def Setting.resolver (s : Setting ν) (root : Option Text) (unit : SourceUnit) : Resolver :=
  .make s.cwd (s.rootPath root) (some unit.name) unit.path

variable {s : Setting ν} {compiler : Compiler ν} {options : CompileOptions}

/-- A build that has a compiler is one call of it. -/
theorem build_eq (hc : s.compiler = .ok compiler) {form : Text} (hform : options.describe = .ok form)
    (root : Option Text) (unit : SourceUnit) :
    let run := build s (root.map .text) unit options
    let record := s.perform compiler (s.resolver root unit) (unit.call options)
    run.record = some record ∧ run.result = record.output unit := by
  simp only [build, hc, s.root_eq_ok root, hform]
  exact ⟨rfl, rfl⟩

/-- The path of a file that is compiled. -/
def Setting.filePath (s : Setting ν) (root : Option Text) (path : Text) : Text :=
  Path.absolute s.cwd (Path.join (s.rootPath root) path)

section

variable {root : Option Text} {path : Text} {span : Option Span}

/-- A file that is not read is not built. -/
theorem compileFileWith_of_unread {f : Fault}
    (h : s.read.readText (sourceFault (s.filePath root path) span) (s.filePath root path) =
      .error f) :
    compileFileWith s (root.map .text) path options span = .failed f := by
  unfold Setting.filePath at h
  simp only [compileFileWith, s.root_eq_ok root, h]

/-- A file that is read is built. -/
theorem compileFileWith_of_read {t : Text}
    (h : s.read.readText (sourceFault (s.filePath root path) span) (s.filePath root path) =
      .ok t) :
    compileFileWith s (root.map .text) path options span =
      build s ((some (s.rootPath root)).map .text)
        ⟨t, s.filePath root path, some (s.filePath root path), span⟩ options := by
  unfold Setting.filePath at h ⊢
  simp only [compileFileWith, s.root_eq_ok root, h]
  rfl

end

/-- **What comes of a build, by what its compiler ends with.**

    The compiler is called once, with the text and the name of the unit, the stage that is selected,
    and the options as they are; the resolver answers its requests, until the call is over.  There
    is an output if the compiler accepts the source without a warning; the sources are the file of
    the unit and the paths of all requests, in their order.  Warnings are an error at the span of
    the unit, unless nothing can be said about them.  An error of the compiler stays what it is, but
    for the span where it has none. -/
theorem build_by_outcome (hc : s.compiler = .ok compiler)
    (ht : 0 ≤ options.target ∧ options.target < 2 ^ 32) (root : Option Text) (unit : SourceUnit) :
    let run := build s (root.map .text) unit options
    let resolver := s.resolver root unit
    ∃ record, run.record = some record ∧
      record.call =
        { source := unit.source, stage := options.stageFor unit.path, name := unit.name
          entry := text "main"
          parameters :=
            { version := options.version, profile := .none, definitions := options.definitions
              debugInfo := options.debug, optimization := options.optimization, env := .vulkan
              envVersion := options.target, callback := some resolver } } ∧
      (record.outcome, record.events) =
        (compiler record.call).run.run (resolver.resolve s.read s.cwd) ∧
      record.left = { record.call.parameters with callback := none } ∧
      (∀ out, run.result = .ok out ↔ ∃ r, record.outcome = .ok r ∧ r.warningCount = 0 ∧
        out.words = r.words ∧ out.sources = unit.path.toList ++
          (record.events.filterMap Event.request?).filterMap (resolver.recordedPath? s.cwd)) ∧
      (∀ r, record.outcome = .ok r → r.warningCount ≠ 0 → ¬ r.IsMute →
        ∃ f, run.result = .error (.shader ⟨.backend f, unit.span⟩) ∧ f.message ≠ []) ∧
      (∀ r, record.outcome = .ok r → r.IsMute → run.result = .error (.value .tooLongToWrite)) ∧
      (∀ e, record.outcome = .error (.shader e) →
        run.result = .error (.shader ⟨e.problem, e.span.or unit.span⟩)) ∧
      ∀ f, record.outcome = .error f → (∀ e, f ≠ .shader e) → run.result = .error f := by
  intro run resolver
  obtain ⟨form, hform⟩ := CompileOptions.describe_eq_ok ht
  obtain ⟨hrecord, hresult⟩ := build_eq hc hform root unit
  let record := s.perform compiler resolver (unit.call options)
  have hrecorded : record.recorded =
      (record.events.filterMap Event.request?).filterMap (resolver.recordedPath? s.cwd) :=
    Dialogue.recorded_run resolver s.read s.cwd (compiler record.call).run
  refine ⟨record, hrecord, rfl, rfl, rfl, fun out => ?_, fun r ho hw hr => ?_,
    fun r ho hr => ?_, fun e ho => ?_, fun f ho hf => ?_⟩
  · rw [← hrecorded]
    exact hresult ▸ CallRecord.output_eq_ok_iff
  · obtain ⟨f, complaint, message⟩ := CompilationResult.complaint_of_not_isMute hr unit.span
    exact ⟨f, hresult.trans (complaint ▸ CallRecord.output_of_warnings ho hw), message⟩
  · rw [← CompilationResult.complaint_of_isMute hr unit.span]
    exact hresult.trans (CallRecord.output_of_warnings ho hr.warningCount_ne_zero)
  · exact (hresult.trans (CallRecord.output_of_error ho)).trans
      (congrArg Except.error (Fault.locate_shader e unit.span))
  · exact (hresult.trans (CallRecord.output_of_error ho)).trans
      (congrArg Except.error (Fault.locate_of_ne hf unit.span))

/-- The compiler puts up with an include that is not there; its path goes on record as well. -/
theorem build_by_outcome_missing_include :
    let s := countingSetting (flatTree [("b", [121, 122])])
    let unit : SourceUnit := ⟨text "x", text "/a", some (text "/a"), none⟩
    let options := CompileOptions.defaults []
    let run := build s none unit options
    s.compiler = .ok countingCompiler ∧ (0 ≤ options.target ∧ options.target < 2 ^ 32) ∧
      run.result = .ok ⟨["/a", "/b", "/none"].map text, [2, -1]⟩ ∧
      run.record.map (fun record => record.left.callback) = some none := by
  intro s unit options run
  have target : 0 ≤ options.target ∧ options.target < 2 ^ 32 := by decide +kernel
  have compiled : s.compiler = .ok countingCompiler := rfl
  obtain ⟨record, hrecord, hcall, hrun, hleft, hok, -⟩ :=
    build_by_outcome compiled target none unit
  have outcome : record.outcome = .ok ⟨[2, -1], 0, []⟩ := by
    refine (congrArg Prod.fst hrun).trans ?_
    rw [hcall]
    decide +kernel
  have recorded : (record.events.filterMap Event.request?).filterMap
      ((s.resolver none unit).recordedPath? s.cwd) = ["/b", "/none"].map text := by
    rw [show record.events = _ from congrArg Prod.snd hrun, hcall]
    decide +kernel
  refine ⟨compiled, target, (hok _).2 ⟨_, outcome, rfl, rfl, ?_⟩, ?_⟩
  · rw [recorded]
    rfl
  · rw [show run.record = _ from hrecord, Option.map_some, hleft]

/-- A compiler that warns without a word, just too often for the number to be written down. -/
def muteCompiler : Compiler Unit := fun _ => .mk (.done (.ok ⟨[], Numeral.bound, []⟩))

/-- A source that is accepted with such warnings fails, but with no error of the compiler. -/
theorem build_by_outcome_mute :
    let s : Setting Unit := { countingSetting {} with compiler := .ok muteCompiler }
    let unit : SourceUnit := ⟨text "x", SourceUnit.inlineName, none, none⟩
    let options := CompileOptions.defaults []
    let run := build s none unit options
    (0 ≤ options.target ∧ options.target < 2 ^ 32) ∧
      (∃ record r, run.record = some record ∧ record.outcome = .ok r ∧ r.warningCount ≠ 0) ∧
      run.result = .error (.value .tooLongToWrite) := by
  intro s unit options run
  have target : 0 ≤ options.target ∧ options.target < 2 ^ 32 := by decide +kernel
  have compiled : s.compiler = .ok muteCompiler := rfl
  have many : (Numeral.bound : Int) ≠ 0 := by decide +kernel
  obtain ⟨form, hform⟩ := CompileOptions.describe_eq_ok target
  obtain ⟨hrecord, -⟩ := build_eq compiled hform none unit
  refine ⟨target, ⟨_, _, hrecord, rfl, many⟩, ?_⟩
  decide +kernel

end ShaderBuild
