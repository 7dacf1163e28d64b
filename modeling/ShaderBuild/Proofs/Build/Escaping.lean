/-
  What gets out of the entry points besides errors of a build.

  A compiler that keeps to its part fails with errors of a build, or with what its requests are
  answered.  Even then there are faults that nobody makes such an error of: a number that is too
  long for the message about it, be it a version or how many warnings there are, and the path of a
  file or of an include that the system does not take.

  * `Compiler.IsTame`: a compiler that keeps to its part;
  * `CallRecord.PassesOn`: a call that ends in the fault of an include that the system does not take;
  * `CallRecord.EndsMute`: a call that ends in warnings about which nothing can be said;
  * `build_escapes_iff`, `compileFileWith_escapes_iff`: what gets out of a build;
  * `hasTemplate`, `tokenize_plain_error`: texts without templates, and what is wrong with them;
  * `Parser.CannotCite`, `Parser.onText_cases`: what comes of reading an invocation;
  * `invocations_escape`: all of this together.
-/
import ShaderBuild.Proofs.Build.Course
import ShaderBuild.Proofs.Dialogue
import ShaderBuild.Proofs.Include
import ShaderBuild.Proofs.Options.Faults

namespace ShaderBuild

variable {ν : Type} {f : Fault}

/-! ## Calls of a compiler -/

namespace CallRecord

variable {record : CallRecord ν} {unit : SourceUnit}

/-- A call in which a compiler keeps to its part. -/
structure IsTame (record : CallRecord ν) : Prop where
  requests : ∀ request resolution, .asked request resolution ∈ record.events → request.IsValid
  faults : ∀ f, record.outcome = .error f → f.IsShader ∨
    ∃ request resolution, .asked request resolution ∈ record.events ∧ resolution.answer = .error f

/-- A call that ends in the fault of an include, for there is a zero in the path of it. -/
structure PassesOn (record : CallRecord ν) (f : Fault) : Prop where
  fault : f = .value .nullByte
  outcome : record.outcome = .error f
  asked : ∃ request resolution path, .asked request resolution ∈ record.events ∧
    resolution.recorded = some path ∧ ∃ c ∈ path, c.val = 0

/-- A call that ends in warnings about which nothing can be said. -/
structure EndsMute (record : CallRecord ν) (f : Fault) : Prop where
  fault : f = .value .tooLongToWrite
  outcome : ∃ r, record.outcome = .ok r ∧ r.IsMute

/-- What a call lets out besides errors of a build. -/
def LetsOut (record : CallRecord ν) (f : Fault) : Prop := record.PassesOn f ∨ record.EndsMute f

theorem LetsOut.not_isShader (h : record.LetsOut f) : ¬ f.IsShader := by
  have fault : ∃ v, f = .value v := h.elim (fun h => ⟨_, h.fault⟩) fun h => ⟨_, h.fault⟩
  obtain ⟨v, rfl⟩ := fault
  exact Fault.not_isShader_value v

/-- A compiler that accepts a source can leave nothing worse behind than warnings about which
    nothing can be said. -/
theorem output_of_ok {r : CompilationResult} (other : ¬ f.IsShader) (ho : record.outcome = .ok r) :
    record.output unit = .error f ↔ record.EndsMute f := by
  by_cases hr : r.IsMute
  · rw [output_of_warnings ho hr.warningCount_ne_zero, CompilationResult.complaint_of_isMute hr]
    constructor
    · rintro h
      cases h
      exact ⟨rfl, r, ho, hr⟩
    · intro mute
      rw [mute.fault]
  · constructor
    · intro h
      by_cases hw : r.warningCount = 0
      · have accepted : record.output unit = .ok ⟨_, r.words⟩ :=
          output_eq_ok_iff.2 ⟨r, ho, hw, rfl, rfl⟩
        cases accepted.symm.trans h
      · obtain ⟨g, complaint, -⟩ := CompilationResult.complaint_of_not_isMute hr unit.span
        rw [output_of_warnings ho hw, complaint] at h
        exact absurd ⟨_, (Except.error.inj h).symm⟩ other
    · rintro ⟨-, r', ho', hr'⟩
      cases ho.symm.trans ho'
      exact absurd hr' hr

/-- Of the faults of a compiler, those that are no errors of a build stay what they are. -/
theorem output_eq_error_iff (other : ¬ f.IsShader) :
    record.output unit = .error f ↔ record.outcome = .error f ∨ record.EndsMute f := by
  cases ho : record.outcome with
  | ok r => simp only [output_of_ok other ho, reduceCtorEq, false_or]
  | error g =>
    have mute : ¬ record.EndsMute f := fun ⟨_, r, ho', _⟩ => nomatch ho.symm.trans ho'
    rw [output_of_error ho]
    by_cases hg : g.IsShader
    · obtain ⟨e, rfl⟩ := hg
      rw [Fault.locate_shader]
      constructor
      · intro h
        exact absurd ⟨_, (Except.error.inj h).symm⟩ other
      · rintro (h | h)
        · exact absurd ⟨e, (Except.error.inj h).symm⟩ other
        · exact absurd h mute
    · rw [Fault.locate_of_ne (fun e he => hg ⟨e, he⟩) unit.span]
      simp only [mute, or_false, Except.error.injEq]

end CallRecord

/-- A compiler that keeps to its part in every call. -/
def Compiler.IsTame (compiler : Compiler ν) : Prop :=
  ∀ (s : Setting ν) (resolver : Resolver) (call : Call), (s.perform compiler resolver call).IsTame

/-! ## Builds -/

/-- A run ends in a fault that is no error of a build. -/
def BuildRun.Escapes (run : BuildRun ν) (f : Fault) : Prop := run.result = .error f ∧ ¬ f.IsShader

section

variable {s : Setting ν} {files : FileTree} {compiler : Compiler ν} {options : CompileOptions}
  (hs : s.read = files.read s.cwd) (hc : s.compiler = .ok compiler) (tame : compiler.IsTame)

include hs hc tame

/-- What gets out of a build is what the call of its compiler lets out. -/
theorem build_escapes_iff (ht : Vulkan.IsNamed options.target) (root : Option Text)
    (unit : SourceUnit) :
    (build s (root.map .text) unit options).Escapes f ↔
      ∃ record, (build s (root.map .text) unit options).record = some record ∧
        record.LetsOut f := by
  obtain ⟨form, hform⟩ := CompileOptions.describe_eq_ok ht.isWord
  obtain ⟨hrecord, hresult⟩ := build_eq hc hform root unit
  constructor
  · rintro ⟨h, other⟩
    rcases (CallRecord.output_eq_error_iff other).1 (hresult.symm.trans h) with outcome | mute
    case inr => exact ⟨_, hrecord, .inr mute⟩
    have tame := tame s (s.resolver root unit) (unit.call options)
    obtain ⟨request, resolution, asked, answer⟩ := (tame.faults f outcome).resolve_left other
    have valid := tame.requests request resolution asked
    obtain rfl := Dialogue.asked_run (d := (compiler _).run) asked
    rw [hs] at answer
    obtain ⟨fault, path, recorded, zero⟩ := Resolver.recorded_of_escape valid answer other
    rw [← hs] at recorded
    exact ⟨_, hrecord, .inl ⟨fault, outcome, request, _, path, asked, recorded, zero⟩⟩
  · rintro ⟨record, hr, out⟩
    cases hrecord.symm.trans hr
    have outcome := out.imp CallRecord.PassesOn.outcome id
    exact ⟨hresult.trans ((CallRecord.output_eq_error_iff out.not_isShader).2 outcome),
      out.not_isShader⟩

/-- What gets out of the build of a file is what is wrong with its path, besides. -/
theorem compileFileWith_escapes_iff (ht : Vulkan.IsNamed options.target) (root : Option Text)
    (path : Text) (span : Option Span) :
    let run := compileFileWith s (root.map .text) path options span
    run.Escapes f ↔ f.OfPath (s.filePath root path) ∨
      ∃ record, run.record = some record ∧ record.LetsOut f := by
  intro run
  have shader (cause : ReadFault) : (sourceFault (s.filePath root path) span cause).IsShader :=
    ⟨_, rfl⟩
  have unread := files.readText_escapes_iff s.cwd (s.filePath root path) (f := f) shader
  rw [← hs] at unread
  rw [← unread]
  cases hread : s.read.readText (sourceFault (s.filePath root path) span) (s.filePath root path) with
  | error g =>
    have failed : run = .failed g := compileFileWith_of_unread hread
    have noRecord : run.record = none := by rw [failed]; rfl
    rw [failed]
    simp [BuildRun.Escapes, BuildRun.failed]
  | ok t =>
    have built : run = build s _ _ options := compileFileWith_of_read hread
    rw [built, build_escapes_iff hs hc tame ht]
    simp

theorem compileSourceWith_escapes_iff (ht : Vulkan.IsNamed options.target) (root : Option Text)
    (source : Text) (span : Option Span) :
    let run := compileSourceWith s (root.map .text) source options span
    run.Escapes f ↔ ∃ record, run.record = some record ∧ record.LetsOut f :=
  build_escapes_iff hs hc tame ht root ⟨source, SourceUnit.inlineName, none, span⟩

end

/-! ## Texts without templates -/

/-- Does the fault come of reading a template? -/
def StringLiteral.Fault.isOfTemplate : StringLiteral.Fault → Bool
  | .template .. | .notConstant => true
  | _ => false

/-- Does the fault come of reading a template? -/
def ConfigFault.isOfTemplate : ConfigFault → Bool
  | .invalidString _ f => f.isOfTemplate
  | _ => false

/-- Is the lexeme a template? -/
def Lexeme.isTemplate (l : Lexeme) : Bool :=
  l.kind = .string && (Shape.literal (Text.unifyLineEnds l.spelling)).isTemplate

/-- Is there a template among the lexemes of a text? -/
def hasTemplate (t : Text) : Bool :=
  match Lexeme.scan (parenthesize t) with
  | .ok lexemes => lexemes.any Lexeme.isTemplate
  | .error _ => false

theorem StringLiteral.surrogatesFrom?_plain {at_ : Nat} {t : Text} {f : StringLiteral.Fault}
    (h : surrogatesFrom? at_ t = some f) : f.isOfTemplate = false := by
  induction t generalizing at_ with
  | nil => cases h
  | cons c t ih =>
    unfold surrogatesFrom? at h
    split at h
    · cases h
      rfl
    · exact ih h

theorem StringLiteral.readParts_plain_error {l : Shape.Literal} {f : StringLiteral.Fault}
    (plain : l.isTemplate = false) (h : readParts l = .error f) : f.isOfTemplate = false := by
  unfold readParts at h
  rw [plain] at h
  dsimp only at h
  split at h
  · cases h
    rfl
  · split at h
    · split at h
      · cases h
        rfl
      · split at h <;> cases h
        rfl
    · split at h
      · rename_i other
        cases other
      · split at h <;> cases h
        rfl

theorem StringLiteral.read_plain_error {spelling : Text} {f : StringLiteral.Fault}
    (plain : (Shape.literal (Text.unifyLineEnds spelling)).isTemplate = false)
    (h : read spelling = .error f) : f.isOfTemplate = false := by
  unfold read at h
  split at h
  · rename_i surrogates
    cases h
    exact surrogatesFrom?_plain surrogates
  · split at h
    · cases h
      rfl
    · exact readParts_plain_error plain h

/-- What is wrong with a lexeme that is no template comes of no template. -/
theorem Lexeme.content_plain_error {l : Lexeme} {fault : ConfigFault} (plain : l.isTemplate = false)
    (h : l.content = .error fault) : fault.isOfTemplate = false := by
  unfold Lexeme.content at h
  cases hk : l.kind <;> simp only [hk] at h
  case word | symbol => cases h
  case number => split at h <;> cases h
  case stray =>
    cases h
    rfl
  case string =>
    split at h
    · cases h
    · cases h
      rfl
    · rename_i f hf
      cases h
      exact StringLiteral.read_plain_error (by simpa [isTemplate, hk] using plain) hf

/-- What is wrong with a text without templates is an error of a build that comes of none. -/
theorem tokenize_plain_error {t origin : Text} {f : Fault} (plain : hasTemplate t = false)
    (h : tokenize t origin = .error f) :
    ∃ fault span, f = .config fault span ∧ fault.isOfTemplate = false := by
  unfold tokenize at h
  split at h
  · cases h
    exact ⟨_, _, rfl, rfl⟩
  · rename_i lexemes run
    split at h
    · rename_i tokens
      cases h
      obtain ⟨l, hl, failed⟩ := Lexeme.toTokens_eq_error tokens
      have mem : l ∈ lexemes := List.mem_of_mem_drop (List.dropLast_subset _ hl)
      unfold hasTemplate at plain
      rw [run] at plain
      have own : l.isTemplate = false := by simpa using List.any_eq_false.1 plain l mem
      unfold Lexeme.toToken at failed
      dsimp only at failed
      split at failed
      · cases failed
      · rename_i fault hc
        cases failed
        exact ⟨fault, _, rfl, Lexeme.content_plain_error own hc⟩
    · cases h

/-! ## Texts -/

namespace Parser

variable {α : Type} {p : Parser α} {Q : α → Prop} {t origin : Text}

/-- What a parser gives for a text. -/
def onText (p : Parser α) (t origin : Text) : Except Fault α :=
  match TokenStream.ofText t origin with
  | .error f => .error f
  | .ok stream => (p stream).1

/-- A text is not parsed for an integer that is too long to be cited. -/
structure CannotCite (p : Parser α) (t origin : Text) (f : Fault) : Prop where
  fault : f = .value .tooLongToWrite
  parsed : p.onText t origin = .error f
  token : ∃ tokens, tokenize t origin = .ok tokens ∧ ∃ token ∈ tokens, token.IsTooLong

theorem onText_of_error (h : tokenize t origin = .error f) : p.onText t origin = .error f := by
  simp only [onText, TokenStream.ofText, h, Except.map]

theorem onText_of_ok {tokens : List Token} (h : tokenize t origin = .ok tokens) :
    p.onText t origin = (p ⟨tokens⟩).1 := by
  simp only [onText, TokenStream.ofText, TokenStream.ofTokens, h, Except.map]

/-- A text is parsed to a value with the property of all values, or else it fails with an error of a
    build, or because it cannot be cited. -/
theorem onText_cases (hp : ∀ tokens, Ensures tokens p Q) (t origin : Text) :
    (∃ a, p.onText t origin = .ok a ∧ Q a) ∨
      ∃ f, p.onText t origin = .error f ∧ (f.IsShader ∨ p.CannotCite t origin f) := by
  cases ht : tokenize t origin with
  | error f =>
    obtain ⟨e, hf, -⟩ := tokenize_error ht
    exact .inr ⟨f, onText_of_error ht, .inl ⟨e, hf⟩⟩
  | ok tokens =>
    have outcome := hp tokens ⟨tokens⟩ (List.Subset.refl _)
    have parsed : p.onText t origin = (p ⟨tokens⟩).1 := onText_of_ok ht
    rcases hr : p ⟨tokens⟩ with ⟨⟨f⟩ | ⟨a⟩, rest⟩ <;> rw [hr] at outcome parsed <;> cases outcome
    case ok ha _ => exact .inl ⟨a, parsed, ha⟩
    case error fault =>
      refine .inr ⟨f, parsed, ?_⟩
      cases fault with
      | shader e => exact .inl ⟨e, rfl⟩
      | tooLong member long => exact .inr ⟨rfl, parsed, tokens, ht, _, member, long⟩

theorem CannotCite.not_isShader (h : p.CannotCite t origin f) : ¬ f.IsShader :=
  h.fault ▸ Fault.not_isShader_value _

end Parser

/-! ## Entry points -/

section

variable {α : Type} {p : Parser α} {Q : α → Prop} {W : α → Prop} {use : α → BuildRun ν}

/-- The run that a parser decides about. -/
def BuildRun.parsed (log : Log) (use : α → BuildRun ν) : Except Fault α → BuildRun ν
  | .error f => .failed f log
  | .ok a => (use a).after log

/-- What gets out of a text that is read and then built. -/
theorem parsed_escapes_iff (log : Log) (t origin : Text) (hp : ∀ tokens, Parser.Ensures tokens p Q)
    (huse : ∀ a, Q a → ((use a).Escapes f ↔
      W a ∨ ∃ record, (use a).record = some record ∧ record.LetsOut f)) :
    let run := BuildRun.parsed log use (p.onText t origin)
    run.Escapes f ↔ p.CannotCite t origin f ∨ (∃ a, p.onText t origin = .ok a ∧ W a) ∨
      ∃ record, run.record = some record ∧ record.LetsOut f := by
  intro run
  rcases Parser.onText_cases hp t origin with ⟨a, ha, hQ⟩ | ⟨g, hg, failure⟩
  · have used : run = (use a).after log := by simp only [run, ha, BuildRun.parsed]
    have built : run.Escapes f ↔ (use a).Escapes f := by rw [used]; rfl
    have record : run.record = (use a).record := by rw [used]; rfl
    have cites : ¬ p.CannotCite t origin f := by
      intro cannot
      cases ha.symm.trans cannot.parsed
    rw [built, record, huse a hQ, ha]
    simp [cites]
  · have failed : run = .failed g log := by simp only [run, hg, BuildRun.parsed]
    rw [failed, hg]
    constructor
    · rintro ⟨h, other⟩
      cases h
      exact .inl (failure.resolve_left other)
    · rintro (cannot | ⟨a, h, -⟩ | ⟨record, h, -⟩)
      · cases hg.symm.trans cannot.parsed
        exact ⟨rfl, cannot.not_isShader⟩
      · cases h
      · cases h

theorem includeGlsl_eq_parsed (s : Setting ν) (root : Option Datum) (t origin : Text) : ∃ log,
    includeGlsl s root t origin = .parsed log
      (fun r => compileFileWith s root r.1.value r.2 (some r.1.token.span))
      ((Parser.fileInvocation s.environment).onText t origin) := by
  unfold includeGlsl Parser.onText
  cases TokenStream.ofText t origin with
  | error f => exact ⟨[], rfl⟩
  | ok stream =>
    refine ⟨fileInvocationLog s.environment stream, ?_⟩
    dsimp only
    cases (Parser.fileInvocation s.environment stream).1 <;> rfl

theorem glsl_eq_parsed (s : Setting ν) (root : Option Datum) (t origin : Text) : ∃ log,
    glsl s root t origin = .parsed log
      (fun r => compileSourceWith s root r.1.value r.2 (some r.1.token.span))
      ((Parser.sourceInvocation s.environment).onText t origin) := by
  unfold glsl Parser.onText
  cases TokenStream.ofText t origin with
  | error f => exact ⟨[], rfl⟩
  | ok stream =>
    refine ⟨OptionList.log s.environment, ?_⟩
    dsimp only
    cases (Parser.sourceInvocation s.environment stream).1 <;> rfl

end

/-- **What gets out of the entry points besides errors of a build.**

    With a compiler that keeps to its part, a fault that is no error of a build gets out of an
    invocation without templates in just these ways: an integer of the invocation is too long to be
    cited; the system does not take the path of the file, which holds a zero or a surrogate that
    stands for no byte; there is a zero in the path of an include, and the compiler passes that fault
    on; or there are too many warnings for their number to be written, and they say nothing
    themselves.  An invocation that has no tokens ends in an error of the build that says so. -/
theorem invocations_escape {s : Setting ν} {files : FileTree} {compiler : Compiler ν}
    (hs : s.read = files.read s.cwd) (hc : s.compiler = .ok compiler) (tame : compiler.IsTame)
    (root : Option Text) {t : Text} (plain : hasTemplate t = false) (origin : Text) (f : Fault) :
    (let run := includeGlsl s (root.map .text) t origin
      let p := Parser.fileInvocation s.environment
      run.Escapes f ↔ p.CannotCite t origin f ∨
        (∃ path options, p.onText t origin = .ok (path, options) ∧
          f.OfPath (s.filePath root path.value)) ∨
        ∃ record, run.record = some record ∧ record.LetsOut f) ∧
    (let run := glsl s (root.map .text) t origin
      let p := Parser.sourceInvocation s.environment
      run.Escapes f ↔ p.CannotCite t origin f ∨
        ∃ record, run.record = some record ∧ record.LetsOut f) ∧
    ∀ g, tokenize t origin = .error g →
      (∃ fault span, g = .config fault span ∧ fault.isOfTemplate = false) ∧
        (includeGlsl s (root.map .text) t origin).result = .error g ∧
        (glsl s (root.map .text) t origin).result = .error g := by
  refine ⟨?file, ?source, ?rejected⟩
  case file =>
    intro run p
    obtain ⟨log, hrun⟩ := includeGlsl_eq_parsed s (root.map .text) t origin
    have escapes := parsed_escapes_iff (f := f) log t origin
      (fun _ => Parser.ensures_fileInvocation s.environment) fun r named =>
        compileFileWith_escapes_iff hs hc tame named root r.1.value (some r.1.token.span)
    rw [← hrun] at escapes
    simpa only [Prod.exists] using escapes
  case source =>
    intro run p
    obtain ⟨log, hrun⟩ := glsl_eq_parsed s (root.map .text) t origin
    have escapes := parsed_escapes_iff (f := f) (W := fun _ => False) log t origin
      (fun _ => Parser.ensures_sourceInvocation s.environment) fun r named => by
        rw [false_or]
        exact compileSourceWith_escapes_iff hs hc tame named root r.1.value (some r.1.token.span)
    rw [← hrun] at escapes
    simpa only [and_false, exists_false, false_or] using escapes
  case rejected =>
    intro g hg
    obtain ⟨fileLog, file⟩ := includeGlsl_eq_parsed s (root.map .text) t origin
    obtain ⟨sourceLog, source⟩ := glsl_eq_parsed s (root.map .text) t origin
    rw [file, source, Parser.onText_of_error hg, Parser.onText_of_error hg]
    exact ⟨tokenize_plain_error plain hg, rfl, rfl⟩

/-- A compiler that asks for the include that its source names, and fails if it is not resolved. -/
def relayingCompiler : Compiler Unit := fun call => .mk <|
  .ask ⟨call.source, .int 0, call.name, .int 1⟩ fun answer =>
  .done (answer.map fun file => ⟨[file.content.length], 0, []⟩)

theorem isTame_relayingCompiler : relayingCompiler.IsTame := by
  intro s resolver call
  let request : IncludeRequest := ⟨call.source, .int 0, call.name, .int 1⟩
  have outcome : (s.perform relayingCompiler resolver call).outcome =
      (resolver.resolve s.read s.cwd request).answer.map
        fun file => ⟨[file.content.length], 0, []⟩ := rfl
  have asked : (s.perform relayingCompiler resolver call).events =
      [.asked request (resolver.resolve s.read s.cwd request)] := rfl
  have requests (other : IncludeRequest) (resolution : Resolution)
      (h : .asked other resolution ∈ (s.perform relayingCompiler resolver call).events) :
      other.IsValid := by
    have depth : (Datum.int 1).show? = some (text "1") := by decide +kernel
    rw [asked] at h
    cases List.mem_singleton.1 h
    exact ⟨⟨.relative, rfl⟩, _, depth⟩
  cases ha : (resolver.resolve s.read s.cwd request).answer with
  | ok file =>
    rw [ha] at outcome
    exact ⟨requests, fun f failed => nomatch outcome.symm.trans failed⟩
  | error g =>
    rw [ha] at outcome
    refine ⟨requests, fun f failed => ?_⟩
    cases outcome.symm.trans failed
    rw [asked]
    exact .inr ⟨request, _, List.mem_singleton_self _, ha⟩

/-- Builds in the root directory without files, with the relaying compiler. -/
def relayingSetting : Setting Unit where
  read := ({} : FileTree).read (text "/")
  cwd := text "/"
  environment := []
  compiler := .ok relayingCompiler

/-- A zero in a string gets out as the path of a file, and by the compiler as that of an include. -/
theorem invocations_escape_zero :
    let s := relayingSetting
    let t := text "\"a\\0b\""
    s.read = ({} : FileTree).read s.cwd ∧ s.compiler = .ok relayingCompiler ∧
      relayingCompiler.IsTame ∧ hasTemplate t = false ∧
      (includeGlsl s none t fileInvocationOrigin).Escapes (.value .nullByte) ∧
      ∃ record, (glsl s none t sourceInvocationOrigin).record = some record ∧
        record.PassesOn (.value .nullByte) := by
  intro s t
  have found : s.read = ({} : FileTree).read s.cwd := rfl
  have compiled : s.compiler = .ok relayingCompiler := rfl
  have tame := isTame_relayingCompiler
  have plain : hasTemplate t = false := by decide +kernel
  have file := (invocations_escape found compiled tame none plain fileInvocationOrigin
    (.value .nullByte)).1
  have source := (invocations_escape found compiled tame none plain sourceInvocationOrigin
    (.value .nullByte)).2.1
  have path : ((Parser.fileInvocation s.environment).onText t fileInvocationOrigin).map
      (fun r => (r.1.value, r.2)) = .ok ([.ofNat 97, .ofNat 0, .ofNat 98], .defaults []) := by
    decide +kernel
  have name : Fault.systemBytes (s.filePath none [.ofNat 97, .ofNat 0, .ofNat 98]) =
      .error (.value .nullByte) := by decide +kernel
  have result : (glsl s none t sourceInvocationOrigin).result = .error (.value .nullByte) := by
    decide +kernel
  have read : ((Parser.sourceInvocation s.environment).onText t sourceInvocationOrigin).isOk := by
    decide +kernel
  refine ⟨found, compiled, tame, plain, file.2 (.inr (.inl ?_)), ?_⟩
  · cases hr : (Parser.fileInvocation s.environment).onText t fileInvocationOrigin with
    | error g =>
      rw [hr] at path
      cases path
    | ok r =>
      rw [hr] at path
      have value : r.1.value = [.ofNat 97, .ofNat 0, .ofNat 98] :=
        congrArg Prod.fst (Except.ok.inj path)
      exact ⟨r.1, r.2, rfl, value ▸ Fault.systemBytes_eq_error_iff.1 name⟩
  · rcases source.1 ⟨result, Fault.not_isShader_value _⟩ with cannot | ⟨record, hrecord, out⟩
    · rw [cannot.parsed] at read
      cases read
    · exact ⟨record, hrecord, out.resolve_right fun mute => nomatch mute.fault⟩

/-- With a compiler that never fails, the path of a file gets out all the same, be it for a zero or
    for a surrogate in it. -/
theorem invocations_escape_path :
    (∀ (s : Setting Unit) resolver call, (s.perform countingCompiler resolver call).outcome.isOk) ∧
      (∀ (s : Setting Unit) resolver call request resolution,
        .asked request resolution ∈ (s.perform countingCompiler resolver call).events →
          request.IsValid) ∧
      (includeGlsl (countingSetting {}) none (text "\"a\\0b\"") fileInvocationOrigin).Escapes
        (.value .nullByte) ∧
      (includeGlsl (countingSetting {}) none (text "\"a\\ud800b\"") fileInvocationOrigin).Escapes
        .unencodable := by
  refine ⟨fun s resolver call => rfl, fun s resolver call request resolution asked => ?_, ?_, ?_⟩
  · have depth : (Datum.int 1).show? = some (text "1") := by decide +kernel
    rcases List.mem_pair.1 asked with first | second
    · cases first
      exact ⟨⟨.relative, rfl⟩, _, depth⟩
    · cases second
      exact ⟨⟨.standard, rfl⟩, _, depth⟩
  · refine ⟨?_, Fault.not_isShader_value _⟩
    decide +kernel
  · refine ⟨?_, Fault.not_isShader_unencodable⟩
    decide +kernel

end ShaderBuild
