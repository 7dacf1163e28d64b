/-
  Where the errors of an invocation are reported.

  A text that is not parsed is cited by its error.  An error of the build gets the span of the
  string that the invocation is about, unless the compiler gave it one.  The fault of loading a
  compiler comes before that, and stays as it is.

  * `origin_of_tokenize`, `Parser.isIn_of_onText`: the texts that tokens and errors of parsing cite;
  * `CallRecord.Locates`: a call that ends in an error with a span of the compiler's own;
  * `BuildRun.Reports`, `BuildRun.IsReported`: how an error comes out of a run, and a run whose
    errors all do;
  * `isReported_build`, `isReported_compileFileWith`: the errors of a build;
  * `invocation_errors_located`: those of an invocation.
-/
import ShaderBuild.Proofs.Build.Escaping
import ShaderBuild.Proofs.Options.Forms
import ShaderBuild.Workspace

namespace ShaderBuild

variable {ν : Type} {origin : Text} {e : ShaderError}

/-! ## Texts -/

theorem Lexeme.origin_of_toToken {l : Lexeme} {token : Token} (h : l.toToken origin = .ok token) :
    token.span.origin = origin := by
  unfold Lexeme.toToken at h
  dsimp only at h
  split at h <;> cases h
  rfl

/-- The tokens of a text cite it. -/
theorem origin_of_tokenize {t : Text} {tokens : List Token} (h : tokenize t origin = .ok tokens) :
    ∀ token ∈ tokens, token.span.origin = origin := by
  unfold tokenize at h
  split at h
  · cases h
  · split at h
    · cases h
    · rename_i body hbody
      cases h
      refine List.forall_mem_append.2 ⟨fun token mem => ?_, List.forall_mem_singleton.2 rfl⟩
      obtain ⟨l, -, hl⟩ := Lexeme.exists_of_mem_toTokens hbody token mem
      exact Lexeme.origin_of_toToken hl

namespace Parser

variable {α β : Type} {p : Parser α} {V : α → α → Prop} {t : Text}

/-- A fault that cites tokens, if it is an error of a build, has the span of one of them. -/
theorem cited_of_citesAlike {tokens tokens' : List Token} {f f' : Fault}
    (h : CitesAlike tokens tokens' f f') (hf : f = .shader e) :
    ∃ token ∈ tokens, e.span = some token.span := by
  cases h with
  | token i here _ _ =>
    cases hf
    exact ⟨_, List.mem_of_getElem? here, rfl⟩
  | value => cases hf

/-- The error of a parser that only looks at tokens cites one of them. -/
theorem cited_of_keeps {tokens : List Token} {s : TokenStream}
    (hp : (Pairing.placed tokens tokens).Keeps V p p)
    (hs : (Pairing.placed tokens tokens).Streams s s) (h : (p s).1 = .error (.shader e)) :
    ∃ token ∈ tokens, e.span = some token.span := by
  have same := hp s s hs
  rcases hr : p s with ⟨⟨f⟩ | ⟨a⟩, r⟩ <;> rw [hr] at h same <;> cases h
  cases same with
  | error cites => exact cited_of_citesAlike cites rfl

/-- The error of a text that is not parsed cites the text. -/
theorem isIn_of_onText (hp : ∀ tokens, (Pairing.placed tokens tokens).Keeps V p p)
    (h : p.onText t origin = .error (.shader e)) : e.IsIn origin := by
  cases ht : tokenize t origin with
  | error f =>
    rw [onText_of_error ht] at h
    obtain ⟨e', hf, located⟩ := tokenize_error ht
    cases hf.symm.trans (Except.error.inj h)
    exact located
  | ok tokens =>
    rw [onText_of_ok ht] at h
    obtain ⟨body, rfl, unended⟩ := unended_of_tokenize ht
    have streams := Pairing.streams_placed (List.forall₂_same.2 fun u _ => Token.Alike.refl u)
      unended (Token.Alike.refl (.endOf t origin)) rfl
    obtain ⟨token, member, span⟩ := cited_of_keeps (hp _) streams h
    exact ⟨token.span, span, origin_of_tokenize ht token member⟩

/-- What a parser ensures of the tokens of a text, it ensures of the text. -/
theorem onText_ensures {Q : List Token → α → Prop} {a : α}
    (hp : ∀ tokens, Ensures tokens p (Q tokens)) (h : p.onText t origin = .ok a) :
    ∃ tokens, tokenize t origin = .ok tokens ∧ Q tokens a := by
  cases ht : tokenize t origin with
  | error f =>
    rw [onText_of_error ht] at h
    cases h
  | ok tokens =>
    rw [onText_of_ok ht] at h
    have outcome := hp tokens ⟨tokens⟩ (List.Subset.refl _)
    rcases hr : p ⟨tokens⟩ with ⟨⟨f⟩ | ⟨b⟩, r⟩ <;> rw [hr] at h outcome <;> cases h
    cases outcome with
    | ok ha _ => exact ⟨tokens, rfl, ha⟩

variable (env : Environment) {tokens : List Token}

/-- The string that an invocation is about is one of the tokens. -/
theorem ensures_string_of_fileInvocation : Ensures tokens (fileInvocation env) fun r =>
    r.1.token ∈ tokens ∧ Vulkan.IsNamed r.2.target :=
  .whole <| (ensures_take picks_str).andThen fun _ path =>
    (ensures_trailingOptions env).map fun _ named => ⟨path.1, named⟩

theorem ensures_string_of_sourceInvocation : Ensures tokens (sourceInvocation env) fun r =>
    r.1.token ∈ tokens ∧ Vulkan.IsNamed r.2.target :=
  .whole <| (ensures_leadingOptions env).andThen fun _ named =>
    (ensures_take picks_str).andThen fun _ source =>
      (ensures_punct? _).map fun _ _ => ⟨source.1, named⟩

end Parser

/-! ## Builds -/

/-- A call that ends in an error with a span of the compiler's own: no include was answered with
    that error. -/
structure CallRecord.Locates (record : CallRecord ν) (e : ShaderError) : Prop where
  outcome : record.outcome = .error (.shader e)
  span : e.span ≠ none
  own : ∀ request resolution, .asked request resolution ∈ record.events →
    resolution.answer ≠ .error (.shader e)

/-- How an error comes out of a run: it cites a text, or the compiler has located it, or there is no
    compiler to be loaded. -/
inductive BuildRun.Reports (run : BuildRun ν) (s : Setting ν) (origin : Text) (e : ShaderError) :
    Prop
  | inText : e.IsIn origin → Reports run s origin e
  | located {record} : run.record = some record → record.Locates e → Reports run s origin e
  | unloaded : run.asked = true → s.compiler = .error (.shader e) → Reports run s origin e

/-- The errors of a run are reported in one of these ways, and what is wrong with loading a compiler
    comes out as it is. -/
structure BuildRun.IsReported (run : BuildRun ν) (s : Setting ν) (origin : Text) : Prop where
  errors : ∀ e, run.result = .error (.shader e) → run.Reports s origin e
  unloaded : run.asked = true → ∀ f, s.compiler = .error f → run.result = .error f

namespace BuildRun

variable {s : Setting ν} {run : BuildRun ν}

theorem IsReported.after (h : run.IsReported s origin) (log : Log) :
    (run.after log).IsReported s origin := by
  refine ⟨fun e failed => ?_, h.unloaded⟩
  cases h.errors e failed with
  | inText h => exact .inText h
  | located hr h => exact .located hr h
  | unloaded ha h => exact .unloaded ha h

/-- A run that fails before a compiler is asked for. -/
theorem isReported_failed {f : Fault} (h : ∀ e, f = .shader e → e.IsIn origin) (log : Log) :
    (failed f log : BuildRun ν).IsReported s origin :=
  ⟨fun e failed => .inText (h e (Except.error.inj failed)), nofun⟩

end BuildRun

/-- What is no project root is no error of a build. -/
theorem Setting.root_ne_shader (s : Setting ν) (root : Option Datum) :
    s.root root ≠ .error (.shader e) := by
  intro h
  unfold Setting.root at h
  split at h <;> cases h

/-- An error comes out of a call with the span of the unit, or as the compiler has located it. -/
theorem CallRecord.span_of_output {record : CallRecord ν} {unit : SourceUnit}
    (h : record.output unit = .error (.shader e)) :
    e.span = unit.span ∨ record.outcome = .error (.shader e) ∧ e.span ≠ none := by
  cases ho : record.outcome with
  | error f =>
    rw [output_of_error ho] at h
    cases f with
    | shader e' =>
      rw [Fault.locate_shader] at h
      cases h
      obtain ⟨problem, own⟩ := e'
      cases own with
      | none => exact .inl rfl
      | some span => exact .inr ⟨rfl, nofun⟩
    | _ => cases h
  | ok r =>
    by_cases hw : r.warningCount = 0
    · have accepted : record.output unit = .ok ⟨_, r.words⟩ :=
        output_eq_ok_iff.2 ⟨r, ho, hw, rfl, rfl⟩
      cases accepted.symm.trans h
    · rw [output_of_warnings ho hw] at h
      by_cases hr : r.IsMute
      · rw [CompilationResult.complaint_of_isMute hr] at h
        cases h
      · obtain ⟨f, complaint, -⟩ := CompilationResult.complaint_of_not_isMute hr unit.span
        cases complaint.symm.trans (Except.error.inj h)
        exact .inl rfl

section

variable {s : Setting ν} {files : FileTree} {options : CompileOptions} {span : Span}
  (hs : s.read = files.read s.cwd) (hspan : span.origin = origin)
  (named : Vulkan.IsNamed options.target)

include hs in
/-- The errors of includes have no span, so one with a span is the compiler's own. -/
theorem Setting.locates_of_perform {compiler : Compiler ν} {resolver : Resolver} {call : Call}
    (h : (s.perform compiler resolver call).outcome = .error (.shader e)) (span : e.span ≠ none) :
    (s.perform compiler resolver call).Locates e := by
  refine ⟨h, span, fun request resolution asked answered => ?_⟩
  obtain rfl := Dialogue.asked_run (d := (compiler _).run) asked
  rw [hs] at answered
  obtain ⟨cause, path, rfl, -⟩ := Resolver.path_of_error answered
  exact span rfl

include hs in
/-- A file that is not read is no error of a build in itself, but becomes one with a span. -/
theorem span_of_readText {path path' : Text}
    (h : s.read.readText (sourceFault path' (some span)) path = .error (.shader e)) :
    e.span = some span := by
  rw [hs] at h
  have unread := files.read_ne_shader s.cwd path
  unfold Reader.readText at h
  split at h
  · cases h
    rfl
  · rename_i f _ hf
    obtain rfl := Except.error.inj h
    exact absurd hf (unread e)
  · split at h
    · cases h
    · cases h
      rfl

include hs hspan named

theorem isReported_build {unit : SourceUnit} (hunit : unit.span = some span)
    (root : Option Datum) : (build s root unit options).IsReported s origin := by
  cases hc : s.compiler with
  | error f =>
    simp only [build, hc]
    refine ⟨fun e failed => ?_, fun _ f' hf => by rw [Except.error.inj (hc.symm.trans hf)]⟩
    obtain rfl := Except.error.inj failed
    exact .unloaded rfl hc
  | ok compiler =>
    obtain ⟨form, hform⟩ := CompileOptions.describe_eq_ok named.isWord
    refine ⟨fun e failed => ?_, fun _ f hf => by cases hc.symm.trans hf⟩
    cases hr : s.root root with
    | error f =>
      simp only [build, hc, hr] at failed
      obtain rfl := Except.error.inj failed
      exact absurd hr (s.root_ne_shader root)
    | ok path =>
      simp only [build, hc, hr, hform] at failed ⊢
      rcases CallRecord.span_of_output failed with hspan' | ⟨outcome, own⟩
      · exact .inText ⟨span, hspan'.trans hunit, hspan⟩
      · exact .located rfl (Setting.locates_of_perform hs outcome own)

theorem isReported_compileFileWith (root : Option Datum) (path : Text) :
    (compileFileWith s root path options (some span)).IsReported s origin := by
  cases hr : s.root root with
  | error f =>
    simp only [compileFileWith, hr]
    exact BuildRun.isReported_failed (fun e he => absurd (he ▸ hr) (s.root_ne_shader root)) []
  | ok p =>
    have rooted : compileFileWith s root path options (some span) =
        compileFileWith s ((some p).map .text) path options (some span) := by
      simp only [compileFileWith, hr, s.root_eq_ok, Setting.rootPath, Option.getD_some]
    rw [rooted]
    cases hread : s.read.readText (sourceFault (s.filePath (some p) path) (some span))
        (s.filePath (some p) path) with
    | error f =>
      rw [compileFileWith_of_unread hread]
      refine BuildRun.isReported_failed (fun e he => ⟨span, ?_, hspan⟩) []
      exact span_of_readText hs (he ▸ hread)
    | ok t =>
      rw [compileFileWith_of_read hread]
      exact isReported_build hs hspan named rfl _

theorem isReported_compileSourceWith (root : Option Datum) (source : Text) :
    (compileSourceWith s root source options (some span)).IsReported s origin :=
  isReported_build hs hspan named rfl root

end

/-! ## Invocations -/

/-- A run that a parser decides about is reported if the runs for its values are. -/
theorem isReported_parsed {α : Type} {p : Parser α} {V : α → α → Prop}
    {Q : List Token → α → Prop} {s : Setting ν} {t : Text} (log : Log) (use : α → BuildRun ν)
    (keeps : ∀ tokens, (Pairing.placed tokens tokens).Keeps V p p)
    (ensures : ∀ tokens, Parser.Ensures tokens p (Q tokens))
    (huse : ∀ tokens a, (∀ token ∈ tokens, token.span.origin = origin) → Q tokens a →
      (use a).IsReported s origin) :
    (BuildRun.parsed log use (p.onText t origin)).IsReported s origin := by
  cases h : p.onText t origin with
  | error f =>
    exact BuildRun.isReported_failed (fun e he => Parser.isIn_of_onText keeps (he ▸ h)) log
  | ok a =>
    obtain ⟨tokens, ht, ha⟩ := Parser.onText_ensures ensures h
    exact (huse tokens a (origin_of_tokenize ht) ha).after log

/-- **Where the errors of an invocation are reported.**

    An error of the build that comes out of an invocation has a span in the text of the invocation,
    or the span that the compiler itself gave to it.  The one exception is an invocation that gets
    as far as to ask for a compiler while none can be loaded: what is wrong with that comes out as
    it is, without the span of the invocation. -/
theorem invocation_errors_located {s : Setting ν} {files : FileTree}
    (hs : s.read = files.read s.cwd) (root : Option Datum) (t origin : Text) :
    (includeGlsl s root t origin).IsReported s origin ∧
      (glsl s root t origin).IsReported s origin := by
  constructor
  · obtain ⟨log, hrun⟩ := includeGlsl_eq_parsed s root t origin
    rw [hrun]
    refine isReported_parsed log _ (fun _ => Pairing.keeps_fileInvocation s.environment)
      (fun _ => Parser.ensures_string_of_fileInvocation s.environment) ?_
    intro tokens r cites ⟨member, named⟩
    exact isReported_compileFileWith hs (cites _ member) named root r.1.value
  · obtain ⟨log, hrun⟩ := glsl_eq_parsed s root t origin
    rw [hrun]
    refine isReported_parsed log _ (fun _ => Pairing.keeps_sourceInvocation s.environment)
      (fun _ => Parser.ensures_string_of_sourceInvocation s.environment) ?_
    intro tokens r cites ⟨member, named⟩
    exact isReported_compileSourceWith hs (cites _ member) named root r.1.value

/-- A compiler passes on that an include is not there; the error gets the span of the source. -/
theorem invocation_errors_located_include :
    let s := relayingSetting
    let run := glsl s none (text "strip, \"a\"") sourceInvocationOrigin
    let e : ShaderError := ⟨.resolution (.unreadable (.file ⟨.notFound, text "/a"⟩)) (text "/a"),
      some ⟨1, 7, text "\"a\"", sourceInvocationOrigin⟩⟩
    s.read = ({} : FileTree).read s.cwd ∧ run.result = .error (.shader e) ∧
      run.Reports s sourceInvocationOrigin e := by
  intro s run e
  have found : s.read = ({} : FileTree).read s.cwd := rfl
  have failed : run.result = .error (.shader e) := by decide +kernel
  exact ⟨found, failed, (invocation_errors_located found none _ _).2.errors e failed⟩

/-- Without a library there is no compiler, and the error about that has no span. -/
theorem invocation_errors_located_no_library :
    let w : Workspace Empty := { cwd := text "/" }
    ∃ e, Library.missing = .shader e ∧ e.span = none ∧
      (glsl (w.setting none) none (text "\"\"") sourceInvocationOrigin).result =
        .error (.shader e) := by
  intro w
  refine ⟨_, rfl, rfl, ?_⟩
  decide +kernel

end ShaderBuild
