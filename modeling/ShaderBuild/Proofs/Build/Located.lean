/-
  Runs that differ in where their errors are located.

  The span of an invocation is given to errors that come without one, and does nothing else.

  * `Fault.Alike`, `BuildRun.Alike`: faults of one class with one message, and runs that differ in
    nothing but such;
  * `build_alike`, `compileFileWith_alike`, `compileSourceWith_alike`: the same with two spans.
-/
import ShaderBuild.Compile

namespace ShaderBuild

/-- Faults of one class with one message, wherever they are located. -/
inductive Fault.Alike : Fault → Fault → Prop
  | same (f) : Alike f f
  | config {c c' : ConfigFault} (span span') : c.message = c'.message →
    Alike (.config c span) (.config c' span')
  | located (problem span span') : Alike (.shader ⟨problem, span⟩) (.shader ⟨problem, span'⟩)

theorem Fault.alike_locate (f : Fault) (span span' : Option Span) :
    (f.locate span).Alike (f.locate span') := by
  cases f with
  | shader e =>
    obtain ⟨problem, own⟩ := e
    cases own with
    | none => exact .located problem span span'
    | some own => exact .same _
  | _ => exact .same _

theorem CompilationResult.alike_complaint (r : CompilationResult) (span span' : Option Span) :
    (r.complaint span).Alike (r.complaint span') := by
  unfold CompilationResult.complaint
  dsimp only
  split
  · split
    · exact .same _
    · exact .located _ _ _
  · exact .located _ _ _

/-- Results that are the same, or faults that are alike. -/
inductive ResultAlike : Except Fault BuildOutput → Except Fault BuildOutput → Prop
  | ok (out) : ResultAlike (.ok out) (.ok out)
  | error {f f'} : f.Alike f' → ResultAlike (.error f) (.error f')

namespace BuildRun

variable {ν : Type}

/-- Runs with the same call, if there is one, and with results that are alike. -/
structure Alike (r r' : BuildRun ν) : Prop where
  result : ResultAlike r.result r'.result
  log : r.log = r'.log
  record : r.record = r'.record
  asked : r.asked = r'.asked

theorem alike_failed {f f' : Fault} (h : f.Alike f') (log : Log) :
    (failed f log : BuildRun ν).Alike (failed f' log) := ⟨.error h, rfl, rfl, rfl⟩

theorem Alike.after {r r' : BuildRun ν} (h : r.Alike r') (log : Log) :
    (r.after log).Alike (r'.after log) :=
  ⟨h.result, congrArg (log ++ ·) h.log, h.record, h.asked⟩

end BuildRun

section

variable {ν : Type} (s : Setting ν)

theorem CallRecord.output_alike (r : CallRecord ν) (unit : SourceUnit) (span : Option Span) :
    ResultAlike (r.output unit) (r.output { unit with span }) := by
  unfold CallRecord.output
  cases r.outcome with
  | error f => exact .error (f.alike_locate _ _)
  | ok result =>
    dsimp only
    split
    · exact .ok _
    · exact .error (result.alike_complaint _ _)

/-- The span of a unit only tells where its errors are located. -/
theorem build_alike (root : Option Datum) (unit : SourceUnit) (span : Option Span)
    (options : CompileOptions) :
    (build s root unit options).Alike (build s root { unit with span } options) := by
  unfold build
  cases s.compiler with
  | error f => exact ⟨.error (.same f), rfl, rfl, rfl⟩
  | ok compiler =>
    dsimp only
    split
    · exact ⟨.error (.same _), rfl, rfl, rfl⟩
    · exact ⟨.error (.same _), rfl, rfl, rfl⟩
    · exact ⟨CallRecord.output_alike _ unit span, rfl, rfl, rfl⟩

theorem compileSourceWith_alike (root : Option Datum) (source : Text) (options : CompileOptions)
    (span span' : Option Span) :
    (compileSourceWith s root source options span).Alike
      (compileSourceWith s root source options span') :=
  build_alike s root ⟨source, SourceUnit.inlineName, none, span⟩ span' options

theorem Reader.readText_cases (read : Reader) (path : Text) :
    (∃ t, ∀ fault, read.readText fault path = .ok t) ∨
      (∃ f, ∀ fault, read.readText fault path = .error f) ∨
      ∃ f, ∀ fault, read.readText fault path = .error (fault f) := by
  unfold Reader.readText
  cases read path with
  | error f =>
    cases f with
    | file f => exact .inr (.inr ⟨_, fun _ => rfl⟩)
    | _ => exact .inr (.inl ⟨_, fun _ => rfl⟩)
  | ok bytes =>
    dsimp only
    cases Utf8.decode bytes with
    | ok t => exact .inl ⟨t, fun _ => rfl⟩
    | error f => exact .inr (.inr ⟨_, fun _ => rfl⟩)

theorem compileFileWith_alike (root : Option Datum) (path : Text) (options : CompileOptions)
    (span span' : Option Span) :
    (compileFileWith s root path options span).Alike
      (compileFileWith s root path options span') := by
  unfold compileFileWith
  cases s.root root with
  | error f => exact BuildRun.alike_failed (.same f) []
  | ok root =>
    dsimp only
    rcases s.read.readText_cases (Path.absolute s.cwd (Path.join root path)) with
      ⟨t, ht⟩ | ⟨f, hf⟩ | ⟨f, hf⟩
    · simp only [ht]
      exact build_alike s _ ⟨t, _, _, span⟩ span' options
    · simp only [hf]
      exact BuildRun.alike_failed (.same f) []
    · simp only [hf]
      exact BuildRun.alike_failed (.located _ _ _) []

end

end ShaderBuild
