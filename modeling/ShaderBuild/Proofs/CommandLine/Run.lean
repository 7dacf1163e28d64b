/-
  Runs of the command line that ask for a build.

  Such a run is a call of an entry point with what the arguments set, and then the result is
  written.  Nothing else happens to the files, and without a call nothing happens at all.

  * `Progress.Invariant`: what each step of reading the arguments keeps, all of it keeps;
  * `IsValue`, `isValue_parse`: what switches are given;
  * `Arguments.Asks`: the call that arguments ask for, and the file for the result;
  * `Finishes`: how a run goes on after the call;
  * `completes_perform`: a job is the call, and what comes after it;
  * `run_is_call`: all runs.
-/
import ShaderBuild.CommandLine.Run
import ShaderBuild.Compiler.StandIn
import ShaderBuild.Proofs.Outcome

namespace ShaderBuild.CommandLine

variable {convention : Convention}

/-! ## Reading arguments -/

/-- What each step of reading the arguments keeps. -/
structure Progress.Invariant (convention : Convention) (P : Progress → Prop) : Prop where
  turn : ∀ {p p' : Progress} {s : Switch}, p.turn s = .ok p' → P p → P p'
  give : ∀ {p : Progress} (s : Switch) (t : Text), P p → P (p.give convention s t)
  place : ∀ {p : Progress} (t : Text), P p → P (p.place t)
  leave : ∀ {p : Progress} (ts : List Text), P p → P (p.leave ts)

namespace Progress.Invariant

variable {P : Progress → Prop} {p p' : Progress}

/-- Turning switches keeps it, and what is read after that may rely on it. -/
theorem flags (inv : Invariant convention P) {flags : List Switch}
    {next : Progress → Except Stop Progress} (hnext : ∀ q, next q = .ok p' → P q → P p')
    (h : flags.foldlM Progress.turn p >>= next = .ok p') (hp : P p) : P p' := by
  induction flags generalizing p with
  | nil => exact hnext p h hp
  | cons s flags ih =>
    rw [List.foldlM_cons] at h
    cases hs : p.turn s with
    | error stop =>
      rw [hs] at h
      cases h
    | ok q =>
      rw [hs] at h
      exact ih h (inv.turn hs hp)

theorem placeAll (inv : Invariant convention P) (isBehindSource : Bool) (ts : List Text) (hp : P p) :
    P (p.placeAll isBehindSource ts) := by
  unfold Progress.placeAll
  split
  · exact inv.leave _ hp
  · split
    · exact hp
    · exact inv.leave _ (inv.place _ hp)

/-- Reading all arguments keeps it too. -/
theorem read (inv : Invariant convention P) {isBehindSource : Bool} {items : List Item}
    (h : read convention p isBehindSource items = .ok p') (hp : P p) : P p' := by
  induction p, isBehindSource, items using read.induct convention with
  | case1 p _ =>
    cases h
    exact hp
  | case2 p _ t rest ih =>
    rw [CommandLine.read] at h
    exact ih h (inv.place t hp)
  | case3 p _ rest =>
    rw [CommandLine.read] at h
    cases h
    exact inv.placeAll _ _ hp
  | case4 p _ t rest ih =>
    rw [CommandLine.read] at h
    exact ih h (inv.leave [t] hp)
  | case5 p _ r rest f hr =>
    simp only [CommandLine.read, hr] at h
    cases h
  | case6 p _ r c hr rest tail ih =>
    simp only [CommandLine.read, hr, tail] at h
    exact inv.flags ih h hp
  | case7 p _ r c hr s value rest tail ih =>
    simp only [CommandLine.read, hr, tail] at h
    exact inv.flags (fun q hq hqp => ih q hq (inv.give s value hqp)) h hp
  | case8 p _ r c hr s value rest tail ih =>
    simp only [CommandLine.read, hr, tail] at h
    exact inv.flags (fun q hq hqp => ih q hq (inv.give s value hqp)) h hp
  | case9 p _ r rest c hr s tail other =>
    simp only [CommandLine.read, hr, tail] at h
    cases h
  | case10 p _ r c hr t rest tail ih =>
    simp only [CommandLine.read, hr, tail] at h
    exact inv.flags (fun q hq hqp => ih q hq (inv.leave [t] hqp)) h hp

/-- So what is kept from the start is there when all arguments are read. -/
theorem parse (inv : Invariant convention P) {arguments : List Text} {a : Arguments} (start : P {})
    (h : Arguments.parse convention arguments = .ok a) :
    ∃ p : Progress, P p ∧ p.arguments = a := by
  unfold Arguments.parse at h
  split at h
  · cases h
  · rename_i items _
    cases hr : CommandLine.read convention {} false items with
    | error stop =>
      rw [hr] at h
      cases h
    | ok p =>
      rw [hr] at h
      dsimp only [bind, Except.bind] at h
      split at h
      · cases h
        exact ⟨p, inv.read hr start, rfl⟩
      · cases h

end Progress.Invariant

/-! ## Values -/

/-- What a switch can be given: a text, or by the early convention an empty list. -/
def IsValue (convention : Convention) (d : Datum) : Prop :=
  (∃ t, d = .text t) ∨ convention = .early ∧ d = .list []

theorem isValue_valueOf (t : Text) : IsValue convention (Progress.valueOf convention t) := by
  unfold Progress.valueOf
  split
  · rename_i dashes
    rw [Bool.and_eq_true, decide_eq_true_eq] at dashes
    exact .inr ⟨dashes.1, rfl⟩
  · exact .inl ⟨t, rfl⟩

/-- All that switches are given. -/
def Arguments.given (a : Arguments) : List Datum :=
  a.name :: [a.output, a.options, a.glsl, a.depfile, a.projectRoot].filterMap id

theorem Arguments.mem_given {a : Arguments} {d : Datum} :
    d ∈ a.given ↔ d = a.name ∨ a.output = some d ∨ a.options = some d ∨ a.glsl = some d ∨
      a.depfile = some d ∨ a.projectRoot = some d := by
  simp [given, eq_comm]

theorem mem_given_give {p : Progress} {s : Switch} {t : Text} {d : Datum}
    (h : d ∈ (p.give convention s t).arguments.given) :
    d = Progress.valueOf convention t ∨ d ∈ p.arguments.given := by
  rw [Arguments.mem_given] at h ⊢
  cases s <;> simp only [Progress.give, Option.some.injEq] at h <;> grind

theorem invariant_given :
    Progress.Invariant convention fun p => ∀ d ∈ p.arguments.given, IsValue convention d where
  turn {p p' s} h hp := by
    cases s <;> cases h <;> exact hp
  give {p} s t hp := by
    intro d hd
    rcases mem_given_give hd with rfl | old
    · exact isValue_valueOf t
    · exact hp d old
  place {p} t hp := by
    unfold Progress.place
    split <;> exact hp
  leave _ hp := hp

/-- Switches are given values only. -/
theorem isValue_parse {arguments : List Text} {a : Arguments}
    (h : Arguments.parse convention arguments = .ok a) : ∀ d ∈ a.given, IsValue convention d := by
  obtain ⟨p, hp, rfl⟩ := invariant_given.parse (by
    intro d hd
    rw [List.mem_singleton.1 hd]
    exact .inl ⟨_, rfl⟩) h
  exact hp

/-! ## What arguments ask for -/

/-- Do the arguments ask for the version, for an account of them, or for the diagnostics? -/
def asksForInformation (convention : Convention) (arguments : List Text) : Bool :=
  match Arguments.parse convention arguments with
  | .error .version | .error .help => true
  | .error (.usage _) => false
  | .ok a => a.report

/-- Is there a value that is a text, and not the empty one? -/
def HasText (d : Option Datum) : Prop := ∃ t, d = some (.text t) ∧ t ≠ []

theorem given?_eq_some_iff {d : Option Datum} {t : Text} :
    given? d = some t ↔ d = some (.text t) ∧ t ≠ [] := by
  unfold given?
  split
  · simp only [Option.some.injEq, Datum.text.injEq]
    constructor
    · rintro rfl
      exact ⟨rfl, List.cons_ne_nil _ _⟩
    · exact And.left
  · rename_i other
    refine ⟨nofun, ?_⟩
    rintro ⟨rfl, nonempty⟩
    obtain ⟨c, rest, rfl⟩ := List.exists_cons_of_ne_nil nonempty
    exact absurd rfl (other c rest)

theorem given?_eq_none_iff {d : Option Datum} : given? d = none ↔ ¬ HasText d := by
  rw [Option.eq_none_iff_forall_ne_some, HasText, not_exists]
  exact forall_congr' fun t => not_congr given?_eq_some_iff

namespace Arguments

variable {a : Arguments}

/-- There is one thing to be compiled.  An invocation has its options in itself, and there must be a
    file for the result. -/
def IsRequest (a : Arguments) : Prop :=
  (HasText (a.source.map .text) ↔ ¬ HasText a.glsl) ∧
    (HasText a.glsl → ¬ HasText a.options ∧ HasText a.output)

/-- The call that arguments ask for, and the file that the result is written to. -/
inductive Asks {μ : Type} (a : Arguments) (s : Setting μ) : BuildRun μ → Text → Prop
  | file {path} : a.source = some path → path ≠ [] → ¬ HasText a.glsl →
    Asks a s (compileFile s a.projectRoot path (a.options.map .ofDatum) none none)
      ((given? a.output).getD (path ++ text ".spv"))
  | invocation {t output} : ¬ HasText (a.source.map .text) → a.glsl = some (.text t) → t ≠ [] →
    ¬ HasText a.options → a.output = some (.text output) → output ≠ [] →
    Asks a s (ShaderBuild.glsl s a.projectRoot t (text "<--glsl>")) output

/-- Arguments make a job if they are a request, and it is the call that they ask for. -/
theorem job_cases {μ : Type} (a : Arguments) (s : Setting μ) :
    (∃ f, Job.ofArguments a = .error f) ∧ ¬ a.IsRequest ∨
      ∃ j, Job.ofArguments a = .ok j ∧ a.IsRequest ∧ a.Asks s (j.build s) j.output ∧
        j.depfile = given? a.depfile ∧ j.name = a.name := by
  unfold Job.ofArguments IsRequest
  cases source : given? (a.source.map .text) with
  | none =>
    have source' := given?_eq_none_iff.1 source
    cases glsl : given? a.glsl with
    | none =>
      have glsl' := given?_eq_none_iff.1 glsl
      exact .inl ⟨⟨_, rfl⟩, fun request => source' (request.1.2 glsl')⟩
    | some t =>
      obtain ⟨invocation, nonempty⟩ := given?_eq_some_iff.1 glsl
      have glsl' : HasText a.glsl := ⟨t, invocation, nonempty⟩
      cases options : given? a.options with
      | some o =>
        obtain ⟨hoptions, ho⟩ := given?_eq_some_iff.1 options
        exact .inl ⟨⟨_, rfl⟩, fun request => (request.2 glsl').1 ⟨o, hoptions, ho⟩⟩
      | none =>
        have options' := given?_eq_none_iff.1 options
        cases output : given? a.output with
        | none =>
          have output' := given?_eq_none_iff.1 output
          exact .inl ⟨⟨_, rfl⟩, fun request => output' (request.2 glsl').2⟩
        | some out =>
          obtain ⟨houtput, hout⟩ := given?_eq_some_iff.1 output
          have request : (HasText (a.source.map .text) ↔ ¬ HasText a.glsl) ∧
              (HasText a.glsl → ¬ HasText a.options ∧ HasText a.output) :=
            ⟨⟨fun h => absurd h source', fun h => absurd glsl' h⟩,
              fun _ => ⟨options', out, houtput, hout⟩⟩
          exact .inr ⟨_, rfl, request,
            .invocation source' invocation nonempty options' houtput hout, rfl, rfl⟩
  | some path =>
    obtain ⟨hsource, hpath⟩ := given?_eq_some_iff.1 source
    have source' : HasText (a.source.map .text) := ⟨path, hsource, hpath⟩
    cases glsl : given? a.glsl with
    | none =>
      have glsl' := given?_eq_none_iff.1 glsl
      have given : a.source = some path := by simpa using hsource
      have request : (HasText (a.source.map .text) ↔ ¬ HasText a.glsl) ∧
          (HasText a.glsl → ¬ HasText a.options ∧ HasText a.output) :=
        ⟨⟨fun _ => glsl', fun _ => source'⟩, fun h => absurd h glsl'⟩
      exact .inr ⟨_, rfl, request, .file given hpath glsl', rfl, rfl⟩
    | some t =>
      obtain ⟨invocation, nonempty⟩ := given?_eq_some_iff.1 glsl
      exact .inl ⟨⟨_, rfl⟩, fun request => request.1.1 source' ⟨t, invocation, nonempty⟩⟩

end Arguments

/-! ## Runs -/

variable {ν : Type}

/-- Is there nothing, or are there whole lines? -/
def IsEnded (t : Text) : Prop := t = [] ∨ text "\n" <:+ t

/-- A log is shown in whole lines. -/
theorem isEnded_showLog (verbose : Bool) (log : Log) : IsEnded (showLog verbose log) := by
  induction log with
  | nil => exact .inl rfl
  | cons record log ih =>
    have line : showLog verbose (record :: log) =
        ((show? verbose record).getD []) ++ showLog verbose log := by
      unfold showLog
      cases h : show? verbose record with
      | none => rw [List.filterMap_cons_none h, Option.getD_none, List.nil_append]
      | some t => rw [List.filterMap_cons_some h, Option.getD_some, List.flatten_cons]
    rw [line]
    rcases ih with nothing | ended
    · rw [nothing, List.append_nil]
      unfold show?
      split
      · exact .inr (List.suffix_append _ _)
      · split
        · exact .inr (List.suffix_append _ _)
        · exact .inl rfl
    · exact .inr (ended.trans (List.suffix_append _ _))

/-- Does the text end with a line of its own? -/
def EndsWithLine (t line : Text) : Prop :=
  ∃ before, t = before ++ line ++ text "\n" ∧ IsEnded before

/-- The arguments are refused: nothing happens but that a message is printed. -/
structure Refused (w : Workspace ν) (out : Outcome ν) : Prop where
  exit : out.exit = .status 2
  build : out.build = none
  workspace : out.workspace = w
  message : ∃ f : UsageFault, EndsWithLine out.errors (text "vkshader: error: " ++ f.message)

/-- How a run goes on after its call, given how the result is written. -/
inductive Finishes (w : Workspace ν) (build : BuildRun (Note ν)) (write : BuildOutput → FileRun)
    (out : Outcome ν) : Prop
  /-- The call ends in an error of the build, which is printed. -/
  | reported {e} : build.result = .error (.shader e) → out.exit = .status 1 →
    EndsWithLine out.errors (text "error: " ++ e.report) → out.workspace.files = w.files →
    Finishes w build write out
  /-- The call ends in another fault, and so does the run. -/
  | failed {f} : build.result = .error f → (∀ e, f ≠ .shader e) → out.exit = .fault f →
    out.workspace.files = w.files → Finishes w build write out
  | written {o} : build.result = .ok o → (write o).1 = .ok () → out.exit = .status 0 →
    out.workspace.files = (write o).2 → Finishes w build write out
  /-- Writing ends in a fault, and so does the run. -/
  | unwritten {o f} : build.result = .ok o → (write o).1 = .error f → out.exit = .fault f →
    out.workspace.files = (write o).2 → Finishes w build write out

/-- A run that makes a call and goes on after it: of what the call leaves, only the files change. -/
structure Completes (w : Workspace ν) (build : BuildRun (Note ν)) (write : BuildOutput → FileRun)
    (out : Outcome ν) : Prop where
  called : out.build = some build
  workspace : out.workspace = { w.settle none build with files := out.workspace.files }
  finishes : Finishes w build write out

/-- A build leaves a workspace with another compiler registered, if anything is different. -/
theorem settle_eq (w : Workspace ν) (passed : Option (Compiler ν)) (build : BuildRun (Note ν)) :
    ∃ backend, w.settle passed build = { w with backend } := by
  unfold Workspace.settle Workspace.withLoaded
  split
  · split
    · exact ⟨_, rfl⟩
    · exact ⟨w.backend, rfl⟩
  · exact ⟨w.backend, rfl⟩

theorem refused_refuse (w : Workspace ν) (f : UsageFault) : Refused w (refuse w f) where
  exit := rfl
  build := rfl
  workspace := rfl
  message := ⟨f, [], rfl, .inl rfl⟩

section

variable {w : Workspace ν} {j : Job} (verbose : Bool)

/-- An error of the build is printed, and the files stay. -/
theorem completes_of_error {e : ShaderError} {build : BuildRun (Note ν)}
    (hb : j.build (w.setting none) = build) (h : build.result = .error (.shader e))
    (write : BuildOutput → FileRun) : Completes w build write (perform w verbose j) := by
  obtain ⟨backend, settled⟩ := settle_eq w none build
  have hout : perform w verbose j =
      { exit := .status 1
        errors := showLog verbose build.log ++ text "error: " ++ e.report ++ text "\n"
        workspace := w.settle none build
        build := some build } := by
    simp only [perform, hb, h]
  rw [hout]
  refine ⟨rfl, rfl, .reported h rfl ⟨showLog verbose build.log, ?_, isEnded_showLog _ _⟩ ?_⟩
  · simp
  · rw [settled]

/-- Another fault ends the run, and the files stay. -/
theorem completes_of_fault {f : Fault} {build : BuildRun (Note ν)}
    (hb : j.build (w.setting none) = build) (h : build.result = .error f)
    (other : ∀ e, f ≠ .shader e) (write : BuildOutput → FileRun) :
    Completes w build write (perform w verbose j) := by
  obtain ⟨backend, settled⟩ := settle_eq w none build
  have hout : perform w verbose j =
      { exit := .fault f
        errors := showLog verbose build.log
        workspace := w.settle none build
        build := some build } := by
    simp only [perform, hb, h]
  rw [hout]
  refine ⟨rfl, rfl, .failed h other rfl ?_⟩
  rw [settled]

/-- A result is written. -/
theorem completes_of_output {o : BuildOutput} {build : BuildRun (Note ν)}
    (hb : j.build (w.setting none) = build) (h : build.result = .ok o) :
    let write (o : BuildOutput) := o.write w.files w.cwd j.output j.depfile j.name
    Completes w build write (perform w verbose j) := by
  intro write
  obtain ⟨backend, settled⟩ := settle_eq w none build
  have hwrite : o.write (w.settle none build).files (w.settle none build).cwd j.output j.depfile
      j.name = write o := by
    rw [settled]
  rcases hrun : write o with ⟨f | ⟨⟩, files⟩
  · have hout : perform w verbose j =
        { exit := .fault f
          errors := showLog verbose build.log
          workspace := { w.settle none build with files }
          build := some build } := by
      simp only [perform, hb, h, hwrite, hrun]
    rw [hout]
    exact ⟨rfl, rfl, .unwritten h (by rw [hrun]) rfl (by rw [hrun])⟩
  · have hout : perform w verbose j =
        { exit := .status 0
          errors := showLog verbose build.log ++ showLog verbose (writeLog j.output o)
          workspace := { w.settle none build with files }
          build := some build } := by
      simp only [perform, hb, h, hwrite, hrun]
    rw [hout]
    exact ⟨rfl, rfl, .written h (by rw [hrun]) rfl (by rw [hrun])⟩

/-- A job is the call, and what comes after it. -/
theorem completes_perform {build : BuildRun (Note ν)} (hb : j.build (w.setting none) = build) :
    Completes w build (fun o => o.write w.files w.cwd j.output j.depfile j.name)
      (perform w verbose j) := by
  cases h : build.result with
  | error f =>
    by_cases shader : ∃ e, f = .shader e
    · obtain ⟨e, rfl⟩ := shader
      exact completes_of_error verbose hb h _
    · exact completes_of_fault verbose hb h (fun e he => shader ⟨e, he⟩) _
  | ok o => exact completes_of_output verbose hb h

end

/-- **Runs of the command line that ask for a build.**

    Arguments that cannot be read, or are no request, are refused.  All others are a call of an entry
    point with the values that the arguments set; its compiler is called as in any other build, an
    error of the build is printed, and a result is written to the file that is asked for.  Nothing
    else becomes of the files.  It does not matter which compiler is registered.

    A value is a text.  By the early convention it may also be the empty list that is left of two
    dashes; that counts as none except as the options of a file. -/
theorem run_is_call (convention : Convention) (w : Workspace ν) {arguments : List Text}
    (h : asksForInformation convention arguments = false) :
    let out := run convention w arguments
    (Refused w out ∨
      ∃ a build output, Arguments.parse convention arguments = .ok a ∧
        (∀ d ∈ a.given, IsValue convention d) ∧
        a.Asks (w.setting none) build output ∧ out.build = some build ∧
        out.workspace = { w.settle none build with files := out.workspace.files } ∧
        Finishes w build (fun o => o.write w.files w.cwd output (given? a.depfile) a.name) out) ∧
      (out.build.isSome ↔ ∃ a, Arguments.parse convention arguments = .ok a ∧ a.IsRequest) := by
  intro out
  unfold asksForInformation at h
  cases hparse : Arguments.parse convention arguments with
  | error stop =>
    cases stop with
    | version =>
      rw [hparse] at h
      cases h
    | help =>
      rw [hparse] at h
      cases h
    | usage f =>
      have hout : out = refuse w f := by simp only [out, run, hparse]
      rw [hout]
      refine ⟨.inl (refused_refuse w f), nofun, ?_⟩
      rintro ⟨a, ha, -⟩
      cases ha
  | ok a =>
    rw [hparse] at h
    rcases a.job_cases (w.setting none) with ⟨⟨f, hf⟩, other⟩ | ⟨j, hj, request, asks, depfile, name⟩
    · have hout : out = refuse w f := by simp [out, run, hparse, h, hf]
      rw [hout]
      refine ⟨.inl (refused_refuse w f), nofun, ?_⟩
      rintro ⟨a, ha, request⟩
      cases ha
      exact absurd request other
    · have hout : out = perform w a.verbose j := by simp [out, run, hparse, h, hj]
      obtain ⟨hbuild, hworkspace, finishes⟩ := completes_perform a.verbose (w := w) (j := j) rfl
      rw [depfile, name] at finishes
      rw [hout]
      refine ⟨.inr ⟨a, _, _, rfl, isValue_parse hparse, asks, hbuild, hworkspace, finishes⟩, ?_⟩
      rw [hbuild]
      exact ⟨fun _ => ⟨a, rfl, request⟩, fun _ => rfl⟩

deriving instance DecidableEq for Exit

/-- A file, and a compiler that stands in. -/
def singleFile : Workspace Text where
  files := ⟨[([[97]], .file [120])]⟩
  cwd := text "/"
  backend := some (.custom (text "stand-in") (StandIn.compile {} 1))

/-- A file is compiled, and the module is written to the file that is named behind a switch. -/
theorem run_is_call_file :
    let out := run .late singleFile [text "a", text "-vo=b"]
    asksForInformation .late [text "a", text "-vo=b"] = false ∧ out.exit = .status 0 ∧
      ∃ build o, out.build = some build ∧ build.result = .ok o ∧
        build = compileFile (singleFile.setting none) none (text "a") none none none ∧
        out.workspace.files =
          (o.write singleFile.files singleFile.cwd (text "b") none (.text (text "SPIRV"))).2 := by
  have asked : asksForInformation .late [text "a", text "-vo=b"] = false := by decide +kernel
  have parsed : Arguments.parse .late [text "a", text "-vo=b"] =
      .ok { source := some (text "a"), output := some (.text (text "b")), verbose := true } := by
    decide +kernel
  have exit : (run .late singleFile [text "a", text "-vo=b"]).exit = .status 0 := by
    decide +kernel
  have call := (run_is_call .late singleFile asked).1
  generalize run .late singleFile [text "a", text "-vo=b"] = out at exit call
  rcases call with refused | ⟨a, build, output, ha, -, asks, hb, -, finishes⟩
  · have other := refused.exit
    rw [exit] at other
    cases other
  · obtain rfl := Except.ok.inj (ha.symm.trans parsed)
    refine ⟨asked, exit, build, ?_⟩
    cases asks with
    | file source =>
      obtain rfl := Option.some.inj source
      cases finishes with
      | reported _ other => cases exit.symm.trans other
      | failed _ _ other => cases exit.symm.trans other
      | unwritten _ _ other => cases exit.symm.trans other
      | written hresult _ _ files => exact ⟨_, hb, hresult, rfl, files⟩
    | invocation other => exact absurd ⟨_, rfl, List.cons_ne_nil _ _⟩ other

end ShaderBuild.CommandLine
