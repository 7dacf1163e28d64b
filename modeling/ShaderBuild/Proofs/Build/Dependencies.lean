/-
  The sources of a build are all that it depends on among the files.

  A compiler reaches files only by asking for includes, and a path goes on record before the file is
  read.  So a run can be followed request by request with other files: as long as those on record
  are read alike, each answer is the same, and so is the next request.

  * `Resolver.resolve_congr`: an answer depends only on the file that goes on record;
  * `Dialogue.run_congr`: a run depends only on the files that go on record in it;
  * `build_cases`: a build fails before its compiler is called, or is what comes of that call;
  * `compileFile_congr`: a build of a file depends only on its sources.

  Files are given by any way to read them; a file tree, seen from a directory, is one.
-/
import ShaderBuild.Compile
import ShaderBuild.FileTree
import ShaderBuild.Proofs.Outcome

namespace ShaderBuild

variable {ν α : Type} {read read' : Reader}

theorem Reader.readText_congr {fault : ReadFault → Fault} {path : Text}
    (same : read' path = read path) : read'.readText fault path = read.readText fault path := by
  simp only [Reader.readText, same]

theorem Resolver.resolve_congr {r : Resolver} {cwd : Text} {request : IncludeRequest}
    (same : ∀ p ∈ (r.resolve read cwd request).recorded, read' p = read p) :
    r.resolve read' cwd request = r.resolve read cwd request := by
  unfold Resolver.resolve at same ⊢
  cases h : r.recordedPath cwd request with
  | error f => rfl
  | ok path =>
    rw [h] at same
    simp only [Resolver.readAt, Reader.readText_congr (same path rfl)]

/-- The paths that go on record in a run. -/
def Dialogue.recorded (d : Dialogue ν α) (resolve : IncludeRequest → Resolution) : List Text :=
  (d.run resolve).2.filterMap Event.recorded?

/-- A run depends only on the files that go on record in it. -/
theorem Dialogue.run_congr {r : Resolver} {cwd : Text} (d : Dialogue ν α)
    (same : ∀ p ∈ d.recorded (r.resolve read cwd), read' p = read p) :
    d.run (r.resolve read' cwd) = d.run (r.resolve read cwd) := by
  induction d with
  | done a => rfl
  | log record rest ih => simp only [Dialogue.run, ih same]
  | note n rest ih => simp only [Dialogue.run, ih same]
  | ask request next ih =>
    -- the first request is answered alike, so both runs go on in the same way
    have first : r.resolve read' cwd request = r.resolve read cwd request := by
      refine Resolver.resolve_congr fun p hp => same p ?_
      exact List.mem_filterMap.2 ⟨.asked request (r.resolve read cwd request),
        List.mem_cons_self, hp⟩
    have later := ih (r.resolve read cwd request).answer fun p hp => same p <| by
      obtain ⟨event, hevent, hp⟩ := List.mem_filterMap.1 hp
      exact List.mem_filterMap.2 ⟨event, List.mem_cons_of_mem _ hevent, hp⟩
    simp only [Dialogue.run, first, later]

/-- The setting with other files in it. -/
def Setting.withFiles (s : Setting ν) (read : Reader) : Setting ν := { s with read }

theorem Setting.perform_congr {s : Setting ν} {compiler : Compiler ν} {resolver : Resolver}
    {call : Call}
    (same : ∀ p ∈ (s.perform compiler resolver call).recorded, read' p = s.read p) :
    (s.withFiles read').perform compiler resolver call = s.perform compiler resolver call := by
  unfold Setting.perform Setting.withFiles at *
  simp only [Dialogue.run_congr (compiler (call.answeredBy resolver)).run same]

/-- The sources of an output are the file that is compiled and the paths that went on record. -/
theorem CallRecord.sources_of_output {r : CallRecord ν} {unit : SourceUnit} {out : BuildOutput}
    (h : r.output unit = .ok out) : out.sources = unit.path.toList ++ r.recorded := by
  unfold CallRecord.output at h
  cases ho : r.outcome with
  | error f => simp [ho] at h
  | ok result =>
    rw [ho] at h
    dsimp only at h
    split at h
    · cases h; rfl
    · cases h

/-- A build fails before its compiler is called, or it has what it takes for the call, and is what
    comes of it. -/
theorem build_cases (s : Setting ν) (root : Option Datum) (unit : SourceUnit)
    (options : CompileOptions) :
    let run := build s root unit options
    (∃ f, run.result = .error f ∧ run.record = none) ∨
      ∃ compiler path form, s.compiler = .ok compiler ∧ s.root root = .ok path ∧
        options.describe = .ok form ∧
        let record := s.perform compiler (.make s.cwd path (some unit.name) unit.path)
          (unit.call options)
        run.record = some record ∧ run.result = record.output unit := by
  unfold build
  cases s.compiler with
  | error f => exact .inl ⟨f, rfl, rfl⟩
  | ok compiler =>
    cases s.root root with
    | error f => exact .inl ⟨f, rfl, rfl⟩
    | ok path =>
      cases options.describe with
      | error f => exact .inl ⟨f, rfl, rfl⟩
      | ok form => exact .inr ⟨compiler, path, form, rfl, rfl, rfl, rfl, rfl⟩

/-- What is on record of a build: the call of its compiler, with the includes looked up from the
    project root. -/
theorem build_of_record {s : Setting ν} {root : Option Datum} {unit : SourceUnit}
    {options : CompileOptions} {record : CallRecord ν}
    (h : (build s root unit options).record = some record) :
    ∃ compiler rootPath, s.compiler = .ok compiler ∧ s.root root = .ok rootPath ∧
      record = s.perform compiler (.make s.cwd rootPath (some unit.name) unit.path)
        (unit.call options) ∧
      (build s root unit options).result = record.output unit := by
  rcases build_cases s root unit options with
    ⟨f, -, hnone⟩ | ⟨compiler, path, form, hc, hr, -, hrecord, hresult⟩
  · cases hnone.symm.trans h
  · cases hrecord.symm.trans h
    exact ⟨compiler, path, hc, hr, rfl, hresult⟩

theorem build_congr {s : Setting ν} {root : Option Datum} {unit : SourceUnit}
    {options : CompileOptions} {out : BuildOutput}
    (h : (build s root unit options).result = .ok out)
    (same : ∀ p ∈ out.sources, read' p = s.read p) :
    build (s.withFiles read') root unit options = build s root unit options := by
  rcases build_cases s root unit options with
    ⟨f, hf, -⟩ | ⟨compiler, path, form, hc, hr, hd, -, hresult⟩
  · cases hf.symm.trans h
  · have hsources := CallRecord.sources_of_output (hresult.symm.trans h)
    have hrun : (s.withFiles read').perform compiler _ _ = s.perform compiler _ _ :=
      Setting.perform_congr fun p hp => same p (hsources ▸ List.mem_append_right _ hp)
    have hroot : (s.withFiles read').root root = .ok path := hr
    have hcompiler : (s.withFiles read').compiler = .ok compiler := hc
    simp only [build, hc, hr, hd, hcompiler, hroot]
    simp only [Setting.withFiles] at hrun ⊢
    rw [hrun]

/-- A build that succeeds has the file that is compiled as its first source. -/
theorem sources_of_result {s : Setting ν} {root : Option Datum} {unit : SourceUnit}
    {options : CompileOptions} {out : BuildOutput}
    (h : (build s root unit options).result = .ok out) :
    ∃ includes, out.sources = unit.path.toList ++ includes := by
  rcases build_cases s root unit options with ⟨f, hf, -⟩ | ⟨_, _, _, -, -, -, -, hresult⟩
  · cases hf.symm.trans h
  · exact ⟨_, CallRecord.sources_of_output (hresult.symm.trans h)⟩

theorem path_mem_sources {s : Setting ν} {root : Option Datum} {unit : SourceUnit}
    {options : CompileOptions} {out : BuildOutput}
    (h : (build s root unit options).result = .ok out)
    {path : Text} (hp : unit.path = some path) : path ∈ out.sources := by
  obtain ⟨includes, hsources⟩ := sources_of_result h
  rw [hsources, hp]
  exact List.mem_append_left _ List.mem_cons_self

theorem compileFileWith_congr {s : Setting ν} {root : Option Datum} {path : Text}
    {options : CompileOptions} {span : Option Span} {out : BuildOutput}
    (h : (compileFileWith s root path options span).result = .ok out)
    (same : ∀ p ∈ out.sources, read' p = s.read p) :
    compileFileWith (s.withFiles read') root path options span
      = compileFileWith s root path options span := by
  have hroot : (s.withFiles read').root root = s.root root := rfl
  have hcwd : (s.withFiles read').cwd = s.cwd := rfl
  unfold compileFileWith at h ⊢
  rw [hroot, hcwd]
  cases hr : s.root root with
  | error f => rfl
  | ok rootPath =>
    simp only [hr] at h ⊢
    generalize Path.absolute s.cwd (Path.join rootPath path) = full at h ⊢
    cases hs : s.read.readText (sourceFault full span) full with
    | error f => simp [hs, BuildRun.failed] at h
    | ok source =>
      simp only [hs] at h
      have htop : (s.withFiles read').read.readText (sourceFault full span) full = .ok source :=
        (Reader.readText_congr (same full (path_mem_sources h rfl))).trans hs
      simp only [htop, build_congr h same]

/-- **The sources of an output are complete.**  If a file is compiled to an output, then compiling
    it again gives the same output, by the same call of the compiler with the same answers to its
    requests, whatever happened to the files that are not among the sources. -/
theorem compileFile_congr {s : Setting ν} {root : Option Datum} {path : Text}
    {argument : Option OptionsArgument} {fields : Option OptionFields} {span : Option Span}
    {out : BuildOutput} (h : (compileFile s root path argument fields span).result = .ok out)
    (same : ∀ p ∈ out.sources, read' p = s.read p) :
    compileFile (s.withFiles read') root path argument fields span
      = compileFile s root path argument fields span := by
  have henv : (s.withFiles read').environment = s.environment := rfl
  unfold compileFile withOptions at h ⊢
  rw [henv]
  cases ho : OptionsArgument.resolve s.environment argument fields with
  | error f => simp [ho, BuildRun.failed] at h
  | ok options =>
    simp only [ho, BuildRun.after] at h ⊢
    rw [compileFileWith_congr h same]

/-- A compiler that asks for two includes, puts up with failures, and counts what it gets. -/
def countingCompiler : Compiler Unit := fun call => .mk <|
  .ask ⟨text "b", .int 0, call.name, .int 1⟩ fun first =>
  .ask ⟨text "none", .int 1, call.name, .int 1⟩ fun second =>
  .done (.ok ⟨[count first, count second], 0, []⟩)
where
  /-- The size of an answer, or a number that no size is. -/
  count (answer : IncludeAnswer) : Int := answer.toOption.elim (-1) fun f => f.content.length

/-- Files in the root directory. -/
def flatTree (files : List (String × Bytes)) : FileTree :=
  ⟨files.map fun f => ([f.1.toUTF8.toList], .file f.2)⟩

/-- Builds in the root directory, with the counting compiler. -/
def countingSetting (files : FileTree) : Setting Unit where
  read := files.read (text "/")
  cwd := text "/"
  environment := []
  compiler := .ok countingCompiler

/-- The include that is not there is a source like the others; a file may go and another may come
    beside them. -/
theorem compileFile_congr_counting :
    let before := countingSetting (flatTree [("a", [120]), ("b", [121, 122]), ("c", [1])])
    let later := (flatTree [("d", [2]), ("b", [121, 122]), ("a", [120])]).read (text "/")
    (compileFile before none (text "a") none none none).result
        = .ok ⟨["/a", "/b", "/none"].map text, [2, -1]⟩ ∧
      (∀ p ∈ ["/a", "/b", "/none"].map text, later p = before.read p) ∧
      compileFile (before.withFiles later) none (text "a") none none none
        = compileFile before none (text "a") none none none := by
  intro before later
  have built : (compileFile before none (text "a") none none none).result
      = .ok ⟨["/a", "/b", "/none"].map text, [2, -1]⟩ := by decide +kernel
  have same : ∀ p ∈ ["/a", "/b", "/none"].map text, later p = before.read p := by decide +kernel
  exact ⟨built, same, compileFile_congr built same⟩

end ShaderBuild
