/-
  The names of files.

  A file that is compiled is seen from the project root as it is given, and a file that is included
  from the absolute directory that the root names.  Both ways lead to the same path.

  * `Setting.rootDirectory`: the absolute directory of a project root;
  * `Setting.filePath_eq`: the path of a file that is compiled, seen from that directory;
  * `compileFile_cases`: a file is built under that path or not at all;
  * `one_name_per_file`: it is found there by all who ask for it in angle brackets.
-/
import ShaderBuild.Proofs.Include.Paths
import ShaderBuild.Proofs.Library.FileBytes

namespace ShaderBuild

variable {ν : Type} {s : Setting ν} {root : Option Text} {path full : Text}

/-! ## Files that are compiled -/

/-- The absolute directory of a project root: the one that is given, or else that of the
    environment. -/
def Setting.rootDirectory (s : Setting ν) (root : Option Text) : Text :=
  Path.absolute s.cwd (s.rootPath root)

theorem Setting.filePath_eq (s : Setting ν) (root : Option Text) (path : Text) :
    s.filePath root path = Path.normalize (Path.join (s.rootDirectory root) path) :=
  Path.absolute_join s.cwd (s.rootPath root) path

/-- A call about a file fails before it comes to the compiler, or builds what the bytes at the path
    of the file are read as. -/
theorem compileFile_cases (s : Setting ν) (root : Option Text) (path : Text)
    (argument : Option OptionsArgument) (fields : Option OptionFields) (span : Option Span) :
    let full := s.filePath root path
    let run := compileFile s (root.map .text) path argument fields span
    (run.record = none ∧ ∃ f, run.result = .error f) ∨
      ∃ source options, (∃ bytes, s.read full = .ok bytes ∧ Utf8.encode? source = some bytes) ∧
        let built := build s ((some (s.rootPath root)).map .text) ⟨source, full, some full, span⟩
          options
        run.record = built.record ∧ run.result = built.result := by
  intro full run
  cases ho : OptionsArgument.resolve s.environment argument fields with
  | error f =>
    have failed : run = .failed f (OptionsArgument.log s.environment argument fields) := by
      simp only [run, compileFile, withOptions, ho]
    rw [failed]
    exact .inl ⟨rfl, f, rfl⟩
  | ok options =>
    cases hread : s.read.readText (sourceFault full span) full with
    | error f =>
      obtain ⟨hrecord, hresult⟩ := compileFile_of_unread ho hread
      exact .inl ⟨hrecord, f, hresult⟩
    | ok source =>
      exact .inr ⟨source, options, (Reader.readText_eq_ok_iff _).1 hread,
        compileFile_of_read ho hread⟩

/-! ## Files that are included -/

/-- A request in angle brackets leads to the path under which the file would be compiled. -/
theorem Setting.resolvePath_standard (s : Setting ν) (root : Option Text) (unit : SourceUnit)
    (cwd : Text) {request : IncludeRequest}
    (h : IncludeType.ofDatum? request.kind = some .standard) :
    (s.resolver root unit).resolvePath cwd request = .ok (s.filePath root request.requested) := by
  have absolute : Path.isAbsolute ((s.resolver root unit).base .standard request.requesting) :=
    Path.isAbsolute_normalize _
  rw [Resolver.resolvePath_of_isAbsolute h absolute, s.filePath_eq]
  rfl

/-- Whoever asks for a path in angle brackets during a call is answered with the file at a full
    path, and nothing else goes on record for it. -/
def CallRecord.FindsAt (record : CallRecord ν) (path full : Text) : Prop :=
  ∀ request resolution, .asked request resolution ∈ record.events →
    IncludeType.ofDatum? request.kind = some .standard → request.requested = path →
    (∀ p, resolution.recorded = some p → p = full) ∧
      ∀ file, resolution.answer = .ok file → file.name = full

theorem findsAt_of_build {unit : SourceUnit} {options : CompileOptions} {record : CallRecord ν}
    (h : (build s (root.map .text) unit options).record = some record) (path : Text) :
    record.FindsAt path (s.filePath root path) := by
  obtain ⟨compiler, rootPath, -, hroot, rfl, -⟩ := build_of_record h
  cases (s.root_eq_ok root).symm.trans hroot
  rintro request resolution hasked hkind rfl
  obtain ⟨rfl, -⟩ := Library.asked_of_perform hasked
  have there := s.resolvePath_standard root unit s.cwd hkind
  have only {p : Text} (hp : (s.resolver root unit).recordedPath s.cwd request = .ok p) :
      p = s.filePath root request.requested :=
    Except.ok.inj ((Resolver.resolvePath_of_recordedPath hp).symm.trans there)
  refine ⟨fun p hp => only ?_, fun file hfile => only (Resolver.recordedPath_of_answer hfile)⟩
  exact Resolver.recordedPath_of_recorded hp

/-- **A file has one name.**

    A file that is compiled is read at one path, which is its name, and the first of the sources.
    Whoever asks for it in angle brackets, in whichever build that has the same directory as its
    project root, and at whichever depth, is led to the same path, whatever the current directory
    is by then. -/
theorem one_name_per_file (s : Setting ν) (root : Option Text) (path : Text) :
    let full := s.filePath root path
    (∀ argument fields span,
      let run := compileFile s (root.map .text) path argument fields span
      (∀ options f, OptionsArgument.resolve s.environment argument fields = .ok options →
        s.read full = .error (.file f) → run.result = .error (sourceFault full span (.file f))) ∧
      (∀ record, run.record = some record → record.call.name = full ∧ record.FindsAt path full ∧
        ∃ bytes, s.read full = .ok bytes ∧ Utf8.encode? record.call.source = some bytes) ∧
      ∀ out, run.result = .ok out → ∃ includes, out.sources = full :: includes) ∧
    ∀ (s' : Setting ν) (root' : Option Text), s'.rootDirectory root' = s.rootDirectory root →
      ∀ unit : SourceUnit,
        (∀ (cwd : Text) (request : IncludeRequest),
          IncludeType.ofDatum? request.kind = some .standard → request.requested = path →
          (s'.resolver root' unit).resolvePath cwd request = .ok full) ∧
        ∀ options record, (build s' (root'.map .text) unit options).record = some record →
          record.FindsAt path full := by
  intro full
  refine ⟨fun argument fields span => ⟨fun options f ho hf => ?_, fun record h => ?_,
    fun out h => ?_⟩, fun s' root' same unit => ?_⟩
  · have unread : s.read.readText (sourceFault full span) full =
        .error (sourceFault full span (.file f)) := by
      simp only [Reader.readText, hf]
    exact (compileFile_of_unread ho unread).2
  · rcases compileFile_cases s root path argument fields span with
      ⟨hrecord, -⟩ | ⟨source, options, hsource, hrecord, -⟩
    · cases hrecord.symm.trans h
    · have built := hrecord.symm.trans h
      obtain ⟨compiler, rootPath, -, -, rfl, -⟩ := build_of_record built
      exact ⟨rfl, findsAt_of_build built path, hsource⟩
  · rcases compileFile_cases s root path argument fields span with
      ⟨-, f, hresult⟩ | ⟨source, options, -, -, hresult⟩
    · cases hresult.symm.trans h
    · exact sources_of_result (hresult.symm.trans h)
  · have name : s'.filePath root' path = full := by
      rw [s'.filePath_eq, same, ← s.filePath_eq]
    refine ⟨fun cwd request hkind hpath => ?_, fun options record h => ?_⟩
    · rw [s'.resolvePath_standard root' unit cwd hkind, hpath, name]
    · exact name ▸ findsAt_of_build h path

/-- A compiler that asks for one include in angle brackets, from far inside another file. -/
def bracketCompiler (requested : Text) : Compiler Unit := fun _ => .mk <|
  .ask ⟨requested, .int 1, text "/e/l/s/e", .int 7⟩ fun answer =>
  .done (answer.map fun _ => ⟨[], 0, []⟩)

/-- A file that includes itself: in a build with a relative project root, and then in one with the
    root of the environment, in another directory. -/
theorem one_name_per_file_elsewhere :
    let here : Setting Unit :=
      { read := (flatTree [("b", [120])]).read (text "/w"), cwd := text "/w", environment := []
        compiler := .ok (bracketCompiler (text "x/../b")) }
    let there : Setting Unit :=
      { here with cwd := text "/", environment := [(Environment.rootVariable, text " /w//.. ")] }
    let run := compileFile here (some (.text (text ".."))) (text "x/../b") none none none
    let unit : SourceUnit := ⟨[], SourceUnit.inlineName, none, none⟩
    run.result = .ok ⟨["/b", "/b"].map text, []⟩ ∧
      there.rootDirectory none = here.rootDirectory (some (text "..")) ∧
      (there.resolver none unit).resolvePath (text "/q")
        ⟨text "x/../b", .int 1, text "/e", .int 0⟩ = .ok (text "/b") := by
  intro here there run unit
  have built : run.result = .ok ⟨["/b", "/b"].map text, []⟩ := by decide +kernel
  have same : there.rootDirectory none = here.rootDirectory (some (text "..")) := by decide +kernel
  obtain ⟨compiled, included⟩ := one_name_per_file here (some (text "..")) (text "x/../b")
  obtain ⟨includes, hsources⟩ := (compiled none none none).2.2 _ built
  obtain ⟨name, -⟩ := List.cons.inj hsources
  rw [name]
  exact ⟨built, same, (included there none same unit).1 _ _ rfl rfl⟩

end ShaderBuild
