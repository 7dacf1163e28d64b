/-
  Builds of whole include trees.

  A compiler that does nothing but expand includes asks for each include of a source once, in the
  order in which they stand in the outline of the source, and expands to what the files say.

  * `Attempt.Gives`: what an attempt gives with one who answers by a rule;
  * `gives_expandLines`: the expansion of lines is their outline;
  * `includes_expanded`: the build of a file and of a source that is no file.
-/
import ShaderBuild.Compile
import ShaderBuild.Proofs.Build.Course
import ShaderBuild.Proofs.Build.Outline
import ShaderBuild.Proofs.Path

namespace ShaderBuild

/-! ## Attempts -/

section

variable {ν α β : Type} {resolve : IncludeRequest → Resolution}

/-- With one who answers by a rule, an attempt gives a value, puts paths on record, and notes
    something. -/
def Attempt.Gives (resolve : IncludeRequest → Resolution) (p : Attempt ν α) (a : α)
    (paths : List Text) (notes : List ν) : Prop :=
  ∃ events, p.run.run resolve = (.ok a, events) ∧ events.filterMap Event.recorded? = paths ∧
    events.filterMap Event.noted? = notes

namespace Attempt

theorem gives_pure (a : α) : Gives resolve (pure a : Attempt ν α) a [] [] := ⟨[], rfl, rfl, rfl⟩

theorem gives_tell (n : ν) : Gives resolve (tell n) () [] [n] := ⟨[.noted n], rfl, rfl, rfl⟩

theorem gives_request {request : IncludeRequest} {file : ResolvedInclude} {path : Text}
    (h : resolve request = ⟨.ok file, some path⟩) :
    Gives resolve (Attempt.request request : Attempt ν ResolvedInclude) file [path] [] := by
  refine ⟨[.asked request ⟨.ok file, some path⟩], ?_, rfl, rfl⟩
  rw [← h]
  change ((resolve request).answer, _) = _
  rw [h]

/-- Two attempts one after the other. -/
theorem Gives.bind {p : Attempt ν α} {q : α → Attempt ν β} {a : α} {b : β} {paths paths' : List Text}
    {notes notes' : List ν} (hp : Gives resolve p a paths notes)
    (hq : Gives resolve (q a) b paths' notes') :
    Gives resolve (p >>= q) b (paths ++ paths') (notes ++ notes') := by
  obtain ⟨events, hrun, rfl, rfl⟩ := hp
  obtain ⟨events', hrun', rfl, rfl⟩ := hq
  refine ⟨events ++ events', ?_, List.filterMap_append, List.filterMap_append⟩
  refine (Dialogue.run_andThen resolve p.run _).trans ?_
  rw [hrun]
  exact congrArg (fun r : Except Fault β × List (Event ν) => (r.1, events ++ r.2)) hrun'

/-- An attempt whose value is made into another. -/
theorem Gives.map {p : Attempt ν α} {a : α} {paths : List Text} {notes : List ν}
    (hp : Gives resolve p a paths notes) (f : α → β) :
    Gives resolve (p >>= fun a => pure (f a)) (f a) paths notes := by
  have both := hp.bind (q := fun a => pure (f a)) (gives_pure (f a))
  rwa [List.append_nil, List.append_nil] at both

end Attempt

end

/-! ## Requests -/

theorem IncludeType.ofDatum?_code (kind : IncludeType) :
    IncludeType.ofDatum? (.int kind.code) = some kind := by
  cases kind <;> rfl

theorem Reader.readText_of_text? {read : Reader} {path content : Text}
    (h : read.text? path = some content) (fault : ReadFault → Fault) :
    read.readText fault path = .ok content := by
  obtain ⟨bytes, hread, hdecode⟩ := Reader.text?_eq_some_iff.1 h
  simp only [Reader.readText, hread, hdecode]

section

variable {read : Reader} {cwd directory path content requested requesting : Text}
  {kind : IncludeType} {resolver : Resolver} {depth : Int}

/-- A request for a file that is there, in an absolute directory. -/
theorem resolve_eq (hbase : resolver.base .relative requesting = directory)
    (hdirectory : Path.isAbsolute directory) (hroot : Path.isAbsolute resolver.root)
    (hpath : path = includedPath resolver.root directory kind requested)
    (encodable : Utf8.isEncodable path) (hread : read.text? path = some content)
    (hdepth : depth.natAbs < 10 ^ 20) :
    resolver.resolve read cwd ⟨requested, .int kind.code, requesting, .int depth⟩ =
      ⟨.ok ⟨path, content⟩, some path⟩ := by
  have absolute : Path.isAbsolute (resolver.base kind requesting) := by
    cases kind with
    | relative => rwa [hbase]
    | standard => exact hroot
  have resolved : resolver.resolvePath cwd ⟨requested, .int kind.code, requesting, .int depth⟩ =
      .ok path := by
    simp only [Resolver.resolvePath, IncludeType.ofDatum?_code]
    rw [Path.absolute_of_isAbsolute (Path.isAbsolute_join absolute _), hpath]
    cases kind with
    | relative => rw [hbase]; rfl
    | standard => rfl
  have shown : Fault.showOf (.int depth) = .ok (Numeral.ofInt depth) := by
    simp only [Fault.showOf, Datum.show?, Datum.form?, Numeral.isWritable_of_lt hdepth, if_true]
  have recorded : resolver.recordedPath cwd ⟨requested, .int kind.code, requesting, .int depth⟩ =
      .ok path := by
    simp only [Resolver.recordedPath, resolved, shown, bind, Except.bind, encodable]
    rfl
  simp only [Resolver.resolve, recorded, Resolver.readAt, Reader.readText_of_text? hread]
  rfl

end

/-! ## Expansion -/

/-- The project root is absolute, and includes of a file with an absolute path are looked up in its
    directory. -/
structure Resolver.IsRooted (resolver : Resolver) : Prop where
  root : Path.isAbsolute resolver.root
  nested : ∀ path, Path.isAbsolute path → resolver.base .relative path = Path.directory path

/-- The stand-in rejects nothing, and has no warnings. -/
structure StandIn.IsPlain (c : StandIn) : Prop where
  error : c.error = []
  warningCount : c.warningCount = 0

section

variable {p : Preprocessor} {read : Reader} {cwd : Text} {resolver : Resolver}

/-- The lines of a source are expanded to their outline, if there is room enough. -/
theorem gives_expandLines (rooted : resolver.IsRooted) {directory : Text} {lines : List Text}
    {o : Outline} (h : Expands p read resolver.root directory lines o)
    (encodable : ∀ path ∈ o.paths, Utf8.isEncodable path) {name : Text} {depth room : Nat}
    (hname : resolver.base .relative name = directory) (hdirectory : Path.isAbsolute directory)
    (hroom : o.depth ≤ room) (hdepth : depth + room < 10 ^ 20) :
    Attempt.Gives (resolver.resolve read cwd)
      (p.expandLines name depth (fun file => p.expand room (depth + 1) file.name file.content) lines :
        Attempt Text (List Text)) o.lines o.paths [] := by
  induction h generalizing name depth room with
  | done => exact Attempt.gives_pure []
  | @kept directory line lines rest hline _ ih =>
    have later := ih encodable hname hdirectory hroom hdepth
    unfold Preprocessor.expandLines
    simp only [hline]
    exact (Attempt.gives_pure line).bind (later.map fun more => line :: more)
  | @nested directory line lines requested kind path content body rest hline hpath hcontent _ _
      ihBody ihRest =>
    obtain ⟨deeper, hrest⟩ := Nat.max_le.1 hroom
    cases room with
    | zero => cases deeper
    | succ room =>
      obtain ⟨hfile, hfiles⟩ := List.forall_mem_cons.1 encodable
      obtain ⟨hbody, hlater⟩ := List.forall_mem_append.1 hfiles
      have absolute : Path.isAbsolute path := hpath ▸ Path.isAbsolute_normalize _
      have answered : resolver.resolve read cwd
          ⟨requested, .int kind.code, name, .int (depth + 1)⟩ = ⟨.ok ⟨path, content⟩, some path⟩ :=
        resolve_eq hname hdirectory rooted.root hpath hfile hcontent (by omega)
      have inside : depth + 1 + room < 10 ^ 20 := by omega
      have bodyLines := ihBody hbody (rooted.nested path absolute)
        (Path.isAbsolute_directory absolute) (Nat.le_of_succ_le_succ deeper) inside
      have file : Attempt.Gives (resolver.resolve read cwd)
          (p.expand (room + 1) (depth + 1) path content : Attempt Text Text)
          body.expanded body.paths [] := bodyLines.map (List.intercalate ['\n'])
      have later := ihRest hlater hname hdirectory hrest hdepth
      unfold Preprocessor.expandLines
      simp only [hline]
      refine (Attempt.gives_request answered).bind ?_
      exact file.bind (later.map fun more => body.expanded :: more)

/-- A source is compiled as its outline tells. -/
theorem gives_compile {c : StandIn} (plain : c.IsPlain) {room : UInt64}
    (rooted : resolver.IsRooted) {call : Call} {o : Outline}
    (hdirectory : Path.isAbsolute (resolver.base .relative call.name))
    (h : Expands .shader read resolver.root (resolver.base .relative call.name)
      (Text.splitLines call.source) o)
    (encodable : ∀ path ∈ o.paths, Utf8.isEncodable path) (hroom : o.depth < room.toNat)
    {bytes : Bytes} (hbytes : Utf8.encode? o.expanded = some bytes) :
    Attempt.Gives (resolver.resolve read cwd) (c.compile room call)
      ⟨StandIn.words call.stage bytes, 0, c.warnings⟩ o.paths [o.expanded] := by
  obtain ⟨levels, hlevels⟩ := Nat.exists_eq_succ_of_ne_zero (Nat.ne_zero_of_lt hroom)
  have bounded : room.toNat < 2 ^ 64 := room.toNat_lt
  have lines : Attempt.Gives (resolver.resolve read cwd) (Preprocessor.shader.expandLines call.name 0
      (fun file => Preprocessor.shader.expand levels 1 file.name file.content)
      (Text.splitLines call.source) : Attempt Text (List Text)) o.lines o.paths [] :=
    gives_expandLines rooted h encodable rfl hdirectory (by omega) (by omega)
  have source : Attempt.Gives (resolver.resolve read cwd)
      (Preprocessor.shader.expand room.toNat 0 call.name call.source : Attempt Text Text)
      o.expanded o.paths [] := by
    rw [hlevels]
    exact lines.map (List.intercalate ['\n'])
  unfold StandIn.compile
  rw [plain.error, ← List.append_nil o.paths, List.isEmpty_nil, if_pos rfl]
  refine source.bind ((Attempt.gives_tell o.expanded).bind ?_)
  rw [hbytes, plain.warningCount]
  exact Attempt.gives_pure _

end

/-! ## Builds -/

variable {s : Setting Text} {c : StandIn} {room : UInt64} {options : CompileOptions}

/-- Includes of a file are looked up in its directory, wherever they are asked for. -/
theorem Setting.base_of_path {unit : SourceUnit} (root : Option Text) (h : unit.path.isSome)
    (path : Text) : (s.resolver root unit).base .relative path = Path.directory path := by
  obtain ⟨own, hown⟩ := Option.isSome_iff_exists.1 h
  exact if_neg (by simp [Setting.resolver, Resolver.make, hown])

/-- Includes of a source that is no file are looked up in the project root. -/
theorem Setting.base_of_name {unit : SourceUnit} (root : Option Text) (h : unit.path = none) :
    (s.resolver root unit).base .relative unit.name = (s.resolver root unit).root :=
  if_pos (by simp [Setting.resolver, Resolver.make, h])

/-- The resolver of a file is rooted, and so is that of a source whose name is no absolute path. -/
theorem Setting.isRooted_resolver {unit : SourceUnit} (root : Option Text)
    (h : unit.path.isSome ∨ Path.isAbsolute unit.name = false) :
    (s.resolver root unit).IsRooted where
  root := Path.isAbsolute_normalize _
  nested path hpath := by
    rcases h with h | h
    · exact s.base_of_path root h path
    · have other : path ≠ unit.name := by
        rintro rfl
        rw [h] at hpath
        cases hpath
      exact if_neg (by simp [Setting.resolver, Resolver.make, other])

/-- What is seen of a build that goes well with a stand-in: the sources, the words, and what the
    source was expanded to. -/
structure BuildRun.HasExpanded (run : BuildRun Text) (sources : List Text) (stage : Stage)
    (expanded : Text) : Prop where
  result : ∃ bytes, Utf8.encode? expanded = some bytes ∧
    run.result = .ok ⟨sources, StandIn.words stage bytes⟩
  notes : run.record.map (fun record => record.events.filterMap Event.noted?) = some [expanded]

/-- A unit of which all includes are there is built. -/
theorem build_expands (hc : s.compiler = .ok (c.compile room)) (plain : c.IsPlain)
    {form : Text} (hform : options.describe = .ok form) (root : Option Text) (unit : SourceUnit)
    {o : Outline} (rooted : (s.resolver root unit).IsRooted)
    (hdirectory : Path.isAbsolute ((s.resolver root unit).base .relative unit.name))
    (h : Expands .shader s.read (s.resolver root unit).root
      ((s.resolver root unit).base .relative unit.name) (Text.splitLines unit.source) o)
    (hsource : Utf8.isEncodable unit.source) (encodable : ∀ path ∈ o.paths, Utf8.isEncodable path)
    (hroom : o.depth < room.toNat) :
    (build s (root.map .text) unit options).HasExpanded (unit.path.toList ++ o.paths)
      (options.stageFor unit.path) o.expanded := by
  obtain ⟨hrecord, hresult⟩ := build_eq hc hform root unit
  let record := s.perform (c.compile room) (s.resolver root unit) (unit.call options)
  have hbytes : Utf8.encode? o.expanded = some (o.expanded.flatMap Utf8.encodePoint) :=
    if_pos (h.isEncodable fun line hl => Utf8.isEncodable_of_mem_splitLines hsource hl)
  let answer : CompilationResult :=
    ⟨StandIn.words (options.stageFor unit.path) (o.expanded.flatMap Utf8.encodePoint), 0,
      c.warnings⟩
  obtain ⟨events, hrun, hpaths, hnotes⟩ : Attempt.Gives
      ((s.resolver root unit).resolve s.read s.cwd) (c.compile room record.call) answer o.paths
      [o.expanded] :=
    gives_compile plain rooted hdirectory h encodable hroom hbytes
  have outcome : record.outcome = .ok answer := congrArg Prod.fst hrun
  have happened : record.events = events := congrArg Prod.snd hrun
  constructor
  · refine ⟨_, hbytes, hresult.trans (CallRecord.output_eq_ok_iff.2 ⟨answer, outcome, rfl, rfl, ?_⟩)⟩
    rw [← hpaths, ← happened]
    rfl
  · rw [hrecord, Option.map_some, happened, hnotes]

/-- **Whole include trees are built.**

    Let all includes of a source be there, as files with text under paths that can be written, and
    let the host have room for as many calls as they are nested.  Then the source is built; if it is
    no file, it must have bytes.  The sources are the file itself, if it is one, and the files of
    the includes, each before those that it includes, as often as they are included.  The compiler
    has expanded the source to what the files say. -/
theorem includes_expanded (hc : s.compiler = .ok (c.compile room)) (plain : c.IsPlain)
    {form : Text} (hform : options.describe = .ok form) (root : Option Text) (span : Option Span) :
    let projectRoot := Path.absolute s.cwd (s.rootPath root)
    (∀ (path source : Text) (o : Outline),
      let full := Path.absolute s.cwd (Path.join (s.rootPath root) path)
      s.read.text? full = some source →
      Expands .shader s.read projectRoot (Path.directory full) (Text.splitLines source) o →
      (∀ p ∈ o.paths, Utf8.isEncodable p) → o.depth < room.toNat →
      (compileFileWith s (root.map .text) path options span).HasExpanded (full :: o.paths)
        (options.stageFor full) o.expanded) ∧
    (∀ (source : Text) (o : Outline), Utf8.isEncodable source →
      Expands .shader s.read projectRoot projectRoot (Text.splitLines source) o →
      (∀ p ∈ o.paths, Utf8.isEncodable p) → o.depth < room.toNat →
      (compileSourceWith s (root.map .text) source options span).HasExpanded o.paths
        (options.stageFor none) o.expanded) := by
  intro projectRoot
  constructor
  · intro path source o full hread h encodable hroom
    let unit : SourceUnit := ⟨source, full, some full, span⟩
    have directory : (s.resolver (some (s.rootPath root)) unit).base .relative full =
        Path.directory full := s.base_of_path _ rfl full
    have absolute : Path.isAbsolute (Path.directory full) :=
      Path.isAbsolute_directory (Path.isAbsolute_normalize _)
    obtain ⟨bytes, -, hdecode⟩ := Reader.text?_eq_some_iff.1 hread
    have built := build_expands hc plain hform (some (s.rootPath root)) unit
      (s.isRooted_resolver _ (.inl rfl)) (directory ▸ absolute) (directory ▸ h)
      (Utf8.isEncodable_of_decode hdecode) encodable hroom
    have run : compileFileWith s (root.map .text) path options span =
        build s (some (.text (s.rootPath root))) unit options := by
      simp only [compileFileWith, s.root_eq_ok root]
      rw [Reader.readText_of_text? hread]
    rw [run]
    exact built
  · intro source o hsource h encodable hroom
    let unit : SourceUnit := ⟨source, SourceUnit.inlineName, none, span⟩
    have directory : (s.resolver root unit).base .relative unit.name = projectRoot :=
      s.base_of_name root rfl
    have absolute : Path.isAbsolute projectRoot := Path.isAbsolute_normalize _
    have name : Path.isAbsolute SourceUnit.inlineName = false := by decide
    exact build_expands hc plain hform root unit (s.isRooted_resolver root (.inr name))
      (directory ▸ absolute) (directory ▸ h) hsource encodable hroom

/-- Builds in the root directory, with a stand-in on a host with room for eight calls. -/
def standingIn (files : FileTree) : Setting Text where
  read := files.read (text "/")
  cwd := text "/"
  environment := []
  compiler := .ok (StandIn.compile {} 8)

/-- A file of text. -/
def FileNode.ofText (t : Text) : FileNode := .file ((Utf8.encode? t).getD [])

/-- Two files of one name, and one that includes them both: the one that is next to it, and the one
    in the project root.  It has a line of a single blank between its includes. -/
def namesakes : FileTree where
  nodes := [([[108]], .directory), ([[97]], .ofText (text "x")), ([[108], [97]], .ofText (text "y")),
    ([[108], [98]], .ofText (text "#include \"a\"\r\n \n# include<a>\n"))]

/-- The outline of the file that includes them. -/
def outlineOfBoth : Outline :=
  .nested (text "/l/a") (.kept (text "y") .done)
    (.kept (text " ") (.nested (text "/a") (.kept (text "x") .done) .done))

/-- A source that includes that file twice. -/
def bothTwice : Text := text "#include \"l/b\"\n#include \"l/b\""

/-- What is asked for in quotes and in angle brackets are two files, and a file is a source as often
    as it is included. -/
theorem includes_expanded_namesakes :
    (compileFileWith (standingIn namesakes) none (text "l/b") (.defaults []) none).HasExpanded
      [text "/l/b", text "/l/a", text "/a"] .inferFromSource (text "y\n \nx") ∧
    (compileSourceWith (standingIn namesakes) none bothTwice (.defaults []) none).HasExpanded
      [text "/l/b", text "/l/a", text "/a", text "/l/b", text "/l/a", text "/a"] .inferFromSource
      (text "y\n \nx\ny\n \nx") := by
  obtain ⟨form, described⟩ := CompileOptions.describe_eq_ok (o := .defaults []) (by decide)
  have stands : (standingIn namesakes).compiler = .ok (StandIn.compile {} 8) := rfl
  have built := includes_expanded stands ⟨rfl, rfl⟩ described none none
  constructor
  · have outlined : outline? .shader (standingIn namesakes).read (text "/") 2 (text "/l")
        (Text.splitLines (text "#include \"a\"\r\n \n# include<a>\n")) =
        some outlineOfBoth := by decide +kernel
    exact built.1 (text "l/b") _ outlineOfBoth (by decide +kernel) (expands_of_outline? outlined)
      (by decide +kernel) (by decide +kernel)
  · have outlined : outline? .shader (standingIn namesakes).read (text "/") 3 (text "/")
        (Text.splitLines bothTwice) =
        some (.nested (text "/l/b") outlineOfBoth (.nested (text "/l/b") outlineOfBoth .done)) := by
      decide +kernel
    exact built.2 bothTwice _ (by decide +kernel) (expands_of_outline? outlined) (by decide +kernel)
      (by decide +kernel)

/-- A file whose name is a byte that is not text. -/
def unnamed : FileTree where
  nodes := [([[0x80]], .ofText (text "x"))]

/-- The code point that stands for that byte. -/
def strayByte : CodePoint := .ofNat 0xDC80

/-- A source that includes that file. -/
def includeUnnamed : Text := text "#include \"" ++ strayByte :: text "\""

/-- Options for a version that has too many digits to be written. -/
def unwritableTarget : CompileOptions := { CompileOptions.defaults [] with target := 10 ^ 4400 }

/-- A file, and another that includes it. -/
def chained : FileTree where
  nodes := [([[98]], .ofText (text "#include <c>")), ([[99]], .ofText (text "x"))]

/-- Builds with these files on a host with room for two calls. -/
def crowded : Setting Text := { standingIn chained with compiler := .ok (StandIn.compile {} 2) }

/-- A source that includes the other. -/
def includeChained : Text := text "#include <b>"

/-- Sources that are not built, although all their includes are there: one that includes a file
    whose path cannot be written, one that has no bytes itself, one with options that cannot be
    written, and one whose includes are nested deeper than the host has room for. -/
theorem includes_expanded_limits :
    (∃ o, Expands .shader (standingIn unnamed).read (text "/") (text "/")
        (Text.splitLines includeUnnamed) o ∧
      (compileSourceWith (standingIn unnamed) none includeUnnamed (.defaults []) none).result =
        .error (Resolver.fault [Path.slash, strayByte] .notUnicode)) ∧
    (∃ o, Expands .shader (standingIn {}).read (text "/") (text "/") (Text.splitLines [strayByte]) o ∧
      (compileSourceWith (standingIn {}) none [strayByte] (.defaults []) none).result =
        .error .unencodable) ∧
    (∃ o, Expands .shader (standingIn {}).read (text "/") (text "/") (Text.splitLines []) o ∧
      (compileSourceWith (standingIn {}) none [] unwritableTarget none).result =
        .error (.value .tooLongToWrite)) ∧
    ∃ o, Expands .shader crowded.read (text "/") (text "/") (Text.splitLines includeChained) o ∧
      (compileSourceWith crowded none includeChained (.defaults []) none).result =
        .error .recursion := by
  refine ⟨?unnamed, ⟨_, .kept rfl .done, by decide +kernel⟩, ⟨_, .done, by decide +kernel⟩, ?crowded⟩
  case unnamed =>
    have found : (outline? .shader (standingIn unnamed).read (text "/") 2 (text "/")
        (Text.splitLines includeUnnamed)).isSome := by decide +kernel
    exact (exists_expands found).imp fun _ h => ⟨h, by decide +kernel⟩
  case crowded =>
    have found : (outline? .shader crowded.read (text "/") 3 (text "/")
        (Text.splitLines includeChained)).isSome := by decide +kernel
    exact (exists_expands found).imp fun _ h => ⟨h, by decide +kernel⟩

end ShaderBuild
