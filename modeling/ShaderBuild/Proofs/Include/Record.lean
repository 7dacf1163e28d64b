/-
  The record of a resolver.

  A call may fail for its kind, its path or its depth, and after that for the file.  The path goes
  on record in between.  So the record of a run is given by its requests, whatever the files are,
  and every file that is found is on it.

  * `Resolver.Inquiry`, `Resolver.serve`, `Resolver.serveAll`: calls of a resolver, and their runs;
  * `Resolver.listed?`: the path that belongs on record;
  * `Resolver.Serves`, `Resolver.serves`: what a call comes to;
  * `Resolver.record_of_run`: the record of a run.
-/
import ShaderBuild.Proofs.Build.Course
import ShaderBuild.Proofs.Dialogue
import ShaderBuild.Proofs.Include

namespace ShaderBuild

namespace Resolver

/-! ## Calls -/

/-- A request as it is made: from a directory, with files that are read in some way. -/
structure Inquiry where
  request : IncludeRequest
  read : Reader
  cwd : Text

/-- What a resolver with some sources on record answers, and its sources afterwards. -/
def serve (r : Resolver) (sources : List Text) (q : Inquiry) : IncludeAnswer × List Text :=
  let resolution := r.resolve q.read q.cwd q.request
  (resolution.answer, sources ++ resolution.recorded.toList)

/-- What a resolver answers to one call after the other, and its sources in the end. -/
def serveAll (r : Resolver) : List Text → List Inquiry → List IncludeAnswer × List Text
  | sources, [] => ([], sources)
  | sources, q :: later =>
    let (answer, sources) := r.serve sources q
    let (answers, sources) := r.serveAll sources later
    (answer :: answers, sources)

/-- The path of a call that belongs on record: it is one of a known kind, and both the path and the
    depth can be written. -/
def listed? (r : Resolver) (q : Inquiry) : Option Text :=
  match IncludeType.ofDatum? q.request.kind, r.resolvePath q.cwd q.request with
  | some _, .ok path =>
    if Utf8.isEncodable path ∧ q.request.depth.show?.isSome then some path else none
  | _, _ => none

/-! ## What goes on record -/

variable {r : Resolver} {cwd path : Text} {request : IncludeRequest} {q : Inquiry}

theorem resolvePath_of_unknown (r : Resolver) (cwd : Text)
    (h : IncludeType.ofDatum? request.kind = none) :
    ∃ f, r.resolvePath cwd request = .error (.value f) := by
  simp only [resolvePath, h, Fault.formOf]
  cases request.kind.form? <;> exact ⟨_, rfl⟩

theorem recordedPath_of_error {f : Fault} (h : r.resolvePath cwd request = .error f) :
    r.recordedPath cwd request = .error f := by
  simp only [recordedPath, h]
  rfl

theorem recordedPath_of_unencodable (hp : r.resolvePath cwd request = .ok path)
    (he : Utf8.isEncodable path = false) :
    r.recordedPath cwd request = .error (fault path .notUnicode) := by
  simp only [recordedPath, hp, he, bind, Except.bind]
  rfl

theorem recordedPath_of_unwritable (hp : r.resolvePath cwd request = .ok path)
    (he : Utf8.isEncodable path = true) (hd : request.depth.show? = none) :
    r.recordedPath cwd request = .error (.value .tooLongToWrite) := by
  simp only [recordedPath, hp, he, Fault.showOf, hd, bind, Except.bind]
  rfl

/-- The path that goes on record is the one that belongs there. -/
theorem recordedPath?_eq_listed? (r : Resolver) (q : Inquiry) :
    r.recordedPath? q.cwd q.request = r.listed? q := by
  unfold recordedPath? listed?
  cases hk : IncludeType.ofDatum? q.request.kind with
  | none =>
    obtain ⟨f, hf⟩ := r.resolvePath_of_unknown q.cwd hk
    rw [recordedPath_of_error hf]
    rfl
  | some kind =>
    have hp : r.resolvePath q.cwd q.request = _ := resolvePath_of_kind hk
    rw [hp]
    cases he : Utf8.isEncodable (Path.absolute q.cwd _) with
    | false =>
      rw [recordedPath_of_unencodable hp he]
      simp [he, Except.toOption]
    | true =>
      cases hd : q.request.depth.show? with
      | none =>
        rw [recordedPath_of_unwritable hp he hd]
        simp [Except.toOption]
      | some shown =>
        rw [recordedPath_of_path hp hd, if_pos he]
        simp [he, Except.toOption]

/-- A call fails with nothing on record, or goes on with its path on record. -/
theorem listed?_cases (r : Resolver) (q : Inquiry) :
    (∃ f, r.listed? q = none ∧ r.recordedPath q.cwd q.request = .error f) ∨
      ∃ path, r.listed? q = some path ∧ r.recordedPath q.cwd q.request = .ok path := by
  rw [← recordedPath?_eq_listed?]
  unfold recordedPath?
  cases r.recordedPath q.cwd q.request with
  | error f => exact .inl ⟨f, rfl, rfl⟩
  | ok path => exact .inr ⟨path, rfl, rfl⟩

/-! ## One call -/

theorem serve_of_error {f : Fault} (h : r.recordedPath q.cwd q.request = .error f)
    (sources : List Text) : r.serve sources q = (.error f, sources) := by
  simp only [serve, resolve, h, Option.toList_none, List.append_nil]

theorem serve_of_recorded (h : r.recordedPath q.cwd q.request = .ok path)
    (sources : List Text) : r.serve sources q = (readAt q.read path, sources ++ [path]) := by
  simp only [serve, resolve, h, Option.toList_some]

/-- What a call comes to when some sources are on record. -/
structure Serves (r : Resolver) (sources : List Text) (q : Inquiry) : Prop where
  /-- Its path goes on record behind them, if it belongs there. -/
  records : (r.serve sources q).2 = sources ++ (r.listed? q).toList
  /-- A file is found if its path goes on record, and its bytes are those of a text. -/
  returns : ∀ file, (r.serve sources q).1 = .ok file ↔ r.listed? q = some file.name ∧
    ∃ bytes, q.read file.name = .ok bytes ∧ Utf8.encode? file.content = some bytes
  /-- What goes wrong with a file cites its path; nothing else goes wrong but in its reader. -/
  fails : ∀ path f, r.listed? q = some path → (r.serve sources q).1 = .error f →
    (∃ cause, f = fault path (.unreadable cause)) ∨ q.read path = .error f
  /-- A call of an unknown kind fails, whatever the files are, and leaves the record as it is. -/
  unknown : IncludeType.ofDatum? q.request.kind = none →
    ∃ f, ∀ read, r.serve sources { q with read } = (.error (.value f), sources)
  /-- So does a call for a path that cannot be written. -/
  unencodable : ∀ path, r.resolvePath q.cwd q.request = .ok path → Utf8.isEncodable path = false →
    ∀ read, r.serve sources { q with read } = (.error (fault path .notUnicode), sources)
  /-- So does a call at a depth that cannot be written, since the depth goes on the log first. -/
  unwritable : ∀ path, r.resolvePath q.cwd q.request = .ok path → Utf8.isEncodable path = true →
    q.request.depth.show? = none →
    ∀ read, r.serve sources { q with read } = (.error (.value .tooLongToWrite), sources)

theorem serves (r : Resolver) (sources : List Text) (q : Inquiry) : r.Serves sources q where
  records := by
    rw [← recordedPath?_eq_listed?, ← r.recorded_resolve q.read]
    rfl
  returns file := by
    rcases r.listed?_cases q with ⟨f, hl, hf⟩ | ⟨path, hl, hp⟩
    · rw [hl, serve_of_error hf]
      simp
    · rw [hl, serve_of_recorded hp, readAt_eq_ok_iff, Option.some.injEq, eq_comm (a := path)]
      exact and_congr_right fun here => here ▸ Iff.rfl
  fails path f hl h := by
    rcases r.listed?_cases q with ⟨-, hl', -⟩ | ⟨path', hl', hp⟩
    · cases hl'.symm.trans hl
    · cases hl'.symm.trans hl
      rw [serve_of_recorded hp] at h
      exact Reader.readText_eq_error (readAt_eq_error_iff.1 h)
  unknown h := by
    obtain ⟨f, hf⟩ := r.resolvePath_of_unknown q.cwd h
    exact ⟨f, fun read => serve_of_error (q := { q with read }) (recordedPath_of_error hf) sources⟩
  unencodable path hp he read :=
    serve_of_error (q := { q with read }) (recordedPath_of_unencodable hp he) sources
  unwritable path hp he hd read :=
    serve_of_error (q := { q with read }) (recordedPath_of_unwritable hp he hd) sources

/-! ## Runs -/

theorem serveAll_append (r : Resolver) (sources : List Text) (earlier later : List Inquiry) :
    r.serveAll sources (earlier ++ later) =
      ((r.serveAll sources earlier).1 ++ (r.serveAll (r.serveAll sources earlier).2 later).1,
        (r.serveAll (r.serveAll sources earlier).2 later).2) := by
  induction earlier generalizing sources with
  | nil => rfl
  | cons q earlier ih => simp only [List.cons_append, serveAll, ih]

theorem length_serveAll (r : Resolver) (sources : List Text) (inquiries : List Inquiry) :
    (r.serveAll sources inquiries).1.length = inquiries.length := by
  induction inquiries generalizing sources with
  | nil => rfl
  | cons q later ih => exact congrArg Nat.succ (ih _)

theorem sources_serveAll (r : Resolver) (sources : List Text) (inquiries : List Inquiry) :
    (r.serveAll sources inquiries).2 = sources ++ inquiries.filterMap r.listed? := by
  induction inquiries generalizing sources with
  | nil => exact (List.append_nil _).symm
  | cons q later ih =>
    have first := (r.serves sources q).records
    simp only [serveAll, ih, first, List.append_assoc, List.filterMap_eq_flatMap_toList,
      List.flatMap_cons]

/-- **The record of a run.**

    The sources after a run are those before it, and behind them the paths of the calls that belong
    on record, in their order.  Each call is answered as it comes to the sources before it: a file
    is found only if its path goes on record, and its content is what its bytes are read as; a call
    that does not go on record fails, with the same fault whatever the files are. -/
theorem record_of_run (r : Resolver) (before : List Text) (inquiries : List Inquiry) :
    let run := r.serveAll before inquiries
    run.2 = before ++ inquiries.filterMap r.listed? ∧ run.1.length = inquiries.length ∧
    ∀ earlier q later, inquiries = earlier ++ q :: later →
      let sources := before ++ earlier.filterMap r.listed?
      run.1[earlier.length]? = some (r.serve sources q).1 ∧ r.Serves sources q := by
  refine ⟨r.sources_serveAll before inquiries, r.length_serveAll before inquiries, ?_⟩
  rintro earlier q later rfl
  refine ⟨?_, r.serves _ q⟩
  rw [serveAll_append, sources_serveAll, List.getElem?_append_right (length_serveAll ..).le,
    length_serveAll, Nat.sub_self]
  rfl

/-- A file that is not there, or is no text, is on record; one of an unknown kind, or with a
    surrogate in its path, is not. -/
example :
    let ask (requested : Text) (kind : Int) : Inquiry :=
      ⟨⟨requested, .int kind, text "inline", .int 1⟩,
        (flatTree [("a", [120]), ("b", [0xFF])]).read (text "/"), text "/"⟩
    ((make (text "/") (text "/") none none).serveAll [text "top"] [ask (text "a") 1,
      ask (text "none") 1, ask (text "a") 42, ask [CodePoint.ofNat 0xDCFF] 1, ask (text "b") 1,
      ask (text "a") 1]).2 = ["top", "/a", "/none", "/b", "/a"].map text := by
  decide +kernel

/-- A standard request for a file that is there, at a depth that cannot be written. -/
def endless : Inquiry where
  request := ⟨text "a", .int 1, text "inline", .int (10 ^ 4300)⟩
  read := (flatTree [("a", [120])]).read (text "/")
  cwd := text "/"

/-- A call of a known kind, for a path that can be written, and for a file that can be read, is not
    on record. -/
theorem record_of_run_endless :
    let r := make (text "/") (text "/") none none
    (IncludeType.ofDatum? endless.request.kind).isSome ∧
      r.resolvePath endless.cwd endless.request = .ok (text "/a") ∧
      Utf8.isEncodable (text "/a") = true ∧ endless.read (text "/a") = .ok [120] ∧
      r.serveAll [] [endless] = ([.error (.value .tooLongToWrite)], []) := by
  decide +kernel

end Resolver

end ShaderBuild
