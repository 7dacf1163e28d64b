/-
  Requests that are made from elsewhere.

  A resolver keeps an absolute project root, and every file that it finds goes by an absolute path.
  So once it is made, the current directory does not matter any more, as long as requests are made
  by the source that is compiled and by files that were found.  A source that is no file needs no
  absolute name, since the root stands in for its directory.

  * `FileTree.read_elsewhere`: an absolute path names the same file from everywhere;
  * `Resolver.Inquiry.Sees`: a request with the files of a world around it;
  * `Resolver.Linked`: requests that are made by sources known at the time;
  * `Resolver.Anchored`, `Resolver.Anchored.found`: what makes the current directory irrelevant;
  * `Dialogue.Asks`: dialogues whose requests are made from anywhere;
  * `Resolver.same_from_elsewhere`: runs of requests, and dialogues, from different directories.
-/
import ShaderBuild.Proofs.Include.Paths
import ShaderBuild.Proofs.Include.Record

namespace ShaderBuild

/-! ## Files -/

namespace FileTree

variable {p : Text} {bytes : Bytes}

theorem head?_systemBytes (h : Path.isAbsolute p = true) (hb : Fault.systemBytes p = .ok bytes) :
    bytes.head? = some 47 := by
  obtain ⟨rest, rfl⟩ := Path.isAbsolute_iff.1 h
  have encoded : Utf8.encodeEscaped? (Path.slash :: rest) =
      (Utf8.encodeEscaped? rest).map (47 :: ·) := rfl
  rw [Fault.systemBytes, encoded] at hb
  cases hrest : Utf8.encodeEscaped? rest with
  | none => simp [hrest] at hb
  | some more =>
    rw [hrest] at hb
    dsimp only [Option.map_some] at hb
    split at hb
    · cases hb
    · cases hb
      rfl

/-- An absolute path names the same file from everywhere. -/
theorem read_elsewhere (t : FileTree) (h : Path.isAbsolute p = true) (cwd cwd' : Text) :
    t.read cwd p = t.read cwd' p := by
  unfold read
  cases hb : Fault.systemBytes p with
  | error f => rfl
  | ok bytes =>
    have start (cwd : Text) : t.origin cwd bytes = .ok [] := if_pos (head?_systemBytes h hb)
    have found : t.find cwd bytes = t.find cwd' bytes := by
      unfold find
      rw [start, start]
    change cite p (t.find cwd bytes >>= t.contentsAt) = cite p (t.find cwd' bytes >>= t.contentsAt)
    rw [found]

end FileTree

namespace Resolver

/-! ## Requests from anywhere -/

/-- The files that the request is made with have the contents of a world, wherever it is made. -/
def Inquiry.Sees (world : Reader) (q : Inquiry) : Prop :=
  ∀ p, Path.isAbsolute p = true → q.read p = world p

/-- The path of a call. -/
def pathOf (r : Resolver) (q : Inquiry) : Except Fault Text := r.resolvePath q.cwd q.request

/-- Every call is made by a source that is known: one that was before the run, or one with the path
    of an earlier call. -/
def Linked (r : Resolver) : List Text → List Inquiry → Prop
  | _, [] => True
  | known, q :: later =>
    q.request.requesting ∈ known ∧ r.Linked (known ++ (r.pathOf q).toOption.toList) later

/-- Nothing that is looked up from known sources starts at the current directory. -/
structure Anchored (r : Resolver) (known : List Text) : Prop where
  root : Path.isAbsolute r.root = true
  base : ∀ name ∈ known, Path.isAbsolute (r.base .relative name) = true

variable {r : Resolver} {known : List Text} {world : Reader} {q q' : Inquiry}

theorem isAbsolute_resolvePath {cwd p : Text} {request : IncludeRequest}
    (h : r.resolvePath cwd request = .ok p) : Path.isAbsolute p = true := by
  cases hk : IncludeType.ofDatum? request.kind with
  | none =>
    obtain ⟨f, hf⟩ := r.resolvePath_of_unknown cwd hk
    cases hf.symm.trans h
  | some kind =>
    rw [resolvePath_of_kind hk] at h
    exact Except.ok.inj h ▸ Path.isAbsolute_normalize _

/-- What goes on record is an absolute path. -/
theorem isAbsolute_recorded {read : Reader} {cwd p : Text} {request : IncludeRequest}
    (h : p ∈ (r.resolve read cwd request).recorded) : Path.isAbsolute p = true := by
  unfold resolve at h
  cases hrecorded : r.recordedPath cwd request with
  | error f => simp [hrecorded] at h
  | ok path =>
    rw [hrecorded] at h
    obtain rfl := Option.some.inj h
    exact isAbsolute_resolvePath (resolvePath_of_recordedPath hrecorded)

/-- What is looked up by a source with an absolute name does not start at the current directory. -/
theorem isAbsolute_base {name : Text} (root : Path.isAbsolute r.root = true)
    (h : Path.isAbsolute name = true) : Path.isAbsolute (r.base .relative name) = true := by
  unfold base
  dsimp only
  split
  · exact root
  · exact Path.isAbsolute_directory h

/-- What is found goes by an absolute path, so it may ask in turn. -/
theorem Anchored.found (h : r.Anchored known) (q : Inquiry) :
    r.Anchored (known ++ (r.pathOf q).toOption.toList) := by
  refine ⟨h.root, fun name hname => (List.mem_append.1 hname).elim (h.base name) fun hfound => ?_⟩
  cases hp : r.pathOf q with
  | error f =>
    rw [hp] at hfound
    cases hfound
  | ok p =>
    rw [hp] at hfound
    obtain rfl := List.mem_singleton.1 hfound
    exact isAbsolute_base h.root (isAbsolute_resolvePath hp)

/-- A call of a known source is for the same path from everywhere. -/
theorem Anchored.pathOf_eq (h : r.Anchored known) (hq : q.request.requesting ∈ known)
    (same : q.request = q'.request) : r.pathOf q = r.pathOf q' := by
  rw [pathOf, pathOf, ← same]
  cases hk : IncludeType.ofDatum? q.request.kind with
  | none => simp only [resolvePath, hk]
  | some kind =>
    have anchored : Path.isAbsolute (r.base kind q.request.requesting) = true := by
      cases kind with
      | relative => exact h.base _ hq
      | standard => exact h.root
    rw [resolvePath_of_isAbsolute hk anchored, resolvePath_of_isAbsolute hk anchored]

/-- A call of a known source comes to the same from everywhere in a world. -/
theorem Anchored.resolve_eq (h : r.Anchored known) (hq : q.request.requesting ∈ known)
    (same : q.request = q'.request) (sees : q.Sees world) (sees' : q'.Sees world) :
    r.resolve q.read q.cwd q.request = r.resolve q'.read q'.cwd q'.request := by
  have paths : r.recordedPath q'.cwd q'.request = r.recordedPath q.cwd q.request := by
    have path : r.resolvePath q.cwd q.request = r.resolvePath q'.cwd q'.request :=
      h.pathOf_eq hq same
    rw [← same] at path ⊢
    simp only [recordedPath, path]
  have moved : r.resolve q'.read q'.cwd q'.request = r.resolve q'.read q.cwd q.request := by
    simp only [resolve, paths]
  rw [moved]
  refine resolve_congr fun p hp => ?_
  rw [sees p (isAbsolute_recorded hp), sees' p (isAbsolute_recorded hp)]

/-! ## Runs -/

/-- Two runs of the same requests in a world come to the same. -/
theorem Anchored.serveAll_eq {run run' : List Inquiry} (h : r.Anchored known)
    (linked : r.Linked known run) (same : run.map (·.request) = run'.map (·.request))
    (sees : ∀ q ∈ run, q.Sees world) (sees' : ∀ q ∈ run', q.Sees world) (sources : List Text) :
    run.map r.pathOf = run'.map r.pathOf ∧ r.serveAll sources run = r.serveAll sources run' := by
  induction run generalizing run' known sources with
  | nil =>
    obtain rfl := List.map_eq_nil_iff.1 same.symm
    exact ⟨rfl, rfl⟩
  | cons q later ih =>
    obtain ⟨q', later', rfl, first, rest⟩ := List.map_eq_cons_iff.1 same.symm
    obtain ⟨hq, linked⟩ := linked
    obtain ⟨seesFirst, sees⟩ := List.forall_mem_cons.1 sees
    obtain ⟨seesFirst', sees'⟩ := List.forall_mem_cons.1 sees'
    have served : r.serve sources q = r.serve sources q' := by
      simp only [serve, h.resolve_eq hq first.symm seesFirst seesFirst']
    obtain ⟨paths, answers⟩ :=
      ih (h.found q) linked rest.symm sees sees' (r.serve sources q').2
    refine ⟨?_, ?_⟩
    · rw [List.map_cons, List.map_cons, paths, h.pathOf_eq hq first.symm]
    · simp only [serveAll, served, answers]

end Resolver

/-! ## Dialogues -/

open Resolver

variable {ν α : Type}

/-- A dialogue makes some requests, each from anywhere, and ends in a value after some events. -/
inductive Dialogue.Asks (r : Resolver) :
    Dialogue ν α → List Inquiry → α → List (Event ν) → Prop
  | done (a : α) : Asks r (.done a) [] a []
  | log {record rest run a events} :
      Asks r rest run a events → Asks r (.log record rest) run a (.logged record :: events)
  | note {n rest run a events} :
      Asks r rest run a events → Asks r (.note n rest) run a (.noted n :: events)
  | ask {request next run a events} (read : Reader) (cwd : Text) :
      Asks r (next (r.resolve read cwd request).answer) run a events →
        Asks r (.ask request next) (⟨request, read, cwd⟩ :: run) a
          (.asked request (r.resolve read cwd request) :: events)

namespace Dialogue

variable {r : Resolver} {known : List Text} {world : Reader}

/-- In a world, a dialogue makes the same requests from everywhere, and they come to the same. -/
theorem Asks.unique {d : Dialogue ν α} {run run' : List Inquiry} {a a' : α}
    {events events' : List (Event ν)} (h : d.Asks r run a events) (h' : d.Asks r run' a' events')
    (anchored : r.Anchored known) (linked : r.Linked known run) (sees : ∀ q ∈ run, q.Sees world)
    (sees' : ∀ q ∈ run', q.Sees world) :
    run.map (·.request) = run'.map (·.request) ∧ a = a' ∧ events = events' := by
  induction h generalizing run' events' known with
  | done a =>
    cases h'
    exact ⟨rfl, rfl, rfl⟩
  | log _ ih =>
    cases h' with
    | log h' =>
      obtain ⟨requests, rfl, rfl⟩ := ih h' anchored linked sees sees'
      exact ⟨requests, rfl, rfl⟩
  | note _ ih =>
    cases h' with
    | note h' =>
      obtain ⟨requests, rfl, rfl⟩ := ih h' anchored linked sees sees'
      exact ⟨requests, rfl, rfl⟩
  | @ask request _ _ _ _ read cwd _ ih =>
    cases h' with
    | ask read' cwd' h' =>
      obtain ⟨asks, linked⟩ := linked
      obtain ⟨seesFirst, sees⟩ := List.forall_mem_cons.1 sees
      obtain ⟨seesFirst', sees'⟩ := List.forall_mem_cons.1 sees'
      -- the first request comes to the same, so both go on in the same way
      have same : (Inquiry.mk request read cwd).request = (Inquiry.mk request read' cwd').request :=
        rfl
      have first : r.resolve read cwd request = r.resolve read' cwd' request :=
        anchored.resolve_eq asks same seesFirst seesFirst'
      rw [← first] at h' ⊢
      obtain ⟨requests, rfl, rfl⟩ := ih h' (anchored.found _) linked sees sees'
      exact ⟨congrArg (_ :: ·) requests, rfl, rfl⟩

end Dialogue

/-! ## Resolvers of builds -/

namespace Resolver

/-- A source that is compiled may ask from the beginning: a file by its absolute name, and one that
    is no file since it asks in the root. -/
theorem anchored_make (cwd root : Text) {unit : SourceUnit}
    (named : unit.path.isSome → Path.isAbsolute unit.name = true) :
    (make cwd root (some unit.name) unit.path).Anchored [unit.name] := by
  have absolute : Path.isAbsolute (make cwd root (some unit.name) unit.path).root = true :=
    Path.isAbsolute_normalize _
  refine ⟨absolute, fun name hname => ?_⟩
  obtain rfl := List.mem_singleton.1 hname
  cases hpath : unit.path with
  | some path =>
    rw [hpath] at named absolute
    exact isAbsolute_base absolute (named rfl)
  | none =>
    rw [hpath] at absolute
    simpa [base, make] using absolute

/-- **The current directory does not matter to a resolver.**

    A resolver is made for a file with an absolute name or for a source that is no file, with a root
    that may be relative to where it is made.  Requests are made one after the other by that source
    and by what was found for earlier requests.  Whatever the current directory is at each of them,
    their paths, their answers and the record are the same, if the files are the same at absolute
    paths.  So a dialogue with the resolver makes the same requests and has the same events, and it
    ends in the same value. -/
theorem same_from_elsewhere {ν α : Type} (cwd root : Text) (unit : SourceUnit)
    (named : unit.path.isSome → Path.isAbsolute unit.name = true) (world : Reader) :
    let r := make cwd root (some unit.name) unit.path
    (∀ run run' : List Inquiry, r.Linked [unit.name] run →
      run.map (·.request) = run'.map (·.request) →
      (∀ q ∈ run, q.Sees world) → (∀ q ∈ run', q.Sees world) →
      run.map r.pathOf = run'.map r.pathOf ∧
        ∀ sources, r.serveAll sources run = r.serveAll sources run') ∧
    ∀ (d : Dialogue ν α) (run run' : List Inquiry) (a a' : α) (events events' : List (Event ν)),
      d.Asks r run a events → d.Asks r run' a' events' → r.Linked [unit.name] run →
      (∀ q ∈ run, q.Sees world) → (∀ q ∈ run', q.Sees world) →
      run.map (·.request) = run'.map (·.request) ∧ a = a' ∧ events = events' := by
  intro r
  have anchored : r.Anchored [unit.name] := anchored_make cwd root named
  constructor
  · intro run run' linked same sees sees'
    exact ⟨(anchored.serveAll_eq linked same sees sees' []).1,
      fun sources => (anchored.serveAll_eq linked same sees sees' sources).2⟩
  · intro d run run' a a' events events' h h' linked sees sees'
    exact h.unique h' anchored linked sees sees'

/-- A source that is no file asks for a file, that file for another one, and that one for a file
    that is not there; the root is given relative to a directory that is left at once. -/
theorem same_from_elsewhere_moving :
    let t := flatTree [("a", [120]), ("b", [121])]
    let unit : SourceUnit := ⟨[], SourceUnit.inlineName, none, none⟩
    let r := make (text "/w") (text "..") (some unit.name) unit.path
    let requests : List IncludeRequest := [⟨text "a", .int 0, unit.name, .int 1⟩,
      ⟨text "./b", .int 0, text "/a", .int 2⟩, ⟨text "c", .int 1, text "/b", .int 3⟩]
    let madeFrom (places : List String) : List Inquiry :=
      (requests.zip places).map fun (request, cwd) => ⟨request, t.read (text cwd), text cwd⟩
    let run := madeFrom ["/w", "/x", "/y/z"]
    let run' := madeFrom ["/", "/w", "/w"]
    r.Linked [unit.name] run ∧ r.serveAll [] run = r.serveAll [] run' ∧
      (r.serveAll [] run').2 = ["/a", "/b", "/c"].map text := by
  intro t unit r requests madeFrom run run'
  have sees (places : List String) : ∀ q ∈ madeFrom places, q.Sees (t.read (text "/")) := by
    intro q hq p hp
    obtain ⟨⟨request, cwd⟩, -, rfl⟩ := List.mem_map.1 hq
    exact t.read_elsewhere hp _ _
  have linked : r.Linked [unit.name] run :=
    ⟨by decide +kernel, by decide +kernel, by decide +kernel, trivial⟩
  obtain ⟨runs, -⟩ := same_from_elsewhere (ν := Unit) (α := Unit) (text "/w") (text "..") unit nofun
    (t.read (text "/"))
  exact ⟨linked, (runs run run' linked rfl (sees _) (sees _)).2 [], by decide +kernel⟩

end Resolver

end ShaderBuild
