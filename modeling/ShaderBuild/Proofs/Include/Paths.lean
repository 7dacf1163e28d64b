/-
  The paths of requests.

  A request leads to a path in its shortest form, which leads to itself from everywhere.  Requests
  that are made one after the other, each by the file that was found before, lead to where their
  directories lead.

  * `Resolver.resolved_paths_canonical`: the path of a request;
  * `Resolver.chain`, `Resolver.Leads`: requests made one after the other;
  * `Resolver.relative_includes_compose`: where requests in quotes lead.
-/
import ShaderBuild.Proofs.Include
import ShaderBuild.Proofs.Path.Joined

namespace ShaderBuild.Resolver

variable {r : Resolver} {read : Reader} {cwd root : Text} {request : IncludeRequest}

/-! ## One request -/

/-- What is looked up in an absolute directory does not depend on the current one. -/
theorem resolvePath_of_isAbsolute {kind : IncludeType}
    (h : IncludeType.ofDatum? request.kind = some kind)
    (hb : Path.isAbsolute (r.base kind request.requesting) = true) :
    r.resolvePath cwd request =
      .ok (Path.normalize (Path.join (r.base kind request.requesting) request.requested)) := by
  rw [resolvePath_of_kind h, Path.absolute_of_isAbsolute (Path.isAbsolute_join hb _)]

/-- A request for a path in its shortest form leads to that path. -/
theorem resolvePath_of_isCanonical {kind : IncludeType}
    (h : IncludeType.ofDatum? request.kind = some kind) (hp : Path.IsCanonical request.requested) :
    r.resolvePath cwd request = .ok request.requested := by
  rw [resolvePath_of_kind h, Path.join_of_isAbsolute hp.isAbsolute, hp.absolute_eq]

/-- A request in angle brackets for what names the directory itself leads to the project root. -/
theorem resolvePath_root {p : Text} (hp : Path.IsCanonical p) (cwd' : Text)
    (topName topPath : Option Text) (h : IncludeType.ofDatum? request.kind = some .standard)
    (here : request.requested = [] ∨ request.requested = Path.dot) :
    (make cwd' p topName topPath).resolvePath cwd request = .ok p := by
  have root : (make cwd' p topName topPath).base .standard request.requesting = p :=
    hp.absolute_eq cwd'
  have absolute := hp.isAbsolute
  rw [← root] at absolute
  rw [resolvePath_of_isAbsolute h absolute, root]
  rcases here with here | here
  · rw [here, Path.normalize_join_of_pushAll rfl Path.pushAll_nil, hp.normalize_eq]
  · rw [here, Path.normalize_join_of_pushAll rfl (fun _ => rfl), hp.normalize_eq]

/-- **Paths of requests are in their shortest form.**

    A valid request leads to an absolute path of names, below a root of one or two slashes, and
    nothing but a root ends in a slash.  A request for that path leads to it again, whoever makes it
    in whichever way, and it is the project root where it is given as one.  The paths that lead to
    themselves are just those in their shortest form. -/
theorem resolved_paths_canonical (cwd cwd' root : Text) (topName topPath : Option Text)
    (valid : (IncludeType.ofDatum? request.kind).isSome) :
    let r := make cwd root topName topPath
    (∃ p, r.resolvePath cwd' request = .ok p ∧ Path.isAbsolute p = true ∧ Path.IsCanonical p ∧
      (p.getLast? = some Path.slash → Path.IsRoot p) ∧
      (∀ (again : IncludeRequest) (elsewhere : Text), (IncludeType.ofDatum? again.kind).isSome →
        again.requested = p → r.resolvePath elsewhere again = .ok p) ∧
      ∀ (here : IncludeRequest) (cwd cwd' : Text) (topName topPath : Option Text),
        IncludeType.ofDatum? here.kind = some .standard →
        here.requested = [] ∨ here.requested = Path.dot →
        (make cwd p topName topPath).resolvePath cwd' here = .ok p) ∧
    (r.resolvePath cwd' request = .ok request.requested ↔ Path.IsCanonical request.requested) := by
  intro r
  obtain ⟨kind, hkind⟩ := Option.isSome_iff_exists.1 valid
  have canonical := Path.isCanonical_normalize
    (Path.join cwd' (Path.join (r.base kind request.requesting) request.requested))
  refine ⟨⟨_, resolvePath_of_kind hkind, canonical.isAbsolute, canonical,
    canonical.isRoot_of_getLast?, fun again elsewhere hagain hp => ?_,
    fun here cwd cwd' topName topPath hkind hhere => ?_⟩, fun itself => ?_,
    resolvePath_of_isCanonical hkind⟩
  · obtain ⟨kind, hkind⟩ := Option.isSome_iff_exists.1 hagain
    exact hp ▸ resolvePath_of_isCanonical hkind (hp ▸ canonical)
  · exact resolvePath_root canonical cwd topName topPath hkind hhere
  · exact Except.ok.inj ((resolvePath_of_kind hkind).symm.trans itself) ▸ canonical

/-- A request of a source with a relative name that climbs above the root, and one for the path that
    it leads to. -/
theorem resolved_paths_canonical_climbing :
    let r := make (text "/w/v") (text "../r") none none
    let request : IncludeRequest := ⟨text "../../..//x/./y/", .int 0, text "c/d", .int 0⟩
    let again : IncludeRequest := ⟨text "/x/y", .flag true, text "e", .int 3⟩
    (IncludeType.ofDatum? request.kind).isSome ∧
      r.resolvePath (text "/w") request = .ok (text "/x/y") ∧ Path.IsCanonical (text "/x/y") ∧
      r.resolvePath (text "/q") again = .ok (text "/x/y") := by
  intro r request again
  have valid : (IncludeType.ofDatum? request.kind).isSome := rfl
  obtain ⟨⟨p, hp, -, canonical, -, hagain, -⟩, -⟩ := resolved_paths_canonical (text "/w/v") (text "/w")
    (text "../r") none none valid
  have found : r.resolvePath (text "/w") request = .ok (text "/x/y") := by decide +kernel
  cases hp.symm.trans found
  exact ⟨valid, found, canonical, hagain again (text "/q") rfl rfl⟩

/-! ## Requests one after the other -/

/-- Where requests lead that are made one after the other, each by the file that was found before,
    given where a single one leads. -/
def chain (find : IncludeRequest → Except Fault Text) :
    Text → List IncludeRequest → Except Fault Text
  | name, [] => .ok name
  | name, request :: requests =>
    match find { request with requesting := name } with
    | .ok path => chain find path requests
    | .error f => .error f

theorem chain_mono {find find' : IncludeRequest → Except Fault Text}
    (same : ∀ request path, find request = .ok path → find' request = .ok path) {name path : Text}
    {requests : List IncludeRequest} (h : chain find name requests = .ok path) :
    chain find' name requests = .ok path := by
  induction requests generalizing name with
  | nil => exact h
  | cons request requests ih =>
    unfold chain at h ⊢
    cases hf : find { request with requesting := name } with
    | error f => simp [hf] at h
    | ok next =>
      rw [hf] at h
      rw [same _ _ hf]
      exact ih h

/-- The name of the file that a request is answered with. -/
def foundName (r : Resolver) (read : Reader) (cwd : Text) (request : IncludeRequest) :
    Except Fault Text :=
  (r.resolve read cwd request).answer.map ResolvedInclude.name

/-- What a request is answered with is found at its path. -/
theorem resolvePath_of_foundName {path : Text} (h : r.foundName read cwd request = .ok path) :
    r.resolvePath cwd request = .ok path := by
  cases hanswer : (r.resolve read cwd request).answer with
  | error f => simp [foundName, hanswer, Except.map] at h
  | ok file =>
    simp only [foundName, hanswer, Except.map, Except.ok.injEq] at h
    exact h ▸ resolvePath_of_recordedPath (recordedPath_of_answer hanswer)

/-- Requests lead from a source to a path: their paths do, from whatever directory they are made,
    and so do the names of the files, if there are files there to answer all of them. -/
structure Leads (r : Resolver) (name : Text) (requests : List IncludeRequest) (path : Text) :
    Prop where
  resolved : ∀ cwd, chain (r.resolvePath cwd) name requests = .ok path
  found : ∀ read cwd path', chain (r.foundName read cwd) name requests = .ok path' → path' = path

theorem leads_of_chain {name path : Text} {requests : List IncludeRequest}
    (h : ∀ cwd, chain (r.resolvePath cwd) name requests = .ok path) :
    r.Leads name requests path := by
  refine ⟨h, fun read cwd path' found => ?_⟩
  have resolved := chain_mono (fun request path => resolvePath_of_foundName) found
  exact Except.ok.inj (resolved.symm.trans (h cwd))

/-- The directory that requests lead to from one, each of them relative to the one before. -/
def descend (d : Text) (requests : List IncludeRequest) : Text :=
  requests.foldl (fun d request => Path.join d (Path.directory request.requested)) d

/-- A request in quotes for a name, seen from the directory of the source that makes it. -/
structure IsNested (request : IncludeRequest) : Prop where
  quoted : IncludeType.ofDatum? request.kind = some .relative
  relative : Path.isAbsolute request.requested = false
  name : Path.IsName (Path.lastComponent request.requested)

instance : DecidablePred IsNested := fun q =>
  decidable_of_iff (IncludeType.ofDatum? q.kind = some .relative ∧
      Path.isAbsolute q.requested = false ∧ Path.IsName (Path.lastComponent q.requested))
    ⟨fun ⟨hq, hr, hn⟩ => ⟨hq, hr, hn⟩, fun h => ⟨h.1, h.2, h.3⟩⟩

/-- Every file that is found is in the directory that the requests before it lead to. -/
theorem chain_eq (nested : ∀ path, Path.isAbsolute path = true →
      r.base .relative path = Path.directory path) {name d : Text}
    (absolute : Path.isAbsolute (r.base .relative name) = true)
    (here : Path.normalize (r.base .relative name) = Path.normalize d)
    {before : List IncludeRequest} {last : IncludeRequest}
    (h : ∀ q ∈ before ++ [last], IsNested q) :
    chain (r.resolvePath cwd) name (before ++ [last]) =
      .ok (Path.normalize (Path.join (descend d before) last.requested)) := by
  induction before generalizing name d with
  | nil =>
    have quoted := (h last List.mem_cons_self).quoted
    have found : r.resolvePath cwd { last with requesting := name } = _ :=
      resolvePath_of_isAbsolute quoted absolute
    rw [List.nil_append, chain, found]
    exact congrArg Except.ok (Path.normalize_join_congr here last.requested)
  | cons first before ih =>
    obtain ⟨hfirst, later⟩ := List.forall_mem_cons.1 h
    have found : r.resolvePath cwd { first with requesting := name } = _ :=
      resolvePath_of_isAbsolute hfirst.quoted absolute
    let path := Path.normalize (Path.join (r.base .relative name) first.requested)
    have base : r.base .relative path =
        Path.normalize (Path.join (r.base .relative name) (Path.directory first.requested)) :=
      (nested path (Path.isAbsolute_normalize _)).trans
        (Path.directory_normalize_join hfirst.relative hfirst.name _)
    have next : Path.normalize (r.base .relative path) =
        Path.normalize (Path.join d (Path.directory first.requested)) := by
      rw [base, (Path.isCanonical_normalize _).normalize_eq, Path.normalize_join_congr here]
    rw [List.cons_append, chain, found]
    exact ih (base ▸ Path.isAbsolute_normalize _) next later

/-- **Requests relative to one another compose.**

    Requests in quotes that are made one after the other lead where the directories of their names
    lead together: from the directory of the file that makes the first of them, whatever the project
    root is, or from the project root if the source is no file.  It does not matter at which depth
    they are made. -/
theorem relative_includes_compose (cwd root : Text) {before : List IncludeRequest}
    {last : IncludeRequest} (h : ∀ q ∈ before ++ [last], IsNested q) :
    (∀ (topName : Option Text) (topPath t : Text), Path.isAbsolute t = true →
      (make cwd root topName (some topPath)).Leads t (before ++ [last])
        (Path.normalize (Path.join (descend (Path.directory t) before) last.requested))) ∧
    ∀ name : Text, Path.isAbsolute name = false →
      (make cwd root (some name) none).Leads name (before ++ [last])
        (Path.normalize (Path.join (descend (Path.absolute cwd root) before) last.requested)) := by
  constructor
  · intro topName topPath t ht
    have base (path : Text) : (make cwd root topName (some topPath)).base .relative path =
        Path.directory path := if_neg (by simp [make])
    have absolute : Path.isAbsolute (Path.directory t) = true := Path.isAbsolute_directory ht
    refine leads_of_chain fun cwd' => chain_eq (fun path _ => base path) ?_ ?_ h
    · rwa [base]
    · rw [base]
  · intro name hname
    have nested : ∀ path, Path.isAbsolute path = true →
        (make cwd root (some name) none).base .relative path = Path.directory path := by
      intro path hpath
      have other : path ≠ name := by
        rintro rfl
        rw [hname] at hpath
        cases hpath
      exact if_neg (by simp [make, other])
    have base : (make cwd root (some name) none).base .relative name = Path.absolute cwd root :=
      if_pos (by simp [make])
    refine leads_of_chain fun cwd' => chain_eq nested ?_ ?_ h
    · rw [base]
      exact Path.isAbsolute_normalize _
    · rw [base]

/-- Three requests, of which the second climbs above the root: from a file, and from a source that
    is none. -/
theorem relative_includes_compose_climbing :
    let before : List IncludeRequest :=
      [⟨text "../x/y", .int 0, [], .int 1⟩, ⟨text "../../../../z/./w", .flag false, [], .int 7⟩]
    let last : IncludeRequest := ⟨text "c//d", .int 0, [], .absent⟩
    (∀ q ∈ before ++ [last], IsNested q) ∧ Path.isAbsolute (text "/a/b") = true ∧
      chain ((make (text "/") (text "r") none (some (text "/a/b"))).resolvePath (text "/"))
        (text "/a/b") (before ++ [last]) = .ok (text "/z/c/d") ∧
      chain ((make (text "/w") (text "r") (some (text "inline")) none).resolvePath (text "/"))
        (text "inline") (before ++ [last]) = .ok (text "/z/c/d") := by
  intro before last
  have nested : ∀ q ∈ before ++ [last], IsNested q := by decide +kernel
  have absolute : Path.isAbsolute (text "/a/b") = true := by decide
  have fromFile := (relative_includes_compose (text "/") (text "r") nested).1 none (text "/a/b")
    (text "/a/b") absolute
  have fromSource := (relative_includes_compose (text "/w") (text "r") nested).2 (text "inline")
    (by decide)
  have there : Path.normalize (Path.join (descend (Path.directory (text "/a/b")) before)
      last.requested) = text "/z/c/d" := by decide +kernel
  have there' : Path.normalize (Path.join (descend (Path.absolute (text "/w") (text "r")) before)
      last.requested) = text "/z/c/d" := by decide +kernel
  exact ⟨nested, absolute, (fromFile.resolved _).trans (congrArg Except.ok there),
    (fromSource.resolved _).trans (congrArg Except.ok there')⟩

end ShaderBuild.Resolver
