/-
  Includes and the files they are found in.

  What a path is worth to the system is known before the files are: a file of a path that it does
  not take is never read.  Everything else that is wrong with a file is up to the one who reads it.

  * `FileTree.read_eq_error`, `FileTree.read_of_path`: why a file is not read;
  * `Reader.readText_eq_ok_iff`, `Reader.readText_of_illFormed`: the text of a file by its bytes;
  * `FileTree.readText_escapes_iff`: what reading a text fails with besides what its reader says;
  * `Resolver.recordedPath_cases`, `Resolver.recordedPath_of_path`: the path that goes on record;
  * `Resolver.recordedPath_of_answer`: an include that is answered;
  * `Resolver.path_of_error`, `Resolver.recorded_of_escape`: an include that fails.
-/
import ShaderBuild.FileTree
import ShaderBuild.Include
import ShaderBuild.Proofs.Fault

namespace ShaderBuild

/-! ## Files -/

namespace FileTree

variable {t : FileTree} {cwd path : Text} {f : Fault}

/-- A file is not read because of its path, or because of what is there. -/
theorem read_eq_error (h : t.read cwd path = .error f) :
    (∃ cause, f = .file cause) ∨ f.OfPath path := by
  unfold read at h
  cases hb : Fault.systemBytes path with
  | error g =>
    rw [hb] at h
    cases h
    exact .inr (Fault.systemBytes_eq_error_iff.1 hb)
  | ok bytes =>
    rw [hb] at h
    change cite path _ = _ at h
    unfold cite at h
    split at h
    · cases h
    · cases h
      exact .inl ⟨_, rfl⟩

theorem read_of_path (t : FileTree) (cwd : Text) (h : f.OfPath path) :
    t.read cwd path = .error f := by
  unfold read
  rw [Fault.systemBytes_eq_error_iff.2 h]
  rfl

/-- A file that is not read is no error of a build in itself. -/
theorem read_ne_shader (t : FileTree) (cwd path : Text) (e : ShaderError) :
    t.read cwd path ≠ .error (.shader e) := by
  intro h
  rcases read_eq_error h with ⟨cause, hf⟩ | hf
  · cases hf
  · exact hf.not_isShader ⟨e, rfl⟩

/-- A path that is read has bytes for the system. -/
theorem encodeEscaped_of_read {bytes : Bytes} (h : t.read cwd path = .ok bytes) :
    ∃ name, Utf8.encodeEscaped? path = some name := by
  unfold read Fault.systemBytes at h
  cases hn : Utf8.encodeEscaped? path with
  | some name => exact ⟨name, rfl⟩
  | none =>
    rw [hn] at h
    cases h

/-- A text is not read for a reason that is no error of a build, if its reader makes one of what is
    wrong with the file, just if the system does not take its path. -/
theorem readText_escapes_iff (t : FileTree) (cwd path : Text) {fault : ReadFault → Fault}
    (hfault : ∀ cause, (fault cause).IsShader) :
    Reader.readText (t.read cwd) fault path = .error f ∧ ¬ f.IsShader ↔ f.OfPath path := by
  constructor
  · rintro ⟨h, other⟩
    unfold Reader.readText at h
    split at h
    · cases h
      exact absurd (hfault _) other
    · rename_i g noFile hread
      cases h
      exact (read_eq_error hread).resolve_left fun ⟨cause, hf⟩ => noFile cause hf
    · split at h
      · cases h
      · cases h
        exact absurd (hfault _) other
  · intro h
    refine ⟨?_, h.not_isShader⟩
    unfold Reader.readText
    rw [t.read_of_path cwd h]
    cases h <;> rfl

end FileTree

namespace Reader

variable {read : Reader} {path : Text} {bytes : Bytes}

/-- A text is read just if its bytes are. -/
theorem readText_eq_ok_iff (fault : ReadFault → Fault) {t : Text} :
    read.readText fault path = .ok t ↔
      ∃ bytes, read path = .ok bytes ∧ Utf8.encode? t = some bytes := by
  unfold readText
  cases read path with
  | error f => cases f <;> simp
  | ok bytes =>
    simp only [Except.ok.injEq, exists_eq_left', ← Utf8.decode_eq_ok_iff]
    cases Utf8.decode bytes <;> simp

/-- A text that is not read is one of a file that is not, or else its reader says why. -/
theorem readText_eq_error {fault : ReadFault → Fault} {f : Fault}
    (h : read.readText fault path = .error f) :
    (∃ cause, f = fault cause) ∨ read path = .error f := by
  unfold readText at h
  split at h
  · cases h
    exact .inl ⟨_, rfl⟩
  · rename_i hread
    cases h
    exact .inr hread
  · split at h <;> cases h
    exact .inl ⟨_, rfl⟩

theorem readText_of_encode {t : Text} (hr : read path = .ok bytes)
    (ht : Utf8.encode? t = some bytes) (fault : ReadFault → Fault) :
    read.readText fault path = .ok t :=
  (readText_eq_ok_iff fault).2 ⟨bytes, hr, ht⟩

theorem readText_of_illFormed (hr : read path = .ok bytes) (h : ¬ Utf8.IsWellFormed bytes) :
    ∃ f, ∀ fault, read.readText fault path = .error (fault (.undecodable f)) := by
  obtain ⟨f, hf⟩ := Utf8.decode_eq_error h
  refine ⟨f, fun fault => ?_⟩
  simp only [readText, hr, hf]

end Reader

/-! ## Requests -/

/-- A request of a known kind, at a depth that can be written. -/
structure IncludeRequest.IsValid (request : IncludeRequest) : Prop where
  kind : ∃ kind, IncludeType.ofDatum? request.kind = some kind
  depth : ∃ shown, request.depth.show? = some shown

namespace Resolver

variable {r : Resolver} {read : Reader} {cwd path : Text} {request : IncludeRequest} {bytes : Bytes}
  {e : ShaderError}

theorem resolvePath_of_kind {kind : IncludeType}
    (h : IncludeType.ofDatum? request.kind = some kind) :
    r.resolvePath cwd request =
      .ok (Path.absolute cwd (Path.join (r.base kind request.requesting) request.requested)) := by
  simp only [resolvePath, h]

/-- The path of a request is known or not, whatever the files are; what keeps it off the record is
    that it cannot be written, or that the depth cannot. -/
theorem recordedPath_cases (r : Resolver) (cwd : Text) (request : IncludeRequest) :
    (∃ f, r.resolvePath cwd request = .error (.value f) ∧
      r.recordedPath cwd request = .error (.value f)) ∨
    ∃ path, r.resolvePath cwd request = .ok path ∧
      (r.recordedPath cwd request = .ok path ∨
        r.recordedPath cwd request = .error (fault path .notUnicode) ∨
        ∃ f, r.recordedPath cwd request = .error (.value f)) := by
  cases hp : r.resolvePath cwd request with
  | error f =>
    have value : ∃ v, f = .value v := by
      unfold resolvePath Fault.formOf at hp
      split at hp
      · cases hp
      · split at hp <;> cases hp <;> exact ⟨_, rfl⟩
    obtain ⟨v, rfl⟩ := value
    exact .inl ⟨v, rfl, by simp only [recordedPath, hp]; rfl⟩
  | ok path =>
    refine .inr ⟨path, rfl, ?_⟩
    simp only [recordedPath, hp, bind, Except.bind]
    cases he : Utf8.isEncodable path with
    | false => exact .inr (.inl rfl)
    | true =>
      unfold Fault.showOf
      cases request.depth.show? with
      | none => exact .inr (.inr ⟨_, rfl⟩)
      | some depth => exact .inl rfl

/-- The file at a path is found if its bytes are those of a text. -/
theorem readAt_eq_ok_iff {file : ResolvedInclude} :
    readAt read path = .ok file ↔ file.name = path ∧
      ∃ bytes, read path = .ok bytes ∧ Utf8.encode? file.content = some bytes := by
  obtain ⟨name, content⟩ := file
  rw [← Reader.readText_eq_ok_iff fun cause => fault path (.unreadable cause)]
  unfold readAt
  cases read.readText (fun cause => fault path (.unreadable cause)) path <;>
    simp [Except.map, eq_comm]

/-- A path that goes on record is that of the request. -/
theorem resolvePath_of_recordedPath (h : r.recordedPath cwd request = .ok path) :
    r.resolvePath cwd request = .ok path := by
  rcases r.recordedPath_cases cwd request with
    ⟨f, -, hr⟩ | ⟨found, hp, hr | hr | ⟨f, hr⟩⟩ <;> cases hr.symm.trans h
  exact hp

theorem recordedPath_of_recorded (h : (r.resolve read cwd request).recorded = some path) :
    r.recordedPath cwd request = .ok path := by
  unfold resolve at h
  cases hr : r.recordedPath cwd request <;> rw [hr] at h <;> cases h
  rfl

/-- A file that answers a request is that at the path that goes on record. -/
theorem recordedPath_of_answer {file : ResolvedInclude}
    (h : (r.resolve read cwd request).answer = .ok file) :
    r.recordedPath cwd request = .ok file.name := by
  unfold resolve at h
  cases hr : r.recordedPath cwd request with
  | error f =>
    rw [hr] at h
    cases h
  | ok path =>
    rw [hr] at h
    rw [(readAt_eq_ok_iff.1 h).1]

theorem readAt_eq_error {files : FileTree} {path : Text}
    (h : readAt (files.read cwd) path = .error (.shader e)) :
    ∃ cause, e = ⟨.resolution cause path, none⟩ := by
  unfold readAt Reader.readText at h
  cases hr : files.read cwd path with
  | error f =>
    rw [hr] at h
    cases f with
    | file f =>
      cases h
      exact ⟨_, rfl⟩
    | shader e' => exact absurd hr (files.read_ne_shader cwd path e')
    | _ => cases h
  | ok bytes =>
    simp only [hr] at h
    split at h
    · cases h
    · cases h
      exact ⟨_, rfl⟩

/-- An include that fails as part of a build cites the path of the request. -/
theorem path_of_error {files : FileTree}
    (h : (r.resolve (files.read cwd) cwd request).answer = .error (.shader e)) :
    ∃ cause path, e = ⟨.resolution cause path, none⟩ ∧ r.resolvePath cwd request = .ok path := by
  unfold resolve at h
  rcases r.recordedPath_cases cwd request with
    ⟨f, -, hrecorded⟩ | ⟨path, hpath, hrecorded | hrecorded | ⟨f, hrecorded⟩⟩
  · rw [hrecorded] at h
    cases h
  · rw [hrecorded] at h
    obtain ⟨cause, he⟩ := readAt_eq_error h
    exact ⟨cause, path, he, hpath⟩
  · rw [hrecorded] at h
    cases h
    exact ⟨_, path, rfl, hpath⟩
  · rw [hrecorded] at h
    cases h

/-- The path of a request, at a depth that can be written, goes on record unless it has no bytes. -/
theorem recordedPath_of_path (hp : r.resolvePath cwd request = .ok path) {shown : Text}
    (hd : request.depth.show? = some shown) :
    r.recordedPath cwd request =
      if Utf8.isEncodable path then .ok path else .error (fault path .notUnicode) := by
  simp only [recordedPath, hp, Fault.showOf, hd, bind, Except.bind]
  cases Utf8.isEncodable path <;> rfl

theorem readAt_eq_error_iff {f : Fault} : readAt read path = .error f ↔
    read.readText (fun cause => fault path (.unreadable cause)) path = .error f := by
  unfold readAt
  cases read.readText (fun cause => fault path (.unreadable cause)) path <;> simp [Except.map]

theorem resolve_of_encode (h : r.recordedPath cwd request = .ok path) (hr : read path = .ok bytes)
    {t : Text} (ht : Utf8.encode? t = some bytes) :
    (r.resolve read cwd request).answer = .ok ⟨path, t⟩ := by
  simp only [resolve, h, readAt, Reader.readText_of_encode hr ht]
  rfl

theorem resolve_of_illFormed (h : r.recordedPath cwd request = .ok path)
    (hr : read path = .ok bytes) (hb : ¬ Utf8.IsWellFormed bytes) :
    ∃ f, (r.resolve read cwd request).answer = .error (fault path (.unreadable (.undecodable f))) := by
  obtain ⟨f, hf⟩ := Reader.readText_of_illFormed hr hb
  refine ⟨f, ?_⟩
  simp only [resolve, h, readAt, hf]
  rfl

/-- A valid request fails for a reason that is no error of a build just if there is a zero in the
    path that goes on record. -/
theorem recorded_of_escape {files : FileTree} {f : Fault} (valid : request.IsValid)
    (h : (r.resolve (files.read cwd) cwd request).answer = .error f) (other : ¬ f.IsShader) :
    f = .value .nullByte ∧ ∃ path, (r.resolve (files.read cwd) cwd request).recorded = some path ∧
      ∃ c ∈ path, c.val = 0 := by
  obtain ⟨⟨kind, hkind⟩, shown, hshown⟩ := valid
  obtain ⟨path, hp⟩ : ∃ path, r.resolvePath cwd request = .ok path := ⟨_, resolvePath_of_kind hkind⟩
  have recorded := recordedPath_of_path hp hshown
  unfold resolve at h ⊢
  cases hn : Utf8.isEncodable path with
  | false =>
    rw [hn] at recorded
    rw [recorded] at h
    cases h
    exact absurd ⟨_, rfl⟩ other
  | true =>
    rw [if_pos hn] at recorded
    rw [recorded] at h ⊢
    have ofPath := (files.readText_escapes_iff cwd path fun _ => ⟨_, rfl⟩).1
      ⟨readAt_eq_error_iff.1 h, other⟩
    cases ofPath with
    | stray hc stray =>
      have scalar := List.all_eq_true.1 hn _ hc
      simp [stray.1] at scalar
    | zero _ hc zero => exact ⟨rfl, path, rfl, _, hc, zero⟩

end Resolver

end ShaderBuild
