/-
  Outlines of whole include trees.

  The includes of a source are files, which have includes of their own.  Where this comes to an end,
  the source has an outline: its lines, and in place of each include the outline of the file.

  * `Outline`: what a source expands to, line by line;
  * `Expands`: the outline of the lines of a source, as the files have it;
  * `Expands.isEncodable`: a text expands to a text that has bytes, if it has bytes itself;
  * `outline?`, `expands_of_outline?`: the outline, found.
-/
import ShaderBuild.Compiler.StandIn
import ShaderBuild.Include
import ShaderBuild.Proofs.Text.Utf8

namespace ShaderBuild

/-! ## Outlines -/

/-- What a source expands to, line by line. -/
inductive Outline where
  | done
  /-- A line that stays. -/
  | kept (line : Text) (rest : Outline)
  /-- An include of the file at a path, with what that expands to. -/
  | nested (path : Text) (body rest : Outline)
  deriving DecidableEq

namespace Outline

/-- The paths of the includes, each before those of its file. -/
def paths : Outline → List Text
  | .done => []
  | .kept _ rest => rest.paths
  | .nested path body rest => path :: (body.paths ++ rest.paths)

/-- The lines with what they expand to. -/
def lines : Outline → List Text
  | .done => []
  | .kept line rest => line :: rest.lines
  | .nested _ body rest => List.intercalate ['\n'] body.lines :: rest.lines

/-- The expanded source. -/
def expanded (o : Outline) : Text := List.intercalate ['\n'] o.lines

/-- How deep includes are nested. -/
def depth : Outline → Nat
  | .done => 0
  | .kept _ rest => rest.depth
  | .nested _ body rest => max (body.depth + 1) rest.depth

end Outline

/-- The text of a file that is there and holds text. -/
def Reader.text? (read : Reader) (path : Text) : Option Text :=
  match read path with
  | .ok bytes => (Utf8.decode bytes).toOption
  | .error _ => none

theorem Reader.text?_eq_some_iff {read : Reader} {path t : Text} :
    read.text? path = some t ↔ ∃ bytes, read path = .ok bytes ∧ Utf8.decode bytes = .ok t := by
  unfold Reader.text?
  cases read path with
  | error f => exact ⟨nofun, nofun⟩
  | ok bytes => cases hd : Utf8.decode bytes <;> simp [Except.toOption, hd]

/-- The path of an include in a source in a directory: what is named in quotes is looked up in the
    directory of the source, and what is named in angle brackets in the project root. -/
def includedPath (root directory : Text) (kind : IncludeType) (requested : Text) : Text :=
  Path.normalize <| Path.join (match kind with | .relative => directory | .standard => root) requested

/-- The outline of the lines of a source in a directory.  All files that are included are there. -/
inductive Expands (p : Preprocessor) (read : Reader) (root : Text) :
    Text → List Text → Outline → Prop
  | done {directory} : Expands p read root directory [] .done
  | kept {directory line lines rest} : p.directive? line = none →
    Expands p read root directory lines rest →
    Expands p read root directory (line :: lines) (.kept line rest)
  | nested {directory line lines requested kind path content body rest} :
    p.directive? line = some (requested, kind) →
    path = includedPath root directory kind requested → read.text? path = some content →
    Expands p read root (Path.directory path) (p.lines content) body →
    Expands p read root directory lines rest →
    Expands p read root directory (line :: lines) (.nested path body rest)

/-! ## Texts that have bytes -/

namespace Text

theorem mem_of_mem_splitAtEnds {t line : Text} {c : CodePoint} (h : line ∈ splitAtEnds t)
    (hc : c ∈ line) : c ∈ t := by
  induction t generalizing line with
  | nil => cases h
  | cons d t ih =>
    rw [splitAtEnds] at h
    split at h
    · rcases List.mem_cons.1 h with rfl | h
      · cases hc
      · exact List.mem_cons_of_mem d (ih h hc)
    · split at h
      · obtain rfl := List.mem_singleton.1 h
        exact List.mem_cons.2 (.inl (List.mem_singleton.1 hc))
      · rename_i first rest split
        rcases List.mem_cons.1 h with rfl | h
        · rcases List.mem_cons.1 hc with rfl | hc
          · exact List.mem_cons_self
          · exact List.mem_cons_of_mem d (ih (split ▸ List.mem_cons_self) hc)
        · exact List.mem_cons_of_mem d (ih (split ▸ List.mem_cons_of_mem first h) hc)

theorem mem_of_mem_unifyLineEnds {t : Text} {c : CodePoint} (h : c ∈ unifyLineEnds t) :
    c = '\n' ∨ c ∈ t := by
  fun_induction unifyLineEnds t with
  | case1 => cases h
  | case2 => exact .inl (List.mem_singleton.1 h)
  | case3 rest ih | case4 rest d hd ih =>
    rcases List.mem_cons.1 h with rfl | h
    · exact .inl rfl
    · exact (ih h).imp_right fun hc => by simp_all
  | case5 d t hd ih =>
    rcases List.mem_cons.1 h with rfl | h
    · exact .inr List.mem_cons_self
    · exact (ih h).imp_right (List.mem_cons_of_mem d)

end Text

namespace Utf8

theorem isEncodable_iff {t : Text} : isEncodable t ↔ ∀ c ∈ t, c.isSurrogate = false := by
  simp [isEncodable]

theorem isEncodable_of_decode {bytes : Bytes} {t : Text} (h : decode bytes = .ok t) :
    isEncodable t := by
  have encoded := decode_eq_ok_iff.1 h
  unfold encode? at encoded
  split at encoded
  · assumption
  · cases encoded

/-- The lines of a text have bytes if it has bytes. -/
theorem isEncodable_of_mem_splitLines {t line : Text} (h : isEncodable t)
    (hl : line ∈ Text.splitLines t) : isEncodable line := by
  refine isEncodable_iff.2 fun c hc => ?_
  rcases Text.mem_of_mem_unifyLineEnds (Text.mem_of_mem_splitAtEnds hl hc) with rfl | hc
  · rfl
  · exact isEncodable_iff.1 h c hc

/-- Lines that have bytes have bytes together. -/
theorem isEncodable_intercalate {lines : List Text} (h : ∀ line ∈ lines, isEncodable line) :
    isEncodable (List.intercalate ['\n'] lines) := by
  induction lines with
  | nil => rfl
  | cons line rest ih =>
    obtain ⟨hline, hrest⟩ := List.forall_mem_cons.1 h
    cases rest with
    | nil => simpa [List.intercalate] using hline
    | cons next rest =>
      have together := isEncodable_iff.1 (ih hrest)
      rw [List.intercalate_cons_cons]
      refine isEncodable_iff.2 fun c hc => ?_
      rcases List.mem_append.1 hc with hc | hc
      · rcases List.mem_append.1 hc with hc | hc
        · exact isEncodable_iff.1 hline c hc
        · rw [List.mem_singleton.1 hc]
          rfl
      · exact together c hc

end Utf8

/-- What a text expands to has bytes if the text has. -/
theorem Expands.isEncodable {read : Reader} {root directory : Text} {lines : List Text} {o : Outline}
    (h : Expands .shader read root directory lines o) (hl : ∀ line ∈ lines, Utf8.isEncodable line) :
    Utf8.isEncodable o.expanded := by
  refine Utf8.isEncodable_intercalate ?_
  induction h with
  | done => exact List.forall_mem_nil _
  | kept _ _ ih =>
    obtain ⟨hline, hrest⟩ := List.forall_mem_cons.1 hl
    exact List.forall_mem_cons.2 ⟨hline, ih hrest⟩
  | @nested directory line lines requested kind path content body rest _ _ hcontent _ _ ihBody
      ihRest =>
    obtain ⟨bytes, -, hdecode⟩ := Reader.text?_eq_some_iff.1 hcontent
    have encodable := Utf8.isEncodable_of_decode hdecode
    exact List.forall_mem_cons.2 ⟨Utf8.isEncodable_intercalate (ihBody fun line hl =>
      Utf8.isEncodable_of_mem_splitLines encodable hl), ihRest (List.forall_mem_cons.1 hl).2⟩

/-! ## Finding outlines -/

/-- The outline of lines, given how to outline the lines of a file in a directory. -/
def outlineLines? (p : Preprocessor) (read : Reader) (root : Text)
    (inFile? : Text → List Text → Option Outline) (directory : Text) : List Text → Option Outline
  | [] => some .done
  | line :: lines => do
    let rest ← outlineLines? p read root inFile? directory lines
    match p.directive? line with
    | none => return .kept line rest
    | some (requested, kind) =>
      let path := includedPath root directory kind requested
      let content ← read.text? path
      return .nested path (← inFile? (Path.directory path) (p.lines content)) rest

/-- The outline of lines, if includes are nested less deep than a number. -/
def outline? (p : Preprocessor) (read : Reader) (root : Text) :
    Nat → Text → List Text → Option Outline
  | 0, _, _ => none
  | levels + 1, directory, lines =>
    outlineLines? p read root (outline? p read root levels) directory lines

variable {p : Preprocessor} {read : Reader} {root directory : Text} {lines : List Text}
  {o : Outline}

theorem expands_of_outlineLines? {inFile? : Text → List Text → Option Outline}
    (inFile : ∀ {directory lines o}, inFile? directory lines = some o →
      Expands p read root directory lines o)
    (h : outlineLines? p read root inFile? directory lines = some o) :
    Expands p read root directory lines o := by
  induction lines generalizing o with
  | nil =>
    cases h
    exact .done
  | cons line lines ih =>
    obtain ⟨rest, hrest, h⟩ := Option.bind_eq_some_iff.1 h
    cases hline : p.directive? line with
    | none =>
      simp only [hline] at h
      cases h
      exact .kept hline (ih hrest)
    | some directive =>
      obtain ⟨requested, kind⟩ := directive
      simp only [hline] at h
      obtain ⟨content, hcontent, h⟩ := Option.bind_eq_some_iff.1 h
      obtain ⟨body, hbody, h⟩ := Option.bind_eq_some_iff.1 h
      cases h
      exact .nested hline rfl hcontent (inFile hbody) (ih hrest)

/-- An outline that is found is the outline. -/
theorem expands_of_outline? {levels : Nat} (h : outline? p read root levels directory lines = some o) :
    Expands p read root directory lines o := by
  induction levels generalizing directory lines o with
  | zero => cases h
  | succ levels ih => exact expands_of_outlineLines? ih h

theorem exists_expands {levels : Nat} (h : (outline? p read root levels directory lines).isSome) :
    ∃ o, Expands p read root directory lines o :=
  (Option.isSome_iff_exists.1 h).imp fun _ => expands_of_outline?

end ShaderBuild
