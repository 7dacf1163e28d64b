/-
  What writing a file does to a file tree.

  A file comes to be at the place that its path leads to, and nothing is different at other places.
  Directories stay where they are, so paths lead where they led before, and what was written is read
  back.

  * `FileTree.step_eq_ok_iff`: where a component leads;
  * `FileTree.Keeps`: a tree in which directories and nodes of another one are kept;
  * `FileTree.Keeps.find_of_findNew`: a path at which a file was created leads to that file;
  * `FileTree.Opened`, `FileTree.write_cases`: the ways in which writing goes;
  * `FileTree.write_eq_ok`, `FileTree.write_eq`: what writing to a file that can be opened leaves;
  * `FileTree.read_of_write`, `FileTree.read_of_write_write`: what is written is read back, also
    after something was written at another place.
-/
import ShaderBuild.FileTree

namespace ShaderBuild.FileTree

variable {t t' : FileTree} {place other : Place} {cwd path : Text}

/-! ## Nodes -/

theorem node?_set_self (t : FileTree) (h : place ≠ []) (node : FileNode) :
    (t.set place node).node? place = some node := by
  simp [node?, set, h, Keyed.find?_put_self]

theorem node?_set_of_ne (t : FileTree) (h : other ≠ place) (node : FileNode) :
    (t.set place node).node? other = t.node? other := by
  simp [node?, set, Keyed.find?_put_of_ne h]

theorem set_set (t : FileTree) (place : Place) (node node' : FileNode) :
    (t.set place node).set place node' = t.set place node' := by
  simp [set, Keyed.put_put]

/-! ## Following paths -/

theorem enter_eq_ok_iff : t.enter place = .ok () ↔ t.node? place = some .directory := by
  unfold enter
  split <;> simp [*]

theorem step_eq_ok_iff {component : Bytes} :
    t.step place component = .ok other ↔ t.node? place = some .directory ∧
      (isHere component ∧ other = place ∨
        isHere component = false ∧ isAbove component ∧ other = place.dropLast ∨
        isHere component = false ∧ isAbove component = false ∧ component.length ≤ maxName ∧
          (t.node? (place ++ [component])).isSome ∧ other = place ++ [component]) := by
  unfold step
  cases he : t.enter place with
  | error cause =>
    have notThere : t.node? place ≠ some .directory := by
      intro h
      rw [enter_eq_ok_iff.2 h] at he
      cases he
    simp [bind, Except.bind, notThere]
  | ok u =>
    simp only [bind, Except.bind, enter_eq_ok_iff.1 he, true_and]
    cases hh : isHere component with
    | true => simp [pure, Except.pure, @eq_comm _ place]
    | false =>
      cases ha : isAbove component with
      | true => simp [pure, Except.pure, @eq_comm _ place.dropLast]
      | false =>
        by_cases hl : maxName < component.length
        · simp [throw, throwThe, MonadExceptOf.throw, hl, Nat.not_le.2 hl]
        · cases hn : t.node? (place ++ [component]) <;>
            simp [pure, Except.pure, throw, throwThe, MonadExceptOf.throw, hl, Nat.not_lt.1 hl,
              @eq_comm _ (place ++ [component])]

theorem follow_concat (t : FileTree) (place : Place) (components : List Bytes) (last : Bytes) :
    t.follow place (components ++ [last]) =
      (t.follow place components).bind fun parent => t.step parent last := by
  induction components generalizing place with
  | nil =>
    simp only [List.nil_append, follow, Except.bind, bind]
    cases t.step place last <;> rfl
  | cons component components ih =>
    simp only [List.cons_append, follow, Except.bind, bind, ih]
    cases t.step place component <;> rfl

/-- Another tree has directories and nodes where one has them. -/
structure Keeps (t t' : FileTree) : Prop where
  directory : ∀ place, t.node? place = some .directory → t'.node? place = some .directory
  node : ∀ place, (t.node? place).isSome → (t'.node? place).isSome

theorem Keeps.trans {t'' : FileTree} (h : Keeps t t') (h' : Keeps t' t'') : Keeps t t'' :=
  ⟨fun place hd => h'.directory place (h.directory place hd),
    fun place hn => h'.node place (h.node place hn)⟩

/-- A file is put where there is no directory, so that directories are kept. -/
theorem keeps_set (hp : place ≠ []) (h : t.node? place ≠ some .directory) (bytes : Bytes) :
    Keeps t (t.set place (.file bytes)) := by
  refine ⟨fun other hd => ?_, fun other hs => ?_⟩
  · have ne : other ≠ place := by
      rintro rfl
      exact h hd
    rw [node?_set_of_ne t ne]
    exact hd
  · by_cases ho : other = place
    · subst ho
      rw [node?_set_self t hp]
      rfl
    · rw [node?_set_of_ne t ho]
      exact hs

namespace Keeps

variable (k : Keeps t t')

include k

theorem step {component : Bytes} (h : t.step place component = .ok other) :
    t'.step place component = .ok other := by
  rw [step_eq_ok_iff] at h ⊢
  obtain ⟨hd, hcases⟩ := h
  refine ⟨k.directory _ hd, ?_⟩
  rcases hcases with h | h | ⟨hh, ha, hl, hs, ho⟩
  · exact .inl h
  · exact .inr (.inl h)
  · exact .inr (.inr ⟨hh, ha, hl, k.node _ hs, ho⟩)

theorem follow {components : List Bytes} (h : t.follow place components = .ok other) :
    t'.follow place components = .ok other := by
  induction components generalizing place with
  | nil => exact h
  | cons component components ih =>
    simp only [FileTree.follow, bind, Except.bind] at h ⊢
    cases hs : t.step place component with
    | error cause =>
      rw [hs] at h
      cases h
    | ok next =>
      rw [hs] at h
      rw [k.step hs]
      exact ih h

theorem origin {bytes : Bytes} (h : t.origin cwd bytes = .ok place) :
    t'.origin cwd bytes = .ok place := by
  unfold FileTree.origin at h ⊢
  split at h
  · rename_i hs
    rw [if_pos hs]
    exact h
  · rename_i hs
    rw [if_neg hs]
    exact k.follow h

end Keeps

/-! ## Creating files -/

/-- The place of the node at a path. -/
def placeAt (t : FileTree) (cwd path : Text) : Except Fault Place := do
  let bytes ← Fault.systemBytes path
  cite path (t.find cwd bytes)

theorem cite_eq_ok {α : Type} {result : Except FileFault.Cause α} {a : α}
    (h : cite path result = .ok a) : result = .ok a := by
  cases result with
  | ok b => exact congrArg Except.ok (Except.ok.inj h)
  | error cause => cases h

/-- Where a path lets a file be created: below a directory, and not in the place of one. -/
theorem findNew_eq_ok {bytes : Bytes} (h : t.findNew cwd bytes = .ok place) :
    ∃ start parent name, checkLength bytes = .ok () ∧ t.origin cwd bytes = .ok start ∧
      (componentsOf bytes).getLast? = some name ∧
      t.follow start (componentsOf bytes).dropLast = .ok parent ∧
      t.node? parent = some .directory ∧ isHere name = false ∧ isAbove name = false ∧
      endsInSlash bytes = false ∧ name.length ≤ maxName ∧
      t.node? (parent ++ [name]) ≠ some .directory ∧ place = parent ++ [name] := by
  unfold findNew at h
  cases hl : checkLength bytes with
  | error cause => simp [hl, bind, Except.bind] at h
  | ok u =>
    cases ho : t.origin cwd bytes with
    | error cause => simp [hl, ho, bind, Except.bind] at h
    | ok start =>
      cases hn : (componentsOf bytes).getLast? with
      | none => simp [hl, ho, hn, bind, Except.bind, throw, throwThe, MonadExceptOf.throw] at h
      | some name =>
        cases hf : t.follow start (componentsOf bytes).dropLast with
        | error cause => simp [hl, ho, hn, hf, bind, Except.bind] at h
        | ok parent =>
          cases he : t.enter parent with
          | error cause => simp [hl, ho, hn, hf, he, bind, Except.bind] at h
          | ok u =>
            simp only [hl, ho, hn, hf, he, bind, Except.bind] at h
            split at h
            · cases h
            rename_i hname
            split at h
            · cases h
            rename_i hlong
            split at h
            · cases h
            rename_i hdirectory
            simp only [Bool.or_eq_true, not_or, Bool.not_eq_true] at hname
            obtain ⟨⟨hh, ha⟩, hs⟩ := hname
            exact ⟨start, parent, name, rfl, rfl, rfl, hf, enter_eq_ok_iff.1 he, hh, ha, hs,
              Nat.not_lt.1 hlong, hdirectory, (Except.ok.inj h).symm⟩

/-- A path at which a file could be created leads to that file once it is there. -/
theorem Keeps.find_of_findNew (k : Keeps t t') {bytes : Bytes}
    (h : t.findNew cwd bytes = .ok place) (there : (t'.node? place).isSome) :
    t'.find cwd bytes = .ok place := by
  obtain ⟨start, parent, name, hl, ho, hn, hf, hd, hh, ha, hs, hm, -, rfl⟩ := findNew_eq_ok h
  obtain ⟨components, hc⟩ := List.getLast?_eq_some_iff.1 hn
  rw [hc, List.dropLast_concat] at hf
  have last : t'.step parent name = .ok (parent ++ [name]) :=
    step_eq_ok_iff.2 ⟨k.directory _ hd, .inr (.inr ⟨hh, ha, hm, there, rfl⟩)⟩
  have all : t'.follow start (componentsOf bytes) = .ok (parent ++ [name]) := by
    rw [hc, follow_concat, k.follow hf]
    exact last
  simp only [find, hl, k.origin ho, all, hs, bind, Except.bind]
  rfl

/-- A path at which a file is created, and its place. -/
structure Opened (t : FileTree) (cwd path : Text) (place : Place) : Prop where
  created : t.create cwd path = .ok (place, t.set place (.file []))
  ne_nil : place ≠ []
  not_directory : t.node? place ≠ some .directory
  found : ∃ bytes, Fault.systemBytes path = .ok bytes ∧ t.findNew cwd bytes = .ok place

theorem opened_of_create (h : t.create cwd path = .ok (place, t')) :
    Opened t cwd path place ∧ t' = t.set place (.file []) := by
  unfold create at h
  cases hb : Fault.systemBytes path with
  | error f => simp [hb, bind, Except.bind] at h
  | ok bytes =>
    cases hp : cite path (t.findNew cwd bytes) with
    | error f => simp [hb, hp, bind, Except.bind] at h
    | ok found =>
      simp only [hb, hp, bind, Except.bind] at h
      cases h
      have hfound := cite_eq_ok hp
      obtain ⟨-, parent, name, -, -, -, -, -, -, -, -, -, hd, rfl⟩ := findNew_eq_ok hfound
      refine ⟨⟨?_, by simp, hd, bytes, hb, hfound⟩, rfl⟩
      simp only [create, hb, hp, bind, Except.bind]
      rfl

/-! ## Writing -/

/-- How writing goes: the file is not opened; or its contents are not made, and it is left empty; or
    it gets them. -/
theorem write_cases (t : FileTree) (cwd path : Text) (contents : Except Fault Bytes) :
    (∃ f, t.create cwd path = .error f ∧ t.write cwd path contents = (.error f, t)) ∨
    ∃ place, Opened t cwd path place ∧
      ((∃ f, contents = .error f ∧
          t.write cwd path contents = (.error f, t.set place (.file []))) ∨
        ∃ bytes, contents = .ok bytes ∧
          t.write cwd path contents = (.ok (), t.set place (.file bytes))) := by
  unfold write
  cases hc : t.create cwd path with
  | error f => exact .inl ⟨f, rfl, rfl⟩
  | ok r =>
    obtain ⟨place, t'⟩ := r
    obtain ⟨opened, rfl⟩ := opened_of_create hc
    refine .inr ⟨place, opened, ?_⟩
    cases contents with
    | error f => exact .inl ⟨f, rfl, rfl⟩
    | ok bytes => exact .inr ⟨bytes, rfl, by simp only [set_set]⟩

namespace Opened

variable (o : Opened t cwd path place)

include o

theorem keeps (bytes : Bytes) : Keeps t (t.set place (.file bytes)) :=
  keeps_set o.ne_nil o.not_directory bytes

/-- The file that was opened is where its path leads, also when more was changed. -/
theorem placeAt_eq (k : Keeps t t') (there : (t'.node? place).isSome) :
    t'.placeAt cwd path = .ok place := by
  obtain ⟨bytes, hb, hf⟩ := o.found
  simp only [placeAt, hb, k.find_of_findNew hf there, bind, Except.bind, cite]

theorem read_eq (k : Keeps t t') {contents : Bytes} (h : t'.node? place = some (.file contents)) :
    t'.read cwd path = .ok contents := by
  obtain ⟨bytes, hb, hf⟩ := o.found
  simp only [read, hb, k.find_of_findNew hf (by rw [h]; rfl), contentsAt, h, bind, Except.bind, cite]

end Opened

/-- Writing that goes well fills the file at the place of the path. -/
theorem write_eq_ok {contents : Except Fault Bytes} (h : t.write cwd path contents = (.ok (), t')) :
    ∃ place bytes, Opened t cwd path place ∧ contents = .ok bytes ∧
      t' = t.set place (.file bytes) := by
  rcases t.write_cases cwd path contents with
    ⟨f, -, hw⟩ | ⟨place, o, ⟨f, -, hw⟩ | ⟨bytes, hb, hw⟩⟩
  · cases hw.symm.trans h
  · cases hw.symm.trans h
  · cases hw.symm.trans h
    exact ⟨place, bytes, o, hb, rfl⟩

/-- However writing goes, there is nothing different but a file at the place of the path. -/
theorem write_eq {contents : Except Fault Bytes} {result : Except Fault Unit}
    (h : t.write cwd path contents = (result, t')) :
    t' = t ∨ ∃ place bytes, Opened t cwd path place ∧ t' = t.set place (.file bytes) := by
  rcases t.write_cases cwd path contents with
    ⟨f, -, hw⟩ | ⟨place, o, ⟨f, -, hw⟩ | ⟨bytes, -, hw⟩⟩
  · cases hw.symm.trans h
    exact .inl rfl
  · cases hw.symm.trans h
    exact .inr ⟨place, _, o, rfl⟩
  · cases hw.symm.trans h
    exact .inr ⟨place, _, o, rfl⟩

/-- What is written is read back. -/
theorem read_of_write {bytes : Bytes} (h : t.write cwd path (.ok bytes) = (.ok (), t')) :
    t'.read cwd path = .ok bytes := by
  obtain ⟨place, _, o, hb, rfl⟩ := write_eq_ok h
  cases hb
  exact o.read_eq (o.keeps bytes) (node?_set_self t o.ne_nil _)

/-- What is written is read back after something was written by another path, unless both paths lead
    to one place. -/
theorem read_of_write_write {path' : Text} {bytes : Bytes} {contents : Except Fault Bytes}
    {t'' : FileTree} {result : Except Fault Unit}
    (h : t.write cwd path (.ok bytes) = (.ok (), t'))
    (h' : t'.write cwd path' contents = (result, t''))
    (apart : t''.placeAt cwd path' ≠ t''.placeAt cwd path) : t''.read cwd path = .ok bytes := by
  rcases write_eq h' with rfl | ⟨place', bytes', o', rfl⟩
  · exact read_of_write h
  obtain ⟨place, _, o, hb, rfl⟩ := write_eq_ok h
  cases hb
  have here : (t.set place (.file bytes)).node? place = some (.file bytes) :=
    node?_set_self t o.ne_nil _
  have later := o'.keeps bytes'
  have both := (o.keeps bytes).trans later
  have there := o.placeAt_eq both (later.node _ (by rw [here]; rfl))
  have there' := o'.placeAt_eq later (by rw [node?_set_self _ o'.ne_nil]; rfl)
  have ne : place ≠ place' := fun he => apart (by rw [there, there', he])
  exact o.read_eq both (by rw [node?_set_of_ne _ ne, here])

end ShaderBuild.FileTree
