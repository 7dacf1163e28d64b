/-
  What is in the files after the result of a build was written, or was not.

  A file is opened before its contents are made.  So where they cannot be made, a file that was
  there has lost its contents, and one that was not there is there now.

  * `FileTree.Leaves`, `FileTree.Same`: trees that differ in some files, and trees that do not;
  * `BuildOutput.WriteFailure`: the ways in which writing fails, with the files that are different;
  * `BuildOutput.write_cases`: the file of the module comes first, then that of the rules;
  * `BuildOutput.failed_write_leaves`: what is left behind by a failure;
  * `BuildOutput.read_of_write`: the bytes of the words are read back.
-/
import ShaderBuild.Artifact.Write
import ShaderBuild.Proofs.FileTree
import ShaderBuild.Proofs.Outcome

namespace ShaderBuild

namespace FileTree

variable {t t' : FileTree} {place : Place} {files : List (Place × Bytes)}

/-- Nothing is different. -/
def Same (t t' : FileTree) : Prop := ∀ place, t'.node? place = t.node? place

/-- There are some files, and everything else is as it was. -/
def Leaves (t t' : FileTree) (files : List (Place × Bytes)) : Prop :=
  ∀ place, t'.node? place = ((files.lookup place).map FileNode.file).or (t.node? place)

theorem leaves_nil (t : FileTree) : Leaves t t [] := fun _ => rfl

theorem Leaves.set (h : Leaves t t' files) (hp : place ≠ []) (bytes : Bytes) :
    Leaves t (t'.set place (.file bytes)) ((place, bytes) :: files) := by
  intro other
  by_cases ho : other = place
  · subst ho
    rw [node?_set_self t' hp, List.lookup_cons_self]
    rfl
  · rw [node?_set_of_ne t' ho, h other, List.lookup_cons, beq_eq_false_iff_ne.2 ho]

/-- Nothing is different exactly if the files had these contents before. -/
theorem Leaves.same_iff (h : Leaves t t' files) :
    Same t t' ↔
      ∀ place bytes, files.lookup place = some bytes → t.node? place = some (.file bytes) := by
  constructor
  · intro same place bytes hb
    rw [← same place, h place, hb]
    rfl
  · intro before place
    rw [h place]
    cases hb : files.lookup place with
    | none => rfl
    | some bytes =>
      rw [before place bytes hb]
      rfl

end FileTree

namespace BuildOutput

open FileTree (Opened Leaves Same)

variable {o : BuildOutput} {t t' : FileTree} {cwd filename : Text} {depfile : Option Text}
  {name : Datum} {f : Fault} {result : Except Fault Unit}

/-- The file of the module is written first, and then that of the rules if there is to be one. -/
theorem write_cases (h : o.write t cwd filename depfile name = (result, t')) :
    (∃ f, t.write cwd filename (o.contentsFor filename name) = (.error f, t') ∧
      result = .error f) ∨
    ∃ t₁, t.write cwd filename (o.contentsFor filename name) = (.ok (), t₁) ∧
      (depfile.getD [] = [] ∧ result = .ok () ∧ t' = t₁ ∨
        ∃ path, depfile = some path ∧ path ≠ [] ∧
          t₁.write cwd path (o.depfileContents cwd filename) = (result, t')) := by
  unfold write at h
  generalize t.write cwd filename (o.contentsFor filename name) = first at h
  obtain ⟨result₁, t₁⟩ := first
  cases result₁ with
  | error f =>
    cases h
    exact .inl ⟨f, rfl, rfl⟩
  | ok u =>
    refine .inr ⟨t₁, rfl, ?_⟩
    rcases depfile with - | ⟨- | ⟨c, rest⟩⟩
    · cases h
      exact .inl ⟨rfl, rfl, rfl⟩
    · cases h
      exact .inl ⟨rfl, rfl, rfl⟩
    · exact .inr ⟨c :: rest, rfl, List.cons_ne_nil _ _, h⟩

/-- What a file of another name than that of source text gets is read back, unless the rules went to
    the same place. -/
theorem read_of_write {bytes : Bytes} (hn : isModuleName filename = false)
    (hb : o.toBytes = .ok bytes) (h : o.write t cwd filename depfile name = (.ok (), t'))
    (apart : ∀ path ∈ depfile, path ≠ [] → t'.placeAt cwd path ≠ t'.placeAt cwd filename) :
    t'.read cwd filename = .ok bytes := by
  have contents : o.contentsFor filename name = .ok bytes := by
    rw [contentsFor, hn]
    exact hb
  rcases write_cases h with ⟨f, -, hf⟩ | ⟨t₁, h₁, ⟨-, -, rfl⟩ | ⟨path, hd, hp, h₂⟩⟩
  · cases hf
  · rw [contents] at h₁
    exact FileTree.read_of_write h₁
  · rw [contents] at h₁
    exact FileTree.read_of_write_write h₁ h₂ (apart path hd hp)

/-! ## Failures -/

/-- How writing fails, and the files that are different then. -/
inductive WriteFailure (o : BuildOutput) (t : FileTree) (cwd filename : Text)
    (depfile : Option Text) (name : Datum) : Fault → List (Place × Bytes) → Prop
  /-- The file of the module is not opened. -/
  | unopened {f : Fault} : t.create cwd filename = .error f →
      WriteFailure o t cwd filename depfile name f []
  /-- The file of the module is opened, but what it is to hold is not made. -/
  | unmade {f : Fault} {place} : Opened t cwd filename place → o.contentsFor filename name = .error f →
      WriteFailure o t cwd filename depfile name f [(place, [])]
  /-- The file of the rules is not opened. -/
  | rulesUnopened {f : Fault} {place bytes path} : Opened t cwd filename place →
      o.contentsFor filename name = .ok bytes → depfile = some path → path ≠ [] →
      (t.set place (.file bytes)).create cwd path = .error f →
      WriteFailure o t cwd filename depfile name f [(place, bytes)]
  /-- The file of the rules is opened, but what it is to hold is not made. -/
  | rulesUnmade {f : Fault} {place bytes path place'} : Opened t cwd filename place →
      o.contentsFor filename name = .ok bytes → depfile = some path → path ≠ [] →
      Opened (t.set place (.file bytes)) cwd path place' →
      o.depfileContents cwd filename = .error f →
      WriteFailure o t cwd filename depfile name f [(place', []), (place, bytes)]

/-- **What a failure to write leaves behind.**

    The file that was opened last is empty if what it is to hold cannot be made, the file of the
    module has its contents if the rules fail, and all other files are as they were.  So nothing is
    different exactly if those files had these contents before. -/
theorem failed_write_leaves (h : o.write t cwd filename depfile name = (.error f, t')) :
    ∃ files, WriteFailure o t cwd filename depfile name f files ∧ Leaves t t' files ∧
      (Same t t' ↔
        ∀ place bytes, files.lookup place = some bytes → t.node? place = some (.file bytes)) := by
  suffices left : ∃ files, WriteFailure o t cwd filename depfile name f files ∧ Leaves t t' files by
    obtain ⟨files, failure, leaves⟩ := left
    exact ⟨files, failure, leaves, leaves.same_iff⟩
  have nothing := FileTree.leaves_nil t
  rcases write_cases h with ⟨f', h₁, hf⟩ | ⟨t₁, h₁, ⟨-, hf, -⟩ | ⟨path, hd, hp, h₂⟩⟩
  · cases hf
    rcases t.write_cases cwd filename (o.contentsFor filename name) with
      ⟨f, hc, hw⟩ | ⟨place, opened, ⟨f, hc, hw⟩ | ⟨bytes, -, hw⟩⟩
    · cases hw.symm.trans h₁
      exact ⟨_, .unopened hc, nothing⟩
    · cases hw.symm.trans h₁
      exact ⟨_, .unmade opened hc, nothing.set opened.ne_nil _⟩
    · cases hw.symm.trans h₁
  · cases hf
  · obtain ⟨place, bytes, opened, hc, rfl⟩ := FileTree.write_eq_ok h₁
    have module := nothing.set opened.ne_nil bytes
    rcases FileTree.write_cases _ cwd path (o.depfileContents cwd filename) with
      ⟨f, hr, hw⟩ | ⟨place', opened', ⟨f, hr, hw⟩ | ⟨bytes', -, hw⟩⟩
    · cases hw.symm.trans h₂
      exact ⟨_, .rulesUnopened opened hc hd hp hr, module⟩
    · cases hw.symm.trans h₂
      exact ⟨_, .rulesUnmade opened hc hd hp opened' hr, module.set opened'.ne_nil _⟩
    · cases hw.symm.trans h₂

/-- A source whose path is no text: the file of the module is there, and an empty one with it. -/
theorem failed_write_leaves_rules :
    let o : BuildOutput := ⟨[[.ofNat 0xD800]], [7]⟩
    let t : FileTree := {}
    let depfile := some (text "d")
    let run := o.write t (text "/") (text "m") depfile (.text defaultName)
    run.1 = .error .unencodable ∧
      run.2.nodes = [([[109]], .file [7, 0, 0, 0]), ([[100]], .file [])] ∧
      ∃ files, WriteFailure o t (text "/") (text "m") depfile (.text defaultName) .unencodable
        files ∧ Leaves t run.2 files := by
  intro o t depfile run
  have failed : run.1 = .error .unencodable := by decide +kernel
  have nodes : run.2.nodes = [([[109]], .file [7, 0, 0, 0]), ([[100]], .file [])] := by
    decide +kernel
  obtain ⟨files, failure, leaves, -⟩ :=
    failed_write_leaves (Prod.ext failed rfl : run = (.error .unencodable, run.2))
  exact ⟨failed, nodes, files, failure, leaves⟩

/-- A name that is no identifier: the file that was there is empty. -/
theorem failed_write_leaves_nothing :
    let o : BuildOutput := ⟨[], [7]⟩
    let t : FileTree := ⟨[([[111, 46, 112, 121]], .file [120])]⟩
    let run := o.write t (text "/") (text "o.py") none (.text (text "1x"))
    run.1 = .error (.value (.moduleName (text "1x"))) ∧
      t.read (text "/") (text "o.py") = .ok [120] ∧
      run.2.read (text "/") (text "o.py") = .ok [] := by
  decide +kernel

end BuildOutput

end ShaderBuild
