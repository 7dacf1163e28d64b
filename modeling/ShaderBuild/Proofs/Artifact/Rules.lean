/-
  The rules for `make` read back.

  `make` ends a rule at a line feed, ends its target at a colon, and takes spaces for what separates
  the prerequisites.  A space, a colon or a hash sign behind a backslash stands for itself, and so
  does the second of two dollar signs; a line feed behind a backslash goes on with the line.

  The rules of an output are read back as what they list, but for one thing: white space is cut off
  at the end of the first line, also where it belongs to the last path.  Of a space there, the
  backslash is left, and joins the next line.

  * `Make.marks`, `Make.read`: what a text means to `make`, and the rules that are read from it;
  * `Make.marks_escapePath`, `Make.read_lines`: paths and rules are read as they were written;
  * `Make.points_of_read`: everything that stands for itself comes up in the rules;
  * `Make.size_stripEnd_lt`: a blank that is cut off at the end of a path is lost;
  * `BuildOutput.depfile_read_iff`: when the rules of an output are read back.
-/
import Mathlib.Data.List.Induction
import ShaderBuild.Artifact
import ShaderBuild.Proofs.Text.Basic

namespace ShaderBuild

namespace Make

/-! ## Reading rules -/

/-- The end of a line. -/
def lineFeed : CodePoint := '\n'

/-- What a code point, or two of them, means in a rule. -/
inductive Mark where
  /-- A code point of a path. -/
  | point (c : CodePoint)
  | space
  | colon
  | lineEnd
  /-- What starts a comment or names a variable. -/
  | other (c : CodePoint)
  deriving DecidableEq

/-- What a code point means by itself. -/
def alone (c : CodePoint) : Mark :=
  if c = ' ' then .space
  else if c = ':' then .colon
  else if c = lineFeed then .lineEnd
  else if c = '#' ∨ c = '$' then .other c
  else .point c

/-- What two code points mean together, if they do. -/
def paired? (c d : CodePoint) : Option Mark :=
  if c = '\\' then
    if d = ' ' ∨ d = '#' ∨ d = ':' then some (.point d)
    else if d = lineFeed then some .space
    else none
  else if c = '$' ∧ d = '$' then some (.point d)
  else none

/-- What a text means. -/
def marks : Text → List Mark
  | [] => []
  | [c] => [alone c]
  | c :: d :: t => match paired? c d with
    | some m => m :: marks t
    | none => alone c :: marks (d :: t)

/-- A rule: what is made, and what it is made from. -/
structure Rule where
  target : Text
  prerequisites : List Text
  deriving DecidableEq

/-- The code point that a mark stands for. -/
def Mark.point? : Mark → Option CodePoint
  | point c => some c
  | space | colon | lineEnd | other _ => none

/-- The path that marks spell, if nothing else is among them. -/
def path? (ms : List Mark) : Option Text := ms.mapM Mark.point?

/-- The words between spaces. -/
def wordsOf (ms : List Mark) : List (List Mark) := (ms.splitOn .space).filter (· ≠ [])

/-- The rule of a line: what is before its colon, and the words behind it. -/
def rule? (line : List Mark) : Option Rule :=
  match line.splitOn .colon with
  | [before, behind] => do
    let target ← path? before
    let prerequisites ← (wordsOf behind).mapM path?
    return ⟨target, prerequisites⟩
  | _ => none

/-- The rules of a text, one for each line with something in it. -/
def read (t : Text) : Option (List Rule) :=
  (((marks t).splitOn .lineEnd).filter (· ≠ [])).mapM rule?

/-! ## What is written -/

variable {c d : CodePoint} {p t rest : Text}

/-- A path that a rule can hold: one without control characters, backslashes and colons. -/
def IsPlain (p : Text) : Prop := ∀ c ∈ p, 32 ≤ c.val ∧ c ≠ '\\' ∧ c ≠ ':'

instance : DecidablePred IsPlain := fun p =>
  inferInstanceAs (Decidable (∀ c ∈ p, 32 ≤ c.val ∧ c ≠ '\\' ∧ c ≠ ':'))

theorem marks_cons (hb : c ≠ '\\') (hd : c ≠ '$') (rest : Text) :
    marks (c :: rest) = alone c :: marks rest := by
  cases rest with
  | nil => rfl
  | cons d rest =>
    have none : paired? c d = none := by simp [paired?, hb, hd]
    rw [marks, none]

open BuildOutput in
theorem marks_escapePoint (h : 32 ≤ c.val ∧ c ≠ '\\' ∧ c ≠ ':') (rest : Text) :
    marks (escapePoint c ++ rest) = .point c :: marks rest := by
  obtain ⟨visible, unescaped, noColon⟩ := h
  unfold escapePoint
  split
  · subst c
    rfl
  split
  · subst c
    rfl
  split
  · subst c
    rfl
  rename_i noDollar noHash noSpace
  have noFeed : c ≠ lineFeed := by
    rintro rfl
    exact absurd visible (by decide)
  rw [List.singleton_append, marks_cons unescaped noDollar]
  simp [alone, noSpace, noColon, noFeed, noHash, noDollar]

open BuildOutput in
/-- A path is read as it was before it was written. -/
theorem marks_escapePath (h : IsPlain p) (rest : Text) :
    marks (escapePath p ++ rest) = p.map .point ++ marks rest := by
  induction p with
  | nil => rfl
  | cons c p ih =>
    obtain ⟨first, later⟩ := List.forall_mem_cons.1 h
    have split : escapePath (c :: p) = escapePoint c ++ escapePath p := List.flatMap_cons
    rw [split, List.append_assoc, marks_escapePoint first, ih later, List.map_cons,
      List.cons_append]

/-! ## Lines -/

theorem path?_map (p : Text) : path? (p.map .point) = some p := by
  have same : path? (p.map .point) = some (p.map id) := mapM_map_some fun _ _ => rfl
  rwa [List.map_id] at same

theorem splitOn_append_flatMap {α : Type} [BEq α] [LawfulBEq α] {x : α} {l : List α}
    {ls : List (List α)} (h : ∀ l' ∈ l :: ls, x ∉ l') :
    (l ++ ls.flatMap (x :: ·)).splitOn x = l :: ls := by
  induction ls generalizing l with
  | nil => rw [List.flatMap_nil, List.append_nil, List.splitOn_eq_singleton (h l (by simp))]
  | cons l' ls ih =>
    obtain ⟨first, later⟩ := List.forall_mem_cons.1 h
    rw [List.flatMap_cons, List.cons_append, List.splitOn_append_cons_self_of_not_mem first,
      ih later]

namespace Rule

/-- A rule whose paths can be written. -/
structure IsPlain (r : Rule) : Prop where
  target : Make.IsPlain r.target
  prerequisites : ∀ p ∈ r.prerequisites, Make.IsPlain p

/-- The line of a rule: the target and a colon, and each prerequisite behind a space. -/
def line (r : Rule) : Text :=
  BuildOutput.escapePath r.target ++ (':' : CodePoint) ::
    r.prerequisites.flatMap fun p => (' ' : CodePoint) :: BuildOutput.escapePath p

/-- What the line of a rule means. -/
def meaning (r : Rule) : List Mark :=
  r.target.map .point ++ .colon :: (r.prerequisites.map (·.map .point)).flatMap (.space :: ·)

variable {r : Rule} {m : Mark}

theorem line_concat (target : Text) (paths : List Text) (p : Text) (c : CodePoint) :
    (mk target (paths ++ [p ++ [c]])).line =
      (mk target (paths ++ [p])).line ++ BuildOutput.escapePoint c := by
  simp [line, BuildOutput.escapePath]

theorem marks_line (h : r.IsPlain) (rest : Text) :
    marks (r.line ++ rest) = r.meaning ++ marks rest := by
  have behind {paths : List Text} (hp : ∀ p ∈ paths, Make.IsPlain p) :
      marks ((paths.flatMap fun p => (' ' : CodePoint) :: BuildOutput.escapePath p) ++ rest) =
        (paths.map (·.map .point)).flatMap (.space :: ·) ++ marks rest := by
    induction paths with
    | nil => rfl
    | cons p paths ih =>
      obtain ⟨first, later⟩ := List.forall_mem_cons.1 hp
      rw [List.flatMap_cons, List.cons_append, List.cons_append, List.append_assoc,
        marks_cons (by decide) (by decide), marks_escapePath first, ih later, List.map_cons,
        List.flatMap_cons, List.append_assoc]
      rfl
  rw [line, List.append_assoc, marks_escapePath h.target, List.cons_append,
    marks_cons (by decide) (by decide), behind h.prerequisites, meaning, List.append_assoc]
  rfl

theorem notMem_map (h : m.point? = none) (p : Text) : m ∉ p.map .point := by
  intro hm
  obtain ⟨c, -, rfl⟩ := List.mem_map.1 hm
  cases h

theorem notMem_flatMap (h : m.point? = none) (hs : m ≠ .space) (paths : List Text) :
    m ∉ (paths.map (·.map .point)).flatMap (.space :: ·) := by
  intro hm
  obtain ⟨l, hl, hm⟩ := List.mem_flatMap.1 hm
  obtain ⟨p, -, rfl⟩ := List.mem_map.1 hl
  exact notMem_map h p ((List.mem_cons.1 hm).resolve_left hs)

theorem lineEnd_notMem_meaning (r : Rule) : .lineEnd ∉ r.meaning := by
  simp only [meaning, List.mem_append, List.mem_cons, not_or]
  exact ⟨notMem_map rfl _, nofun, notMem_flatMap (m := .lineEnd) rfl nofun _⟩

theorem wordsOf_flatMap {paths : List Text} (h : ∀ p ∈ paths, p ≠ []) :
    wordsOf ((paths.map (·.map .point)).flatMap (.space :: ·)) = paths.map (·.map .point) := by
  have split : ((paths.map (·.map .point)).flatMap (.space :: ·)).splitOn Mark.space =
      [] :: paths.map (·.map .point) := by
    refine splitOn_append_flatMap (l := []) fun l hl => ?_
    rcases List.mem_cons.1 hl with rfl | hl
    · exact List.not_mem_nil
    · obtain ⟨p, -, rfl⟩ := List.mem_map.1 hl
      exact notMem_map rfl p
  rw [wordsOf, split, List.filter_cons_of_neg (by simp), List.filter_eq_self]
  intro l hl
  obtain ⟨p, hp, rfl⟩ := List.mem_map.1 hl
  simpa using h p hp

/-- A rule is read from what its line means. -/
theorem rule?_meaning (h : ∀ p ∈ r.prerequisites, p ≠ []) : rule? r.meaning = some r := by
  have paths : (r.prerequisites.map (·.map .point)).mapM path? = some r.prerequisites := by
    rw [mapM_map_some (h := id) fun p _ => path?_map p, List.map_id]
  rw [rule?, meaning, List.splitOn_append_cons_self_of_not_mem (notMem_map rfl _),
    List.splitOn_eq_singleton (notMem_flatMap (m := .colon) rfl nofun _)]
  dsimp only
  rw [path?_map, wordsOf_flatMap h, paths]
  rfl

end Rule

theorem read_append {r : Rule} (h : r.IsPlain) (some : ∀ p ∈ r.prerequisites, p ≠ [])
    (rest : Text) :
    read (r.line ++ lineFeed :: rest) = (read rest).map (r :: ·) := by
  have meant : r.meaning ≠ [] := by simp [Rule.meaning]
  have ends : marks (lineFeed :: rest) = .lineEnd :: marks rest :=
    marks_cons (by decide) (by decide) rest
  rw [read, Rule.marks_line h, ends,
    List.splitOn_append_cons_self_of_not_mem r.lineEnd_notMem_meaning,
    List.filter_cons_of_pos (by simpa using meant), List.mapM_cons, Rule.rule?_meaning some]
  change (read rest).bind _ = _
  cases read rest <;> rfl

/-- The lines of rules are read as these. -/
theorem read_lines {rules : List Rule}
    (h : ∀ r ∈ rules, r.IsPlain ∧ ∀ p ∈ r.prerequisites, p ≠ []) :
    read (rules.flatMap fun r => r.line ++ [lineFeed]) = some rules := by
  induction rules with
  | nil => rfl
  | cons r rules ih =>
    obtain ⟨first, later⟩ := List.forall_mem_cons.1 h
    rw [List.flatMap_cons, List.append_assoc, List.singleton_append,
      read_append first.1 first.2, ih later]
    rfl

/-! ## What is lost -/

/-- What stands for itself among marks. -/
def points (ms : List Mark) : Text := ms.flatMap fun m => m.point?.toList

theorem points_cons (m : Mark) (ms : List Mark) :
    points (m :: ms) = m.point?.toList ++ points ms := rfl

theorem points_append (ms ms' : List Mark) : points (ms ++ ms') = points ms ++ points ms' :=
  List.flatMap_append

/-- A separator that stands for nothing can be left out. -/
theorem points_splitOn {m : Mark} (h : m.point? = none) (ms : List Mark) :
    (ms.splitOn m).flatMap points = points ms := by
  have joined (mss : List (List Mark)) :
      points ([m].intercalate mss) = mss.flatMap points := by
    induction mss with
    | nil => rfl
    | cons ms mss ih =>
      cases mss with
      | nil => simp [List.intercalate]
      | cons ms' mss =>
        rw [List.intercalate_cons_cons, points_append, points_append, ih, points_cons, h]
        simp [points]
  rw [← joined, List.intercalate_splitOn]

/-- What is empty can be left out. -/
theorem points_filter (mss : List (List Mark)) :
    (mss.filter (· ≠ [])).flatMap points = mss.flatMap points := by
  induction mss with
  | nil => rfl
  | cons ms mss ih =>
    by_cases h : ms = []
    · subst h
      rw [List.filter_cons_of_neg (by simp), ih]
      rfl
    · rw [List.filter_cons_of_pos (by simpa using h), List.flatMap_cons, ih, List.flatMap_cons]

theorem points_of_path? {ms : List Mark} {p : Text} (h : path? ms = some p) : points ms = p := by
  induction ms generalizing p with
  | nil =>
    cases h
    rfl
  | cons m ms ih =>
    simp only [path?, List.mapM_cons, Option.bind_eq_bind, Option.bind_eq_some_iff] at h
    obtain ⟨c, hc, p, hp, h⟩ := h
    cases h
    rw [points_cons, hc, ih hp]
    rfl

theorem points_of_mapM {α : Type} {read? : List Mark → Option α} {written : α → Text}
    (one : ∀ ms a, read? ms = some a → points ms = written a) {mss : List (List Mark)}
    {as : List α} (h : mss.mapM read? = some as) : mss.flatMap points = as.flatMap written := by
  induction mss generalizing as with
  | nil =>
    cases h
    rfl
  | cons ms mss ih =>
    simp only [List.mapM_cons, Option.bind_eq_bind, Option.bind_eq_some_iff] at h
    obtain ⟨a, ha, as, has, h⟩ := h
    cases h
    rw [List.flatMap_cons, one _ _ ha, ih has, List.flatMap_cons]

/-- The code points of a rule. -/
def Rule.points (r : Rule) : Text := r.target ++ r.prerequisites.flatten

theorem points_of_rule? {ms : List Mark} {r : Rule} (h : rule? ms = some r) :
    points ms = r.points := by
  unfold rule? at h
  split at h
  · rename_i before behind parts
    simp only [Option.bind_eq_bind, Option.bind_eq_some_iff] at h
    obtain ⟨target, htarget, paths, hpaths, h⟩ := h
    cases h
    have words : points behind = paths.flatMap id := by
      rw [← points_splitOn (m := .space) rfl, ← points_filter]
      exact points_of_mapM (fun _ _ => points_of_path?) hpaths
    rw [← points_splitOn (m := .colon) rfl, parts, List.flatMap_cons, List.flatMap_cons,
      points_of_path? htarget, words]
    simp [Rule.points]
  · cases h

/-- Everything that stands for itself comes up in the rules that are read. -/
theorem points_of_read {rules : List Rule} (h : read t = some rules) :
    points (marks t) = rules.flatMap Rule.points := by
  rw [← points_splitOn (m := .lineEnd) rfl, ← points_filter]
  exact points_of_mapM (fun _ _ => points_of_rule?) h

/-- How many code points stand for themselves. -/
def size (t : Text) : Nat := (points (marks t)).length

theorem size_of_marks {m : Mark} (h : marks t = m :: marks rest) :
    size t = m.point?.toList.length + size rest := by
  rw [size, h, points_cons, List.length_append, size]

theorem size_lineFeed (rest : Text) : size (lineFeed :: rest) = size rest := by
  rw [size_of_marks (marks_cons (by decide) (by decide) rest)]
  exact Nat.zero_add _

theorem size_of_paired {m : Mark} (h : paired? c d = some m) (t : Text) :
    size (c :: d :: t) = m.point?.toList.length + size t :=
  size_of_marks (by rw [marks, h])

theorem size_of_alone (h : paired? c d = none) (t : Text) :
    size (c :: d :: t) = (alone c).point?.toList.length + size (d :: t) :=
  size_of_marks (by rw [marks, h])

/-- A blank that is cut off at the end of a line uncovers nothing that stands for itself. -/
theorem size_concat_blank (hc : c.isBlank = true) (t rest : Text) :
    size (t ++ lineFeed :: rest) ≤ size (t ++ c :: lineFeed :: rest) := by
  have unescaped : c ≠ '\\' ∧ c ≠ '$' := by
    constructor <;> rintro rfl <;> exact absurd hc (by decide)
  have blank : size (c :: lineFeed :: rest) = (alone c).point?.toList.length + size rest := by
    rw [size_of_marks (marks_cons unescaped.1 unescaped.2 _), size_lineFeed]
  induction t using marks.induct with
  | case1 =>
    rw [List.nil_append, List.nil_append, size_lineFeed, blank]
    exact Nat.le_add_left _ _
  | case2 d =>
    rw [List.singleton_append, List.singleton_append]
    by_cases hd : d = '\\'
    · -- the line feed is escaped in place of the blank
      subst hd
      have joined : size (('\\' : CodePoint) :: lineFeed :: rest) = 0 + size rest :=
        size_of_paired (m := .space) rfl rest
      cases hp : paired? '\\' c with
      | some m =>
        rw [joined, size_of_paired hp, size_lineFeed]
        omega
      | none =>
        rw [joined, size_of_alone hp, blank]
        omega
    · have single (e : CodePoint) (he : e ≠ '$') : paired? d e = none := by simp [paired?, hd, he]
      rw [size_of_alone (single _ (by decide)), size_of_alone (single _ unescaped.2), size_lineFeed,
        blank]
      omega
  | case3 d e t m hm ih =>
    simp only [List.cons_append, size_of_paired hm]
    exact Nat.add_le_add_left ih _
  | case4 d e t hn ih =>
    simp only [List.cons_append, size_of_alone hn] at ih ⊢
    exact Nat.add_le_add_left ih _

/-- What is cut off at the end of a line is lost, and nothing comes in its place. -/
theorem size_stripEnd (t rest : Text) :
    size (Text.stripEnd CodePoint.isBlank t ++ lineFeed :: rest) ≤
      size (t ++ lineFeed :: rest) := by
  induction t using List.reverseRecOn with
  | nil => exact Nat.le_refl _
  | append_singleton t c ih =>
    rw [Text.stripEnd_concat]
    split
    · rename_i hc
      rw [List.append_assoc, List.singleton_append]
      exact Nat.le_trans ih (size_concat_blank hc t rest)
    · exact Nat.le_refl _

theorem size_line {r : Rule} (h : r.IsPlain) (rest : Text) :
    size (r.line ++ rest) = (points r.meaning).length + size rest := by
  rw [size, Rule.marks_line h, points_append, List.length_append, size]

open BuildOutput in
/-- A blank at the end of the last path is lost when white space is cut off there. -/
theorem size_stripEnd_lt {r : Rule} {paths : List Text} (hr : r.prerequisites = paths ++ [p ++ [c]])
    (h : r.IsPlain) (hc : c.isBlank = true) (rest : Text) :
    size (Text.stripEnd CodePoint.isBlank r.line ++ lineFeed :: rest) <
      size (r.line ++ lineFeed :: rest) := by
  obtain ⟨target, prerequisites⟩ := r
  obtain rfl : prerequisites = _ := hr
  -- the rule without the blank, which is written in front of it
  let shorter : Rule := ⟨target, paths ++ [p]⟩
  obtain ⟨before, last⟩ := List.forall_mem_append.1 h.prerequisites
  obtain ⟨hp, hcPlain⟩ := List.forall_mem_append.1 (last _ (List.mem_singleton_self _))
  have plain : shorter.IsPlain :=
    ⟨h.target, List.forall_mem_append.2 ⟨before, List.forall_mem_singleton.2 hp⟩⟩
  have point : size (escapePoint c ++ lineFeed :: rest) = 1 + size rest := by
    rw [size_of_marks (marks_escapePoint (hcPlain c (List.mem_singleton_self c)) _), size_lineFeed]
    rfl
  have line : (Rule.mk target (paths ++ [p ++ [c]])).line = shorter.line ++ escapePoint c :=
    Rule.line_concat target paths p c
  rw [line, List.append_assoc, size_line plain, point]
  by_cases hspace : c = ' '
  · subst hspace
    have escaped : size (('\\' : CodePoint) :: lineFeed :: rest) = 0 + size rest :=
      size_of_paired (m := .space) rfl rest
    have cut : Text.stripEnd CodePoint.isBlank (shorter.line ++ escapePoint ' ') =
        shorter.line ++ [('\\' : CodePoint)] := by
      have split : escapePoint ' ' = [('\\' : CodePoint)] ++ [(' ' : CodePoint)] := rfl
      rw [split, ← List.append_assoc, Text.stripEnd_concat, if_pos hc, Text.stripEnd_concat,
        if_neg (by decide)]
    rw [cut, List.append_assoc, List.singleton_append, size_line plain, escaped]
    omega
  · have single : escapePoint c = [c] := by
      have other : c ≠ '$' ∧ c ≠ '#' := by
        constructor <;> rintro rfl <;> exact absurd hc (by decide)
      simp [escapePoint, other, hspace]
    have left := size_stripEnd shorter.line rest
    rw [size_line plain, size_lineFeed] at left
    rw [single, Text.stripEnd_concat, if_pos hc]
    omega

end Make

/-! ## Rules of an output -/

namespace BuildOutput

open Make

/-- What the rules of an output are meant to list: the target with the sources, and each source
    without any. -/
def rules (o : BuildOutput) (target : Text) (phony : Bool) : List Rule :=
  ⟨target, o.sources⟩ :: if phony then o.sources.map fun p => ⟨p, []⟩ else []

/-- White space at the end of the last path. -/
def EndsInBlank (sources : List Text) : Prop :=
  ∃ p c, sources.getLast? = some p ∧ p.getLast? = some c ∧ c.isBlank = true

theorem cons_intercalate {α : Type} (x : α) (ls : List (List α)) (h : ls ≠ []) :
    x :: [x].intercalate ls = ls.flatMap (x :: ·) := by
  induction ls with
  | nil => exact absurd rfl h
  | cons l ls ih =>
    cases ls with
    | nil => simp [List.intercalate]
    | cons l' ls =>
      rw [List.intercalate_cons_cons, List.append_assoc, List.singleton_append,
        ih (List.cons_ne_nil _ _)]
      rfl

/-- The first line is that of its rule, without white space at the end. -/
theorem dependencyLine_eq (o : BuildOutput) (target : Text) : o.dependencyLine target =
    Text.stripEnd CodePoint.isBlank (Rule.mk target o.sources).line := by
  have separator : text ": " = [(':' : CodePoint)] ++ [(' ' : CodePoint)] := rfl
  by_cases hs : o.sources = []
  · rw [dependencyLine, hs, List.map_nil, List.intercalate_nil, List.append_nil, separator,
      ← List.append_assoc, Text.stripEnd_concat, if_pos (by decide)]
    rfl
  · have listed := cons_intercalate (' ' : CodePoint) (o.sources.map escapePath)
      (mt List.map_eq_nil_iff.1 hs)
    rw [List.flatMap_map] at listed
    rw [dependencyLine, separator, Rule.line, ← listed, List.append_assoc]
    simp [text]

theorem toDepfile_eq (o : BuildOutput) (target : Text) (phony : Bool) :
    o.toDepfile target phony =
      Text.stripEnd CodePoint.isBlank (Rule.mk target o.sources).line ++ Make.lineFeed ::
        ((if phony then o.sources.map fun p => Rule.mk p [] else []).flatMap
          fun r => r.line ++ [Make.lineFeed]) := by
  rw [toDepfile, dependencyLine_eq, List.flatMap_cons, List.append_assoc]
  cases phony with
  | false => rfl
  | true =>
    rw [if_pos rfl, if_pos rfl, List.flatMap_map, List.flatMap_map]
    rfl

theorem escapePoint_eq_concat (c : CodePoint) : ∃ e, escapePoint c = e ++ [c] := by
  unfold escapePoint
  split
  · subst c
    exact ⟨['$'], rfl⟩
  split
  · subst c
    exact ⟨['\\'], rfl⟩
  split
  · subst c
    exact ⟨['\\'], rfl⟩
  · exact ⟨[], rfl⟩

/-- Nothing is cut off at the end if the last path does not end in white space. -/
theorem stripEnd_line {sources : List Text} (target : Text) (some : ∀ p ∈ sources, p ≠ [])
    (h : ¬ EndsInBlank sources) :
    Text.stripEnd CodePoint.isBlank (Rule.mk target sources).line =
      (Rule.mk target sources).line := by
  rcases List.eq_nil_or_concat sources with rfl | ⟨paths, last, rfl⟩
  · rw [Rule.line, List.flatMap_nil, Text.stripEnd_concat, if_neg (by decide)]
  · rcases List.eq_nil_or_concat last with rfl | ⟨p, c, rfl⟩
    · exact absurd rfl (some [] (by simp))
    · rw [List.concat_eq_append, List.concat_eq_append] at h ⊢
      have kept : ¬ c.isBlank = true := fun hc =>
        h ⟨p ++ [c], c, List.getLast?_concat, List.getLast?_concat, hc⟩
      obtain ⟨e, he⟩ := escapePoint_eq_concat c
      rw [Rule.line_concat, he, ← List.append_assoc, Text.stripEnd_concat, if_neg kept]

/-- **The rules of an output are read back, unless white space is lost at the end.**

    A target and paths of any code points are written as rules, other than control characters,
    backslashes and colons.  The rules that `make` reads from them are those that are meant, with
    the paths in their order and as often as they are listed, if the last path does not end in white
    space.  If it does, other rules are read, or none, with `phony` as without. -/
theorem depfile_read_iff (o : BuildOutput) (target : Text) (phony : Bool)
    (plain : ∀ p ∈ target :: o.sources, IsPlain p) (some : ∀ p ∈ o.sources, p ≠ []) :
    read (o.toDepfile target phony) = .some (o.rules target phony) ↔ ¬ EndsInBlank o.sources := by
  obtain ⟨plainTarget, plainSources⟩ := List.forall_mem_cons.1 plain
  let others : List Rule := if phony then o.sources.map fun p => ⟨p, []⟩ else []
  let rest := others.flatMap fun r => r.line ++ [Make.lineFeed]
  -- with all of the first line, the rules are read back
  have whole : read ((Rule.mk target o.sources).line ++ Make.lineFeed :: rest) =
      .some (o.rules target phony) := by
    have lines : ∀ r ∈ o.rules target phony, r.IsPlain ∧ ∀ p ∈ r.prerequisites, p ≠ [] := by
      refine List.forall_mem_cons.2 ⟨⟨⟨plainTarget, plainSources⟩, some⟩, ?_⟩
      cases phony with
      | false => exact List.forall_mem_nil _
      | true =>
        intro r hr
        obtain ⟨p, hp, rfl⟩ := List.mem_map.1 hr
        exact ⟨⟨plainSources p hp, List.forall_mem_nil _⟩, List.forall_mem_nil _⟩
    have back := read_lines lines
    rw [rules, List.flatMap_cons, List.append_assoc] at back
    exact back
  have written : o.toDepfile target phony =
      Text.stripEnd CodePoint.isBlank (Rule.mk target o.sources).line ++ Make.lineFeed :: rest :=
    o.toDepfile_eq target phony
  rw [written]
  constructor
  · rintro back ⟨p, c, hp, hc, blank⟩
    obtain ⟨paths, hpaths⟩ := List.getLast?_eq_some_iff.1 hp
    obtain ⟨p, rfl⟩ := List.getLast?_eq_some_iff.1 hc
    have lost := size_stripEnd_lt (r := ⟨target, o.sources⟩) hpaths ⟨plainTarget, plainSources⟩
      blank rest
    rw [size, points_of_read back, size, points_of_read whole] at lost
    exact Nat.lt_irrefl _ lost
  · intro ends
    rw [stripEnd_line target some ends, whole]

/-- A target with a space, and paths with all that is written in another way, one of them twice. -/
theorem depfile_read_iff_escaped :
    let o : BuildOutput := ⟨["/a b", "/$x#1", "/a b", " "].map text ++ [text "/c"], []⟩
    (∀ p ∈ text "o ut" :: o.sources, IsPlain p) ∧ (∀ p ∈ o.sources, p ≠ []) ∧
      ¬ EndsInBlank o.sources ∧
      read (o.toDepfile (text "o ut") true) = some (o.rules (text "o ut") true) := by
  intro o
  have plain : ∀ p ∈ text "o ut" :: o.sources, IsPlain p := by decide +kernel
  have some : ∀ p ∈ o.sources, p ≠ [] := by decide +kernel
  have ends : ¬ EndsInBlank o.sources := by
    rintro ⟨p, c, hp, hc, blank⟩
    cases hp
    cases hc
    exact absurd blank (by decide)
  exact ⟨plain, some, ends, (depfile_read_iff o (text "o ut") true plain some).2 ends⟩

/-- A path that ends in a space is read without it, and if another rule comes behind it, no rule is
    read at all. -/
theorem depfile_read_iff_space :
    let o : BuildOutput := ⟨[text "a "], []⟩
    (∀ p ∈ text "t" :: o.sources, IsPlain p) ∧ (∀ p ∈ o.sources, p ≠ []) ∧
      o.toDepfile (text "t") false = text "t: a\\\n" ∧
      read (o.toDepfile (text "t") false) = some [⟨text "t", [text "a"]⟩] ∧
      read (o.toDepfile (text "t") false) ≠ some (o.rules (text "t") false) ∧
      read (o.toDepfile (text "t") true) = none ∧
      read (text "t: a\\ \n") = some (o.rules (text "t") false) := by
  decide +kernel

end BuildOutput

end ShaderBuild
