/-
  Runs of the command that changes the version.

  The command accepts numeric versions, but reads only those that are decimal.  As long as decimal
  versions are asked for, every run leaves a file that the next one reads; the first version that is
  numeric without being decimal stops all runs that follow.

  * `IsRelease`, `IsDecimal`: the versions that are accepted, and those that are read;
  * `VersionFile.Frame`: what stands around the version in a file, and `VersionFile.Frame.program`:
    what stands there in the file of this program;
  * `VersionFile.run_of_isDecimal`, `VersionFile.run_of_not_isDecimal`: one run;
  * `VersionFile.after_file`: the file after any number of runs;
  * `VersionFile.runs_of_command`: all of it.
-/
import Mathlib.Data.List.Basic
import ShaderBuild.Proofs.Text.Basic
import ShaderBuild.Version.Bump

namespace ShaderBuild

namespace Version

variable {v : Text}

/-! ## Versions -/

/-- What stands between the parts of a version. -/
def point : CodePoint := '.'

/-- Three parts as a version. -/
def dotted (major minor patch : Text) : Text := major ++ point :: (minor ++ point :: patch)

/-- A version of three numeric parts. -/
def IsRelease (v : Text) : Prop :=
  ∃ major minor patch, v = dotted major minor patch ∧
    isNumeric major ∧ isNumeric minor ∧ isNumeric patch

/-- A version whose parts are decimal numerals. -/
def IsDecimal (v : Text) : Prop := ∀ part ∈ Text.splitOn point v, Numeral.IsDecimal part

instance : DecidablePred IsDecimal := fun v =>
  inferInstanceAs (Decidable (∀ part ∈ Text.splitOn point v, Numeral.IsDecimal part))

theorem isNumeric_iff {t : Text} : isNumeric t ↔ t ≠ [] ∧ ∀ c ∈ t, c.isNumeric := by
  simp [isNumeric]

theorem notMem_of_isNumeric {t : Text} (h : isNumeric t) {c : CodePoint}
    (hc : c.isNumeric = false) : c ∉ t := by
  intro member
  have numeric := (isNumeric_iff.1 h).2 c member
  rw [hc] at numeric
  cases numeric

theorem splitOn_dotted {major minor patch : Text} (hmajor : isNumeric major)
    (hminor : isNumeric minor) (hpatch : isNumeric patch) :
    Text.splitOn point (dotted major minor patch) = [major, minor, patch] := by
  have other : point.isNumeric = false := by decide
  rw [dotted, Text.splitOn_append_cons (notMem_of_isNumeric hmajor other),
    Text.splitOn_append_cons (notMem_of_isNumeric hminor other),
    Text.splitOn_of_notMem (notMem_of_isNumeric hpatch other)]

namespace IsRelease

/-- The code points of a release are numeric, but for the points. -/
theorem notMem (h : IsRelease v) {c : CodePoint} (hc : c.isNumeric = false) (hp : c ≠ point) :
    c ∉ v := by
  obtain ⟨major, minor, patch, rfl, hmajor, hminor, hpatch⟩ := h
  simp [dotted, notMem_of_isNumeric hmajor hc, notMem_of_isNumeric hminor hc,
    notMem_of_isNumeric hpatch hc, hp]

/-- A release starts with something numeric. -/
theorem head (h : IsRelease v) : ∃ c, v.head? = some c ∧ c.isNumeric := by
  obtain ⟨major, minor, patch, rfl, hmajor, -, -⟩ := h
  obtain ⟨nonempty, numeric⟩ := isNumeric_iff.1 hmajor
  obtain ⟨c, rest, rfl⟩ := List.exists_cons_of_ne_nil nonempty
  exact ⟨c, rfl, numeric c List.mem_cons_self⟩

end IsRelease

/-- The versions that the command accepts. -/
theorem refusal?_eq_none_iff : VersionFile.refusal? v = none ↔ IsRelease v := by
  constructor
  · intro h
    unfold VersionFile.refusal? at h
    split at h
    · cases h
    · rename_i three
      split at h
      · rename_i numeric
        obtain ⟨major, minor, patch, pieces⟩ := List.length_eq_three.1 (not_not.1 three)
        rw [pieces] at numeric
        refine ⟨major, minor, patch, ?_, by simpa using numeric⟩
        have whole : List.intercalate [point] (Text.splitOn point v) = v := by
          rw [Text.splitOn_eq_splitOn, List.intercalate_splitOn]
        rw [point, pieces] at whole
        simpa [dotted, point] using whole.symm
      · cases h
  · rintro ⟨major, minor, patch, rfl, hmajor, hminor, hpatch⟩
    have pieces := splitOn_dotted hmajor hminor hpatch
    rw [point] at pieces
    rw [VersionFile.refusal?, pieces]
    simp [hmajor, hminor, hpatch]

/-! ## Reading versions -/

theorem withoutLabels_of_isRelease (h : IsRelease v) : withoutLabels v = v := by
  rw [withoutLabels, List.takeWhile_eq_self_iff]
  intro c hc
  rw [decide_eq_true_iff]
  rintro rfl
  exact h.notMem (by decide) (by decide) hc

/-- Numeric parts are read if they are decimal, and one is at fault if it is not. -/
theorem mapM_ofText {ts : List Text} (h : ∀ t ∈ ts, isNumeric t) :
    (∀ t ∈ ts, Numeral.IsDecimal t) ∧ (∃ ps, ts.mapM Part.ofText = .ok ps) ∨
      (¬ ∀ t ∈ ts, Numeral.IsDecimal t) ∧
        ∃ f, ts.mapM Part.ofText = .error (.value (.numeral f)) := by
  induction ts with
  | nil => exact .inl ⟨List.forall_mem_nil _, [], rfl⟩
  | cons t ts ih =>
    obtain ⟨numeric, h⟩ := List.forall_mem_cons.1 h
    have reads := Numeral.read_eq_ok_iff (isNumeric_iff.1 numeric).1
    rw [List.forall_mem_cons, ← reads, List.mapM_cons, Part.ofText, if_pos numeric]
    cases Numeral.read t with
    | error f => exact .inr ⟨fun ⟨read, _⟩ => (by cases read.choose_spec), f, rfl⟩
    | ok n =>
      rcases ih h with ⟨all, ps, later⟩ | ⟨other, f, later⟩
      · exact .inl ⟨⟨⟨n, rfl⟩, all⟩, .number n :: ps, by rw [later]; rfl⟩
      · exact .inr ⟨fun all => other all.2, f, by rw [later]; rfl⟩

/-- The releases that are read are the decimal ones. -/
theorem parts_of_isRelease (h : IsRelease v) :
    IsDecimal v ∧ (∃ ps, parts v = .ok ps) ∨
      ¬ IsDecimal v ∧ ∃ f, parts v = .error (.value (.numeral f)) := by
  rw [parts, withoutLabels_of_isRelease h]
  obtain ⟨major, minor, patch, rfl, hmajor, hminor, hpatch⟩ := h
  refine mapM_ofText ?_
  rw [splitOn_dotted hmajor hminor hpatch]
  simp [hmajor, hminor, hpatch]

end Version

namespace VersionFile

open Version

/-! ## The defining line -/

/-- What ends a line. -/
def feed : CodePoint := '\n'

/-- What stands on both sides of the version. -/
def mark : CodePoint := '"'

variable {line rest t v : Text}

theorem definition_of_prefix (h : opening <+: t.takeWhile (· ≠ feed)) :
    definition ⟨t⟩ = t.takeWhile (· ≠ feed) := by
  have first := Text.head?_splitOn feed t
  unfold definition
  rw [feed] at first
  cases hs : Text.splitOn '\n' t with
  | nil => simp [hs] at first
  | cons line lines =>
    rw [hs, List.head?_cons, Option.some.injEq] at first
    rw [List.find?_cons_of_pos]
    · exact first
    · rw [first]
      exact List.isPrefixOf_iff_prefix.2 h

/-- Another line is passed over. -/
theorem definition_append (ended : feed ∉ line) (other : ¬ opening <+: line) :
    definition ⟨line ++ feed :: rest⟩ = definition ⟨rest⟩ := by
  have pieces := Text.splitOn_append_cons ended rest
  rw [feed] at pieces
  unfold definition
  rw [feed, pieces, List.find?_cons_of_neg]
  rwa [List.isPrefixOf_iff_prefix]

/-! ## Files -/

/-- What stands around the version in a file: lines above, of which none is taken for the defining
    line and none has anything numeric, and the rest behind the closing quotation mark. -/
structure Frame where
  above : List Text
  below : Text
  plain : ∀ line ∈ above, feed ∉ line ∧ ¬ opening <+: line ∧ ∀ c ∈ line, c.isNumeric = false

namespace Frame

/-- The frame in the file of this program, of which the lines above are these. -/
def program (below : Text) : Frame where
  above := [
    "\"\"\"",
    "Version string management, using a hard-coded version string for",
    "simplicity and compatibility, while adding git info at runtime when",
    "running from a repository.",
    "",
    "On a new release, just update the __version__ (or run",
    "``python vkshader/_version.py bump X.Y.Z``).",
    "\"\"\"",
    "",
    "import sys",
    "import logging",
    "import subprocess",
    "from pathlib import Path",
    "",
    "# This is the base version number, to be bumped before each release.",
    "# The build system detects this definition when building a distribution."].map text
  below := feed :: below
  plain := by decide +kernel

variable (frame : Frame)

/-- The lines above, each with its end. -/
def head : Text := frame.above.flatMap (· ++ [feed])

/-- All that stands before the version. -/
def before : Text := frame.head ++ (opening ++ [mark])

/-- The file with a version in it. -/
def file (v : Text) : VersionFile := ⟨frame.before ++ (v ++ mark :: frame.below)⟩

theorem isNumeric_before : ∀ c ∈ frame.before, c.isNumeric = false := by
  have mark : ∀ c ∈ opening ++ [mark], c.isNumeric = false := by decide
  have feed : feed.isNumeric = false := by decide
  intro c hc
  rcases List.mem_append.1 hc with hc | hc
  · obtain ⟨line, hline, hc⟩ := List.mem_flatMap.1 hc
    rcases List.mem_append.1 hc with hc | hc
    · exact (frame.plain line hline).2.2 c hc
    · rw [List.mem_singleton.1 hc, feed]
  · exact mark c hc

theorem definition_head (rest : Text) :
    definition ⟨frame.head ++ rest⟩ = definition ⟨rest⟩ := by
  obtain ⟨above, below, plain⟩ := frame
  unfold head
  dsimp only
  induction above with
  | nil => rfl
  | cons line above ih =>
    obtain ⟨⟨ended, other, -⟩, plain⟩ := List.forall_mem_cons.1 plain
    have later := ih plain
    simp only [List.flatMap_cons, List.append_assoc, List.cons_append, List.nil_append]
    rw [definition_append ended other, later]

theorem definition_file (h : IsRelease v) :
    (frame.file v).definition =
      (opening ++ [mark]) ++ (v ++ mark :: frame.below.takeWhile (· ≠ feed)) := by
  have unended : ∀ c ∈ opening ++ [mark] ++ v ++ [mark], decide (c ≠ feed) = true := by
    have start : feed ∉ opening ++ [mark] := by decide
    have inside : feed ∉ v := h.notMem (by decide) (by decide)
    have finish : feed ≠ mark := by decide
    intro c hc
    rw [decide_eq_true_iff]
    rintro rfl
    simp only [List.mem_append, List.mem_singleton] at hc start
    tauto
  have line : (opening ++ [mark] ++ v ++ [mark] ++ frame.below).takeWhile (· ≠ feed) =
      opening ++ [mark] ++ v ++ [mark] ++ frame.below.takeWhile (· ≠ feed) :=
    List.takeWhile_append_of_pos unended
  have contents : frame.file v =
      ⟨frame.head ++ (opening ++ [mark] ++ v ++ [mark] ++ frame.below)⟩ := by
    simp [file, before]
  rw [contents, definition_head, definition_of_prefix]
  · rw [line]
    simp
  · rw [line]
    simp

/-- The version of the file is the one that is put in. -/
theorem version_file (h : IsRelease v) : (frame.file v).version = v := by
  have unquoted : ∀ c ∈ v, decide (c ≠ mark) = true := by
    intro c hc
    rw [decide_eq_true_iff]
    rintro rfl
    exact h.notMem (by decide) (by decide) hc
  have dropped : opening.length + 1 = (opening ++ [mark]).length := by simp
  rw [version, definition_file frame h, dropped, List.drop_left, ← mark,
    List.takeWhile_append_of_pos unquoted]
  simp

/-- A bump puts the new version where the old one was. -/
theorem bump_file (h : IsRelease v) (new : Text) : (frame.file v).bump new = frame.file new := by
  obtain ⟨c, first, numeric⟩ := h.head
  have fresh : c ∉ frame.before := by
    intro member
    rw [frame.isNumeric_before c member] at numeric
    cases numeric
  rw [bump, frame.version_file h, file, Text.replaceFirst_append first fresh, file]

end Frame

/-! ## One run -/

/-- The version that is meant by an argument. -/
def meant (argument : Text) : Text := Text.stripStart (fun c : CodePoint => c = 'v') argument

/-- The version that a run changes to, if it asks for one that is accepted. -/
def bumped? : List Text → Option Text
  | [name, argument] =>
    if name = text "bump" ∧ refusal? (meant argument) = none then some (meant argument) else none
  | _ => none

theorem isRelease_of_bumped? {arguments : List Text} {new : Text}
    (h : bumped? arguments = some new) : IsRelease new := by
  unfold bumped? at h
  split at h
  · split at h
    · rename_i accepted
      cases h
      exact refusal?_eq_none_iff.1 accepted.2
    · cases h
  · cases h

theorem bumped?_of_ne {name : Text} (h : name ≠ text "bump") (rest : List Text) :
    bumped? (name :: rest) = none := by
  unfold bumped?
  split
  · rename_i heq
    rw [List.cons.injEq] at heq
    rw [if_neg]
    rintro ⟨rfl, -⟩
    exact h heq.1
  · rfl

/-- The messages about the use of the command. -/
def usages : List String :=
  ["Expected a version number to bump to.", "Expected two dots in new version string.",
   "Expected only numbers in new version string."]

/-- The run ends well, or with a message about the use. -/
inductive Exit.IsOrderly : Exit → Prop
  | done : IsOrderly .done
  | usage {message} : message ∈ usages → IsOrderly (.usage message)

/-- Does the run ask for the version? -/
def asksVersion (arguments : List Text) : Prop :=
  arguments = [] ∨ arguments.head? = some (text "version")

/-- The version as it is printed. -/
def shown (v : Text) : Outcome := .say (project ++ text " v" ++ v)

variable (frame : Frame) (arguments : List Text)

theorem mem_usages_of_refusal? {message : String} (h : refusal? t = some message) :
    message ∈ usages := by
  unfold refusal? at h
  split at h
  · cases h
    simp [usages]
  · split at h
    · cases h
    · cases h
      simp [usages]

/-- A bump is accepted, or the file stays and there is a message. -/
theorem command_bump (h : IsRelease v) (rest : List Text) :
    ((frame.file v).command (text "bump" :: rest)).1.exit.IsOrderly ∧
      ((frame.file v).command (text "bump" :: rest)).2 =
        frame.file ((bumped? (text "bump" :: rest)).getD v) := by
  have other : text "bump" ≠ text "version" := by decide
  simp only [command, if_neg other, if_true]
  rcases rest with _ | ⟨argument, _ | ⟨surplus, rest⟩⟩
  · exact ⟨.usage (by simp [usages]), rfl⟩
  · dsimp only
    rw [← meant]
    split
    · rename_i message refused
      exact ⟨.usage (mem_usages_of_refusal? refused), by simp [bumped?, refused]⟩
    · rename_i accepted
      exact ⟨.done, by simp [bumped?, accepted, frame.bump_file h]⟩
  · exact ⟨.usage (by simp [usages]), rfl⟩

/-- What a command comes to: the file stays unless a bump is accepted, and the version is printed if
    it is asked for. -/
theorem command_file (h : IsRelease v) :
    ((frame.file v).command arguments).1.exit.IsOrderly ∧
      ((frame.file v).command arguments).2 = frame.file ((bumped? arguments).getD v) ∧
      (asksVersion arguments → ((frame.file v).command arguments).1 = shown v) := by
  have read := frame.version_file h
  rcases arguments with _ | ⟨name, rest⟩
  · exact ⟨.done, rfl, fun _ => by rw [command, read, shown]⟩
  have asks : asksVersion (name :: rest) ↔ name = text "version" := by simp [asksVersion]
  rw [asks]
  by_cases hversion : name = text "version"
  · have other : name ≠ text "bump" := by
      rw [hversion]
      decide
    simp only [command, if_pos hversion, bumped?_of_ne other, read]
    exact ⟨.done, rfl, fun _ => rfl⟩
  by_cases hbump : name = text "bump"
  · subst hbump
    obtain ⟨orderly, file⟩ := command_bump frame h rest
    exact ⟨orderly, file, fun asked => absurd asked hversion⟩
  · simp only [command, if_neg hversion, if_neg hbump, bumped?_of_ne hbump]
    exact ⟨.done, rfl, fun asked => absurd asked hversion⟩

/-- A run after a decimal version was put in. -/
theorem run_of_isDecimal (h : IsRelease v) (decimal : IsDecimal v) :
    (frame.file v).run arguments = (frame.file v).command arguments := by
  rcases parts_of_isRelease h with ⟨-, ps, hps⟩ | ⟨other, -⟩
  · rw [run, frame.version_file h, hps]
  · exact absurd decimal other

/-- A run after another numeric version was put in fails and does nothing. -/
theorem run_of_not_isDecimal (h : IsRelease v) (other : ¬ IsDecimal v) :
    ∃ f, (frame.file v).run arguments = (⟨.failed (.value (.numeral f)), []⟩, frame.file v) := by
  rcases parts_of_isRelease h with ⟨decimal, -⟩ | ⟨-, f, hf⟩
  · exact absurd decimal other
  · exact ⟨f, by rw [run, frame.version_file h, hf]⟩

/-! ## Many runs -/

/-- The version after a run.  A version that is not read stays for good. -/
def next (v : Text) (arguments : List Text) : Text :=
  if IsDecimal v then (bumped? arguments).getD v else v

/-- The version after runs. -/
def last (v : Text) (runs : List (List Text)) : Text := runs.foldl next v

/-- The file after runs. -/
def after (f : VersionFile) (runs : List (List Text)) : VersionFile :=
  runs.foldl (fun f arguments => (f.run arguments).2) f

theorem isRelease_next (h : IsRelease v) : IsRelease (next v arguments) := by
  unfold next
  split
  · cases hb : bumped? arguments with
    | none => exact h
    | some new => exact isRelease_of_bumped? hb
  · exact h

/-- A run puts the next version in. -/
theorem run_file (h : IsRelease v) :
    ((frame.file v).run arguments).2 = frame.file (next v arguments) := by
  by_cases decimal : IsDecimal v
  · rw [run_of_isDecimal frame arguments h decimal, (command_file frame arguments h).2.1, next,
      if_pos decimal]
  · obtain ⟨f, hf⟩ := run_of_not_isDecimal frame arguments h decimal
    rw [hf, next, if_neg decimal]

/-- Runs put the last version in. -/
theorem after_file (h : IsRelease v) (runs : List (List Text)) :
    after (frame.file v) runs = frame.file (last v runs) ∧ IsRelease (last v runs) := by
  induction runs generalizing v with
  | nil => exact ⟨rfl, h⟩
  | cons arguments runs ih =>
    rw [after, List.foldl_cons, run_file frame arguments h]
    exact ih (isRelease_next arguments h)

/-- As long as the versions are decimal, the last one that was accepted is there. -/
theorem last_of_isDecimal (h : IsDecimal v) {runs : List (List Text)}
    (decimal : ∀ new ∈ runs.filterMap bumped?, IsDecimal new) :
    last v runs = ((runs.filterMap bumped?).getLast?).getD v ∧ IsDecimal (last v runs) := by
  induction runs generalizing v with
  | nil => exact ⟨rfl, h⟩
  | cons arguments runs ih =>
    rw [last, List.foldl_cons, next, if_pos h]
    cases hb : bumped? arguments with
    | none =>
      rw [List.filterMap_cons_none hb] at decimal ⊢
      exact ih h decimal
    | some new =>
      rw [List.filterMap_cons_some hb, List.forall_mem_cons] at decimal
      obtain ⟨hlast, hdecimal⟩ := ih decimal.1 decimal.2
      refine ⟨?_, hdecimal⟩
      rw [List.filterMap_cons_some hb, List.getLast?_cons]
      exact hlast

/-- **Runs of the command.**

    However often the command was run, the file is as it was, but for the version in the defining
    line, which is the last that was accepted while the one before it could be read.  If it is
    decimal, the next run ends well or with a message about the use, changes the file by an accepted
    bump only, and prints the version if it is asked for.  If it is not, the next run fails, and so
    do all others.  That comes about only by a bump to such a version. -/
theorem runs_of_command (h : IsRelease v) (runs : List (List Text)) :
    let f := after (frame.file v) runs
    let latest := last v runs
    let outcome := f.run arguments
    f = frame.file latest ∧
      (IsDecimal latest →
        outcome.1.exit.IsOrderly ∧ outcome.2 = frame.file ((bumped? arguments).getD latest) ∧
          (asksVersion arguments → outcome.1 = shown latest)) ∧
      (¬ IsDecimal latest →
        ∃ fault, outcome = (⟨.failed (.value (.numeral fault)), []⟩, f)) ∧
      (IsDecimal v → (∀ new ∈ runs.filterMap bumped?, IsDecimal new) →
        latest = (runs.filterMap bumped?).getLast?.getD v ∧ IsDecimal latest) := by
  intro f latest outcome
  obtain ⟨hf, release⟩ := after_file frame h runs
  refine ⟨hf, fun decimal => ?_, fun other => ?_, fun decimal => last_of_isDecimal decimal⟩
  · have hrun : outcome = (frame.file latest).command arguments := by
      rw [← run_of_isDecimal frame arguments release decimal, ← hf]
    rw [hrun]
    exact command_file frame arguments release
  · obtain ⟨fault, hrun⟩ := run_of_not_isDecimal frame arguments release other
    refine ⟨fault, ?_⟩
    rw [show f = frame.file latest from hf, ← hrun, ← hf]

/-- A bump of the program, one that is refused, and a run that prints the version. -/
theorem runs_of_command_release :
    let frame := Frame.program (text "\nproject_name = \"vkshader\"\n")
    let f := after (frame.file current) [[text "bump", text "v1.2.3"], [text "bump", text "next"]]
    IsRelease current ∧ f = frame.file (text "1.2.3") ∧ (f.run []).1 = shown (text "1.2.3") := by
  intro frame f
  have release : IsRelease current := refusal?_eq_none_iff.1 (by decide)
  obtain ⟨hf, decimal, -⟩ := runs_of_command frame [] release
    [[text "bump", text "v1.2.3"], [text "bump", text "next"]]
  have latest : last current [[text "bump", text "v1.2.3"], [text "bump", text "next"]] =
    text "1.2.3" := by decide +kernel
  rw [latest] at hf decimal
  exact ⟨release, hf, (decimal (by decide +kernel)).2.2 (.inl rfl)⟩

/-- A fraction is numeric: the bump to it is accepted, and the next run fails. -/
theorem runs_of_command_fraction :
    let f := after (ofVersion current) [[text "bump", text "1.2.½"]]
    bumped? [text "bump", text "1.2.½"] = some (text "1.2.½") ∧ f = ofVersion (text "1.2.½") ∧
      f.run [text "version"] =
        (⟨.failed (.value (.numeral (.notDecimal (text "½")))), []⟩, f) :=
  ⟨by decide, by decide, rfl⟩

end VersionFile

end ShaderBuild
