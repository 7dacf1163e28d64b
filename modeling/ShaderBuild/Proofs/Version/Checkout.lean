/-
  The version of a checkout, for every answer of git.

  Git tells the last tag, the commits since, the hash of the commit and whether files have changed,
  with hyphens between; without a tag it tells the hash alone.  No part holds a hyphen, so the answer
  is taken apart again, and the version is put together from the parts such that its own parts, up to
  the first plus sign, are the numbers of the release and the commits since.

  * `Answer`: what git tells; `Prints`: how that is printed; `Gives`: the runs that tell it;
  * `Answer.version`, `Answer.log`, `Answer.parts`: the version that an answer means, what is logged,
    and the version as a list of parts;
  * `ofRun_eq`: the answer is taken apart;
  * `parts_version`: the parts of the version;
  * `version_of_checkout`: all of it.
-/
import ShaderBuild.Proofs.Version.Release

namespace ShaderBuild.Version

variable {t hash : Text} {c : CodePoint} {isDirty : Bool}

/-! ## Answers of git -/

/-- A hash: hexadecimal digits. -/
def IsHash (hash : Text) : Prop := ∀ c ∈ hash, c.hexValue?.isSome

/-- What git tells about a checkout. -/
inductive Answer where
  /-- The last tag, the number of commits since, the hash of the commit, and whether files have
      changed. -/
  | tagged (tag : Release) (count : Nat) (hash : Text) (isDirty : Bool)
  /-- There is no tag. -/
  | untagged (hash : Text) (isDirty : Bool)
  /-- There is no answer, for a reason. -/
  | missing (reason : Text)

/-- What is printed last. -/
def ending (isDirty : Bool) : Text := if isDirty then text "-dirty" else []

/-- How an answer is printed.  A tag may have a letter in front. -/
inductive Prints : Answer → Text → Prop
  | tagged {tag : Release} {count : Nat} {hash mark : Text} {isDirty : Bool}
      (lettered : mark = [] ∨ mark = text "v") (isHash : IsHash hash) :
    Prints (.tagged tag count hash isDirty) (mark ++ tag.spelling ++ text "-" ++
      Numeral.ofNat count ++ text "-g" ++ hash ++ ending isDirty)
  | untagged {hash : Text} {isDirty : Bool} (isHash : IsHash hash) :
    Prints (.untagged hash isDirty) (hash ++ ending isDirty)

/-- The runs of git that give an answer.  Blanks may follow what is printed. -/
inductive Gives : GitRun → Answer → Prop
  | printed {answer : Answer} {printed blanks : Text} {output errors : Bytes}
      (prints : Prints answer printed) (blank : ∀ c ∈ blanks, c.isBlank)
      (encoded : Utf8.encode? (printed ++ blanks) = some output) :
    Gives (.exited 0 output errors) answer
  | notRun {reason : Text} : Gives (.notRun reason) (.missing reason)
  | failed {code : Int} {output errors : Bytes} (nonzero : code ≠ 0) :
    Gives (.exited code output errors)
      (.missing (Text.strip CodePoint.isBlank (Utf8.decodeSkipping errors)))

/-- The labels of a commit. -/
def labelsOf (label : Text) (isDirty : Bool) : List Text :=
  label :: if isDirty then [dirty] else []

namespace Answer

/-- The parts of an answer. -/
def described : Answer → Described
  | .tagged tag count hash isDirty =>
    ⟨some tag.spelling, some (Numeral.ofNat count), labelsOf (text "g" ++ hash) isDirty⟩
  | .untagged hash isDirty => ⟨none, none, labelsOf hash isDirty⟩
  | .missing _ => .unknown

/-- The release that an answer means, for a version of the program. -/
def release (base : Release) : Answer → Release
  | .tagged tag _ _ _ => tag
  | .untagged _ _ | .missing _ => base.base

/-- The number of commits since the release. -/
def count : Answer → Nat
  | .tagged _ count _ _ => count
  | .untagged _ _ | .missing _ => 0

/-- The version that an answer means. -/
def version (base : Release) : Answer → Text
  | .tagged tag 0 _ false => tag.spelling
  | .tagged tag 0 hash true => tag.spelling ++ text "+g" ++ hash ++ text ".dirty"
  | .tagged tag (n + 1) hash false =>
    tag.spelling ++ text ".post" ++ Numeral.ofNat (n + 1) ++ text "+g" ++ hash
  | .tagged tag (n + 1) hash true =>
    tag.spelling ++ text ".post" ++ Numeral.ofNat (n + 1) ++ text "+g" ++ hash ++ text ".dirty"
  | .untagged _ false => base.base.spelling
  | .untagged hash true => base.base.spelling ++ text "+" ++ hash ++ text ".dirty"
  | .missing _ => base.base.spelling

/-- What is logged: that the tag is not the version of the program, or that there is no answer. -/
def log (base : Release) : Answer → Log
  | .tagged tag _ _ _ =>
    if tag.spelling = base.base.spelling then []
    else [⟨.warning, text "vkshader version from git (" ++ tag.spelling
      ++ text ") and __version__ (" ++ base.base.spelling ++ text ") don't match."⟩]
  | .untagged _ _ => []
  | .missing reason => [⟨.warning, text "Could not get vkshader version: " ++ reason⟩]

/-- The version as a list of parts: the numbers of the release, and the commits since if there are
    any. -/
def parts (base : Release) (answer : Answer) : List Part :=
  (answer.release base).values.map .number ++
    if answer.count = 0 then [] else [.label (text "post" ++ Numeral.ofNat answer.count)]

end Answer

/-! ## The answer taken apart -/

/-- What holds of every digit of a hash. -/
theorem hash_facts (h : c.hexValue?.isSome) : c.isBlank = false ∧ c ∉ text "-v" := by
  have small : c.val < 128 := by
    by_contra large
    have none : c.hexValue? = none := by
      unfold CodePoint.hexValue?
      rw [if_neg (by omega), if_neg (by omega), if_neg (by omega)]
    rw [none] at h
    cases h
  refine CodePoint.forall_ascii
    (P := fun c => c.hexValue?.isSome → c.isBlank = false ∧ c ∉ text "-v") ?_ small h
  decide +kernel

/-- What separates the parts of an answer. -/
def hyphen : CodePoint := '-'

theorem notMem_hash (h : IsHash hash) : hyphen ∉ hash :=
  fun member => (hash_facts (h _ member)).2 (by decide)

theorem splitOn_labels {label : Text} (h : hyphen ∉ label) (isDirty : Bool) :
    Text.splitOn hyphen (label ++ ending isDirty) = labelsOf label isDirty := by
  cases isDirty with
  | false =>
    rw [ending, if_neg (by decide), List.append_nil, Text.splitOn_of_notMem h]
    rfl
  | true =>
    have last : ending true = hyphen :: dirty := rfl
    rw [last, Text.splitOn_append_cons h]
    rfl

theorem isBlank_of_mem_ending (h : c ∈ ending isDirty) : c.isBlank = false := by
  have all : ∀ isDirty, ∀ c ∈ ending isDirty, c.isBlank = false := by decide
  exact all isDirty c h

theorem isBlank_of_prints {answer : Answer} (h : Prints answer t) :
    ∀ c ∈ t, c.isBlank = false := by
  intro c hc
  cases h with
  | tagged lettered isHash =>
    simp only [List.mem_append] at hc
    rcases hc with (((((hc | hc) | hc) | hc) | hc) | hc) | hc
    · rcases lettered with rfl | rfl
      · cases hc
      · exact (by decide : ∀ c ∈ text "v", c.isBlank = false) c hc
    · exact Release.isBlank_of_mem_spelling _ hc
    · exact (by decide : ∀ c ∈ text "-", c.isBlank = false) c hc
    · exact (digit_facts (Numeral.isDigit_of_mem_ofNat hc)).1
    · exact (by decide : ∀ c ∈ text "-g", c.isBlank = false) c hc
    · exact (hash_facts (isHash c hc)).1
    · exact isBlank_of_mem_ending hc
  | untagged isHash =>
    rcases List.mem_append.1 hc with hc | hc
    · exact (hash_facts (isHash c hc)).1
    · exact isBlank_of_mem_ending hc

/-- What may stand in front of a tag. -/
def letter : CodePoint := 'v'

/-- The letter in front of a tag is cut off, and no other. -/
theorem stripStart_mark {mark : Text} (lettered : mark = [] ∨ mark = text "v")
    (plain : t.head? ≠ some letter) :
    Text.stripStart (fun c : CodePoint => c = 'v') (mark ++ t) = t := by
  have stop : t.dropWhile (fun c : CodePoint => c = 'v') = t := by
    cases t with
    | nil => rfl
    | cons c t => exact List.dropWhile_cons_of_neg (by simpa [letter] using plain)
  rcases lettered with rfl | rfl
  · exact stop
  · exact stop

/-- What is printed, without the letter in front of the tag, in its parts. -/
theorem splitOn_prints {answer : Answer} (h : Prints answer t) :
    Described.ofParts (Text.splitOn hyphen (Text.stripStart (fun c : CodePoint => c = 'v') t)) =
      answer.described := by
  cases h with
  | @tagged tag count hash mark isDirty lettered isHash =>
    have pieces : mark ++ tag.spelling ++ text "-" ++ Numeral.ofNat count ++ text "-g" ++ hash ++
        ending isDirty = mark ++ (tag.spelling ++ hyphen :: (Numeral.ofNat count ++
          hyphen :: (text "g" ++ hash ++ ending isDirty))) := by
      simp [text, hyphen]
    have plain : (tag.spelling ++ hyphen :: (Numeral.ofNat count ++
        hyphen :: (text "g" ++ hash ++ ending isDirty))).head? ≠ some letter := by
      obtain ⟨c, rest, first⟩ := tag.spelling_eq_cons
      rw [first, List.cons_append, List.head?_cons, ne_eq, Option.some.injEq]
      rintro rfl
      exact tag.notMem_spelling (by decide) (first ▸ List.mem_cons_self)
    have count_plain : hyphen ∉ Numeral.ofNat count := fun member =>
      (digit_facts (Numeral.isDigit_of_mem_ofNat member)).2.1 (by decide)
    have label_plain : hyphen ∉ text "g" ++ hash := by
      have first : hyphen ∉ text "g" := by decide
      simp [first, notMem_hash isHash]
    rw [pieces, stripStart_mark lettered plain,
      Text.splitOn_append_cons (tag.notMem_spelling (by decide)),
      Text.splitOn_append_cons count_plain, splitOn_labels label_plain]
    rfl
  | @untagged hash isDirty isHash =>
    have plain : (hash ++ ending isDirty).head? ≠ some letter := by
      intro first
      rcases List.mem_append.1 (List.mem_of_head? first) with member | member
      · exact (hash_facts (isHash _ member)).2 (by decide)
      · cases isDirty <;> exact absurd member (by decide)
    have bare := stripStart_mark (Or.inl rfl) plain
    rw [List.nil_append] at bare
    rw [bare, splitOn_labels (notMem_hash isHash)]
    cases isDirty <;> rfl

/-- What is logged when git is asked. -/
def Answer.warning : Answer → Log
  | .tagged _ _ _ _ | .untagged _ _ => []
  | .missing reason => Described.warning reason

/-- **What git tells is taken apart.** -/
theorem ofRun_eq {run : GitRun} {answer : Answer} (h : Gives run answer) :
    Described.ofRun run = (answer.described, answer.warning) := by
  cases h with
  | @printed _ t blanks output errors prints blank encoded =>
    have read : Described.ofParts (Described.partsOf output) = answer.described := by
      rw [Described.partsOf, Utf8.decodeSkipping_encode encoded,
        Text.strip_append (isBlank_of_prints prints) blank]
      exact splitOn_prints prints
    rw [Described.ofRun, if_pos rfl, read]
    cases prints <;> rfl
  | notRun => rfl
  | failed nonzero =>
    rw [Described.ofRun, if_neg nonzero]
    rfl

/-! ## The version put together -/

theorem labelText_labelsOf (label : Text) (isDirty : Bool) :
    labelText (labelsOf label isDirty) =
      text "+" ++ label ++ if isDirty then text ".dirty" else [] := by
  cases isDirty with
  | false => simp [labelText, labelsOf]
  | true => simp [labelText, labelsOf, dirty, text]

/-- The commits since a release, as they stand behind it. -/
def postText (count : Nat) : Text :=
  if count = 0 then [] else point :: (text "post" ++ Numeral.ofNat count)

/-- What stands behind the release and the commits. -/
def Answer.labels : Answer → Text
  | .tagged _ 0 _ false | .untagged _ false | .missing _ => []
  | .tagged _ _ hash isDirty => labelText (labelsOf (text "g" ++ hash) isDirty)
  | .untagged hash true => labelText (labelsOf hash true)

/-- The version is the release, the commits and the labels. -/
theorem version_eq (base : Release) (answer : Answer) :
    answer.version base =
      (answer.release base).spelling ++ (postText answer.count ++ answer.labels) := by
  have post (n : Nat) : postText (n + 1) = text ".post" ++ Numeral.ofNat (n + 1) := by
    rw [postText, if_neg (Nat.succ_ne_zero n)]
    rfl
  cases answer with
  | tagged tag count hash isDirty =>
    cases count with
    | zero =>
      cases isDirty with
      | false => simp [Answer.version, Answer.release, Answer.count, Answer.labels, postText]
      | true =>
        simp [Answer.version, Answer.release, Answer.count, Answer.labels, postText,
          labelText_labelsOf, text]
    | succ n =>
      cases isDirty with
      | false =>
        simp [Answer.version, Answer.release, Answer.count, Answer.labels, post,
          labelText_labelsOf, text]
      | true =>
        simp [Answer.version, Answer.release, Answer.count, Answer.labels, post,
          labelText_labelsOf, text]
  | untagged hash isDirty =>
    cases isDirty with
    | false => simp [Answer.version, Answer.release, Answer.count, Answer.labels, postText]
    | true =>
      simp [Answer.version, Answer.release, Answer.count, Answer.labels, postText,
        labelText_labelsOf]
  | missing reason =>
    simp [Answer.version, Answer.release, Answer.count, Answer.labels, postText]

theorem release_described (base : Release) (answer : Answer) :
    release base.spelling answer.described = (answer.release base).spelling := by
  cases answer with
  | tagged tag count hash isDirty =>
    obtain ⟨c, rest, first⟩ := tag.spelling_eq_cons
    rw [release, Answer.described, Answer.release, first]
  | untagged hash isDirty => exact base.baseRelease_spelling
  | missing reason => exact base.baseRelease_spelling

/-- Commits are told with the labels. -/
theorem addition_of_commits (release : Option Text) (n : Nat) (label : Text) (isDirty : Bool) :
    addition ⟨release, some (Numeral.ofNat (n + 1)), labelsOf label isDirty⟩ =
      postText (n + 1) ++ labelText (labelsOf label isDirty) := by
  have zero : Numeral.ofNat 0 = text "0" := by decide
  have other : Numeral.ofNat (n + 1) ≠ text "0" := by
    intro same
    exact Nat.succ_ne_zero n (Numeral.ofNat_injective (same.trans zero.symm))
  have counted : (!(Numeral.ofNat (n + 1)).isEmpty && Numeral.ofNat (n + 1) != text "0") = true := by
    simp [Numeral.ofNat_ne_nil, other]
  have labelled : (labelsOf label isDirty).isEmpty = false := by
    cases isDirty <;> rfl
  simp only [addition, Option.getD_some, counted, if_true, labelled, Bool.false_eq_true, if_false,
    postText, if_neg (Nat.succ_ne_zero n), List.append_assoc]
  rfl

/-- Without commits the labels are told if files have changed. -/
theorem addition_of_no_commits (release : Option Text) {post : Option Text}
    (h : post = none ∨ post = some (text "0")) {label : Text} (other : label ≠ dirty)
    (isDirty : Bool) :
    addition ⟨release, post, labelsOf label isDirty⟩ =
      if isDirty then labelText (labelsOf label true) else [] := by
  have uncounted : (!(post.getD []).isEmpty && post.getD [] != text "0") = false := by
    rcases h with rfl | rfl
    · rfl
    · decide
  simp only [addition, uncounted, Bool.false_eq_true, if_false]
  cases isDirty with
  | false => simp [labelsOf, other]
  | true => simp [labelsOf]

/-- Is the hash of an answer one? -/
def Answer.IsHashed : Answer → Prop
  | .tagged _ _ hash _ | .untagged hash _ => IsHash hash
  | .missing _ => True

theorem isHashed_of_gives {run : GitRun} {answer : Answer} (h : Gives run answer) :
    answer.IsHashed := by
  cases h with
  | printed prints =>
    cases prints with
    | tagged _ isHash => exact isHash
    | untagged isHash => exact isHash
  | notRun => trivial
  | failed => trivial

theorem addition_described {answer : Answer} (h : answer.IsHashed) :
    addition answer.described = postText answer.count ++ answer.labels := by
  cases answer with
  | tagged tag count hash isDirty =>
    cases count with
    | zero =>
      -- the label of a tag has a letter in front that the mark of changed files has not
      have other : text "g" ++ hash ≠ dirty := by
        intro same
        have first : dirty.head? = some ('g' : CodePoint) := by
          rw [← same]
          rfl
        exact absurd first (by decide)
      have zero : some (Numeral.ofNat 0) = some (text "0") := by decide
      rw [Answer.described, addition_of_no_commits _ (Or.inr zero) other]
      cases isDirty <;> rfl
    | succ n =>
      rw [Answer.described, addition_of_commits]
      cases isDirty <;> rfl
  | untagged hash isDirty =>
    -- not all letters of the mark of changed files are digits of a hash
    have other : hash ≠ dirty := by
      rintro rfl
      have letter := h 'r' (by decide)
      exact absurd letter (by decide)
    rw [Answer.described, addition_of_no_commits _ (Or.inl rfl) other]
    cases isDirty <;> rfl
  | missing reason => rfl

/-- **The version is put together from the answer.** -/
theorem extended_described (base : Release) {answer : Answer} (h : answer.IsHashed) :
    extended base.spelling answer.described = answer.version base := by
  rw [extended, release_described, addition_described h, version_eq]

theorem warning_append_mismatchLog (base : Release) (answer : Answer) :
    answer.warning ++ mismatchLog base.spelling answer.described = answer.log base := by
  rw [mismatchLog, release_described, base.baseRelease_spelling]
  cases answer with
  | tagged tag count hash isDirty => rfl
  | untagged hash isDirty =>
    rw [Answer.release, if_pos rfl]
    rfl
  | missing reason =>
    rw [Answer.release, if_pos rfl]
    rfl

/-! ## The parts of the version -/

theorem withoutLabels_append {labels : Text} (h : (('+' : Char) : CodePoint) ∉ t)
    (labelled : labels = [] ∨ labels.head? = some ('+' : CodePoint)) :
    withoutLabels (t ++ labels) = t := by
  have kept : ∀ c ∈ t, decide (c ≠ ('+' : CodePoint)) = true := by
    intro c hc
    rw [decide_eq_true_iff]
    rintro rfl
    exact h hc
  rw [withoutLabels, List.takeWhile_append_of_pos kept]
  rcases labelled with rfl | plus
  · simp
  · obtain ⟨rest, rfl⟩ := List.head?_eq_some_iff.1 plus
    simp

theorem labels_cases (answer : Answer) :
    answer.labels = [] ∨ answer.labels.head? = some ('+' : CodePoint) := by
  cases answer with
  | tagged tag count hash isDirty =>
    cases count with
    | zero =>
      cases isDirty with
      | false => exact Or.inl rfl
      | true => exact Or.inr rfl
    | succ n => exact Or.inr rfl
  | untagged hash isDirty =>
    cases isDirty with
    | false => exact Or.inl rfl
    | true => exact Or.inr rfl
  | missing reason => exact Or.inl rfl

/-- The commits since a release are no number. -/
theorem ofText_post (count : Nat) :
    Part.ofText (text "post" ++ Numeral.ofNat count) =
      .ok (.label (text "post" ++ Numeral.ofNat count)) := by
  have letter : (('p' : Char) : CodePoint).isNumeric = false := by decide
  have other : isNumeric (text "post" ++ Numeral.ofNat count) = false := by
    simp [isNumeric, text, letter]
  rw [Part.ofText, other]
  rfl

/-- The pieces of a release with commits behind it. -/
theorem splitOn_post (x : Release) (count : Nat) :
    Text.splitOn point (x.spelling ++ postText count) =
      x.numbers ++ if count = 0 then [] else [text "post" ++ Numeral.ofNat count] := by
  by_cases none : count = 0
  · rw [postText, if_pos none, if_pos none, List.append_nil, List.append_nil, x.splitOn_spelling]
  · have plain : point ∉ text "post" ++ Numeral.ofNat count := by
      have word : point ∉ text "post" := by decide
      intro member
      rcases List.mem_append.1 member with member | member
      · exact word member
      · exact (digit_facts (Numeral.isDigit_of_mem_ofNat member)).2.1 (by decide)
    rw [postText, if_neg none, if_neg none, Text.splitOn_append, x.splitOn_spelling,
      Text.splitOn_of_notMem plain]

theorem plus_notMem_post (count : Nat) : (('+' : Char) : CodePoint) ∉ postText count := by
  have word : (('+' : Char) : CodePoint) ∉ point :: text "post" := by decide
  unfold postText
  split
  · exact List.not_mem_nil
  · intro member
    rw [← List.cons_append] at member
    rcases List.mem_append.1 member with member | member
    · exact word member
    · exact (digit_facts (Numeral.isDigit_of_mem_ofNat member)).2.1 (by decide)

/-- **The parts of the version** are the numbers of the release, and the commits since. -/
theorem parts_version (base : Release) (answer : Answer) :
    parts (answer.version base) = .ok (answer.parts base) := by
  have plain : (('+' : Char) : CodePoint) ∉
      (answer.release base).spelling ++ postText answer.count := by
    intro member
    rcases List.mem_append.1 member with member | member
    · exact (answer.release base).notMem_spelling (by decide) member
    · exact plus_notMem_post _ member
  have pieces := splitOn_post (answer.release base) answer.count
  rw [point] at pieces
  rw [version_eq, ← List.append_assoc, parts, withoutLabels_append plain (labels_cases answer),
    pieces, List.mapM_append, mapM_numbers (answer.release base).isNumber, Answer.parts,
    Release.values, List.map_map]
  by_cases none : answer.count = 0
  · simp [none]
  · simp only [if_neg none, List.mapM_cons, ofText_post, List.mapM_nil]
    rfl

/-- **The version of a checkout.**

    Whatever git answers, the answer is taken apart as it was meant, and the version is that of the
    last tag, or of the program if there is none, with the commits since and the labels.  There is a
    warning exactly if the tag is not the version of the program, or git does not answer.  The parts
    of the version are the numbers of the release, and the commits if there are any. -/
theorem version_of_checkout (base : Release) {run : GitRun} {answer : Answer}
    (h : Gives run answer) :
    (Described.ofRun run).1 = answer.described ∧
      inCheckout base.spelling true run = (answer.version base, answer.log base) ∧
      parts (answer.version base) = .ok (answer.parts base) := by
  have told := ofRun_eq h
  refine ⟨by rw [told], ?_, parts_version base answer⟩
  simp only [inCheckout, if_true, told, extended_described base (isHashed_of_gives h),
    warning_append_mismatchLog]

/-- Five commits after a tag that is not the version of the program, with changed files. -/
theorem version_of_checkout_ahead :
    let output := (text "v0.10.0-5-gabc1234-dirty\n").flatMap Utf8.encodePoint
    inCheckout (text "0.3.0") true (.exited 0 output []) =
      (text "0.10.0.post5+gabc1234.dirty",
        [⟨.warning, text "vkshader version from git (" ++ text "0.10.0"
          ++ text ") and __version__ (" ++ text "0.3.0" ++ text ") don't match."⟩]) ∧
      parts (text "0.10.0.post5+gabc1234.dirty") =
        .ok [.number 0, .number 10, .number 0, .label (text "post5")] := by
  intro output
  let base : Release := ⟨[text "0", text "3", text "0"], by decide, by decide⟩
  let tag : Release := ⟨[text "0", text "10", text "0"], by decide, by decide⟩
  have isHash : IsHash (text "abc1234") := by
    unfold IsHash
    decide
  have lettered : text "v" = [] ∨ text "v" = text "v" := Or.inr rfl
  have prints : Prints (.tagged tag 5 (text "abc1234") true) (text "v0.10.0-5-gabc1234-dirty") :=
    .tagged lettered isHash
  have blank : ∀ c ∈ text "\n", c.isBlank := by decide
  have gives : Gives (.exited 0 output []) (.tagged tag 5 (text "abc1234") true) :=
    .printed prints blank (by decide +kernel)
  obtain ⟨-, version, tuple⟩ := version_of_checkout base gives
  have spelled : base.spelling = text "0.3.0" := by decide
  have spelled' : base.base.spelling = text "0.3.0" := by decide
  have tagged : tag.spelling = text "0.10.0" := by decide
  have meant : Answer.version base (.tagged tag 5 (text "abc1234") true) =
      text "0.10.0.post5+gabc1234.dirty" := by decide
  have numbers : Answer.parts base (.tagged tag 5 (text "abc1234") true) =
      [.number 0, .number 10, .number 0, .label (text "post5")] := by decide
  have other : text "0.10.0" ≠ text "0.3.0" := by decide
  simp only [spelled, meant, Answer.log, spelled', tagged, if_neg other] at version
  rw [meant, numbers] at tuple
  exact ⟨version, tuple⟩

end ShaderBuild.Version
