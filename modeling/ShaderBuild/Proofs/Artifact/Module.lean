/-
  The source text of an output is read back.

  The text consists of lines.  In the lines of the first block there is one string each, and in
  those of the second up to six words in hexadecimal, and behind each of these literals is a comma.
  So both blocks are tuples, and the text tells the output and the name of its words.

  * `BuildOutput.stringOf?`, `BuildOutput.hexOf?`: the values of the literals;
  * `BuildOutput.readModule?`: a reader of such texts;
  * `BuildOutput.splitOn_toModule`, `BuildOutput.toModule_eq`: the text by lines and by tuples;
  * `BuildOutput.module_read`: what is read from them.
-/
import ShaderBuild.Proofs.Artifact.Listing
import ShaderBuild.Proofs.Text.Basic

namespace ShaderBuild

open CodePoint Listing
open Token (Content)

namespace BuildOutput

/-! ## Readers -/

/-- The text that a string denotes. -/
def stringOf? : Content × Text → Option Text
  | (.str s, _) => some s
  | _ => none

/-- The number that an integer in hexadecimal denotes. -/
def hexOf? : Content × Text → Option Int
  | (.int n, literal) => if (text "0x").isPrefixOf literal then some n else none
  | _ => none

/-- The first line of a module. -/
def header : Text := text "# Generated by vkshader. Do not edit."

/-- The name that the first lines define, the lines of the tuple, and those behind it. -/
def definition? : List Text → Option (Text × List Text × List Text)
  | [] => none
  | opening :: lines =>
    let name := opening.take (opening.length - 4)
    match lines.dropWhile (· != text ")") with
    | [] => none
    | _ :: rest =>
      if opening = name ++ text " = (" then some (name, lines.takeWhile (· != text ")"), rest)
      else none

/-- The name of the words that the text of a module defines, and the output. -/
def readModule? (t : Text) : Option (Text × BuildOutput) := do
  let lines := Text.splitOn lineFeed t
  let (sources, pathLines, later) ← definition? (lines.drop 2)
  let (name, wordLines, rest) ← definition? (later.drop 1)
  if lines.take 2 ++ later.take 1 ++ rest = [header, [], [], []] ∧ sources = text "SOURCES" then
    let paths ← pathLines.mapM (listed? stringOf?)
    let words ← wordLines.mapM (listed? hexOf?)
    some (name, ⟨paths.flatten, words.flatten⟩)
  else none

/-! ## Lines -/

section

variable {α : Type} {spell : α → Text} {xs : List α} {lines : List Text}

theorem notMem_line (h : ∀ x ∈ xs, lineFeed ∉ spell x) : lineFeed ∉ line spell xs := by
  have row : lineFeed ∉ row spell xs := by
    induction xs with
    | nil => exact List.not_mem_nil
    | cons x xs ih =>
      obtain ⟨first, later⟩ := List.forall_mem_cons.1 h
      have comma : lineFeed ∉ text "," := by decide
      cases xs with
      | nil => simpa [Listing.row, comma] using first
      | cons y ys =>
        have blank : lineFeed ∉ text " " := by decide
        have rest := ih later
        simp only [Listing.row, List.map_cons] at rest
        simp [Listing.row, List.intercalate_cons_cons, comma, blank, first, rest]
  have gap : lineFeed ∉ text "    " := by decide
  rw [line, List.mem_append, not_or]
  exact ⟨gap, row⟩

theorem line_ne_closing (spell : α → Text) (xs : List α) : line spell xs ≠ text ")" := by
  have first : (line spell xs).head? = some ' ' := rfl
  intro same
  rw [same] at first
  exact absurd first (by decide)

/-- The definition of a tuple, whatever is behind it. -/
theorem definition?_tupleLines (name : Text) {items : List Text}
    (h : ∀ item ∈ items, item ≠ text ")") (rest : List Text) :
    definition? (tupleLines name items ++ rest) = some (name, items, rest) := by
  have others : ∀ item ∈ items, (item != text ")") = true :=
    fun item hi => bne_iff_ne.2 (h item hi)
  have closing : (text ")" != text ")") = false := by decide
  have split : tupleLines name items ++ rest =
      (name ++ text " = (") :: (items ++ text ")" :: rest) := by simp [tupleLines]
  have four : (name ++ text " = (").length - 4 = name.length := by simp [text]
  rw [split, definition?, List.dropWhile_append_of_pos others, List.takeWhile_append_of_pos others,
    four, List.take_left]
  simp [List.dropWhile_cons_of_neg, List.takeWhile_cons_of_neg]

end

/-! ## Words in lines -/

theorem flatten_wordLines (words : List Int) : (wordLines words).flatten = words := by
  induction words using wordLines.induct with
  | case1 => rw [wordLines, List.flatten_nil]
  | case2 w ws ih => rw [wordLines, List.flatten_cons, ih, List.cons_append, List.take_append_drop]

theorem length_wordLines (words : List Int) :
    ∀ chunk ∈ wordLines words, chunk ≠ [] ∧ chunk.length ≤ wordsPerLine := by
  induction words using wordLines.induct with
  | case1 => simp [wordLines]
  | case2 w ws ih =>
    rw [wordLines]
    refine List.forall_mem_cons.2 ⟨⟨List.cons_ne_nil _ _, ?_⟩, ih⟩
    rw [List.length_cons, List.length_take]
    have some : 0 < wordsPerLine := by decide
    omega

/-! ## The text -/

variable {o : BuildOutput} {name t : Text} {n : Int}

theorem spells_quote (s : Text) : Spells stringOf? Quoted.quote s := ⟨_, denotes_quote s, rfl⟩

theorem spells_wordText (h : isWord n) : Spells hexOf? wordText n := by
  obtain ⟨-, -, spelled⟩ := wordText_eq h
  refine ⟨_, denotes_wordText h, ?_⟩
  rw [spelled]
  rfl

theorem notMem_quote (s : Text) : lineFeed ∉ Quoted.quote s :=
  fun h => absurd (Quoted.shows_quote s _ h).1 (by decide)

theorem notMem_wordText (h : isWord n) : lineFeed ∉ wordText n := by
  have digits : ∀ c ∈ Numeral.hexAlphabet, lineFeed ≠ c := by decide
  obtain ⟨-, -, spelled⟩ := wordText_eq h
  rw [spelled]
  intro feed
  rcases List.mem_cons.1 feed with feed | feed
  · exact absurd feed (by decide)
  rcases List.mem_cons.1 feed with feed | feed
  · exact absurd feed (by decide)
  · exact digits _ (Numeral.mem_hexDigits feed) rfl

theorem notMem_of_isIdentifier (h : Text.isIdentifier name) : lineFeed ∉ name := by
  have starts : lineFeed.startsIdentifier = false := by decide
  have continues : lineFeed.continuesIdentifier = false := by decide
  cases name with
  | nil => exact List.not_mem_nil
  | cons c name =>
    rw [Text.isIdentifier, Bool.and_eq_true, List.all_eq_true] at h
    intro feed
    rcases List.mem_cons.1 feed with rfl | feed
    · exact absurd h.1 (by rw [starts]; decide)
    · exact absurd (h.2 _ feed) (by rw [continues]; decide)

/-- The lines with paths. -/
def pathLines (o : BuildOutput) : List Text := o.sources.map sourceLine

theorem pathLines_eq (o : BuildOutput) :
    o.pathLines = (o.sources.map fun path => [path]).map (line Quoted.quote) := by
  rw [pathLines, List.map_map]
  exact List.map_congr_left fun path _ => by simp [sourceLine, line, row]

/-- The lines with words. -/
def hexLines (o : BuildOutput) : List Text := (wordLines o.words).map (line wordText)

theorem toModule_eq_ok (h : o.toModule name = .ok t) : Text.isIdentifier name ∧
    t = (o.moduleLines name).flatMap fun line => line ++ text "\n" := by
  unfold toModule at h
  split at h
  · rename_i accepted
    cases h
    exact ⟨accepted, rfl⟩
  · cases h

/-- The names that are accepted. -/
theorem toModule_accepts_iff : (∃ t, o.toModule name = .ok t) ↔ Text.isIdentifier name :=
  ⟨fun ⟨_, h⟩ => (toModule_eq_ok h).1, fun accepted => ⟨_, if_pos accepted⟩⟩

theorem moduleLines_eq (o : BuildOutput) (name : Text) : o.moduleLines name =
    [header, [], text "SOURCES = ("] ++ o.pathLines ++ [text ")", [], name ++ text " = ("] ++
      o.hexLines ++ [text ")"] := by
  have words : wordLine = line wordText := rfl
  have sources : text "SOURCES" ++ text " = (" = text "SOURCES = (" := rfl
  simp [moduleLines, tupleLines, header, pathLines, hexLines, words, sources]

theorem isWord_of_chunk (words : ∀ n ∈ o.words, isWord n) :
    ∀ chunk ∈ wordLines o.words, ∀ n ∈ chunk, isWord n := by
  intro chunk hchunk n hn
  refine words n ?_
  rw [← flatten_wordLines o.words]
  exact List.mem_flatten_of_mem hchunk hn

/-- The lines of the text. -/
theorem splitOn_toModule (words : ∀ n ∈ o.words, isWord n) (h : o.toModule name = .ok t) :
    Text.splitOn lineFeed t = o.moduleLines name ++ [[]] := by
  obtain ⟨accepted, rfl⟩ := toModule_eq_ok h
  refine Text.splitOn_ended ?_
  have opening : lineFeed ∉ name ++ text " = (" := by
    rw [List.mem_append, not_or]
    exact ⟨notMem_of_isIdentifier accepted, by decide⟩
  have paths : ∀ line ∈ o.pathLines, lineFeed ∉ line := by
    rw [pathLines_eq]
    refine List.forall_mem_map.2 fun row hrow => notMem_line fun s _ => notMem_quote s
  have hexadecimal : ∀ line ∈ o.hexLines, lineFeed ∉ line :=
    List.forall_mem_map.2 fun chunk hchunk => notMem_line fun n hn =>
      notMem_wordText (isWord_of_chunk words chunk hchunk n hn)
  have first : ∀ line ∈ [header, [], text "SOURCES = ("], lineFeed ∉ line := by decide
  have between : ∀ line ∈ [text ")", [], name ++ text " = ("], lineFeed ∉ line :=
    List.forall_mem_cons.2 ⟨by decide, List.forall_mem_cons.2 ⟨by decide,
      List.forall_mem_singleton.2 opening⟩⟩
  have last : ∀ line ∈ [text ")"], lineFeed ∉ line := by decide
  rw [moduleLines_eq]
  simp only [List.forall_mem_append]
  exact ⟨⟨⟨⟨first, paths⟩, between⟩, hexadecimal⟩, last⟩

/-! ## Reading -/

theorem spelled_paths (o : BuildOutput) :
    Spelled stringOf? Quoted.quote (o.sources.map fun path => [path]) :=
  ⟨List.forall_mem_map.2 fun _ _ => List.cons_ne_nil _ _, fun _ _ path _ => spells_quote path⟩

theorem spelled_words (words : ∀ n ∈ o.words, isWord n) :
    Spelled hexOf? wordText (wordLines o.words) :=
  ⟨fun chunk hchunk => (length_wordLines _ chunk hchunk).1,
    fun chunk hchunk n hn => spells_wordText (isWord_of_chunk words chunk hchunk n hn)⟩

theorem flatten_paths (o : BuildOutput) :
    (o.sources.map fun path => [path]).flatten = o.sources := by
  rw [← List.flatMap_def, List.flatMap_singleton']

theorem parenthesize_block (lines : List Text) : parenthesize (block lines) =
    text "(" ++ text "\n" ++ (lines.flatMap fun line => line ++ text "\n") ++ text ")" := by
  have shifted : block lines ++ text "\n" =
      text "\n" ++ lines.flatMap fun line => line ++ text "\n" := by
    induction lines with
    | nil => rfl
    | cons line lines ih =>
      have first : block (line :: lines) = text "\n" ++ line ++ block lines := List.flatMap_cons
      rw [first, List.append_assoc, ih, List.flatMap_cons]
      simp only [List.append_assoc]
  have brackets : text "\n)" = text "\n" ++ text ")" := rfl
  rw [parenthesize, brackets, ← List.append_assoc, List.append_assoc (text "("), shifted]
  simp only [List.append_assoc]

/-- The text defines both tuples. -/
theorem toModule_eq (h : o.toModule name = .ok t) :
    t = header ++ text "\n\nSOURCES = " ++ parenthesize (block o.pathLines) ++ text "\n\n" ++
      name ++ text " = " ++ parenthesize (block o.hexLines) ++ text "\n" := by
  have sources : text "SOURCES = (" = text "SOURCES = " ++ text "(" := rfl
  have words : text " = (" = text " = " ++ text "(" := rfl
  have first : text "\n\nSOURCES = " = text "\n" ++ text "\n" ++ text "SOURCES = " := rfl
  have between : text "\n\n" = text "\n" ++ text "\n" := rfl
  rw [(toModule_eq_ok h).2, moduleLines_eq, parenthesize_block, parenthesize_block, sources, words,
    first, between]
  simp

theorem readModule?_toModule (words : ∀ n ∈ o.words, isWord n) (h : o.toModule name = .ok t) :
    readModule? t = some (name, o) := by
  have lines : Text.splitOn lineFeed t = [header, []] ++ (tupleLines (text "SOURCES") o.pathLines ++
      ([[]] ++ (tupleLines name o.hexLines ++ [[]]))) := by
    rw [splitOn_toModule words h, moduleLines]
    simp only [List.append_assoc]
    rfl
  have closed : ∀ line ∈ o.pathLines, line ≠ text ")" := by
    rw [pathLines_eq]
    exact List.forall_mem_map.2 fun row _ => line_ne_closing _ _
  have closed' : ∀ line ∈ o.hexLines, line ≠ text ")" :=
    List.forall_mem_map.2 fun chunk _ => line_ne_closing _ _
  have paths : o.pathLines.mapM (listed? stringOf?) = some (o.sources.map fun path => [path]) := by
    rw [pathLines_eq, o.spelled_paths.listed]
  have hexadecimal : o.hexLines.mapM (listed? hexOf?) = some (wordLines o.words) :=
    (spelled_words words).listed
  rw [readModule?, lines]
  simp [definition?_tupleLines _ closed, definition?_tupleLines _ closed', paths, flatten_paths,
    hexadecimal, flatten_wordLines]

/-- **The source text of an output holds all of it.**

    The names that are accepted are the identifiers.  For each of them the text consists of the
    header and of two blocks, and of what opens and closes them.  Each line of the first block is
    read as one string with a comma behind it, and these are the sources.  Each line of the second
    is read as up to six integers in hexadecimal with a comma behind each, and all together are the
    words.  Each block, in its parentheses, is a tuple, however few elements it has.  So no other
    output or name has this text. -/
theorem module_read (name : Text) (words : ∀ n ∈ o.words, isWord n) :
    ((∃ t, o.toModule name = .ok t) ↔ Text.isIdentifier name) ∧
    ∀ t, o.toModule name = .ok t →
      (∃ (pathLines wordLines : List Text) (chunks : List (List Int)),
        Text.splitOn lineFeed t = [header, [], text "SOURCES = ("] ++ pathLines ++
          [text ")", [], name ++ text " = ("] ++ wordLines ++ [text ")", []] ∧
        pathLines.mapM (listed? stringOf?) = some (o.sources.map fun path => [path]) ∧
        wordLines.mapM (listed? hexOf?) = some chunks ∧ chunks.flatten = o.words ∧
        (∀ chunk ∈ chunks, chunk.length ≤ 6) ∧
        t = header ++ text "\n\nSOURCES = " ++ parenthesize (block pathLines) ++ text "\n\n" ++
          name ++ text " = " ++ parenthesize (block wordLines) ++ text "\n" ∧
        tupled? stringOf? (block pathLines) = some o.sources ∧
        tupled? hexOf? (block wordLines) = some o.words) ∧
      readModule? t = some (name, o) ∧
      ∀ (o' : BuildOutput) (name' : Text), (∀ n ∈ o'.words, isWord n) →
        o'.toModule name' = .ok t → o' = o ∧ name' = name := by
  refine ⟨toModule_accepts_iff, fun t h => ?_⟩
  have back := readModule?_toModule words h
  have paths := o.spelled_paths
  have hexadecimal := spelled_words words
  refine ⟨⟨o.pathLines, o.hexLines, wordLines o.words, ?_, ?_, hexadecimal.listed,
    flatten_wordLines o.words, fun chunk hchunk => ?_, toModule_eq h, ?_, ?_⟩, back,
    fun o' name' words' h' => ?_⟩
  · rw [splitOn_toModule words h, moduleLines_eq, List.append_assoc]
    rfl
  · rw [pathLines_eq, paths.listed]
  · exact (length_wordLines o.words chunk hchunk).2
  · rw [pathLines_eq, paths.lists.tupled, flatten_paths]
  · exact hexadecimal.lists.tupled.trans (congrArg some (flatten_wordLines o.words))
  · have same := (readModule?_toModule words' h').symm.trans back
    cases same
    exact ⟨rfl, rfl⟩

/-- Paths with both quotes, a backslash, a line feed and a surrogate, and none at all, and one word
    more than a line holds. -/
theorem module_read_quotes :
    let o : BuildOutput :=
      ⟨[text "it's \"\\\n", [.ofNat 0xD800, .ofNat 0xE9, .ofNat 0x2028], []],
        [0x07230203, 0, 1, 2, 3, 4, 0xFFFFFFFF]⟩
    (∀ n ∈ o.words, isWord n) ∧
      ∃ t, o.toModule (text "VERT") = .ok t ∧ readModule? t = some (text "VERT", o) := by
  intro o
  have words : ∀ n ∈ o.words, isWord n := by decide
  obtain ⟨accepts, read⟩ := module_read (text "VERT") words
  obtain ⟨t, h⟩ := accepts.2 (by decide)
  exact ⟨words, t, h, (read t h).2.1⟩

/-- A comma makes a tuple of one word. -/
example : tupled? hexOf? (text "\n    0x00000007,") = some [7] ∧
    tupled? hexOf? (text "\n    0x00000007") = none ∧ tupled? hexOf? [] = some [] := by
  decide +kernel

end BuildOutput

end ShaderBuild
