/-
  What one step of the scanner takes.

  A step takes a piece in one line, the end of a line, or a string over lines, and brackets alone
  change the depth.  A step fails at a string that is not closed, or at the blanks in front of a
  line.

  * `Lexeme.piece`, `Lexeme.blanks`: the piece that a step takes, and the blanks it goes over;
  * `Lexeme.Takes`: all that a step can take;
  * `Lexeme.Outcome`, `Lexeme.outcome_step`: all that a step can do.
-/
import ShaderBuild.Proofs.Invocation.Extent
import ShaderBuild.Proofs.Invocation.Scanning

namespace ShaderBuild.Lexeme

open CodePoint Shape

variable {p : Position} {s s' : State} {c : CodePoint} {t : Text} {kind : Option Kind} {more : Nat}

/-- The piece that a step takes: the first code point and some others. -/
def piece (c : CodePoint) (t : Text) (more : Nat) : Text := (c :: t).take (more + 1)

/-! ## Blanks -/

/-- The blanks at the start of a text. -/
def blanks (t : Text) : Text := t.takeWhile isGap

theorem take_blanks (t : Text) : t.take (blanks t).length = blanks t :=
  (List.prefix_iff_eq_take.1 (List.takeWhile_prefix _)).symm

theorem lineFeed_notMem_blanks (t : Text) : lineFeed ∉ blanks t := by
  intro mem
  have gap : isGap lineFeed = true := List.all_eq_true.1 List.all_takeWhile _ mem
  exact absurd gap (by decide)

theorem piece_blanks (h : (blanks (c :: t)).length ≠ 0) :
    piece c t ((blanks (c :: t)).length - 1) = blanks (c :: t) := by
  rw [piece, Nat.sub_one_add_one h, take_blanks]

theorem isGap_of_blanks (h : (blanks (c :: t)).length = 0) : isGap c = false := by
  by_contra gap
  rw [Bool.not_eq_false] at gap
  rw [blanks, List.takeWhile_cons_of_pos gap] at h
  cases h

theorem snd_indentation (column : Nat) (t : Text) :
    (indentation column t).2 = (blanks t).length := by
  induction t generalizing column with
  | nil => rfl
  | cons c t ih =>
    unfold indentation
    extract_lets go
    have goes (column : Nat) (h : isGap c) : (go column).2 = (blanks (c :: t)).length := by
      rw [blanks, List.takeWhile_cons_of_pos h, List.length_cons, ← blanks]
      exact congrArg (· + 1) (ih column)
    split
    · rename_i space
      exact goes _ (by rw [space]; decide)
    · split
      · rename_i tab
        exact goes _ (by rw [tab]; decide)
      · split
        · rename_i feed
          exact goes _ (by rw [feed]; decide)
        · rename_i space tab feed
          have other : isGap c = false := by simp [isGap, space, tab, feed]
          rw [blanks, List.takeWhile_cons_of_neg (by simp [other])]
          rfl

/-! ## Outcomes -/

/-- What a step takes, of which kind, and what the scanner knows then. -/
inductive Takes (s : State) (c : CodePoint) (t : Text) (more : Nat) (s' : State) :
    Option Kind → Prop
  /-- A piece in one line, which goes on behind it. -/
  | inLine {kind : Option Kind} : lineFeed ∉ piece c t more → s'.lineStart = none →
      s'.depth = (if kind = some .symbol then depthAfter s.depth c else s.depth) →
      Takes s c t more s' kind
  /-- The end of a line, or of the text. -/
  | lineEnd {line : Text} : lineFeed ∉ line →
      piece c t more = line ++ [lineFeed] ∨ piece c t more = line ∧ t.drop more = [] →
      s'.depth = s.depth → Takes s c t more s' none
  /-- A string over lines, up to its quotes. -/
  | string {u : Text} {q : CodePoint} : isEither q '\'' '"' → piece c t more = u ++ [q] →
      s'.lineStart = none → s'.depth = s.depth → Takes s c t more s' (some .string)
  /-- A string that breaks off at the end of a line, or of the text. -/
  | broken {u : Text} : c ≠ lineFeed → piece c t more = u ++ [lineFeed] ∨ t.drop more = [] →
      s'.depth = s.depth → Takes s c t more s' (some .stray)

/-- What a step does. -/
inductive Outcome (p : Position) (s : State) (c : CodePoint) (t : Text) : Step → Prop
  /-- It takes a piece.  The text may go on with a line that is not indented, if it could before. -/
  | take {kind : Option Kind} {more : Nat} {s' : State} : Takes s c t more s' kind →
      (0 ∈ s.indents → 0 ∈ s'.indents) → Outcome p s c t (.take kind more s')
  /-- It stops in front of blanks that end the text. -/
  | stop : (∀ d ∈ c :: t, isGap d) → Outcome p s c t .stop
  | openString : c ≠ lineFeed → c ≠ ')' → Outcome p s c t (.fail ⟨.openString, p⟩)
  /-- It fails at the blanks in front of a line. -/
  | indentation : s.lineStart ≠ none → (0 ∈ s.indents → isGap c) →
      Outcome p s c t (.fail ⟨.indentation, ⟨p.line, (blanks (c :: t)).length - 1⟩⟩)

/-! ## Within a line -/

theorem piece_add (c : CodePoint) (t : Text) (more n : Nat) :
    piece c t (more + n) = piece c t more ++ (t.drop more).take n := by
  rw [piece, Nat.add_right_comm, List.take_add]
  rfl

theorem lineFeed_notMem_stray {d : CodePoint} {u : Text}
    (hd : (c :: t).drop (blanks (c :: t)).length = d :: u) (h : recognize d u = none) :
    lineFeed ∉ piece c t 0 := by
  intro mem
  obtain rfl : lineFeed = c := List.mem_singleton.1 mem
  rw [blanks, List.takeWhile_cons_of_neg (by decide)] at hd
  cases hd
  cases h

/-- Where no piece is recognized, blanks are taken, or one code point that is astray. -/
theorem stepWithin_skip (p : Position) (s : State) (h : isGap c = true ∨ recognize c t = none) :
    ∃ kind more, stepWithin p s c t = .take kind more { s with lineStart := none } ∧
      kind ≠ some .symbol ∧ lineFeed ∉ piece c t more := by
  by_cases hblank : (blanks (c :: t)).length = 0
  · have hc := isGap_of_blanks hblank
    have hm : recognize c t = none := h.resolve_left (by simp [hc])
    refine ⟨some .stray, 0, ?_, by decide, lineFeed_notMem_stray (by rw [hblank]; rfl) hm⟩
    unfold stepWithin
    simp only [List.takeWhile_cons, hc, Bool.false_eq_true, if_false, List.length_nil,
      List.drop_zero, hm]
  · have taken : lineFeed ∉ piece c t ((blanks (c :: t)).length - 1) := by
      rw [piece_blanks hblank]
      exact lineFeed_notMem_blanks _
    unfold stepWithin
    dsimp only
    rw [← blanks]
    split
    · exact ⟨_, _, rfl, by decide, taken⟩
    · rename_i d u hd
      split
      · rename_i hm
        exact ⟨_, _, rfl, by decide, lineFeed_notMem_stray hd hm⟩
      · rw [if_pos hblank]
        exact ⟨_, _, rfl, by decide, taken⟩

/-- Where a piece is recognized, it is taken, if it is no string that is not closed. -/
theorem outcome_of_recognize {m : Match} (hc : isGap c = false) (hm : recognize c t = some m) :
    Outcome p s c t (stepWithin p s c t) := by
  have reach := extends_recognize hm
  unfold stepWithin
  simp only [List.takeWhile_cons, hc, Bool.false_eq_true, if_false, List.length_nil,
    List.drop_zero, hm, ne_eq, not_true_eq_false]
  split
  · obtain ⟨u, hu, hpiece⟩ := reach
    exact .take (.lineEnd hu (.inl hpiece) rfl) id
  · obtain ⟨u, hu, hpiece⟩ := reach
    exact .take (.lineEnd hu (.inl hpiece) rfl) id
  · exact .take (.inLine reach rfl rfl) id
  · exact .take (.inLine reach.2 rfl rfl) id
  · rename_i kind more symbol
    have other : some kind ≠ some .symbol := by
      rintro ⟨⟩
      exact symbol rfl
    exact .take (.inLine reach.2 rfl (by rw [if_neg other])) id
  · rename_i quote strict more
    obtain ⟨⟨q, last, isQuote⟩, feed, bracket⟩ := reach
    split
    · exact .openString feed bracket
    · rename_i n hclose
      refine .take ?_ id
      rcases take_closeString hclose with ⟨other, -⟩ | ⟨-, ⟨u, hu⟩ | hu⟩
      · cases other
      · refine .broken (u := piece c t more ++ u) feed (.inl ?_) rfl
        rw [piece_add, hu, List.append_assoc]
      · refine .broken (u := []) feed (.inr ?_) rfl
        rw [← List.drop_drop, hu]
    · rename_i kind n whole hclose
      refine .take ?_ id
      rcases take_closeString hclose with ⟨rfl, u, hu⟩ | ⟨rfl, -⟩
      · obtain ⟨v, rfl⟩ := List.getLast?_eq_some_iff.1 last
        refine .string (u := piece c t more ++ (u ++ v)) isQuote ?_ rfl rfl
        rw [piece_add, hu]
        simp
      · exact absurd rfl whole

theorem outcome_stepWithin (p : Position) (s : State) (c : CodePoint) (t : Text) :
    Outcome p s c t (stepWithin p s c t) := by
  by_cases hskip : isGap c = true ∨ recognize c t = none
  · obtain ⟨kind, more, hstep, symbol, line⟩ := stepWithin_skip p s hskip
    rw [hstep]
    exact .take (.inLine line rfl (by rw [if_neg symbol])) id
  · rw [not_or, Bool.not_eq_true] at hskip
    obtain ⟨m, hm⟩ := Option.ne_none_iff_exists'.1 hskip.2
    exact outcome_of_recognize hskip.1 hm

/-! ## At the start of a line -/

theorem zero_mem_indent? {column : Nat} {indents indents' : List Nat}
    (h : indent? column indents = some indents') (zero : 0 ∈ indents) : 0 ∈ indents' := by
  unfold indent? at h
  split at h
  · cases h
    exact List.mem_cons_of_mem _ zero
  · split at h
    · cases h
      rw [← List.takeWhile_append_dropWhile (p := (column < ·)) (l := indents)] at zero
      refine (List.mem_append.1 zero).resolve_left fun mem => ?_
      have below := List.all_eq_true.1 List.all_takeWhile _ mem
      exact absurd below (by simp)
    · cases h

theorem indent?_zero {indents : List Nat} (zero : 0 ∈ indents) : indent? 0 indents ≠ none := by
  unfold indent?
  split
  · exact nofun
  · rw [if_pos (List.contains_iff_mem.2 zero)]
    exact nofun

/-- Other indentations make no difference to what a step takes. -/
theorem Outcome.of_indents {indents : List Nat} {r : Step}
    (h : Outcome p { s with indents } c t r) (hs : s.lineStart ≠ none)
    (zero : 0 ∈ s.indents → 0 ∈ indents) : Outcome p s c t r := by
  cases h with
  | take h keeps =>
    refine .take ?_ fun h => keeps (zero h)
    cases h with
    | inLine line start depth => exact .inLine line start depth
    | lineEnd line ends depth => exact .lineEnd line ends depth
    | string isQuote ends start depth => exact .string isQuote ends start depth
    | broken feed ends depth => exact .broken feed ends depth
  | stop h => exact .stop h
  | openString feed bracket => exact .openString feed bracket
  | indentation _ gap => exact .indentation hs fun h => gap (zero h)

theorem takes_line (s : State) (c : CodePoint) (t : Text) :
    Takes s c t ((firstLine (c :: t)).length - 1) s none := by
  have nonempty : (firstLine (c :: t)).length ≠ 0 :=
    fun h => firstLine_ne_nil c t (List.length_eq_zero_iff.1 h)
  have whole : piece c t ((firstLine (c :: t)).length - 1) = firstLine (c :: t) := by
    rw [piece, Nat.sub_one_add_one nonempty]
    exact (List.prefix_iff_eq_take.1 (prefix_firstLine _)).symm
  rcases firstLine_cases (c :: t) with ⟨line, rest, hline, -, hfirst⟩ | ⟨hline, hfirst⟩
  · exact .lineEnd hline (.inl (whole.trans hfirst)) rfl
  · refine .lineEnd hline (.inr ⟨whole.trans hfirst, ?_⟩) rfl
    rw [hfirst]
    exact List.drop_length

theorem outcome_stepLine (p : Position) (continued : Bool) (c : CodePoint) (t : Text)
    (hs : s.lineStart ≠ none) : Outcome p s c t (stepLine p s continued c t) := by
  unfold stepLine
  split
  · exact outcome_stepWithin p s c t
  · rcases hindent : indentation 0 (c :: t) with ⟨column, n⟩
    have hn : n = (blanks (c :: t)).length := by
      rw [← snd_indentation 0, hindent]
    dsimp only
    split
    · rename_i all
      refine .stop fun d hd => ?_
      rw [hn] at all
      have split := List.take_append_drop (blanks (c :: t)).length (c :: t)
      rw [take_blanks, all, List.append_nil] at split
      rw [← split] at hd
      exact List.all_eq_true.1 List.all_takeWhile _ hd
    · split
      · exact .take (takes_line s c t) id
      · split
        · rename_i hcolumn
          rw [hn]
          -- the margin is an indentation that every line may have
          refine .indentation hs fun zero => ?_
          by_contra other
          have first : indentation 0 (c :: t) = (0, 0) := by
            simp only [isGap, Bool.or_eq_true, decide_eq_true_eq, not_or] at other
            simp [indentation, other]
          obtain ⟨rfl, -⟩ := Prod.mk.inj (hindent.symm.trans first)
          exact indent?_zero zero hcolumn
        · rename_i indents hcolumn
          split
          · exact (outcome_stepWithin p _ c t).of_indents hs (zero_mem_indent? hcolumn)
          · rename_i some_blanks
            refine .take (.inLine ?_ rfl rfl) (zero_mem_indent? hcolumn)
            rw [hn] at some_blanks ⊢
            rw [piece_blanks some_blanks]
            exact lineFeed_notMem_blanks _

/-- All that a step can do. -/
theorem outcome_step (p : Position) (s : State) (c : CodePoint) (t : Text) :
    Outcome p s c t (step p s c t) := by
  unfold step
  split
  · rename_i continued hs
    exact outcome_stepLine p continued c t (by rw [hs]; exact nofun)
  · exact outcome_stepWithin p s c t

end ShaderBuild.Lexeme
