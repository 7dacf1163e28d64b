/-
  Where the lexemes of a text lie.

  The lexemes of a text lie in it one behind the other.  In a text in parentheses the last of them
  holds the closing parenthesis: it is that parenthesis, unless a string breaks off there.

  * `Lexeme.scanFrom_cons_ok`, `Lexeme.scanFrom_cons_error`: a run of the scanner by its first step;
  * `Lexeme.LiesAt`, `Lexeme.Laid`, `Lexeme.laid_of_scanFrom`: the places of lexemes;
  * `Lexeme.Closing`, `Lexeme.Ending`, `Lexeme.ending_of_scanFrom`: how a text in parentheses ends;
  * `Lexeme.scanFrom_error`: where the scanner fails.
-/
import ShaderBuild.Proofs.Invocation.Place
import ShaderBuild.Proofs.Invocation.Steps

namespace ShaderBuild.Lexeme

open CodePoint

variable {p : Position} {s s' : State} {c : CodePoint} {t b rest whole : Text}
  {ls body : List Lexeme} {l last : Lexeme} {n m k : Nat}

/-! ## Steps of a run -/

/-- What a step gives, if it gives a lexeme. -/
def given (p : Position) (kind : Option Kind) (spelling : Text) : List Lexeme :=
  (kind.map fun kind => ⟨kind, spelling, p⟩).toList

theorem scanFrom_cons_ok (h : scanFrom p s (c :: t) = .ok ls) :
    step p s c t = .stop ∧ ls = [] ∨
    ∃ kind more s' later, step p s c t = .take kind more s' ∧
      scanFrom (p.after (piece c t more)) s' (t.drop more) = .ok later ∧
      ls = given p kind (piece c t more) ++ later := by
  rw [scanFrom] at h
  split at h
  · rename_i hstep
    cases h
    exact .inl ⟨hstep, rfl⟩
  · cases h
  · rename_i kind more s' hstep
    dsimp only at h
    split at h
    · cases h
    · rename_i later hlater
      cases h
      refine .inr ⟨kind, more, s', later, hstep, hlater, ?_⟩
      cases kind <;> rfl

theorem scanFrom_cons_error {f : ScanFault} (h : scanFrom p s (c :: t) = .error f) :
    step p s c t = .fail f ∨
    ∃ kind more s', step p s c t = .take kind more s' ∧
      scanFrom (p.after (piece c t more)) s' (t.drop more) = .error f := by
  rw [scanFrom] at h
  split at h
  · cases h
  · rename_i hstep
    cases h
    exact .inl hstep
  · rename_i kind more s' hstep
    dsimp only at h
    split at h
    · rename_i hlater
      cases h
      exact .inr ⟨kind, more, s', hstep, hlater⟩
    · cases h

theorem piece_append_drop (c : CodePoint) (t : Text) (more : Nat) :
    piece c t more ++ t.drop more = c :: t := List.take_append_drop (more + 1) (c :: t)

theorem length_drop_lt (c : CodePoint) (t : Text) (more : Nat) :
    (t.drop more).length < (c :: t).length := by
  rw [List.length_drop, List.length_cons]
  omega

/-! ## Places of lexemes -/

/-- A lexeme lies in a text, with some code points in front of it.  Another code point was put
    before the text. -/
structure LiesAt (whole : Text) (n : Nat) (l : Lexeme) : Prop where
  nonempty : l.spelling ≠ []
  reads : (whole.drop n).take l.spelling.length = l.spelling
  position : l.position = (⟨1, 1⟩ : Position).after (whole.take n)

theorem LiesAt.add_le (h : LiesAt whole n l) : n + l.spelling.length ≤ whole.length := by
  have fits := congrArg List.length h.reads
  have long := List.length_pos_of_ne_nil h.nonempty
  rw [List.length_take, List.length_drop] at fits
  omega

theorem LiesAt.of_append {u v : Text} (h : LiesAt (u ++ v) n l)
    (fits : n + l.spelling.length ≤ u.length) : LiesAt u n l where
  nonempty := h.nonempty
  reads := by
    have reads := h.reads
    rwa [List.drop_append_of_le_length (by omega), List.take_append_of_le_length] at reads
    rw [List.length_drop]
    omega
  position := by
    rw [h.position, List.take_append_of_le_length (by omega)]

/-- Lexemes lie one behind the other between two places of a text. -/
inductive Laid (whole : Text) : Nat → Nat → List Lexeme → Prop
  | nil {n k : Nat} : n ≤ k → Laid whole n k []
  | cons {n m k : Nat} {l : Lexeme} {ls : List Lexeme} : n ≤ m → LiesAt whole m l →
      Laid whole (m + l.spelling.length) k ls → Laid whole n k (l :: ls)

theorem Laid.le (h : Laid whole n k ls) : n ≤ k := by
  induction h with
  | nil hle => exact hle
  | cons hle _ _ ih => omega

theorem Laid.mono (hle : m ≤ n) (h : Laid whole n k ls) : Laid whole m k ls := by
  cases h with
  | nil h => exact .nil (Nat.le_trans hle h)
  | cons h lies later => exact .cons (Nat.le_trans hle h) lies later

theorem Laid.liesAt (h : Laid whole n k ls) : ∀ l ∈ ls, ∃ i, LiesAt whole i l ∧
    i + l.spelling.length ≤ k := by
  induction h with
  | nil _ => exact nofun
  | cons _ lies later ih => exact List.forall_mem_cons.2 ⟨⟨_, lies, later.le⟩, ih⟩

theorem Laid.concat (h : Laid whole n k (body ++ [last])) :
    ∃ m, Laid whole n m body ∧ LiesAt whole m last := by
  induction body generalizing n with
  | nil =>
    cases h with
    | cons hle lies _ => exact ⟨_, .nil hle, lies⟩
  | cons l body ih =>
    cases h with
    | cons hle lies later =>
      obtain ⟨m, hbody, hlast⟩ := ih later
      exact ⟨m, .cons hle lies hbody, hlast⟩

/-- The lexemes that the scanner finds lie one behind the other. -/
theorem laid_of_scanFrom (h : scanFrom ((⟨1, 1⟩ : Position).after b) s rest = .ok ls) :
    Laid (b ++ rest) b.length (b ++ rest).length ls := by
  -- every step takes a code point, so the induction is on their number
  induction hn : rest.length using Nat.strongRecOn generalizing b s rest ls with
  | ind n ih =>
    subst hn
    cases rest with
    | nil =>
      rw [scanFrom, finish] at h
      split at h
      · cases h
        exact .nil (by simp)
      · cases h
    | cons c t =>
      rcases scanFrom_cons_ok h with ⟨-, rfl⟩ | ⟨kind, more, s', later, -, hlater, rfl⟩
      · exact .nil (by simp)
      · -- the piece that is taken goes over to what is behind the scanner
        rw [← Position.after_append] at hlater
        have laid := ih _ (length_drop_lt c t more) hlater rfl
        rw [List.append_assoc, piece_append_drop, List.length_append] at laid
        cases kind with
        | none => exact laid.mono (Nat.le_add_right _ _)
        | some kind =>
          refine .cons (Nat.le_refl _) ⟨List.cons_ne_nil _ _, ?_, ?_⟩ laid
          · rw [List.drop_left, ← piece_append_drop c t more, List.take_left]
          · rw [List.take_left]

/-! ## The end of a text in parentheses -/

/-- How many brackets the lexeme opens, less those it closes. -/
def nesting (l : Lexeme) : Int :=
  if l.kind = .symbol then depthAfter 0 (l.spelling.headD ' ') else 0

theorem depthAfter_eq (depth : Int) (c : CodePoint) :
    depthAfter depth c = depth + depthAfter 0 c := by
  unfold depthAfter
  split
  · omega
  · split <;> omega

/-- A text that ends like one in parentheses, or the parenthesis at the end. -/
inductive Closing : Text → Prop
  | bracket : Closing [')']
  | behind (u : Text) : Closing (u ++ [lineFeed, ')'])

namespace Closing

theorem getLast? (h : Closing t) : t.getLast? = some ')' := by
  cases h with
  | bracket => rfl
  | behind u => rw [List.getLast?_append]; rfl

theorem eq_bracket (h : Closing t) (line : lineFeed ∉ t) : t = [(')' : CodePoint)] := by
  cases h with
  | bracket => rfl
  | behind u => exact absurd (List.mem_append_right u List.mem_cons_self) line

theorem drop (h : Closing t) (n : Nat) : t.drop n = [] ∨ Closing (t.drop n) := by
  cases h with
  | bracket =>
    cases n with
    | zero => exact .inr .bracket
    | succ n => exact .inl (by simp)
  | behind u =>
    by_cases inside : n ≤ u.length
    · rw [List.drop_append_of_le_length inside]
      exact .inr (.behind _)
    · obtain ⟨k, rfl⟩ := Nat.exists_eq_add_of_lt (Nat.lt_of_not_le inside)
      rw [show u.length + k + 1 = u.length + (k + 1) by omega, ← List.drop_drop, List.drop_left]
      cases k with
      | zero => exact .inr .bracket
      | succ k => exact .inl (by simp)

end Closing

/-- The lexeme with which a text in parentheses ends: the closing parenthesis, or a string that
    breaks off there, although it starts in front of it. -/
inductive HoldsBracket (p : Position) (rest : Text) (last : Lexeme) : Prop
  | bracket : last = ⟨.symbol, [')'], p.after rest.dropLast⟩ → HoldsBracket p rest last
  | broken {u v : Text} : last.kind = .stray → v ≠ [] → rest = u ++ (v ++ [lineFeed, ')']) →
      last.spelling = v ++ [lineFeed, ')'] → HoldsBracket p rest last

/-- How the lexemes of the rest of a text end. -/
structure Ending (p : Position) (depth : Int) (rest : Text) (body : List Lexeme) (last : Lexeme) :
    Prop where
  /-- All brackets are closed. -/
  balance : depth + (body.map nesting).sum + last.nesting = 0
  /-- No lexeme but a stray one takes the end of a line along. -/
  inside : ∀ l ∈ body, l.kind ≠ .stray → l.spelling.getLast? ≠ some lineFeed
  holds : HoldsBracket p rest last

theorem finish_eq_ok (h : finish p s = .ok ls) : ls = [] ∧ s.depth = 0 := by
  unfold finish at h
  split at h
  · rename_i closed
    cases h
    simp only [Bool.and_eq_true, decide_eq_true_eq] at closed
    exact ⟨rfl, closed.1⟩
  · cases h

theorem step_bracket {kind : Option Kind} {more : Nat} (h : step p s ')' [] = .take kind more s') :
    kind = some .symbol ∧ more = 0 ∧ s'.depth = s.depth - 1 := by
  have within {s : State} (h : stepWithin p s ')' [] = .take kind more s') :
      kind = some .symbol ∧ more = 0 ∧ s'.depth = s.depth - 1 := by
    cases h
    exact ⟨rfl, rfl, rfl⟩
  unfold step at h
  split at h
  · unfold stepLine at h
    split at h
    · exact within h
    · have unindented : indentation 0 [')'] = (0, 0) := rfl
      have statement : (text "#\r\n").contains ')' = false := rfl
      rw [unindented] at h
      simp only [List.drop_zero, statement, Bool.false_eq_true, if_false, if_true] at h
      split at h
      · cases h
      · have taken := within h
        exact taken
  · exact within h

theorem scanFrom_bracket (h : scanFrom p s [')'] = .ok ls) :
    ls = [⟨.symbol, [')'], p⟩] ∧ s.depth = 1 := by
  rcases scanFrom_cons_ok h with ⟨hstep, -⟩ | ⟨kind, more, s', later, hstep, hlater, rfl⟩
  · have outcome := outcome_step p s ')' []
    rw [hstep] at outcome
    cases outcome with
    | stop blank => exact absurd (blank ')' List.mem_cons_self) (by decide)
  · obtain ⟨rfl, rfl, hdepth⟩ := step_bracket hstep
    rw [List.drop_nil, scanFrom] at hlater
    obtain ⟨rfl, closed⟩ := finish_eq_ok hlater
    exact ⟨rfl, by omega⟩

/-- A lexeme that a step gives keeps account of the depth. -/
theorem Takes.depth {kind : Option Kind} {more : Nat} (h : Takes s c t more s' kind) :
    s'.depth = s.depth + ((given p kind (piece c t more)).map nesting).sum := by
  cases h with
  | @inLine kind line start hdepth =>
    rw [hdepth]
    cases kind with
    | none => simp [given]
    | some kind =>
      by_cases symbol : kind = .symbol
      · rw [if_pos (congrArg some symbol), depthAfter_eq]
        simp [given, nesting, symbol, piece]
      · rw [if_neg (by simpa using symbol)]
        simp [given, nesting, symbol]
  | lineEnd _ _ hdepth => simp [given, hdepth]
  | string _ _ _ hdepth => simp [given, nesting, hdepth]
  | broken _ _ hdepth => simp [given, nesting, hdepth]

/-- Only a stray lexeme ends in a line feed. -/
theorem Takes.inside {kind : Option Kind} {more : Nat} (h : Takes s c t more s' kind) :
    ∀ l ∈ given p kind (piece c t more), l.kind ≠ .stray → l.spelling.getLast? ≠ some lineFeed := by
  intro l hl other feed
  cases h with
  | @inLine kind line _ _ =>
    cases kind with
    | none => cases hl
    | some kind =>
      obtain rfl := List.mem_singleton.1 hl
      exact line (List.mem_of_getLast? feed)
  | lineEnd _ _ _ => cases hl
  | string isQuote ends _ _ =>
    obtain rfl := List.mem_singleton.1 hl
    rw [ends, List.getLast?_concat] at feed
    rw [Option.some.inj feed] at isQuote
    exact absurd isQuote (by decide)
  | broken _ _ _ =>
    obtain rfl := List.mem_singleton.1 hl
    exact other rfl

/-- If a step takes all of the text, a string breaks off there, or nothing else is left but the
    parenthesis. -/
theorem Takes.all {kind : Option Kind} {more : Nat} (h : Takes s c t more s' kind)
    (closing : Closing (c :: t)) (all : t.drop more = []) :
    c :: t = [(')' : CodePoint)] ∨ kind = some .stray ∧ c ≠ lineFeed := by
  have whole : piece c t more = c :: t := by
    rw [← piece_append_drop c t more, all, List.append_nil]
  have ends := closing.getLast?
  rw [← whole] at ends
  cases h with
  | inLine line _ _ =>
    rw [whole] at line
    exact .inl (closing.eq_bracket line)
  | lineEnd line hpiece _ =>
    rcases hpiece with hpiece | ⟨hpiece, -⟩
    · rw [hpiece, List.getLast?_concat] at ends
      cases ends
    · rw [← hpiece, whole] at line
      exact .inl (closing.eq_bracket line)
  | string isQuote hpiece _ _ =>
    rw [hpiece, List.getLast?_concat] at ends
    rw [Option.some.inj ends] at isQuote
    exact absurd isQuote (by decide)
  | broken feed _ _ => exact .inr ⟨rfl, feed⟩

theorem HoldsBracket.prepend {u : Text} (h : HoldsBracket (p.after u) rest last)
    (hrest : rest ≠ []) : HoldsBracket p (u ++ rest) last := by
  cases h with
  | bracket hlast =>
    refine .bracket ?_
    rw [List.dropLast_append_of_ne_nil hrest, Position.after_append]
    exact hlast
  | @broken before v stray nonempty split spelling =>
    refine .broken (u := u ++ before) stray nonempty ?_ spelling
    rw [split, List.append_assoc]

theorem Closing.ne_nil (h : Closing t) : t ≠ [] := by
  intro none
  have last := h.getLast?
  rw [none] at last
  cases last

/-- If a step takes all of the text, and that is more than the parenthesis, then the parenthesis is
    held by a string that breaks off. -/
theorem Takes.ending_of_all {kind : Option Kind} {more : Nat} (takes : Takes s c t more s' kind)
    (closing : Closing (c :: t)) (long : c :: t ≠ [(')' : CodePoint)]) (all : t.drop more = [])
    (closed : s'.depth = 0) :
    given p kind (piece c t more) = [⟨.stray, c :: t, p⟩] ∧
      Ending p s.depth (c :: t) [] ⟨.stray, c :: t, p⟩ := by
  obtain ⟨rfl, feed⟩ := (takes.all closing all).resolve_left long
  have whole : piece c t more = c :: t := by
    rw [← piece_append_drop c t more, all, List.append_nil]
  have depth := takes.depth (p := p)
  rw [closed, whole] at depth
  refine ⟨by rw [whole]; rfl, ?_, nofun, ?_⟩
  · simpa [given, nesting] using depth.symm
  · generalize hrest : c :: t = rest at closing long
    cases closing with
    | bracket => exact absurd rfl long
    | behind u =>
      refine .broken (u := []) (v := u) rfl ?_ rfl rfl
      rintro rfl
      exact feed (List.cons.inj hrest).1

/-- What a step gives stands in front of what the rest of the text ends like. -/
theorem Takes.ending_of_drop {kind : Option Kind} {more : Nat} (takes : Takes s c t more s' kind)
    (rest : t.drop more ≠ [])
    (ending : Ending (p.after (piece c t more)) s'.depth (t.drop more) body last) :
    Ending p s.depth (c :: t) (given p kind (piece c t more) ++ body) last where
  balance := by
    have balance := ending.balance
    rw [takes.depth (p := p)] at balance
    rw [List.map_append, List.sum_append]
    omega
  inside := List.forall_mem_append.2 ⟨takes.inside, ending.inside⟩
  holds := by
    rw [← piece_append_drop c t more]
    exact ending.holds.prepend rest

/-- The scanner finds lexemes of which the last holds the closing parenthesis. -/
theorem ending_of_scanFrom (closing : Closing rest) (h : scanFrom p s rest = .ok ls) :
    ∃ body last, ls = body ++ [last] ∧ Ending p s.depth rest body last := by
  -- a step leaves a text that ends like one in parentheses, or nothing at all
  induction hn : rest.length using Nat.strongRecOn generalizing p s rest ls with
  | ind n ih =>
    subst hn
    obtain ⟨c, t, rfl⟩ := List.exists_cons_of_ne_nil closing.ne_nil
    by_cases bracket : c :: t = [(')' : CodePoint)]
    · rw [bracket] at h ⊢
      obtain ⟨rfl, depth⟩ := scanFrom_bracket h
      refine ⟨[], _, rfl, ?_, nofun, .bracket rfl⟩
      rw [depth]
      rfl
    · have outcome := outcome_step p s c t
      rcases scanFrom_cons_ok h with ⟨hstep, -⟩ | ⟨kind, more, s', later, hstep, hlater, rfl⟩
      · rw [hstep] at outcome
        cases outcome with
        | stop blank =>
          exact absurd (blank _ (List.mem_of_getLast? closing.getLast?)) (by decide)
      · rw [hstep] at outcome
        cases outcome with
        | take takes _ =>
          rcases closing.drop (more + 1) with all | rest
          · -- the step has taken the parenthesis along, so a string breaks off here
            rw [List.drop_succ_cons] at all
            rw [all, scanFrom] at hlater
            obtain ⟨rfl, closed⟩ := finish_eq_ok hlater
            obtain ⟨string, ending⟩ := takes.ending_of_all (p := p) closing bracket all closed
            exact ⟨[], _, by rw [string]; rfl, ending⟩
          · obtain ⟨body, last, rfl, ending⟩ := ih _ (length_drop_lt c t more) rest hlater rfl
            exact ⟨given p kind (piece c t more) ++ body, last, (List.append_assoc _ _ _).symm,
              takes.ending_of_drop rest.ne_nil ending⟩

/-! ## Faults -/

theorem after_of_notMem (p : Position) {u : Text} (line : lineFeed ∉ u) :
    p.after u = ⟨p.line, p.col + u.length⟩ := by
  induction u generalizing p with
  | nil => rfl
  | cons c u ih =>
    rw [List.mem_cons, not_or] at line
    have next : p.next c = ⟨p.line, p.col + 1⟩ := if_neg (Ne.symm line.1)
    have step : p.after (c :: u) = (p.next c).after u := rfl
    rw [step, next, ih _ line.2, List.length_cons, Nat.add_right_comm, Nat.add_assoc]

/-- Where the scanner fails in a text in parentheses: on the second line behind the text if a
    bracket is left open, and in the text otherwise. -/
inductive FailsAt (t : Text) (f : ScanFault) : Prop
  | behind : f = ⟨.openStatement, ⟨t.rows.length + 2, 0⟩⟩ → FailsAt t f
  | within {b u : Text} : f.reason ≠ .openStatement → t = b ++ u →
      f.position = (⟨1, 1⟩ : Position).after b → FailsAt t f

/-- The closing parenthesis stands at the start of the line behind a text. -/
theorem after_feed (t : Text) :
    (⟨1, 1⟩ : Position).after (t ++ [lineFeed]) = ⟨t.rows.length + 1, 0⟩ := by
  obtain ⟨row, -, hrows⟩ := Position.behind_eq_rows t
  obtain ⟨first, later, nonempty⟩ := Text.rows_eq_cons t
  rw [Position.shifted_after, Position.behind_concat, hrows, nonempty]
  rfl

theorem after_parentheses (t : Text) :
    (⟨1, 1⟩ : Position).after (t ++ [lineFeed, ')']) = ⟨t.rows.length + 1, 1⟩ := by
  have split : t ++ [lineFeed, ')'] = (t ++ [lineFeed]) ++ [(')' : CodePoint)] := by simp
  rw [split, Position.after_append, after_feed]
  rfl

/-- What a text in parentheses ends in, behind a beginning of it. -/
theorem rest_cases (h : b ++ rest = t ++ [lineFeed, ')']) (hrest : rest ≠ []) :
    (∃ u, rest = u ++ [lineFeed, ')'] ∧ t = b ++ u) ∨ rest = [(')' : CodePoint)] := by
  rcases List.append_eq_append_iff.1 h with ⟨u, ht, hu⟩ | ⟨u, hb, hu⟩
  · exact .inl ⟨u, hu, ht⟩
  · rcases u with _ | ⟨c, _ | ⟨d, u⟩⟩
    · exact .inl ⟨[], hu.symm, by rw [hb, List.append_nil, List.append_nil]⟩
    · exact .inr (List.cons.inj hu).2.symm
    · have short := congrArg List.length hu
      simp at short
      exact absurd short.2 hrest

theorem blanks_append_feed (u v : Text) : blanks (u ++ lineFeed :: v) = blanks u := by
  have none : (lineFeed :: v).takeWhile isGap = [] := List.takeWhile_cons_of_neg (by decide)
  rw [blanks, List.takeWhile_append, none]
  split
  · rename_i all
    rw [List.append_nil]
    exact ((List.takeWhile_prefix isGap).eq_of_length all).symm
  · rfl

theorem Takes.start {kind : Option Kind} {more : Nat} (h : Takes s c t more s' kind)
    (start : s'.lineStart ≠ none) : t.drop more = [] ∨ ∃ u, piece c t more = u ++ [lineFeed] := by
  cases h with
  | inLine _ none _ => exact absurd none start
  | lineEnd _ hpiece _ => exact hpiece.elim (fun h => .inr ⟨_, h⟩) fun h => .inl h.2
  | string _ _ none _ => exact absurd none start
  | broken _ hpiece _ => exact hpiece.elim (fun h => .inr ⟨_, h⟩) .inl

theorem failsAt_indentation {u v : Text} (hline : b = v ++ [lineFeed]) (ht : t = b ++ u) :
    FailsAt t ⟨.indentation, ⟨((⟨1, 1⟩ : Position).after b).line, (blanks u).length - 1⟩⟩ := by
  have fits : (blanks u).length - 1 ≤ u.length := by
    have := (List.takeWhile_prefix isGap (l := u)).length_le
    rw [blanks]
    omega
  have unbroken : lineFeed ∉ u.take ((blanks u).length - 1) := by
    have part : u.take ((blanks u).length - 1) = (blanks u).take ((blanks u).length - 1) := by
      calc u.take ((blanks u).length - 1)
          = (u.take (blanks u).length).take ((blanks u).length - 1) := by
            rw [List.take_take, Nat.min_eq_left (Nat.sub_le _ _)]
        _ = (blanks u).take ((blanks u).length - 1) := by rw [take_blanks]
    rw [part]
    exact fun mem => lineFeed_notMem_blanks u (List.mem_of_mem_take mem)
  have column : ((⟨1, 1⟩ : Position).after b).col = 0 := by
    rw [hline, Position.after_append]
    rfl
  refine .within (b := b ++ u.take ((blanks u).length - 1))
    (u := u.drop ((blanks u).length - 1)) (by simp) ?_ ?_
  · rw [List.append_assoc, List.take_append_drop, ht]
  · rw [Position.after_append, after_of_notMem _ unbroken, column, List.length_take,
      Nat.min_eq_left fits, Nat.zero_add]

theorem scanFrom_error {f : ScanFault} (hrest : b ++ rest = t ++ [lineFeed, ')'])
    (start : s.lineStart ≠ none → rest = [] ∨ ∃ u, b = u ++ [lineFeed]) (zero : 0 ∈ s.indents)
    (h : scanFrom ((⟨1, 1⟩ : Position).after b) s rest = .error f) : FailsAt t f := by
  -- a line starts behind a line feed, and may always go back to the margin: so a fault of an
  -- indentation is one of blanks, and the parenthesis at the end never is
  induction hn : rest.length using Nat.strongRecOn generalizing b s rest with
  | ind n ih =>
    subst hn
    cases rest with
    | nil =>
      rw [List.append_nil] at hrest
      rw [hrest, after_parentheses, scanFrom, finish] at h
      split at h
      · cases h
      · cases h
        exact .behind rfl
    | cons c v =>
      have outcome := outcome_step ((⟨1, 1⟩ : Position).after b) s c v
      rcases scanFrom_cons_error h with hstep | ⟨kind, more, s', hstep, hlater⟩
      · have inside : c ≠ ')' → ∃ u, c :: v = u ++ [lineFeed, ')'] ∧ t = b ++ u := by
          intro other
          refine (rest_cases hrest (List.cons_ne_nil _ _)).resolve_right fun last => ?_
          exact other (List.cons.inj last).1
        rw [hstep] at outcome
        cases outcome with
        | openString _ bracket =>
          obtain ⟨u, -, ht⟩ := inside bracket
          exact .within (by simp) ht rfl
        | indentation atStart blank =>
          have gap : isGap c = true := blank zero
          obtain ⟨u, hu, ht⟩ := inside (by rintro rfl; exact absurd gap (by decide))
          obtain ⟨w, hline⟩ := (start atStart).resolve_left (List.cons_ne_nil _ _)
          rw [hu, blanks_append_feed]
          exact failsAt_indentation hline ht
      · rw [hstep] at outcome
        cases outcome with
        | take takes keeps =>
          rw [← Position.after_append] at hlater
          refine ih _ (length_drop_lt c v more) ?_ ?_ (keeps zero) hlater rfl
          · rw [List.append_assoc, piece_append_drop, hrest]
          · intro atStart
            rcases takes.start atStart with all | ⟨u, hu⟩
            · exact .inl all
            · exact .inr ⟨b ++ u, by rw [hu, List.append_assoc]⟩

end ShaderBuild.Lexeme
