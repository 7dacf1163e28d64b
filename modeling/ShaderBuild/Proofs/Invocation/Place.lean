/-
  Places in a text.

  A place is a line, counted from one, and a column, counted from zero, where line feeds alone end
  lines.  The places of a text are those behind its beginnings, in the order of their lengths.

  * `Text.rows`: the lines of a text as places count them;
  * `Span.StartsIn`, `Span.offset`, `Span.Before`: is a place in a text, what is in front of it, and
    which of two places comes first;
  * `Position.behind_eq_rows`: the place behind a text;
  * `Position.row_behind`: the place behind a beginning of a text is in it.
-/
import ShaderBuild.Proofs.Invocation.Layout
import ShaderBuild.Proofs.Text.Basic

namespace ShaderBuild

open CodePoint

namespace Text

/-- The lines of a text, without the line feeds. -/
def rows (t : Text) : List Text := splitOn lineFeed t

variable {c : CodePoint} {t : Text}

theorem rows_feed (t : Text) : rows (lineFeed :: t) = [] :: rows t := by
  rw [rows, splitOn, if_pos rfl]
  rfl

theorem rows_eq_cons (t : Text) : ∃ row later, rows t = row :: later := by
  have first := head?_splitOn lineFeed t
  obtain ⟨later, h⟩ := List.head?_eq_some_iff.1 first
  exact ⟨_, later, h⟩

theorem rows_cons (hc : c ≠ lineFeed) {row : Text} {later : List Text} (h : rows t = row :: later) :
    rows (c :: t) = (c :: row) :: later := by
  rw [rows, splitOn, if_neg hc]
  rw [rows] at h
  rw [h]

end Text

namespace Span

/-- Does the span start in a text?  Its line is one of the text, and its column in or behind it. -/
def StartsIn (s : Span) (t : Text) : Prop :=
  ∃ (i : Nat) (row : Text), t.rows[i]? = some row ∧ s.line = i + 1 ∧ 0 ≤ s.col ∧ s.col ≤ row.length

/-- How many code points of the text are in front of the span: those of the lines above, with their
    line feeds, and those left of it. -/
def offset (s : Span) (t : Text) : Nat :=
  ((t.rows.take (s.line.toNat - 1)).map fun row => row.length + 1).sum + s.col.toNat

/-- Does the span start before another one? -/
def Before (s s' : Span) : Prop := s.line < s'.line ∨ s.line = s'.line ∧ s.col < s'.col

end Span

namespace Position

variable {c : CodePoint} {p : Position} {b t u : Text}

theorem behind_cons (hc : c ≠ lineFeed) (t : Text) : behind (c :: t) = (behind t).shifted := by
  have one : start.next c = ⟨1, 1⟩ := if_neg hc
  rw [← start_after, ← shifted_after, ← one]
  rfl

theorem behind_feed (t : Text) :
    behind (lineFeed :: t) = ⟨(behind t).line + 1, (behind t).col⟩ := by
  have feed : [lineFeed].takeWhile (· ≠ lineFeed) = [] := by decide
  have last : ((lineFeed :: t).reverse.takeWhile (· ≠ lineFeed)).length =
      (t.reverse.takeWhile (· ≠ lineFeed)).length := by
    rw [List.reverse_cons, List.takeWhile_append, feed]
    split
    · rename_i all
      rw [List.append_nil, all]
    · rfl
  simp only [behind, last, List.count_cons_self]

theorem behind_eq_rows (t : Text) :
    ∃ row, t.rows.getLast? = some row ∧ behind t = ⟨t.rows.length, row.length⟩ := by
  induction t with
  | nil => exact ⟨[], rfl, rfl⟩
  | cons c t ih =>
    obtain ⟨row, hlast, hbehind⟩ := ih
    obtain ⟨first, later, hrows⟩ := Text.rows_eq_cons t
    by_cases hc : c = lineFeed
    · refine ⟨row, ?_, ?_⟩
      · rw [hc, Text.rows_feed, List.getLast?_cons, hlast]
        rfl
      · rw [hc, Text.rows_feed, behind_feed, hbehind]
        rfl
    · rw [Text.rows_cons hc hrows, behind_cons hc, hbehind, hrows]
      rw [hrows] at hlast
      cases later with
      | nil =>
        obtain rfl : first = row := Option.some.inj hlast
        exact ⟨c :: first, rfl, rfl⟩
      | cons second later => exact ⟨row, hlast, rfl⟩

/-- The place behind the beginning of a text is in one of its lines, and that beginning is in front
    of it. -/
theorem row_behind (b u : Text) : ∃ i row, (b ++ u).rows[i]? = some row ∧
    (behind b).line = i + 1 ∧ (behind b).col ≤ row.length ∧
    (((b ++ u).rows.take i).map fun row => row.length + 1).sum + (behind b).col = b.length := by
  induction b with
  | nil =>
    obtain ⟨row, later, hrows⟩ := Text.rows_eq_cons u
    exact ⟨0, row, by rw [List.nil_append, hrows]; rfl, rfl, Nat.zero_le _, rfl⟩
  | cons c b ih =>
    obtain ⟨i, row, hrow, hline, hcol, hsum⟩ := ih
    obtain ⟨first, later, hrows⟩ := Text.rows_eq_cons (b ++ u)
    rw [List.cons_append]
    -- a line feed puts a line on top, and another code point makes the first line longer
    by_cases hc : c = lineFeed
    · refine ⟨i + 1, row, ?_, ?_, ?_, ?_⟩
      · rw [hc, Text.rows_feed]
        exact hrow
      · rw [hc, behind_feed, hline]
      · rw [hc, behind_feed]
        exact hcol
      · rw [hc, Text.rows_feed, behind_feed, List.take_succ_cons, List.map_cons, List.sum_cons,
          List.length_cons, ← hsum]
        simp only [List.length_nil]
        omega
    · rw [Text.rows_cons hc hrows, behind_cons hc]
      rw [hrows] at hrow hsum
      cases i with
      | zero =>
        obtain rfl : first = row := Option.some.inj hrow
        have shifted : (behind b).shifted = ⟨1, (behind b).col + 1⟩ := if_pos hline
        rw [shifted]
        refine ⟨0, c :: first, rfl, rfl, Nat.succ_le_succ hcol, ?_⟩
        rw [List.length_cons, ← hsum]
        rfl
      | succ i =>
        have shifted : (behind b).shifted = behind b := if_neg (by omega)
        rw [shifted]
        refine ⟨i + 1, row, hrow, hline, hcol, ?_⟩
        rw [List.take_succ_cons, List.map_cons, List.sum_cons, List.length_cons, List.length_cons,
          ← hsum, List.take_succ_cons, List.map_cons, List.sum_cons]
        omega

theorem lt_after (hu : u ≠ []) (p : Position) :
    p.line < (p.after u).line ∨ p.line = (p.after u).line ∧ p.col < (p.after u).col := by
  have one (p : Position) (c : CodePoint) :
      p.line < (p.next c).line ∨ p.line = (p.next c).line ∧ p.col < (p.next c).col := by
    unfold next
    split
    · exact .inl (Nat.lt_succ_self _)
    · exact .inr ⟨rfl, Nat.lt_succ_self _⟩
  induction u generalizing p with
  | nil => exact absurd rfl hu
  | cons c u ih =>
    have first := one p c
    have step : p.after (c :: u) = (p.next c).after u := rfl
    rw [step]
    by_cases hnil : u = []
    · rw [hnil]
      exact first
    · have later := ih hnil (p.next c)
      omega

end Position

namespace Span

variable {s : Span} {b u : Text}

/-- Is the span at the place behind a text? -/
def IsBehind (s : Span) (b : Text) : Prop :=
  s.line = (Position.behind b).line ∧ s.col = (Position.behind b).col

theorem IsBehind.startsIn (h : s.IsBehind b) (u : Text) : s.StartsIn (b ++ u) := by
  obtain ⟨i, row, hrow, hline, hcol, -⟩ := Position.row_behind b u
  refine ⟨i, row, hrow, ?_, ?_, ?_⟩
  · rw [h.1, hline]
    rfl
  · rw [h.2]
    exact Int.natCast_nonneg _
  · rw [h.2]
    exact Int.ofNat_le.2 hcol

theorem IsBehind.offset (h : s.IsBehind b) (u : Text) : s.offset (b ++ u) = b.length := by
  obtain ⟨i, row, -, hline, -, hsum⟩ := Position.row_behind b u
  have line : s.line.toNat - 1 = i := by
    rw [h.1, hline]
    rfl
  have col : s.col.toNat = (Position.behind b).col := by
    rw [h.2]
    rfl
  rw [Span.offset, line, col, hsum]

theorem IsBehind.before {s' : Span} (h : s.IsBehind b) (h' : s'.IsBehind (b ++ u)) (hu : u ≠ []) :
    s.Before s' := by
  have further := Position.lt_after hu (Position.behind b)
  rw [← Position.start_after, ← Position.after_append, Position.start_after,
    Position.start_after] at further
  rw [Before, h.1, h.2, h'.1, h'.2]
  exact further.imp Int.ofNat_lt.2 fun h => ⟨congrArg Int.ofNat h.1, Int.ofNat_lt.2 h.2⟩

end Span

end ShaderBuild
