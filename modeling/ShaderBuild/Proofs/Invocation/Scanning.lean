/-
  The scanner within brackets.

  Inside brackets line ends mean nothing.  There the scanner takes blanks, line ends and comments
  away one after the other, and a lexeme is what is recognized at the start of the text, whatever
  stands before it.

  * `Begins`: a text that goes on with a piece behind its blanks;
  * `Scans`: the lexemes of the rest of a text, from within one bracket;
  * `Scans.blank`, `Scans.feed`, `Scans.comment`: what gives no lexeme;
  * `Scans.lexeme`, `Scans.symbol`, `Scans.openString`: what gives one;
  * `scans_closing`, `scan_opening`: the brackets.
-/
import Mathlib.Data.List.TakeWhile
import ShaderBuild.Proofs.Invocation.Shapes

namespace ShaderBuild.Lexeme

open CodePoint

variable {p : Position} {s s' : State} {c : CodePoint} {t u rest : Text} {ls : List Lexeme}

/-! ## One step -/

/-- What the scanner knows within one bracket. -/
def inside : State := { depth := 1, lineStart := none }

/-- The start of a line makes no difference there. -/
theorem step_inside (lineStart : Option Bool) :
    step p { inside with lineStart } c t = stepWithin p inside c t := by
  cases lineStart <;> rfl

/-- A piece that gives no lexeme. -/
theorem scanFrom_skip (h : step p s c (u ++ rest) = .take none u.length s') :
    scanFrom p s (c :: u ++ rest) = scanFrom (p.after (c :: u)) s' rest := by
  rw [List.cons_append, scanFrom, h]
  simp only [List.take_left', List.drop_left']
  cases scanFrom (p.after (c :: u)) s' rest <;> rfl

/-- A piece that gives one. -/
theorem scanFrom_lexeme {kind : Kind} (h : step p s c (u ++ rest) = .take (some kind) u.length s')
    (hrest : scanFrom (p.after (c :: u)) s' rest = .ok ls) :
    scanFrom p s (c :: u ++ rest) = .ok (⟨kind, c :: u, p⟩ :: ls) := by
  rw [List.cons_append, scanFrom, h]
  simp only [List.take_left', List.drop_left', hrest]

section

variable {kind : Kind} {more n : Nat} {quote : Text} (hc : isGap c = false)

include hc

theorem stepWithin_lineEnd (h : recognize c t = some (.lineEnd more)) :
    stepWithin p inside c t = .take none more { inside with lineStart := some false } := by
  unfold stepWithin
  simp [inside, hc, h]

theorem stepWithin_comment (h : recognize c t = some (.comment more)) :
    stepWithin p inside c t = .take none more inside := by
  unfold stepWithin
  simp [inside, hc, h]

theorem stepWithin_symbol (h : recognize c t = some (.lexeme .symbol more)) :
    stepWithin p inside c t =
      .take (some .symbol) more { inside with depth := depthAfter 1 c } := by
  unfold stepWithin
  simp [inside, hc, h]

theorem stepWithin_lexeme (h : recognize c t = some (.lexeme kind more)) (hk : kind ≠ .symbol) :
    stepWithin p inside c t = .take (some kind) more inside := by
  unfold stepWithin
  cases kind with
  | symbol => exact absurd rfl hk
  | _ => simp [inside, hc, h]

/-- A string that goes over lines, and is closed in one of them. -/
theorem stepWithin_openString (h : recognize c t = some (.openString quote false more))
    (hclose : closeString quote false (t.drop more) = some (.string, n)) :
    stepWithin p inside c t = .take (some .string) (more + n) inside := by
  unfold stepWithin
  simp [inside, hc, h, hclose]

end

/-! ## Blanks -/

/-- A text that goes on with a piece, at once or behind blanks. -/
inductive Begins : Text → Prop
  | piece {c : CodePoint} {t : Text} {m : Match} : isGap c = false → recognize c t = some m →
    Begins (c :: t)
  | blank {c : CodePoint} {t : Text} : Begins t → isGap c = true → Begins (c :: t)

theorem Begins.ne_nil (h : Begins t) : t ≠ [] := by
  cases h <;> exact List.cons_ne_nil _ _

/-- The piece behind the blanks. -/
theorem Begins.exists_piece (h : Begins t) :
    ∃ d u m, t.drop (t.takeWhile isGap).length = d :: u ∧ recognize d u = some m := by
  induction h with
  | piece hc hm => exact ⟨_, _, _, by rw [List.takeWhile_cons_of_neg (by simp [hc])]; rfl, hm⟩
  | blank _ hc ih =>
    obtain ⟨d, u, m, ht, hm⟩ := ih
    exact ⟨d, u, m, by rw [List.takeWhile_cons_of_pos hc]; exact ht, hm⟩

/-- A step at blanks takes all of them. -/
theorem stepWithin_blank (hc : isGap c = true) (h : Begins t) :
    stepWithin p inside c t = .take none (t.takeWhile isGap).length inside := by
  obtain ⟨d, u, m, ht, hm⟩ := (h.blank hc).exists_piece
  unfold stepWithin
  simp only [ht, hm]
  simp [List.takeWhile_cons_of_pos hc, inside]

/-- The lexemes of the rest of a text, from within one bracket. -/
structure Scans (p : Position) (t : Text) (ls : List Lexeme) : Prop where
  begins : Begins t
  scan : scanFrom p inside t = .ok ls

theorem scanFrom_inside (lineStart : Option Bool) (ht : t ≠ []) :
    scanFrom p { inside with lineStart } t = scanFrom p inside t := by
  cases t with
  | nil => exact absurd rfl ht
  | cons c t =>
    rw [scanFrom, scanFrom, step_inside, ← step_inside none]
    rfl

namespace Scans

/-- All blanks at the start of a text are passed over together. -/
theorem scanFrom_gap (h : Begins t) :
    scanFrom p inside t = scanFrom (p.after (t.takeWhile isGap)) inside (t.dropWhile isGap) := by
  cases h with
  | piece hc hm =>
    rw [List.takeWhile_cons_of_neg (by simp [hc]), List.dropWhile_cons_of_neg (by simp [hc])]
    rfl
  | @blank c t h hc =>
    rw [List.takeWhile_cons_of_pos hc, List.dropWhile_cons_of_pos hc]
    have whole : c :: t = c :: t.takeWhile isGap ++ t.dropWhile isGap := by
      rw [List.cons_append, List.takeWhile_append_dropWhile]
    rw [whole]
    refine scanFrom_skip ?_
    rw [List.takeWhile_append_dropWhile]
    exact (step_inside none).trans (stepWithin_blank hc h)

/-- So they may as well be passed over one by one. -/
theorem blank (hc : isGap c = true) (h : Scans (p.next c) t ls) : Scans p (c :: t) ls := by
  refine ⟨h.begins.blank hc, ?_⟩
  rw [scanFrom_gap (h.begins.blank hc), List.takeWhile_cons_of_pos hc,
    List.dropWhile_cons_of_pos hc, ← h.scan, scanFrom_gap h.begins]
  rfl

/-- A line end is passed over. -/
theorem feed (h : Scans (p.next lineFeed) t ls) : Scans p (lineFeed :: t) ls := by
  have hc : isGap lineFeed = false := by decide
  have hm : recognize lineFeed t = some (.lineEnd 0) := rfl
  have hstep : step p inside lineFeed t = .take none 0 { inside with lineStart := some false } :=
    (step_inside none).trans (stepWithin_lineEnd hc hm)
  refine ⟨.piece hc hm, ?_⟩
  exact (scanFrom_skip (u := []) hstep).trans ((scanFrom_inside _ h.begins.ne_nil).trans h.scan)

/-- A comment is passed over, up to the end of the line. -/
theorem comment {body : Text} (hbody : ∀ c ∈ body, c ≠ lineFeed ∧ c ≠ '\r')
    (h : Scans (p.after (hash :: body)) (lineFeed :: t) ls) :
    Scans p (hash :: body ++ lineFeed :: t) ls := by
  have hc : isGap hash = false := by decide
  have hm : recognize hash (body ++ lineFeed :: t) = some (.comment body.length) := by
    have whole : (body ++ lineFeed :: t).takeWhile
        (fun d : CodePoint => d != '\r' && d != '\n') = body := by
      rw [List.takeWhile_append_of_pos, List.takeWhile_cons_of_neg]
      · exact List.append_nil _
      · decide
      · intro c hc
        obtain ⟨feed, carriage⟩ := hbody c hc
        simp only [lineFeed] at feed
        simp [feed, carriage]
    have other : hash ≠ '\\' := by decide
    have same : hash = '#' := rfl
    rw [recognize, if_neg other, if_pos same, whole]
  refine ⟨.piece hc hm, ?_⟩
  exact (scanFrom_skip ((step_inside none).trans (stepWithin_comment hc hm))).trans h.scan

/-- A lexeme that is recognized and is no symbol. -/
theorem lexeme {kind : Kind} (hc : isGap c = false)
    (hm : recognize c (u ++ t) = some (.lexeme kind u.length)) (hk : kind ≠ .symbol)
    (h : Scans (p.after (c :: u)) t ls) : Scans p (c :: u ++ t) (⟨kind, c :: u, p⟩ :: ls) :=
  ⟨.piece hc hm,
    scanFrom_lexeme ((step_inside none).trans (stepWithin_lexeme hc hm hk)) h.scan⟩

/-- A symbol that is no bracket. -/
theorem symbol (hc : isGap c = false) (hm : recognize c (u ++ t) = some (.lexeme .symbol u.length))
    (hd : depthAfter 1 c = 1) (h : Scans (p.after (c :: u)) t ls) :
    Scans p (c :: u ++ t) (⟨.symbol, c :: u, p⟩ :: ls) := by
  refine ⟨.piece hc hm, scanFrom_lexeme ((step_inside none).trans ?_) h.scan⟩
  rw [stepWithin_symbol hc hm, hd]
  rfl

/-- A string that goes over lines. -/
theorem openString {quote v : Text} (hc : isGap c = false)
    (hm : recognize c (u ++ (v ++ t)) = some (.openString quote false u.length))
    (hclose : closeString quote false (v ++ t) = some (.string, v.length))
    (h : Scans (p.after (c :: (u ++ v))) t ls) :
    Scans p (c :: (u ++ v) ++ t) (⟨.string, c :: (u ++ v), p⟩ :: ls) := by
  rw [← List.append_assoc] at hm
  refine ⟨.piece hc hm, scanFrom_lexeme ((step_inside none).trans ?_) h.scan⟩
  rw [stepWithin_openString hc hm (n := v.length), List.length_append]
  rw [List.append_assoc, List.drop_left, hclose]

end Scans

/-! ## The brackets -/

/-- The closing bracket ends the text. -/
theorem scans_closing (p : Position) : Scans p [')'] [⟨.symbol, [')'], p⟩] := by
  have hc : isGap ')' = false := by decide
  have hm : recognize ')' [] = some (.lexeme .symbol 0) := rfl
  refine ⟨.piece hc hm, ?_⟩
  refine scanFrom_lexeme (u := []) ((step_inside none).trans (stepWithin_symbol hc hm)) ?_
  rw [scanFrom]
  rfl

/-- A text behind an opening bracket is scanned from within it. -/
theorem scan_opening (ht : t.head? ≠ some equals) (h : Scans ⟨1, 1⟩ t ls) :
    scan ('(' :: t) = .ok (⟨.symbol, ['('], .start⟩ :: ls) := by
  have hc : isGap '(' = false := by decide
  have hm : recognize '(' t = some (.lexeme .symbol 0) := recognize_symbol (by decide) ht
  have hwithin : stepWithin .start {} '(' t = .take (some .symbol) 0 inside := by
    simp [stepWithin, hc, hm, depthAfter, text, inside]
  -- the line is not indented
  have hstep : step .start {} '(' t = .take (some .symbol) 0 inside := by
    rw [← hwithin]
    rfl
  exact scanFrom_lexeme (u := []) hstep h.scan

end ShaderBuild.Lexeme
