/-
  How far a recognized piece goes.

  A piece does not pass the end of its line, but for the strings that go over lines.  Such a string
  ends in its quotes, or at the end of a line.

  * `Shape.InLine`: the first code points of a text are in one line;
  * `Shape.inLine_number?`, `Shape.inLine_symbol?`, `Shape.inLine_word?`: so are numbers, symbols
    and words;
  * `Shape.take_closing?`: so is what is left of a string that is closed in its line, which ends in
    the quotes;
  * `Lexeme.Match.Extends`, `Lexeme.extends_recognize`: how far each kind of piece goes;
  * `Lexeme.take_closeString`: where a string over lines ends.
-/
import ShaderBuild.Proofs.Invocation.Shapes

namespace ShaderBuild

open CodePoint

namespace Shape

variable {n m : Nat} {c : CodePoint} {t : Text} {p : CodePoint → Bool}

/-! ## Lines -/

/-- Are the first code points of a text in one line, without its line feed? -/
def InLine (n : Nat) (t : Text) : Prop := lineFeed ∉ t.take n

theorem inLine_zero : InLine 0 t := List.not_mem_nil

theorem inLine_nil : InLine n [] := by simp [InLine]

theorem InLine.cons (hc : c ≠ lineFeed) (h : InLine n t) : InLine (n + 1) (c :: t) := by
  intro mem
  rcases List.mem_cons.1 mem with rfl | mem
  · exact hc rfl
  · exact h mem

theorem InLine.add (h : InLine n t) (h' : InLine m (t.drop n)) : InLine (n + m) t := by
  rw [InLine, List.take_add, List.mem_append, not_or]
  exact ⟨h, h'⟩

/-- The first line is all of the text, or ends in a line feed. -/
theorem firstLine_cases (t : Text) :
    (∃ line rest, lineFeed ∉ line ∧ t = line ++ lineFeed :: rest ∧
      firstLine t = line ++ [lineFeed]) ∨ lineFeed ∉ t ∧ firstLine t = t := by
  induction t with
  | nil => exact .inr ⟨List.not_mem_nil, rfl⟩
  | cons c t ih =>
    by_cases hc : c = lineFeed
    · refine .inl ⟨[], t, List.not_mem_nil, by rw [hc]; rfl, ?_⟩
      have ends : firstLine (c :: t) = [c] := if_pos hc
      rw [ends, hc]
      rfl
    · have goesOn : firstLine (c :: t) = c :: firstLine t := if_neg hc
      rw [goesOn]
      rcases ih with ⟨line, rest, hline, rfl, hfirst⟩ | ⟨hline, hfirst⟩
      · refine .inl ⟨c :: line, rest, ?_, rfl, by rw [hfirst]; rfl⟩
        exact fun mem => (List.mem_cons.1 mem).elim (fun h => hc h.symm) hline
      · refine .inr ⟨?_, by rw [hfirst]⟩
        exact fun mem => (List.mem_cons.1 mem).elim (fun h => hc h.symm) hline

theorem prefix_firstLine (t : Text) : firstLine t <+: t := by
  rcases firstLine_cases t with ⟨line, rest, -, rfl, hfirst⟩ | ⟨-, hfirst⟩
  · rw [hfirst]
    exact ⟨rest, by simp⟩
  · simp [hfirst]

theorem firstLine_ne_nil (c : CodePoint) (t : Text) : firstLine (c :: t) ≠ [] := by
  rw [firstLine]
  split <;> exact List.cons_ne_nil _ _

/-! ## Numbers -/

section

variable (hp : p lineFeed = false)

include hp

theorem ne_lineFeed (hc : p c) : c ≠ lineFeed := by
  rintro rfl
  exact absurd hc (by simp [hp])

theorem inLine_takeWhile (t : Text) : InLine (t.takeWhile p).length t := by
  intro mem
  rw [← List.prefix_iff_eq_take.1 (List.takeWhile_prefix _)] at mem
  exact ne_lineFeed hp (List.all_eq_true.1 List.all_takeWhile _ mem) rfl

theorem inLine_groupedTail (t : Text) : InLine (groupedTail p t) t := by
  fun_induction groupedTail p t with
  | case1 => exact inLine_zero
  | case2 c t hc ih => exact ih.cons (ne_lineFeed hp hc)
  | case4 d t hd low ih => exact (ih.cons (ne_lineFeed hp hd)).cons (by decide)
  | case3 | case5 | case6 => exact inLine_zero

theorem inLine_grouped (t : Text) : InLine (grouped p t) t := by
  cases t with
  | nil => exact inLine_zero
  | cons c t =>
    rw [grouped]
    split
    · rename_i hc
      exact (inLine_groupedTail hp t).cons (ne_lineFeed hp hc)
    · exact inLine_zero

theorem inLine_based (lower upper : CodePoint)
    (letters : ∀ c, isEither c lower upper → c ≠ lineFeed) (t : Text) :
    InLine (based lower upper p t) t := by
  unfold based
  split
  · rename_i zero letter t
    split
    · rename_i digits
      obtain ⟨hzero, hletter⟩ := Bool.and_eq_true_iff.1 digits
      have other : zero ≠ lineFeed := by
        rw [of_decide_eq_true hzero]
        decide
      dsimp only
      split
      · exact inLine_zero
      · rw [Nat.add_comm]
        exact ((inLine_groupedTail hp t).cons (letters _ hletter)).cons other
    · exact inLine_zero
  · exact inLine_zero

end

theorem isEither_ne {a b : CodePoint} (h : isEither c a b) (ha : a ≠ lineFeed)
    (hb : b ≠ lineFeed) : c ≠ lineFeed := by
  rcases Bool.or_eq_true_iff.1 h with h | h
  · rw [of_decide_eq_true h]
    exact ha
  · rw [of_decide_eq_true h]
    exact hb

theorem inLine_exponent (t : Text) : InLine (exponent t) t := by
  unfold exponent
  split
  · exact inLine_zero
  · rename_i c t
    split
    · rename_i letter
      extract_lets sign digits
      have signs : InLine sign t := by
        cases t with
        | nil => exact inLine_nil
        | cons s t =>
          by_cases hs : isEither s '+' '-'
          · have one : sign = 1 := if_pos hs
            rw [one]
            exact inLine_zero.cons (isEither_ne hs (by decide) (by decide))
          · have zero : sign = 0 := if_neg hs
            rw [zero]
            exact inLine_zero
      split
      · exact inLine_zero
      · rw [Nat.add_assoc, Nat.add_comm]
        exact (signs.add (inLine_grouped (by decide) _)).cons
          (isEither_ne letter (by decide) (by decide))
    · exact inLine_zero

theorem inLine_fractional (t : Text) : InLine (fractional t) t := by
  have whole := inLine_grouped (p := isDigit) (by decide) t
  unfold fractional
  extract_lets n
  split
  · exact inLine_zero
  · rename_i c u hu
    have behind {m : Nat} (h : InLine m (c :: u)) : InLine (n + m) t := whole.add (hu ▸ h)
    split
    · rename_i point
      have part := inLine_grouped (p := isDigit) (by decide) u
      extract_lets k
      split
      · exact inLine_zero
      · have rest : InLine (k + exponent (u.drop k) + 1) (c :: u) :=
          (part.add (inLine_exponent _)).cons (by rw [point]; decide)
        rw [Nat.add_assoc, Nat.add_assoc, Nat.add_comm 1]
        exact behind rest
    · split
      · exact inLine_zero
      · dsimp only
        split
        · exact inLine_zero
        · exact behind (inLine_exponent _)

theorem inLine_imaginary (t : Text) : InLine (imaginary t) t := by
  unfold imaginary
  extract_lets ends whole part
  -- the letter stands behind a number
  have behind {n : Nat} (h : InLine n t) (hends : ends n) : InLine (n + 1) t := by
    refine h.add ?_
    have letter := (Bool.and_eq_true_iff.1 hends).2
    split at letter
    · rename_i c u hu
      rw [hu]
      exact inLine_zero.cons (isEither_ne letter (by decide) (by decide))
    · cases letter
  split
  · exact behind (inLine_grouped (by decide) t) ‹_›
  · split
    · exact behind (inLine_fractional t) ‹_›
    · exact inLine_zero

theorem inLine_plain (t : Text) : InLine (plain t) t := by
  cases t with
  | nil => exact inLine_zero
  | cons c t =>
    rw [plain]
    split
    · rename_i zero
      exact (inLine_groupedTail (by decide) t).cons (by rw [zero]; decide)
    · split
      · rename_i digit
        exact (inLine_groupedTail (by decide) t).cons (ne_lineFeed (p := isDigit) (by decide) digit)
      · exact inLine_zero

theorem inLine_number? (h : number? t = some n) : InLine n t := by
  have mem := List.mem_of_find?_eq_some h
  simp only [List.mem_cons, List.not_mem_nil, or_false] at mem
  have letters {a b : CodePoint} (ha : a ≠ lineFeed) (hb : b ≠ lineFeed) (c : CodePoint)
      (h : isEither c a b) : c ≠ lineFeed := isEither_ne h ha hb
  rcases mem with rfl | rfl | rfl | rfl | rfl | rfl
  · exact inLine_imaginary t
  · exact inLine_fractional t
  · exact inLine_based (by decide) _ _ (letters (by decide) (by decide)) t
  · exact inLine_based (by decide) _ _ (letters (by decide) (by decide)) t
  · exact inLine_based (by decide) _ _ (letters (by decide) (by decide)) t
  · exact inLine_plain t

/-! ## Symbols and words -/

theorem inLine_symbol? (h : symbol? t = some n) : InLine n t := by
  have symbolic : ∀ ns ∈ symbols, ∀ s ∈ ns.2, lineFeed ∉ s := by decide
  obtain ⟨ns, found, rfl⟩ := Option.map_eq_some_iff.1 h
  have contained : ns.2.contains (t.take ns.1) = true :=
    List.find?_some (p := fun ns : Nat × List Text => ns.2.contains (t.take ns.1)) found
  exact symbolic ns (List.mem_of_find?_eq_some found) _ (List.contains_iff_mem.1 contained)

theorem inLine_word? (h : word? t = some n) : InLine n t := by
  unfold word? at h
  extract_lets k at h
  split at h
  · cases h
  · obtain rfl : k = n := Option.some.inj h
    exact inLine_takeWhile (by decide) t

/-! ## Strings -/

/-- What is left of a string that is closed in its line ends in the quotes. -/
theorem take_closing? {quote : Text} {k : Nat} (h : closing? quote t = some k) :
    ∃ u, t.take k = u ++ quote ∧ lineFeed ∉ u := by
  have further {c : CodePoint} {u : Text} (hc : c ≠ lineFeed) (hu : lineFeed ∉ u) :
      lineFeed ∉ c :: u := fun mem => (List.mem_cons.1 mem).elim (fun h => hc h.symm) hu
  fun_induction closing? quote t generalizing k with
  | case1 | case2 | case3 | case4 => cases h
  | case5 d t hd _ ih =>
    obtain ⟨k, hk, rfl⟩ := Option.map_eq_some_iff.1 h
    obtain ⟨u, hu, unbroken⟩ := ih hk
    refine ⟨'\\' :: d :: u, ?_, further (by decide) (further hd unbroken)⟩
    rw [List.take_succ_cons, List.take_succ_cons, hu]
    rfl
  | case6 c t _ _ hquote =>
    obtain rfl : quote.length = k := Option.some.inj h
    refine ⟨[], ?_, List.not_mem_nil⟩
    exact (List.prefix_iff_eq_take.1 (List.isPrefixOf_iff_prefix.1 hquote)).symm
  | case7 c t hc _ _ ih =>
    obtain ⟨k, hk, rfl⟩ := Option.map_eq_some_iff.1 h
    obtain ⟨u, hu, unbroken⟩ := ih hk
    refine ⟨c :: u, ?_, further hc unbroken⟩
    rw [List.take_succ_cons, hu]
    rfl

theorem ne_of_isQuote {q : CodePoint} (isQuote : isEither q '\'' '"') :
    q ≠ lineFeed ∧ q ≠ ')' := by
  constructor <;> rintro rfl <;> exact absurd isQuote (by decide)

/-- A string starts with a quote, or with letters that are in its line. -/
theorem inLine_quote? {q : CodePoint} (h : quote? (c :: t) = some (n, q)) :
    InLine n (c :: t) ∧ (∃ rest, (c :: t).drop n = q :: rest) ∧ isEither q '\'' '"' ∧
      c ≠ lineFeed ∧ c ≠ ')' := by
  obtain ⟨k, -, hk⟩ := List.exists_of_findSome?_eq_some h
  obtain ⟨q', hq, heq⟩ := Option.map_eq_some_iff.1 hk
  cases heq
  unfold quoteAfter? at hq
  split at hq
  · rename_i isPrefix
    have letter (d : CodePoint) (hd : d ∈ (c :: t).take n) : d ≠ lineFeed ∧ d ≠ ')' := by
      have small := smallLetter_of_isStringPrefix isPrefix hd
      constructor
      · rintro rfl
        exact absurd small (by decide)
      · rintro rfl
        exact absurd small (by decide)
    split at hq
    · rename_i q' rest hdrop
      split at hq
      · rename_i isQuote
        cases hq
        refine ⟨fun mem => (letter _ mem).1 rfl, ⟨rest, hdrop⟩, isQuote, ?_⟩
        cases n with
        | zero =>
          obtain ⟨rfl, -⟩ := List.cons.inj hdrop
          exact ne_of_isQuote isQuote
        | succ n => exact letter c List.mem_cons_self
      · cases hq
    · cases hq
  · cases hq

/-- A string opens with three quotes if they are there, and with one otherwise. -/
theorem quotes_of_opening {q : CodePoint} {rest quote : Text} (isQuote : isEither q '\'' '"')
    (hquote : (if List.isPrefixOf [q, q, q] (q :: rest) then [q, q, q] else [q]) = quote) :
    quote <+: q :: rest ∧ quote.getLast? = some q ∧ lineFeed ∉ quote ∧
      ∃ k, quote.length = k + 1 := by
  have other : lineFeed ≠ q := (ne_of_isQuote isQuote).1.symm
  split at hquote
  · rename_i triple
    subst hquote
    exact ⟨List.isPrefixOf_iff_prefix.1 triple, rfl, by simp [other], 2, rfl⟩
  · subst hquote
    exact ⟨⟨rest, rfl⟩, rfl, by simp [other], 0, rfl⟩

/-- A string that is closed in its line is in that line: its letters, its first quotes, and what is
    left of it. -/
theorem inLine_string {quote : Text} {k more : Nat} (letters : InLine n (c :: t))
    (starts : quote <+: (c :: t).drop n) (unbroken : lineFeed ∉ quote)
    (length : quote.length = k + 1) (h : closing? quote (t.drop (n + k)) = some more) :
    InLine (n + k + more + 1) (c :: t) := by
  obtain ⟨u, hu, line⟩ := take_closing? h
  have opening : InLine (n + (k + 1)) (c :: t) := by
    refine letters.add ?_
    rw [InLine, ← length, ← List.prefix_iff_eq_take.1 starts]
    exact unbroken
  have contents : InLine more ((c :: t).drop (n + (k + 1))) := by
    rw [InLine, ← Nat.add_assoc, List.drop_succ_cons, hu, List.mem_append, not_or]
    exact ⟨line, unbroken⟩
  rw [Nat.add_right_comm]
  exact opening.add contents

end Shape

namespace Lexeme

open Shape

variable {c : CodePoint} {t : Text}

/-- How far a piece goes: to the end of its line at most, unless a string starts that is not closed
    there. -/
def Match.Extends (c : CodePoint) (t : Text) : Match → Prop
  | .lineEnd more | .continuation more =>
    ∃ u, lineFeed ∉ u ∧ (c :: t).take (more + 1) = u ++ [lineFeed]
  | .comment more => InLine (more + 1) (c :: t)
  | .lexeme kind more => kind ≠ .stray ∧ InLine (more + 1) (c :: t)
  | .openString quote _ _ =>
    (∃ q, quote.getLast? = some q ∧ isEither q '\'' '"') ∧ c ≠ lineFeed ∧ c ≠ ')'

theorem extends_recognizeString {m : Match} (h : recognizeString c t = some m) :
    m.Extends c t := by
  unfold recognizeString at h
  obtain ⟨⟨n, q⟩, hquote, hm⟩ := Option.bind_eq_some_iff.1 h
  obtain ⟨letters, ⟨rest, hdrop⟩, isQuote, hc⟩ := inLine_quote? hquote
  dsimp only at hm
  generalize hq : (if List.isPrefixOf [q, q, q] ((c :: t).drop n) then [q, q, q] else [q]) = quote
    at hm
  rw [hdrop] at hq
  obtain ⟨starts, last, unbroken, k, length⟩ := quotes_of_opening isQuote hq
  rw [← hdrop] at starts
  simp only [length, Nat.add_succ_sub_one] at hm
  split at hm
  · rename_i more hmore
    cases hm
    exact ⟨by decide, inLine_string letters starts unbroken length hmore⟩
  · split at hm
    · cases hm
      exact ⟨⟨q, last, isQuote⟩, hc⟩
    · split at hm
      · cases hm
        exact ⟨⟨q, last, isQuote⟩, hc⟩
      · cases hm

/-- What is in a line, less the first code point, which is taken anyhow. -/
theorem inLine_pred {n : Nat} (hc : c ≠ lineFeed) (h : InLine n (c :: t)) :
    InLine (n - 1 + 1) (c :: t) := by
  cases n with
  | zero => exact inLine_zero.cons hc
  | succ n => exact h

/-- A recognized piece goes as far as its kind allows. -/
theorem extends_recognize {m : Match} (h : recognize c t = some m) : m.Extends c t := by
  unfold recognize at h
  split at h
  · rename_i escape
    have unbroken : lineFeed ∉ [c] := by
      rw [escape]
      decide
    split at h
    · rename_i feed
      cases h
      obtain ⟨rest, rfl⟩ := List.isPrefixOf_iff_prefix.1 feed
      exact ⟨[c], unbroken, rfl⟩
    · split at h
      · rename_i feed
        cases h
        obtain ⟨rest, rfl⟩ := List.isPrefixOf_iff_prefix.1 feed
        refine ⟨[c, '\r'], ?_, rfl⟩
        rw [escape]
        decide
      · cases h
  · split at h
    · rename_i comment
      cases h
      exact (inLine_takeWhile (by decide) t).cons (by rw [comment]; decide)
    · split at h
      · rename_i feed
        cases h
        exact ⟨[], List.not_mem_nil, by rw [feed]; rfl⟩
      · rename_i feed
        split at h
        · rename_i carriage
          cases h
          obtain ⟨hc, hfeed⟩ := Bool.and_eq_true_iff.1 carriage
          obtain ⟨rest, rfl⟩ := List.isPrefixOf_iff_prefix.1 hfeed
          refine ⟨[c], ?_, rfl⟩
          rw [of_decide_eq_true hc]
          decide
        · split at h
          · rename_i hstring
            cases h
            exact extends_recognizeString hstring
          · extract_lets number at h
            split at h
            · rename_i n hn
              cases h
              have hnumber : number? (c :: t) = some n := by
                by_contra other
                simp only [number] at hn
                split at hn
                · exact other hn
                · cases hn
              exact ⟨nofun, inLine_pred feed (inLine_number? hnumber)⟩
            · rename_i n _ hn
              cases h
              exact ⟨nofun, inLine_pred feed (inLine_symbol? hn)⟩
            · rename_i n _ _ hn
              cases h
              refine ⟨?_, inLine_pred feed (inLine_word? hn)⟩
              split <;> exact nofun
            · cases h

/-! ## Strings over lines -/

/-- A string is closed by a quote, or is a stray lexeme up to the end of a line. -/
theorem take_closeString {quote : Text} {strict : Bool} {kind : Kind} {n : Nat}
    (h : closeString quote strict t = some (kind, n)) :
    kind = .string ∧ (∃ u, t.take n = u ++ quote) ∨
      kind = .stray ∧ ((∃ u, t.take n = u ++ [lineFeed]) ∨ t.drop n = []) := by
  fun_induction closeString quote strict t generalizing kind n with
  | case1 => cases h
  | case2 c t k hk =>
    cases h
    obtain ⟨u, hu, -⟩ := take_closing? hk
    exact .inl ⟨rfl, u, hu⟩
  | case3 c t _ line =>
    cases h
    refine .inr ⟨rfl, ?_⟩
    rcases firstLine_cases (c :: t) with ⟨u, rest, -, ht, hline⟩ | ⟨-, hline⟩
    · refine .inl ⟨u, ?_⟩
      rw [← hline]
      exact (List.prefix_iff_eq_take.1 (prefix_firstLine _)).symm
    · refine .inr (List.drop_eq_nil_of_le ?_)
      rw [show line = c :: t from hline]
  | case4 c t _ line =>
    rename_i ih
    obtain ⟨⟨kind, n⟩, hlater, heq⟩ := Option.map_eq_some_iff.1 h
    cases heq
    have later : (c :: t).drop line.length = t.drop (line.length - 1) := by
      obtain ⟨d, rest, hline⟩ := List.exists_cons_of_ne_nil (firstLine_ne_nil c t)
      rw [show line = d :: rest from hline]
      rfl
    have whole : (c :: t).take line.length = line :=
      (List.prefix_iff_eq_take.1 (prefix_firstLine _)).symm
    rcases ih hlater with ⟨closed, u, hu⟩ | ⟨stray, ⟨u, hu⟩ | hu⟩
    · refine .inl ⟨closed, line ++ u, ?_⟩
      rw [List.take_add, whole, later, hu, List.append_assoc]
    · refine .inr ⟨stray, .inl ⟨line ++ u, ?_⟩⟩
      rw [List.take_add, whole, later, hu, List.append_assoc]
    · refine .inr ⟨stray, .inr ?_⟩
      rw [← List.drop_drop, later, hu]

end Lexeme

end ShaderBuild
