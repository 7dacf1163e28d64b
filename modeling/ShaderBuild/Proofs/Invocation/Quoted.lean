/-
  Quoted texts are read back.

  A text of any code points is quoted in one line of code points that show.  What is quoted is
  recognized as one string, whatever follows that is no quote, and it denotes the text.

  * `Numeral.valueFrom?_hexDigits`: hexadecimal digits, read as a number;
  * `Quoted.Form`, `Quoted.form_escape`: the forms that a code point may take;
  * `Quoted.shows`: what stands in a quoted text;
  * `Quoted.recognize_quote`: a quoted text is recognized whole;
  * `Quoted.read_quote`: it denotes the text.
-/
import Mathlib.Data.List.TakeWhile
import ShaderBuild.Proofs.Invocation.Contents

namespace ShaderBuild

open CodePoint

/-! ## Hexadecimal digits -/

namespace Numeral

/-- The hexadecimal digits. -/
def hexAlphabet : Text := text "0123456789abcdef"

theorem hexValue?_digit : ∀ n < 16, (digit n).hexValue? = some n := by decide

theorem digit_mem : ∀ n < 16, digit n ∈ hexAlphabet := by decide

theorem mem_hexDigits {width n : Nat} {c : CodePoint} (h : c ∈ hexDigits width n) :
    c ∈ hexAlphabet := by
  induction width generalizing n with
  | zero => cases h
  | succ width ih =>
    rcases List.mem_append.1 h with h | h
    · exact ih h
    · rw [List.mem_singleton.1 h]
      exact digit_mem _ (Nat.mod_lt _ (by decide))

theorem length_hexDigits (width n : Nat) : (hexDigits width n).length = width := by
  induction width generalizing n with
  | zero => rfl
  | succ width ih => rw [hexDigits, List.length_append, ih, List.length_singleton]

theorem valueFrom?_concat (value? : CodePoint → Option Nat) (base n : Nat) (t : Text)
    (c : CodePoint) : valueFrom? value? base n (t ++ [c]) =
      (valueFrom? value? base n t).bind fun m => (value? c).map (m * base + ·) := by
  induction t generalizing n with
  | nil => cases h : value? c <;> simp [valueFrom?, h]
  | cons d t ih => cases h : value? d <;> simp [valueFrom?, h, ih]

/-- The last digits of a number denote its rest. -/
theorem valueFrom?_hexDigits (width n : Nat) :
    valueFrom? hexValue? 16 0 (hexDigits width n) = some (n % 16 ^ width) := by
  induction width generalizing n with
  | zero => simp [hexDigits, valueFrom?, Nat.mod_one]
  | succ width ih =>
    rw [hexDigits, valueFrom?_concat, ih, hexValue?_digit _ (Nat.mod_lt _ (by decide)),
      Nat.pow_succ', Nat.mod_mul]
    simp only [Option.bind_some, Option.map_some, Option.some.injEq]
    omega

end Numeral

/-! ## Code points that show -/

theorem Ranges.exists_of_contains {rs : Ranges} {n : Nat} (h : rs.contains n) :
    ∃ r ∈ rs, r.1 ≤ n ∧ n ≤ r.2 := by
  induction rs with
  | nil => cases h
  | cons r rs ih =>
    obtain ⟨lo, hi⟩ := r
    rw [Ranges.contains] at h
    split at h
    · cases h
    · rename_i above
      split at h
      · rename_i below
        exact ⟨_, List.mem_cons_self, Nat.le_of_not_lt above, below⟩
      · obtain ⟨r, hr, within⟩ := ih h
        exact ⟨r, List.mem_cons_of_mem _ hr, within⟩

/-- A code point that shows is no control character and no surrogate. -/
theorem CodePoint.isPrintable_facts {c : CodePoint} (h : c.isPrintable) :
    32 ≤ c.val ∧ c.isSurrogate = false := by
  have ranges : ∀ r ∈ printableRanges, 32 ≤ r.1 ∧ (r.2 < 0xD800 ∨ 0xDFFF < r.1) := by
    decide +kernel
  obtain ⟨r, hr, low, high⟩ := Ranges.exists_of_contains h
  obtain ⟨visible, around⟩ := ranges r hr
  simp only [isSurrogate, Bool.and_eq_false_iff, decide_eq_false_iff_not]
  omega

namespace Quoted

/-! ## Forms -/

variable {q c d : CodePoint} {s t rest : Text}

/-- The quotes. -/
def marks : Text := text "'\""

theorem mem_marks : q ∈ marks ↔ q = '\'' ∨ q = '"' := by
  simp [marks, text]

theorem mark_mem (s : Text) : mark s ∈ marks := by
  unfold mark
  split <;> decide

/-- The forms of a code point between quotes: a letter behind a backslash, the code point as it is,
    and its number behind a backslash and a letter. -/
inductive Form (q c : CodePoint) : Text → Prop
  | letter {d : CodePoint} : d ∈ text "\\'\"tnr" → Escape.simple? d = some [c] → Form q c ['\\', d]
  | itself : c ≠ q → c ≠ '\\' → c.isPrintable → Form q c [c]
  | number {d : CodePoint} {width : Nat} : d ∈ text "xuU" → Escape.width? d = some width →
      c.val < 16 ^ width → Form q c ('\\' :: d :: Numeral.hexDigits width c.val)

theorem form_wide (q c : CodePoint) : Form q c (wide c) :=
  .number (d := 'U') (by decide) rfl (Nat.lt_of_lt_of_le c.val_lt (by decide))

theorem form_numbered (q c : CodePoint) : Form q c (numbered c) := by
  unfold numbered
  split
  · rename_i small
    exact .number (d := 'x') (by decide) rfl small
  · split
    · rename_i small
      exact .number (d := 'u') (by decide) rfl small
    · exact form_wide q c

theorem form_escape (hq : q ∈ marks) (c : CodePoint) : Form q c (escape q c) := by
  have quotes : ∀ q ∈ marks, q ∈ text "\\'\"tnr" ∧ Escape.simple? q = some [q] := by decide
  unfold escape
  split
  · rename_i special
    rcases special with rfl | rfl
    · exact .letter (quotes c hq).1 (quotes c hq).2
    · exact .letter (by decide) rfl
  rename_i plain
  rw [not_or] at plain
  split
  · subst c
    exact .letter (by decide) rfl
  split
  · subst c
    exact .letter (by decide) rfl
  split
  · subst c
    exact .letter (by decide) rfl
  split
  · rename_i shows
    exact .itself plain.1 plain.2 shows
  · exact form_numbered q c

/-- What stands in a quoted text shows. -/
theorem Form.shows (h : Form q c t) : ∀ a ∈ t, 32 ≤ a.val ∧ a.isSurrogate = false := by
  have letters : ∀ a ∈ text "\\'\"tnrxuU" ++ Numeral.hexAlphabet,
      32 ≤ a.val ∧ a.isSurrogate = false := by decide
  have subset {u : Text} (hu : u ⊆ text "\\'\"tnrxuU" ++ Numeral.hexAlphabet) :
      ∀ a ∈ u, 32 ≤ a.val ∧ a.isSurrogate = false := fun a ha => letters a (hu ha)
  cases h with
  | itself _ _ shows =>
    intro a ha
    rw [List.mem_singleton.1 ha]
    exact isPrintable_facts shows
  | letter hd _ =>
    have known : text "\\'\"tnr" ⊆ text "\\'\"tnrxuU" ++ Numeral.hexAlphabet := by decide
    exact subset (List.cons_subset.2 ⟨by decide, List.cons_subset.2 ⟨known hd, List.nil_subset _⟩⟩)
  | number hd _ _ =>
    have known : text "xuU" ⊆ text "\\'\"tnrxuU" ++ Numeral.hexAlphabet := by decide
    exact subset (List.cons_subset.2 ⟨by decide, List.cons_subset.2 ⟨known hd, fun a ha =>
      List.mem_append_right _ (Numeral.mem_hexDigits ha)⟩⟩)

/-- A form does not start with a quote. -/
theorem Form.head?_ne (hq : q ∈ marks) (h : Form q c t) : ∃ a u, t = a :: u ∧ a ≠ q := by
  have quotes : ∀ q ∈ marks, '\\' ≠ q := by decide
  cases h with
  | itself other _ _ => exact ⟨_, _, rfl, other⟩
  | letter _ _ => exact ⟨_, _, rfl, quotes q hq⟩
  | number _ _ _ => exact ⟨_, _, rfl, quotes q hq⟩

/-! ## Recognition -/

theorem closing?_escaped (hd : d ≠ '\n') (t : Text) :
    Shape.closing? [q] ('\\' :: d :: t) = (Shape.closing? [q] t).map (· + 2) := by
  have noFeed : ('\\' : CodePoint) ≠ '\n' := by decide
  rw [Shape.closing?.eq_def]
  simp [hd, noFeed]

theorem closing?_point (hc : c ≠ '\\' ∧ c ≠ '\n' ∧ c ≠ q) (t : Text) :
    Shape.closing? [q] (c :: t) = (Shape.closing? [q] t).map (· + 1) := by
  rw [Shape.closing?.eq_def]
  simp [hc.1, hc.2.1, List.isPrefixOf, hc.2.2.symm]

theorem closing?_points (h : ∀ c ∈ t, c ≠ '\\' ∧ c ≠ '\n' ∧ c ≠ q) (rest : Text) :
    Shape.closing? [q] (t ++ rest) = (Shape.closing? [q] rest).map (· + t.length) := by
  induction t with
  | nil => simp
  | cons c t ih =>
    obtain ⟨first, later⟩ := List.forall_mem_cons.1 h
    rw [List.cons_append, closing?_point first, ih later, Option.map_map]
    congr

/-- No form closes the string that it stands in. -/
theorem Form.closing?_append (hq : q ∈ marks) (h : Form q c t) (rest : Text) :
    Shape.closing? [q] (t ++ rest) = (Shape.closing? [q] rest).map (· + t.length) := by
  have quotes : ∀ q ∈ marks, ∀ a ∈ Numeral.hexAlphabet, a ≠ '\\' ∧ a ≠ '\n' ∧ a ≠ q := by decide
  have letters : ∀ d ∈ text "\\'\"tnr" ++ text "xuU", d ≠ '\n' := by decide
  cases h with
  | itself other unescaped shows =>
    have noFeed : c ≠ '\n' := by
      rintro rfl
      exact absurd (isPrintable_facts shows).1 (by decide)
    exact closing?_point ⟨unescaped, noFeed, other⟩ rest
  | letter hd _ => exact closing?_escaped (letters _ (List.mem_append_left _ hd)) rest
  | @number d width hd _ _ =>
    rw [List.cons_append, List.cons_append,
      closing?_escaped (letters _ (List.mem_append_right _ hd)),
      closing?_points fun a ha => quotes q hq a (Numeral.mem_hexDigits ha), Option.map_map]
    refine congrArg (Option.map · _) (funext fun n => ?_)
    simp only [Function.comp, List.length_cons]
    omega

/-- What stands between the quotes of a text. -/
def body (s : Text) : Text := s.flatMap (escape (mark s))

theorem quote_eq (s : Text) : quote s = mark s :: (body s ++ [mark s]) := rfl

theorem closing?_body (s rest : Text) :
    Shape.closing? [mark s] (body s ++ mark s :: rest) = some ((body s).length + 1) := by
  have hq := mark_mem s
  unfold body
  generalize mark s = q at hq ⊢
  have closed : Shape.closing? [q] (q :: rest) = some 1 := by
    have quotes : ∀ q ∈ marks, q ≠ '\\' ∧ q ≠ '\n' := by decide
    rw [Shape.closing?.eq_def]
    simp [quotes q hq, List.isPrefixOf]
  induction s with
  | nil => exact closed
  | cons c s ih =>
    rw [List.flatMap_cons, List.append_assoc, (form_escape hq c).closing?_append hq, ih]
    simp [Nat.add_comm, Nat.add_left_comm]

theorem isPrefixOf_triple (s : Text) (hrest : rest.head? ≠ some (mark s)) :
    [mark s, mark s, mark s].isPrefixOf (mark s :: (body s ++ mark s :: rest)) = false := by
  have hq := mark_mem s
  unfold body
  generalize mark s = q at hq hrest ⊢
  cases s with
  | nil =>
    cases rest with
    | nil => simp [List.isPrefixOf]
    | cons d rest =>
      have other : d ≠ q := fun h => hrest (congrArg some h)
      simp [List.isPrefixOf, other.symm]
  | cons c s =>
    obtain ⟨a, u, ha, other⟩ := (form_escape hq c).head?_ne hq
    simp [List.isPrefixOf, ha, other.symm]

/-- A quoted text is recognized as a string up to its last quote. -/
theorem recognize_quote (s : Text) (hrest : rest.head? ≠ some (mark s)) :
    Lexeme.recognize (mark s) (body s ++ mark s :: rest) =
      some (.lexeme .string ((body s).length + 1)) := by
  have starts (t : Text) : Shape.quote? (mark s :: t) = some (0, mark s) := by
    rcases mem_marks.1 (mark_mem s) with h | h <;> rw [h] <;> rfl
  have quotes : ∀ q ∈ marks, Lexeme.isSpecial q = false := by decide
  have special := quotes _ (mark_mem s)
  refine Lexeme.recognize_of_string special ?_
  rw [Lexeme.recognizeString, starts, Option.bind_some]
  simp only [List.drop_zero, isPrefixOf_triple s hrest]
  simp [closing?_body]

/-! ## Reading -/

theorem breakFrom?_escaped (hd : d ≠ '\n') (n : Nat) (t : Text) :
    StringLiteral.breakFrom? n ('\\' :: d :: t) = StringLiteral.breakFrom? n t := by
  rw [StringLiteral.breakFrom?.eq_def]
  simp [hd]

theorem breakFrom?_points (h : ∀ c ∈ t, c ≠ '\\' ∧ c ≠ '\n') (n : Nat) (rest : Text) :
    StringLiteral.breakFrom? n (t ++ rest) = StringLiteral.breakFrom? n rest := by
  induction t with
  | nil => rfl
  | cons c t ih =>
    obtain ⟨⟨unescaped, noFeed⟩, later⟩ := List.forall_mem_cons.1 h
    rw [List.cons_append, StringLiteral.breakFrom?.eq_def]
    simp only [if_neg unescaped, if_neg noFeed, ih later]

/-- No line ends in a form. -/
theorem Form.breakFrom?_append (h : Form q c t) (n : Nat) (rest : Text) :
    StringLiteral.breakFrom? n (t ++ rest) = StringLiteral.breakFrom? n rest := by
  have digits : ∀ a ∈ Numeral.hexAlphabet, a ≠ '\\' ∧ a ≠ '\n' := by decide
  have letters : ∀ d ∈ text "\\'\"tnr" ++ text "xuU", d ≠ '\n' := by decide
  cases h with
  | itself other unescaped shows =>
    refine breakFrom?_points (fun a ha => ?_) n rest
    rw [List.mem_singleton.1 ha]
    refine ⟨unescaped, ?_⟩
    rintro rfl
    exact absurd (isPrintable_facts shows).1 (by decide)
  | letter hd _ => exact breakFrom?_escaped (letters _ (List.mem_append_left _ hd)) n rest
  | number hd _ _ =>
    rw [List.cons_append, List.cons_append,
      breakFrom?_escaped (letters _ (List.mem_append_right _ hd)),
      breakFrom?_points fun a ha => digits a (Numeral.mem_hexDigits ha)]

open Escape in
theorem unescapeFrom_simple {r : Text} (hd : simple? d = some r) (n : Nat) (t : Text) :
    unescapeFrom n ('\\' :: d :: t) = (unescapeFrom (n + 2) t).map (r ++ ·) := by
  rw [unescapeFrom]
  simp only [if_true, one, hd, Nat.add_zero, List.drop_zero]
  cases unescapeFrom (n + 2) t <;> rfl

open Escape in
/-- The number of a code point, read back. -/
theorem unescapeFrom_number {width : Nat} (hs : simple? d = none) (hd : width? d = some width)
    (hc : c.val < 16 ^ width) (n : Nat) (t : Text) :
    unescapeFrom n ('\\' :: d :: (Numeral.hexDigits width c.val ++ t)) =
      (unescapeFrom (n + 2 + width) t).map (c :: ·) := by
  have isHex : ∀ a ∈ Numeral.hexAlphabet, a.hexValue?.isSome := by decide
  have length := Numeral.length_hexDigits width c.val
  have digits : ((Numeral.hexDigits width c.val ++ t).take width).takeWhile
      (fun a => a.hexValue?.isSome) = Numeral.hexDigits width c.val := by
    rw [List.take_left' length, List.takeWhile_eq_self_iff]
    exact fun a ha => isHex a (Numeral.mem_hexDigits ha)
  have value : Numeral.valueFrom? hexValue? 16 0 (Numeral.hexDigits width c.val) = some c.val := by
    rw [Numeral.valueFrom?_hexDigits, Nat.mod_eq_of_lt hc]
  rw [unescapeFrom]
  simp only [if_true, one, hs, hd, digits, length, value, Option.getD_some, Nat.lt_irrefl, if_false,
    c.val_lt, dif_pos, List.drop_left' length]
  cases unescapeFrom (n + 2 + width) t <;> rfl

open Escape in
theorem unescapeFrom_point (hc : c ≠ '\\') (n : Nat) (t : Text) :
    unescapeFrom n (c :: t) = (unescapeFrom (n + 1) t).map (c :: ·) := by
  rw [unescapeFrom.eq_def]
  simp only [if_neg hc]
  cases unescapeFrom (n + 1) t <;> rfl

open Escape in
theorem expand_escaped (hd : d.val < 0x80) (t : Text) :
    expand ('\\' :: d :: t) = ('\\' : CodePoint) :: d :: expand t := by
  rw [expand.eq_def]
  simp [hd]

open Escape in
theorem expand_points (h : ∀ c ∈ t, c ≠ '\\' ∧ c.val < 0x80) (rest : Text) :
    expand (t ++ rest) = t ++ expand rest := by
  induction t with
  | nil => rfl
  | cons c t ih =>
    obtain ⟨⟨unescaped, ascii⟩, later⟩ := List.forall_mem_cons.1 h
    rw [List.cons_append, expand.eq_def]
    simp only [if_neg unescaped, if_pos ascii, ih later]
    rfl

open Escape in
theorem expand_wide (hc : c ≠ '\\') (wide : ¬ c.val < 0x80) (t : Text) :
    expand (c :: t) = Quoted.wide c ++ expand t := by
  rw [expand.eq_def]
  simp only [if_neg hc, if_neg wide]

open Escape in
/-- A form stands for its code point. -/
theorem Form.unescapeFrom_append (h : Form q c t) (n : Nat) (rest : Text) :
    ∃ m, unescapeFrom n (expand (t ++ rest)) = (unescapeFrom m (expand rest)).map (c :: ·) := by
  have digits : ∀ a ∈ Numeral.hexAlphabet, a ≠ '\\' ∧ a.val < 0x80 := by decide
  have letters : ∀ d ∈ text "\\'\"tnr", d.val < 0x80 := by decide
  have numbers : ∀ d ∈ text "xuU", d.val < 0x80 ∧ simple? d = none := by decide
  cases h with
  | itself other unescaped shows =>
    by_cases ascii : c.val < 0x80
    · have single : ∀ a ∈ [c], a ≠ '\\' ∧ a.val < 0x80 :=
        List.forall_mem_singleton.2 ⟨unescaped, ascii⟩
      rw [expand_points single, List.singleton_append, unescapeFrom_point unescaped]
      exact ⟨_, rfl⟩
    · have spelled : Quoted.wide c = ('\\' : CodePoint) :: 'U' :: Numeral.hexDigits 8 c.val := rfl
      have small : c.val < 16 ^ 8 := Nat.lt_of_lt_of_le c.val_lt (by decide)
      rw [List.singleton_append, expand_wide unescaped ascii, spelled, List.cons_append,
        List.cons_append, unescapeFrom_number (by decide) rfl small]
      exact ⟨_, rfl⟩
  | letter hd simple =>
    rw [List.cons_append, List.cons_append, List.nil_append, expand_escaped (letters _ hd),
      unescapeFrom_simple simple]
    exact ⟨_, rfl⟩
  | number hd width small =>
    rw [List.cons_append, List.cons_append, expand_escaped (numbers _ hd).1,
      expand_points fun a ha => digits a (Numeral.mem_hexDigits ha),
      unescapeFrom_number (numbers _ hd).2 width small]
    exact ⟨_, rfl⟩

theorem unescapeFrom_expand (hq : q ∈ marks) (n : Nat) (s : Text) :
    Escape.unescapeFrom n (Escape.expand (s.flatMap (escape q))) = .ok s := by
  induction s generalizing n with
  | nil => rw [List.flatMap_nil, Escape.expand, Escape.unescapeFrom]
  | cons c s ih =>
    obtain ⟨m, hm⟩ := (form_escape hq c).unescapeFrom_append n (s.flatMap (escape q))
    rw [List.flatMap_cons, hm, ih m]
    rfl

/-- Without a backslash, every code point stands as it is. -/
theorem flatMap_escape_eq_self (hq : q ∈ marks) (h : ('\\' : CodePoint) ∉ s.flatMap (escape q)) :
    s.flatMap (escape q) = s := by
  induction s with
  | nil => rfl
  | cons c s ih =>
    rw [List.flatMap_cons, List.mem_append, not_or] at h
    have single : escape q c = [c] := by
      have form := form_escape hq c
      generalize escape q c = t at form h
      cases form with
      | itself => rfl
      | letter => exact absurd List.mem_cons_self h.1
      | number => exact absurd List.mem_cons_self h.1
    rw [List.flatMap_cons, single, ih h.2, List.singleton_append]

/-- What stands between the quotes of a text stands for the text. -/
theorem unescape_body (s : Text) : Escape.unescape (body s) = .ok s := by
  unfold Escape.unescape
  split
  · exact unescapeFrom_expand (mark_mem s) 0 s
  · rename_i unescaped
    rw [List.contains_iff_mem] at unescaped
    exact congrArg Except.ok (flatMap_escape_eq_self (mark_mem s) unescaped)

/-- What is quoted shows. -/
theorem shows_quote (s : Text) : ∀ c ∈ quote s, 32 ≤ c.val ∧ c.isSurrogate = false := by
  have quotes : ∀ q ∈ marks, 32 ≤ q.val ∧ q.isSurrogate = false := by decide
  have hq := quotes _ (mark_mem s)
  rw [quote_eq]
  refine List.forall_mem_cons.2 ⟨hq, List.forall_mem_append.2 ⟨fun c hc => ?_,
    List.forall_mem_singleton.2 hq⟩⟩
  obtain ⟨a, -, ha⟩ := List.mem_flatMap.1 hc
  exact (form_escape (mark_mem s) a).shows c ha

theorem literal_quote (s : Text) : Shape.literal (quote s) = ⟨[], 1, body s⟩ := by
  have quotes : ∀ q ∈ marks, (!Shape.isEither q '\'' '"') = false := by decide
  have start : (quote s).takeWhile (fun c => !Shape.isEither c '\'' '"') = [] := by
    rw [quote_eq, List.takeWhile_cons_of_neg (by rw [quotes _ (mark_mem s)]; decide)]
  have first : (quote s).take 1 = [mark s] := rfl
  have ends : ([] : Text).head? ≠ some (mark s) := nofun
  have single : ([mark s] ++ [mark s] ++ [mark s]).isPrefixOf (quote s) = false :=
    isPrefixOf_triple s ends
  have length : (quote s).length - 2 = (body s).length := by simp [quote_eq]
  have rest : (quote s).drop 1 = body s ++ [mark s] := rfl
  unfold Shape.literal
  simp only [start, List.length_nil, List.drop_zero, first, single, Bool.false_and,
    Bool.false_eq_true, if_false, Nat.mul_one, length, rest, List.take_left]

/-- **A quoted text denotes the text.** -/
theorem read_quote (s : Text) : StringLiteral.read (quote s) = .ok (.text s) := by
  have unbroken : StringLiteral.breakFrom? 1 (body s) = none := by
    have hq := mark_mem s
    unfold body
    generalize mark s = q at hq ⊢
    induction s with
    | nil => rfl
    | cons c s ih => rw [List.flatMap_cons, (form_escape hq c).breakFrom?_append, ih]
  have codePoints : ∀ c ∈ quote s, c ≠ '\r' ∧ c.val ≠ 0 ∧ c.isSurrogate = false := by
    intro c hc
    obtain ⟨visible, scalar⟩ := shows_quote s c hc
    refine ⟨?_, by omega, scalar⟩
    rintro rfl
    exact absurd visible (by decide)
  rw [StringLiteral.read_eq_readParts codePoints, literal_quote, StringLiteral.readParts]
  simp only [if_true, unbroken, unescape_body]
  rfl

end Quoted

end ShaderBuild
