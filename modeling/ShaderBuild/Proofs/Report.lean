/-
  The lines of a report.

  Blanks are cut off at the end of a line as a whole.  The colon behind the key is none, so nothing
  before it is ever lost, and the colons stand in one column.

  * `Shows`: how a value shows;
  * `isGreatest_width`: the column of the colons is the length of the longest key;
  * `IsLine`: what a line holds of an item; `isLine_line`, `render_eq`: the lines of a report;
  * `stripEnd_blanks_congr`: blanks in front of a value do not hide it;
  * `lines_aligned`: one aligned line for an item, from which the values are told.
-/
import Mathlib.Data.List.Forall2
import Mathlib.Order.Bounds.Basic
import ShaderBuild.Proofs.Text.Basic
import ShaderBuild.Report

namespace ShaderBuild.Report

variable {d : Datum} {t key value value' : Text} {r r' : Report} {column : Nat}

/-- What ends a line. -/
def feed : CodePoint := '\n'

/-- What stands behind a key. -/
def colon : CodePoint := ':'

/-- What stands before a key, and before a value. -/
def space : CodePoint := ' '

/-- A text without the blanks at its end. -/
def trimmed (t : Text) : Text := Text.stripEnd CodePoint.isBlank t

/-! ## Values -/

/-- How a value shows: a truth value as a mark, and another one as it is written. -/
inductive Shows : Datum → Text → Prop
  | checked : Shows (.flag true) (text "✓")
  | unchecked : Shows (.flag false) (text "-")
  | written {d : Datum} {t : Text} : (∀ b, d ≠ .flag b) → d.show? = some t → Shows d t

theorem showOf_eq_ok_iff : Fault.showOf d = .ok t ↔ d.show? = some t := by
  unfold Fault.showOf
  cases d.show? with
  | none => simp
  | some shown => simp

theorem showValue_of_ne (h : ∀ b, d ≠ .flag b) : showValue d = Fault.showOf d := by
  cases d with
  | flag b => exact absurd rfl (h b)
  | _ => simp [showValue]

theorem showValue_eq_ok_iff : showValue d = .ok t ↔ Shows d t := by
  constructor
  · intro h
    cases d with
    | flag b =>
      cases h
      cases b with
      | false => exact .unchecked
      | true => exact .checked
    | _ => exact .written (by simp) (showOf_eq_ok_iff.1 h)
  · intro h
    cases h with
    | checked => rfl
    | unchecked => rfl
    | written other shown =>
      rw [showValue_of_ne other]
      exact showOf_eq_ok_iff.2 shown

theorem Shows.unique (h : Shows d value) (h' : Shows d value') : value = value' := by
  have shown := showValue_eq_ok_iff.2 h
  rw [showValue_eq_ok_iff.2 h'] at shown
  exact (Except.ok.inj shown).symm

/-! ## The column -/

theorem foldl_max (ns : List Nat) :
    ∀ start, start ≤ ns.foldl max start ∧ (∀ n ∈ ns, n ≤ ns.foldl max start) ∧
      (ns.foldl max start = start ∨ ns.foldl max start ∈ ns) := by
  induction ns with
  | nil => simp
  | cons n ns ih =>
    intro start
    obtain ⟨least, bound, among⟩ := ih (max start n)
    rw [List.foldl_cons]
    refine ⟨by omega, ?_, ?_⟩
    · intro m hm
      rcases List.mem_cons.1 hm with rfl | hm
      · omega
      · exact bound m hm
    · rcases among with same | among
      · rcases Nat.le_total start n with le | le
        · right
          rw [same, Nat.max_eq_right le]
          exact List.mem_cons_self
        · left
          rw [same, Nat.max_eq_left le]
      · exact Or.inr (List.mem_cons_of_mem _ among)

theorem length_le_width {item : Text × Datum} (h : item ∈ r) : item.1.length ≤ r.width :=
  (foldl_max _ 0).2.1 _ (List.mem_map_of_mem h)

/-- The column of the colons is the length of the longest key. -/
theorem isGreatest_width (h : r ≠ []) :
    IsGreatest {n | ∃ item ∈ r, item.1.length = n} r.width := by
  constructor
  · rcases (foldl_max (r.map fun item => item.1.length) 0).2.2 with zero | among
    · obtain ⟨item, hitem⟩ := List.exists_mem_of_ne_nil r h
      refine ⟨item, hitem, ?_⟩
      have short := length_le_width hitem
      rw [width, zero] at short ⊢
      omega
    · exact List.mem_map.1 among
  · rintro n ⟨item, hitem, rfl⟩
    exact length_le_width hitem

/-! ## Lines -/

/-- What a line holds of an item: the key at the right of the column, the colon in it, and then the
    value, without the blanks at its end. -/
structure IsLine (column : Nat) (item : Text × Datum) (row : Text) : Prop where
  unbroken : feed ∉ row
  key : row.take column = List.replicate (column - item.1.length) space ++ item.1
  colon : row[column]? = some colon
  value : ∃ value, Shows item.2 value ∧ row.drop (column + 1) = trimmed ([space, space] ++ value)

theorem line_eq (column : Nat) (key value : Text) :
    line column key value = List.replicate (column - key.length) space ++ key ++ [colon] ++
      trimmed ([space, space] ++ value) := by
  have kept : CodePoint.isBlank colon = false := by decide
  have padded : Text.padLeft (column + 1) (key ++ text ":") =
      List.replicate (column - key.length) space ++ key ++ [colon] := by
    simp [Text.padLeft, Text.padLeftWith, text, space, colon]
  have gap : text "  " = [space, space] := rfl
  rw [line, padded, gap, List.append_assoc _ [space, space] value,
    Text.stripEnd_concat_append kept, trimmed]

theorem mem_trimmed {c : CodePoint} (h : c ∈ trimmed t) : c ∈ t := by
  unfold trimmed Text.stripEnd at h
  rw [List.mem_reverse] at h
  exact List.mem_reverse.1 ((List.dropWhile_sublist _).mem h)

theorem isLine_line (short : key.length ≤ column) (hkey : feed ∉ key) (shows : Shows d value)
    (hvalue : feed ∉ value) : IsLine column (key, d) (line column key value) := by
  have front : (List.replicate (column - key.length) space ++ key).length = column := by
    simp
    omega
  rw [line_eq]
  constructor
  · intro member
    simp only [List.mem_append, List.mem_replicate, List.mem_singleton] at member
    rcases member with ((⟨-, blank⟩ | member) | blank) | member
    · exact absurd blank (by decide)
    · exact hkey member
    · exact absurd blank (by decide)
    · have inside := mem_trimmed member
      simp only [List.cons_append, List.nil_append, List.mem_cons] at inside
      rcases inside with blank | blank | inside
      · exact absurd blank (by decide)
      · exact absurd blank (by decide)
      · exact hvalue inside
  · rw [List.append_assoc, List.take_left' front]
  · rw [List.append_assoc, List.getElem?_append_right (by omega), front, Nat.sub_self]
    rfl
  · refine ⟨value, shows, List.drop_left' ?_⟩
    rw [List.length_append, front, List.length_singleton]

/-- A report in lines: the values show, and there is no line feed in them or in the keys. -/
def IsPlain (r : Report) : Prop :=
  ∀ item ∈ r, feed ∉ item.1 ∧ ∃ value, Shows item.2 value ∧ feed ∉ value

theorem lines_eq (plain : r.IsPlain) (short : ∀ item ∈ r, item.1.length ≤ column) :
    ∃ ls : List Text, lines column r = .ok (ls.flatMap fun line => line ++ [feed]) ∧
      List.Forall₂ (IsLine column) r ls := by
  induction r with
  | nil => exact ⟨[], rfl, .nil⟩
  | cons item r ih =>
    obtain ⟨key, d⟩ := item
    rw [IsPlain, List.forall_mem_cons] at plain
    obtain ⟨⟨hkey, value, shows, hvalue⟩, plain⟩ := plain
    obtain ⟨first, short⟩ := List.forall_mem_cons.1 short
    obtain ⟨ls, later, aligned⟩ := ih plain short
    refine ⟨line column key value :: ls, ?_, .cons (isLine_line first hkey shows hvalue) aligned⟩
    rw [lines, showValue_eq_ok_iff.2 shows, later]
    rfl

/-- A report has a line for each item. -/
theorem render_eq (plain : r.IsPlain) (some : r ≠ []) :
    ∃ ls : List Text, r.render = .ok (ls.flatMap fun line => line ++ [feed]) ∧
      List.Forall₂ (IsLine r.width) r ls := by
  obtain ⟨ls, whole, aligned⟩ := lines_eq plain fun _ => length_le_width
  refine ⟨ls, ?_, aligned⟩
  rw [render, if_neg (by simpa using some), whole]

/-! ## Values told from lines -/

theorem stripEnd_blanks_congr {blanks : Text} (h : ∀ c ∈ blanks, c.isBlank = true)
    (same : trimmed (blanks ++ value) = trimmed (blanks ++ value')) :
    trimmed value = trimmed value' := by
  have none : trimmed blanks = [] := Text.stripEnd_eq_nil h
  have front (t : Text) : trimmed (blanks ++ t) =
      if trimmed t = [] then [] else blanks ++ trimmed t := by
    have split := Text.stripEnd_append CodePoint.isBlank blanks t
    rw [← trimmed, ← trimmed, ← trimmed, none] at split
    exact split
  rw [front, front] at same
  by_cases empty : trimmed value = []
  · by_cases empty' : trimmed value' = []
    · rw [empty, empty']
    · rw [if_pos empty, if_neg empty'] at same
      exact absurd (List.append_eq_nil_iff.1 same.symm).2 empty'
  · by_cases empty' : trimmed value' = []
    · rw [if_neg empty, if_pos empty'] at same
      exact absurd (List.append_eq_nil_iff.1 same).2 empty
    · rw [if_neg empty, if_neg empty'] at same
      exact List.append_cancel_left same

/-- Two items show alike: up to the blanks at the end. -/
def ShowAlike (item item' : Text × Datum) : Prop :=
  ∃ value value', Shows item.2 value ∧ Shows item'.2 value' ∧ trimmed value = trimmed value'

theorem showAlike_of_isLine {item item' : Text × Datum} {line : Text}
    (h : IsLine column item line) (h' : IsLine column item' line) : ShowAlike item item' := by
  obtain ⟨value, shows, rest⟩ := h.value
  obtain ⟨value', shows', rest'⟩ := h'.value
  have blank : ∀ c ∈ [space, space], c.isBlank = true := by decide
  refine ⟨value, value', shows, shows', stripEnd_blanks_congr blank ?_⟩
  rw [← rest, ← rest']

theorem showAlike_of_lines {ls : List Text} (h : List.Forall₂ (IsLine column) r ls) :
    ∀ {r' : Report}, List.Forall₂ (IsLine column) r' ls → List.Forall₂ ShowAlike r r' := by
  induction h with
  | nil =>
    intro r' h'
    cases h'
    exact .nil
  | cons first _ ih =>
    intro r' h'
    cases h' with
    | cons first' later' => exact .cons (showAlike_of_isLine first first') (ih later')

theorem unbroken_of_lines {ls : List Text} (h : List.Forall₂ (IsLine column) r ls) :
    ∀ line ∈ ls, feed ∉ line := by
  induction h with
  | nil => simp
  | cons first _ ih => exact List.forall_mem_cons.2 ⟨first.unbroken, ih⟩

theorem width_congr (h : r'.map Prod.fst = r.map Prod.fst) : r'.width = r.width := by
  have lengths (r : Report) : (r.map fun item => item.1.length) =
      (r.map Prod.fst).map List.length := by
    rw [List.map_map]
    rfl
  rw [width, width, lengths, lengths, h]

/-- **The lines of a report.**

    A report that has items, and no line feed in their keys and values, has one line for each of
    them, in order and ended by a line feed.  At the length of the longest key stands the colon
    behind the key, before it the key after spaces, and behind it two spaces and the value as it
    shows, less the blanks at the end.  So a report with the same keys and the same text has the same
    values, but for blanks at their ends. -/
theorem lines_aligned (plain : r.IsPlain) (some : r ≠ []) :
    IsGreatest {n | ∃ item ∈ r, item.1.length = n} r.width ∧
    (∃ ls : List Text, r.render = .ok (ls.flatMap fun line => line ++ [feed]) ∧
      List.Forall₂ (IsLine r.width) r ls) ∧
    ∀ r' : Report, r'.IsPlain → r'.map Prod.fst = r.map Prod.fst → r'.render = r.render →
      List.Forall₂ ShowAlike r r' := by
  refine ⟨isGreatest_width some, render_eq plain some, ?_⟩
  intro r' plain' keys same
  have some' : r' ≠ [] := by
    rintro rfl
    exact some (List.map_eq_nil_iff.1 keys.symm)
  obtain ⟨ls, whole, aligned⟩ := render_eq plain some
  obtain ⟨ls', whole', aligned'⟩ := render_eq plain' some'
  rw [width_congr keys] at aligned'
  -- the lines are told from the text, as none of them holds a line feed
  have equal : ls' = ls := by
    rw [whole, whole', Except.ok.injEq] at same
    have pieces := Text.splitOn_ended (unbroken_of_lines aligned')
    rw [same, Text.splitOn_ended (unbroken_of_lines aligned)] at pieces
    exact (List.append_cancel_right pieces).symm
  rw [equal] at aligned'
  exact showAlike_of_lines aligned aligned'

/-- Keys of different lengths, and a value with a blank at its end, which the text does not show. -/
theorem lines_aligned_blank :
    let r : Report := [(text "a", .flag true), (text "bbb", .text (text "x "))]
    let r' : Report := [(text "a", .flag true), (text "bbb", .text (text "x"))]
    r.render = .ok (text "  a:  ✓\nbbb:  x\n") ∧ r.IsPlain ∧ r.width = 3 ∧
      List.Forall₂ (IsLine 3) r [text "  a:  ✓", text "bbb:  x"] ∧ List.Forall₂ ShowAlike r r' := by
  intro r r'
  have mark : Shows (.flag true) (text "✓") := .checked
  have word (t : Text) : Shows (.text t) t := .written nofun rfl
  have plain : r.IsPlain := by
    intro item hitem
    simp only [r, List.mem_cons, List.not_mem_nil, or_false] at hitem
    rcases hitem with rfl | rfl
    · exact ⟨by decide, _, mark, by decide⟩
    · exact ⟨by decide, _, word _, by decide⟩
  have plain' : r'.IsPlain := by
    intro item hitem
    simp only [r', List.mem_cons, List.not_mem_nil, or_false] at hitem
    rcases hitem with rfl | rfl
    · exact ⟨by decide, _, mark, by decide⟩
    · exact ⟨by decide, _, word _, by decide⟩
  have shown : r.render = .ok (text "  a:  ✓\nbbb:  x\n") := rfl
  have shown' : r'.render = .ok (text "  a:  ✓\nbbb:  x\n") := rfl
  obtain ⟨-, ⟨ls, whole, aligned⟩, told⟩ := lines_aligned plain (by simp [r])
  have lines : ls = [text "  a:  ✓", text "bbb:  x"] := by
    have pieces := Text.splitOn_ended (unbroken_of_lines aligned)
    rw [shown, Except.ok.injEq] at whole
    rw [← whole] at pieces
    exact (List.append_cancel_right (show _ = [text "  a:  ✓", text "bbb:  x"] ++ [[]] from
      pieces.symm.trans (by decide)))
  refine ⟨shown, plain, rfl, ?_, told r' plain' rfl (shown'.trans shown.symm)⟩
  rw [← lines]
  exact aligned

end ShaderBuild.Report
