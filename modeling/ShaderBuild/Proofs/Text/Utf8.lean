/-
  Encoded text reads back, and what is read is encoded again by the same bytes.

  * `Utf8.segments_encodePoint`: the bytes of a scalar value are one segment, whatever follows;
  * `Utf8.firstSegment_point`: a segment that is a code point holds the bytes of a scalar value;
  * `Utf8.decode_encode`, `Utf8.decodeSkipping_encode`: the bytes of a text decode to it;
  * `Utf8.decode_eq_ok_iff`: bytes decode to a text exactly if they are the bytes of it;
  * `Utf8.IsWellFormed`: bytes of some text, which are those that decode;
  * `Utf8.encodeEscaped?_eq_none_iff`, `Utf8.zero_mem_encodeEscaped?`: texts that have no bytes even
    where surrogates stand for bytes, and texts that have a zero among them.
-/
import Mathlib.Data.List.Basic
import Mathlib.Tactic.IntervalCases
import ShaderBuild.Text.Utf8

namespace ShaderBuild

theorem CodePoint.ofNat_val (c : CodePoint) : CodePoint.ofNat c.val = c := dif_pos c.val_lt

/-- What holds of the ASCII code points one by one. -/
theorem CodePoint.forall_ascii {P : CodePoint → Prop} (h : ∀ n < 128, P (.ofNat n)) {c : CodePoint}
    (hc : c.val < 128) : P c := by
  rw [← ofNat_val c]
  exact h c.val hc

namespace Utf8

variable {c : CodePoint} {rest : Bytes}

/-! ## One code point -/

theorem toNat_tail (n : Nat) : (tail n).toNat = 0x80 + n % 64 :=
  UInt8.toNat_ofNat_of_lt' (show 0x80 + n % 64 < 256 by omega)

/-- A continuation byte within the bounds is taken. -/
theorem readTails_tail {low high : UInt8} {bits n tails taken : Nat} {seen : Bytes} {found : Segment}
    (hl : low.toNat ≤ 0x80 + n % 64) (hh : 0x80 + n % 64 ≤ high.toNat)
    (hr : readTails 0x80 0xBF (bits * 64 + n % 64) (seen ++ [tail n]) tails rest
      = (found, taken)) :
    readTails low high bits seen (tails + 1) (tail n :: rest) = (found, taken + 1) := by
  have within : low ≤ tail n ∧ tail n ≤ high := by
    simp only [UInt8.le_iff_toNat_le, toNat_tail]
    exact ⟨hl, hh⟩
  have value : (tail n).toNat - 0x80 = n % 64 := by rw [toNat_tail]; omega
  simp only [readTails, if_pos within, value, hr]

/-- The same where the next byte may be any continuation byte. -/
theorem readTails_tail_any {bits n tails taken : Nat} {seen : Bytes} {found : Segment}
    (hr : readTails 0x80 0xBF (bits * 64 + n % 64) (seen ++ [tail n]) tails rest
      = (found, taken)) :
    readTails 0x80 0xBF bits seen (tails + 1) (tail n :: rest) = (found, taken + 1) := by
  refine readTails_tail ?_ ?_ hr
  · show 0x80 ≤ _
    omega
  · show _ ≤ 0xBF
    omega

theorem readTails_zero {low high : UInt8} {bits n : Nat} {seen : Bytes} (h : bits = n) :
    readTails low high bits seen 0 rest = (.point (.ofNat n), 0) := by
  rw [h, readTails]

theorem firstSegment_of_lead {b : UInt8} {l : Lead} (h : lead? b = some l) (hb : ¬ b < 0x80) :
    firstSegment b rest = readTails l.low l.high l.bits [b] l.tails rest := by
  simp only [firstSegment, if_neg hb, h]

theorem firstSegment_two {n : Nat} (h : 0x80 ≤ n) (h' : n < 0x800) :
    firstSegment (.ofNat (0xC0 + n / 64)) (tail n :: rest) = (.point (.ofNat n), 1) := by
  have lead : ∀ k, 2 ≤ k → k < 32 →
      lead? (.ofNat (0xC0 + k)) = some ⟨1, 0x80, 0xBF, k⟩ ∧ ¬ UInt8.ofNat (0xC0 + k) < 0x80 := by
    intro k h2 h32
    interval_cases k <;> exact ⟨rfl, by decide⟩
  obtain ⟨hlead, hb⟩ := lead (n / 64) (by omega) (by omega)
  rw [firstSegment_of_lead hlead hb]
  dsimp only
  exact readTails_tail_any (readTails_zero (by omega))

theorem firstSegment_three {n : Nat} (h : 0x800 ≤ n) (h' : n < 0x10000)
    (hs : ¬ (0xD800 ≤ n ∧ n ≤ 0xDFFF)) :
    firstSegment (.ofNat (0xE0 + n / 4096)) (tail (n / 64) :: tail n :: rest)
      = (.point (.ofNat n), 2) := by
  -- the bounds of the second byte keep long forms and surrogates out
  have lead : ∀ k, k < 16 → ∃ low high : UInt8,
      lead? (.ofNat (0xE0 + k)) = some ⟨2, low, high, k⟩ ∧ ¬ UInt8.ofNat (0xE0 + k) < 0x80 ∧
      low.toNat = (if k = 0 then 0xA0 else 0x80) ∧
      high.toNat = (if k = 13 then 0x9F else 0xBF) := by
    intro k h16
    interval_cases k <;> exact ⟨_, _, rfl, by decide, rfl, rfl⟩
  obtain ⟨low, high, hlead, hb, hlow, hhigh⟩ := lead (n / 4096) (by omega)
  rw [firstSegment_of_lead hlead hb]
  dsimp only
  refine readTails_tail ?_ ?_ (readTails_tail_any (readTails_zero (by omega)))
  · rw [hlow]
    split <;> omega
  · rw [hhigh]
    split <;> omega

theorem firstSegment_four {n : Nat} (h : 0x10000 ≤ n) (h' : n < 0x110000) :
    firstSegment (.ofNat (0xF0 + n / 262144)) (tail (n / 4096) :: tail (n / 64) :: tail n :: rest)
      = (.point (.ofNat n), 3) := by
  have lead : ∀ k, k < 5 → ∃ low high : UInt8,
      lead? (.ofNat (0xF0 + k)) = some ⟨3, low, high, k⟩ ∧ ¬ UInt8.ofNat (0xF0 + k) < 0x80 ∧
      low.toNat = (if k = 0 then 0x90 else 0x80) ∧
      high.toNat = (if k = 4 then 0x8F else 0xBF) := by
    intro k h5
    interval_cases k <;> exact ⟨_, _, rfl, by decide, rfl, rfl⟩
  obtain ⟨low, high, hlead, hb, hlow, hhigh⟩ := lead (n / 262144) (by omega)
  rw [firstSegment_of_lead hlead hb]
  dsimp only
  refine readTails_tail ?_ ?_ (readTails_tail_any (readTails_tail_any (readTails_zero (by omega))))
  · rw [hlow]
    split <;> omega
  · rw [hhigh]
    split <;> omega

/-- The bytes of a scalar value are one segment, whatever follows. -/
theorem segments_encodePoint (h : c.isSurrogate = false) (rest : Bytes) :
    segments (encodePoint c ++ rest) = .point c :: segments rest := by
  have hc := c.val_lt
  have hs : ¬ (0xD800 ≤ c.val ∧ c.val ≤ 0xDFFF) := by
    simpa [CodePoint.isSurrogate] using h
  unfold encodePoint
  dsimp only
  split
  · rename_i h1
    have small : (UInt8.ofNat c.val).toNat = c.val :=
      UInt8.toNat_ofNat_of_lt' (show c.val < 256 by omega)
    have hb : UInt8.ofNat c.val < 0x80 := by
      rw [UInt8.lt_iff_toNat_lt, small]
      exact h1
    have first : firstSegment (.ofNat c.val) rest = (.point c, 0) := by
      rw [firstSegment, if_pos hb, small, c.ofNat_val]
    simp only [List.cons_append, List.nil_append]
    rw [segments, first, List.drop_zero]
  split
  · simp only [List.cons_append, List.nil_append]
    rw [segments, firstSegment_two (by omega) (by omega), c.ofNat_val]
    rfl
  split
  · simp only [List.cons_append, List.nil_append]
    rw [segments, firstSegment_three (by omega) (by omega) hs, c.ofNat_val]
    rfl
  · simp only [List.cons_append, List.nil_append]
    rw [segments, firstSegment_four (by omega) (by omega), c.ofNat_val]
    rfl

/-! ## One segment -/

/-- A continuation byte is told by its six bits. -/
theorem tail_eq {b : UInt8} {n : Nat} (hb : 0x80 ≤ b.toNat) (hn : n % 64 = b.toNat - 0x80) :
    tail n = b := by
  refine UInt8.toNat_inj.1 ?_
  rw [toNat_tail, hn]
  omega

theorem ofNat_eq {b : UInt8} {n : Nat} (h : b.toNat = n) : UInt8.ofNat n = b := by
  rw [← h, UInt8.ofNat_toNat]

theorem scalar_of_eq {n : Nat} (h : c = .ofNat n) (hn : n < 0x110000)
    (hs : ¬ (0xD800 ≤ n ∧ n ≤ 0xDFFF)) : c.val = n ∧ c.isSurrogate = false := by
  have value : c.val = n := by rw [h, CodePoint.val_ofNat hn]
  refine ⟨value, ?_⟩
  simpa [CodePoint.isSurrogate, value] using hs

/-- A code point that no byte is missing of. -/
theorem readTails_zero_point {low high : UInt8} {bits taken : Nat} {seen : Bytes}
    (h : readTails low high bits seen 0 rest = (.point c, taken)) :
    c = .ofNat bits ∧ taken = 0 := by
  rw [readTails] at h
  cases h
  exact ⟨rfl, rfl⟩

/-- A code point that a byte is missing of comes with that byte, which is within the bounds. -/
theorem readTails_succ_point {low high : UInt8} {bits tails taken : Nat} {seen : Bytes}
    (h : readTails low high bits seen (tails + 1) rest = (.point c, taken)) :
    ∃ b rest' taken', rest = b :: rest' ∧ taken = taken' + 1 ∧
      low.toNat ≤ b.toNat ∧ b.toNat ≤ high.toNat ∧
      readTails 0x80 0xBF (bits * 64 + (b.toNat - 0x80)) (seen ++ [b]) tails rest'
        = (.point c, taken') := by
  cases rest with
  | nil =>
    rw [readTails] at h
    cases h
  | cons b rest' =>
    rw [readTails] at h
    split at h
    · rename_i within
      obtain ⟨hc, rfl⟩ := Prod.mk.inj h
      exact ⟨b, rest', _, rfl, rfl, within.1, within.2, Prod.ext hc rfl⟩
    · cases h

/-- What a byte announces, by the number of bytes to come.  The bounds of the next byte keep out
    long forms, surrogates, and numbers that no code point has. -/
theorem lead?_cases {b : UInt8} {l : Lead} (h : lead? b = some l) :
    0x80 ≤ l.low.toNat ∧ l.high.toNat ≤ 0xBF ∧
    (l.tails = 1 ∧ 2 ≤ l.bits ∧ l.bits < 32 ∧ b.toNat = 0xC0 + l.bits ∨
      l.tails = 2 ∧ l.bits < 16 ∧ b.toNat = 0xE0 + l.bits ∧
        (l.bits = 0 → 0xA0 ≤ l.low.toNat) ∧ (l.bits = 13 → l.high.toNat ≤ 0x9F) ∨
      l.tails = 3 ∧ l.bits < 5 ∧ b.toNat = 0xF0 + l.bits ∧
        (l.bits = 0 → 0x90 ≤ l.low.toNat) ∧ (l.bits = 4 → l.high.toNat ≤ 0x8F)) := by
  unfold lead? at h
  simp only [UInt8.le_iff_toNat_le, ← UInt8.toNat_inj, UInt8.reduceToNat] at h
  split at h
  · cases h
    exact ⟨Nat.le_refl _, Nat.le_refl _, .inl ⟨rfl, by dsimp only; omega, by dsimp only; omega,
      by dsimp only; omega⟩⟩
  split at h
  · cases h
    exact ⟨by decide, by decide, .inr (.inl ⟨rfl, by decide, ‹_›, by decide, by decide⟩)⟩
  split at h
  · cases h
    exact ⟨by decide, by decide, .inr (.inl ⟨rfl, by decide, ‹_›, by decide, by decide⟩)⟩
  split at h
  · cases h
    exact ⟨Nat.le_refl _, Nat.le_refl _, .inr (.inl ⟨rfl, by dsimp only; omega, by dsimp only; omega,
      by dsimp only; omega, by dsimp only; omega⟩)⟩
  split at h
  · cases h
    exact ⟨by decide, by decide, .inr (.inr ⟨rfl, by decide, ‹_›, by decide, by decide⟩)⟩
  split at h
  · cases h
    exact ⟨by decide, by decide, .inr (.inr ⟨rfl, by decide, ‹_›, by decide, by decide⟩)⟩
  split at h
  · cases h
    exact ⟨Nat.le_refl _, Nat.le_refl _, .inr (.inr ⟨rfl, by dsimp only; omega, by dsimp only; omega,
      by dsimp only; omega, by dsimp only; omega⟩)⟩
  · cases h

/-- A segment that is a code point holds the bytes of it, and the code point is no surrogate. -/
theorem firstSegment_point {b : UInt8} {taken : Nat}
    (h : firstSegment b rest = (.point c, taken)) :
    c.isSurrogate = false ∧ encodePoint c = b :: rest.take taken := by
  unfold firstSegment at h
  split at h
  · rename_i hb
    simp only [UInt8.lt_iff_toNat_lt, UInt8.reduceToNat] at hb
    obtain ⟨hc, rfl⟩ := Prod.mk.inj h
    obtain ⟨hv, hs⟩ := scalar_of_eq (Segment.point.inj hc).symm (by omega) (by omega)
    refine ⟨hs, ?_⟩
    unfold encodePoint
    dsimp only
    rw [hv, if_pos hb, UInt8.ofNat_toNat, List.take_zero]
  split at h
  · rename_i l hl
    obtain ⟨hlow, hhigh, ⟨tails, h2, h32, hb⟩ | ⟨tails, h16, hb, long, surrogate⟩ |
      ⟨tails, h5, hb, long, above⟩⟩ := lead?_cases hl
    · rw [tails] at h
      obtain ⟨x, rest, taken, rfl, rfl, hx, hx', h⟩ := readTails_succ_point h
      obtain ⟨hc, rfl⟩ := readTails_zero_point h
      obtain ⟨hv, hs⟩ := scalar_of_eq hc (by omega) (by omega)
      refine ⟨hs, ?_⟩
      unfold encodePoint
      dsimp only
      rw [hv, if_neg (by omega), if_pos (by omega), ofNat_eq (b := b) (by omega),
        tail_eq (b := x) (by omega) (by omega)]
      rfl
    · rw [tails] at h
      obtain ⟨x, rest, taken, rfl, rfl, hx, hx', h⟩ := readTails_succ_point h
      obtain ⟨y, rest, taken, rfl, rfl, hy, hy', h⟩ := readTails_succ_point h
      obtain ⟨hc, rfl⟩ := readTails_zero_point h
      simp only [UInt8.reduceToNat] at hy hy'
      obtain ⟨hv, hs⟩ := scalar_of_eq hc (by omega) (by omega)
      refine ⟨hs, ?_⟩
      unfold encodePoint
      dsimp only
      rw [hv, if_neg (by omega), if_neg (by omega), if_pos (by omega),
        ofNat_eq (b := b) (by omega), tail_eq (b := x) (by omega) (by omega),
        tail_eq (b := y) (by omega) (by omega)]
      rfl
    · rw [tails] at h
      obtain ⟨x, rest, taken, rfl, rfl, hx, hx', h⟩ := readTails_succ_point h
      obtain ⟨y, rest, taken, rfl, rfl, hy, hy', h⟩ := readTails_succ_point h
      obtain ⟨z, rest, taken, rfl, rfl, hz, hz', h⟩ := readTails_succ_point h
      obtain ⟨hc, rfl⟩ := readTails_zero_point h
      simp only [UInt8.reduceToNat] at hy hy' hz hz'
      obtain ⟨hv, hs⟩ := scalar_of_eq hc (by omega) (by omega)
      refine ⟨hs, ?_⟩
      unfold encodePoint
      dsimp only
      rw [hv, if_neg (by omega), if_neg (by omega), if_neg (by omega),
        ofNat_eq (b := b) (by omega), tail_eq (b := x) (by omega) (by omega),
        tail_eq (b := y) (by omega) (by omega), tail_eq (b := z) (by omega) (by omega)]
      rfl
  · cases h

/-! ## Texts -/

theorem segments_encode {t : Text} (h : isEncodable t = true) :
    segments (t.flatMap encodePoint) = t.map .point := by
  induction t with
  | nil => rw [List.flatMap_nil, segments]; rfl
  | cons c t ih =>
    simp only [isEncodable, List.all_cons, Bool.and_eq_true, Bool.not_eq_true'] at h ih
    rw [List.flatMap_cons, segments_encodePoint h.1, ih h.2, List.map_cons]

theorem joinFrom_points (start : Nat) (t : Text) : joinFrom start (t.map .point) = .ok t := by
  induction t generalizing start with
  | nil => rfl
  | cons c t ih => simp only [List.map_cons, joinFrom, ih]

/-- The bytes of a text decode to it. -/
theorem decode_encode {t : Text} {bytes : Bytes} (h : encode? t = some bytes) :
    decode bytes = .ok t := by
  unfold encode? at h
  split at h
  · rename_i ht
    cases h
    rw [decode, segments_encode ht, joinFrom_points]
  · cases h

/-- Segments that are code points are the bytes of a text. -/
theorem encode_of_joinFrom {start : Nat} {bytes : Bytes} {t : Text}
    (h : joinFrom start (segments bytes) = .ok t) :
    isEncodable t = true ∧ t.flatMap encodePoint = bytes := by
  induction bytes using segments.induct generalizing start t with
  | case1 =>
    rw [segments] at h
    cases h
    exact ⟨rfl, rfl⟩
  | case2 b rest ih =>
    rw [segments] at h
    generalize hseg : firstSegment b rest = first at h ih
    obtain ⟨segment, taken⟩ := first
    cases segment with
    | illFormed run reason => cases h
    | point c =>
      rw [joinFrom] at h
      split at h
      · rename_i u hu
        cases h
        obtain ⟨hs, hc⟩ := firstSegment_point hseg
        obtain ⟨encodable, whole⟩ := ih hu
        refine ⟨?_, ?_⟩
        · simp only [isEncodable, List.all_cons, Bool.and_eq_true, Bool.not_eq_true'] at encodable ⊢
          exact ⟨hs, encodable⟩
        · rw [List.flatMap_cons, whole, hc, List.cons_append, List.take_append_drop]
      · cases h

/-- Nothing is left out of the bytes of a text. -/
theorem decodeSkipping_encode {t : Text} {bytes : Bytes} (h : encode? t = some bytes) :
    decodeSkipping bytes = t := by
  unfold encode? at h
  split at h
  · rename_i ht
    cases h
    rw [decodeSkipping, segments_encode ht, List.filterMap_map]
    exact List.filterMap_some
  · cases h

/-- Bytes decode to a text exactly if they are the bytes of it. -/
theorem decode_eq_ok_iff {bytes : Bytes} {t : Text} :
    decode bytes = .ok t ↔ encode? t = some bytes := by
  refine ⟨fun h => ?_, decode_encode⟩
  obtain ⟨encodable, whole⟩ := encode_of_joinFrom h
  rw [encode?, if_pos encodable, whole]

/-- Bytes that are those of a text. -/
def IsWellFormed (bytes : Bytes) : Prop := ∃ t, encode? t = some bytes

/-- Other bytes have an ill-formed run. -/
theorem decode_eq_error {bytes : Bytes} (h : ¬ IsWellFormed bytes) : ∃ f, decode bytes = .error f := by
  cases hd : decode bytes with
  | error f => exact ⟨f, rfl⟩
  | ok t => exact absurd ⟨t, decode_eq_ok_iff.1 hd⟩ h

/-! ## Surrogates that stand for bytes -/

/-- A surrogate that stands for no byte. -/
def IsStray (c : CodePoint) : Prop := c.isSurrogate ∧ ¬ (0xDC80 ≤ c.val ∧ c.val ≤ 0xDCFF)

/-- A text has no bytes exactly if it holds a surrogate that stands for none. -/
theorem encodeEscaped?_eq_none_iff {t : Text} : encodeEscaped? t = none ↔ ∃ c ∈ t, IsStray c := by
  induction t with
  | nil => simp [encodeEscaped?]
  | cons c t ih =>
    rw [List.exists_mem_cons_iff, ← ih, encodeEscaped?]
    split
    · rename_i byte
      have own : ¬ IsStray c := fun h => h.2 byte
      simp [own]
    split
    · rename_i noByte surrogate
      have own : IsStray c := ⟨surrogate, noByte⟩
      simp [own]
    · rename_i scalar
      have own : ¬ IsStray c := fun h => scalar h.1
      simp [own]

theorem ofNat_ne_zero {n : Nat} (h : 0 < n) (h' : n < 256) : UInt8.ofNat n ≠ 0 := by
  intro zero
  have value : (UInt8.ofNat n).toNat = 0 := by rw [zero]; rfl
  rw [UInt8.toNat_ofNat_of_lt' h'] at value
  omega

theorem zero_mem_encodePoint : 0 ∈ encodePoint c ↔ c.val = 0 := by
  have hc := c.val_lt
  have hlead {n : Nat} (h : 0 < n) (h' : n < 256) : 0 ≠ UInt8.ofNat n := (ofNat_ne_zero h h').symm
  have htail (n : Nat) : 0 ≠ tail n := hlead (by omega) (by omega)
  unfold encodePoint
  dsimp only
  split
  · constructor
    · intro zero
      by_contra positive
      exact hlead (by omega) (by omega) (List.mem_singleton.1 zero)
    · intro zero
      rw [zero]
      exact List.mem_singleton_self _
  split
  · have first := hlead (n := 0xC0 + c.val / 64) (by omega) (by omega)
    simp only [List.mem_cons, first, htail, List.not_mem_nil, or_self, false_iff]
    omega
  split
  · have first := hlead (n := 0xE0 + c.val / 4096) (by omega) (by omega)
    simp only [List.mem_cons, first, htail, List.not_mem_nil, or_self, false_iff]
    omega
  · have first := hlead (n := 0xF0 + c.val / 262144) (by omega) (by omega)
    simp only [List.mem_cons, first, htail, List.not_mem_nil, or_self, false_iff]
    omega

/-- There is a zero among the bytes of a text exactly if there is one in the text. -/
theorem zero_mem_encodeEscaped? {t : Text} {bytes : Bytes} (h : encodeEscaped? t = some bytes) :
    0 ∈ bytes ↔ ∃ c ∈ t, c.val = 0 := by
  induction t generalizing bytes with
  | nil =>
    cases h
    simp
  | cons c t ih =>
    rw [List.exists_mem_cons_iff]
    rw [encodeEscaped?] at h
    split at h
    · rename_i byte
      obtain ⟨rest, hrest, rfl⟩ := Option.map_eq_some_iff.1 h
      have first := (ofNat_ne_zero (n := c.val - 0xDC00) (by omega) (by omega)).symm
      have own : c.val ≠ 0 := by omega
      simp only [List.mem_cons, first, own, false_or, ih hrest]
    split at h
    · cases h
    · obtain ⟨rest, hrest, rfl⟩ := Option.map_eq_some_iff.1 h
      rw [List.mem_append, zero_mem_encodePoint, ih hrest]

end Utf8

end ShaderBuild
