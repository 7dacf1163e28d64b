/-
  The numbers of Vulkan versions, as bits and as pairs.

  The number of a version is told by arithmetic; here it is read as bits.  A shifted number has room
  for another one below, so that taking the bits of both is adding them, and masks cut a number off
  where a division does, also below zero.

  * `lor_mul_two_pow`, `land_mask`, `ldiff_mask`: the bits of sums, remainders and what they leave;
  * `Packs`: what holds of the number of a version;
  * `packs_encode`, `encode_eq_error`: the versions that have a number, and the others;
  * `encode_lt_iff`, `encode_decode`: the order of numbers, and the way back;
  * `versions_packed`: numbers and pairs correspond.
-/
import Mathlib.Data.Int.Bitwise
import Mathlib.Data.Prod.Lex
import Mathlib.Tactic.Linarith
import Mathlib.Tactic.Positivity
import Mathlib.Tactic.Ring
import ShaderBuild.Options.Vulkan
import ShaderBuild.Proofs.Fault

namespace ShaderBuild.Vulkan

/-! ## Bits -/

theorem mul_two_pow_succ (a : Int) (n : Nat) : a * 2 ^ (n + 1) = Int.bit false (a * 2 ^ n) := by
  simp only [Int.bit_val, cond_false]
  ring

theorem mask_succ (n : Nat) : (2 : Int) ^ (n + 1) - 1 = Int.bit true (2 ^ n - 1) := by
  simp only [Int.bit_val, cond_true]
  ring

/-- A remainder keeps the last bit. -/
theorem bit_emod_two_pow (b : Bool) (v : Int) (n : Nat) :
    Int.bit b v % 2 ^ (n + 1) = Int.bit b (v % 2 ^ n) := by
  have positive : (0 : Int) < 2 ^ n := by positivity
  have divided := Int.emod_add_mul_ediv v (2 ^ n)
  have low := Int.emod_nonneg v positive.ne'
  have high := Int.emod_lt_of_pos v positive
  have whole : Int.bit b v = Int.bit b (v % 2 ^ n) + 2 ^ (n + 1) * (v / 2 ^ n) := by
    simp only [Int.bit_val]
    rw [pow_succ]
    linarith
  rw [whole, Int.add_mul_emod_self_left, Int.emod_eq_of_lt]
  · cases b <;> simp only [Int.bit_val, cond_false, cond_true] <;> omega
  · rw [pow_succ]
    cases b <;> simp only [Int.bit_val, cond_false, cond_true] <;> omega

theorem ldiff_zero (m : Nat) : Nat.ldiff m 0 = m := by
  refine Nat.eq_of_testBit_eq fun i => ?_
  simp [Nat.testBit_ldiff]

/-- The bits of a shifted number and of one that fits below it are those of the sum. -/
theorem lor_mul_two_pow (a : Int) (n : Nat) :
    ∀ b : Int, 0 ≤ b → b < 2 ^ n → Int.lor (a * 2 ^ n) b = a * 2 ^ n + b := by
  induction n with
  | zero =>
    intro b low high
    obtain rfl : b = 0 := by omega
    cases a <;> simp [Int.lor, ldiff_zero]
  | succ n ih =>
    intro b low high
    induction b using Int.bitCasesOn with
    | h last b =>
      rw [pow_succ] at high
      have fits : 0 ≤ b ∧ b < 2 ^ n := by
        cases last <;> simp only [Int.bit_val, cond_false, cond_true] at low high <;> omega
      rw [mul_two_pow_succ, Int.lor_bit, ih b fits.1 fits.2]
      simp only [Int.bit_val, Bool.false_or, cond_false]
      ring

/-- A mask of the last bits takes the remainder. -/
theorem land_mask (n : Nat) : ∀ v : Int, Int.land v (2 ^ n - 1) = v % 2 ^ n := by
  induction n with
  | zero =>
    intro v
    cases v <;> simp [Int.land, Nat.ldiff]
  | succ n ih =>
    intro v
    induction v using Int.bitCasesOn with
    | h last v => rw [mask_succ, Int.land_bit, ih v, Bool.and_true, bit_emod_two_pow]

/-- The other bits are what the remainder leaves. -/
theorem ldiff_mask (n : Nat) : ∀ v : Int, Int.ldiff v (2 ^ n - 1) = v - v % 2 ^ n := by
  induction n with
  | zero =>
    intro v
    cases v <;> simp [Int.ldiff, ldiff_zero]
  | succ n ih =>
    intro v
    induction v using Int.bitCasesOn with
    | h last v =>
      rw [mask_succ, Int.ldiff_bit, ih v, bit_emod_two_pow]
      simp only [Int.bit_val, Bool.not_true, Bool.and_false, cond_false]
      ring

/-! ## Versions and numbers -/

/-- A minor version that there is room for. -/
def IsMinor (minor : Int) : Prop := 0 ≤ minor ∧ minor ≤ maxMinor

instance : DecidablePred IsMinor := fun minor =>
  inferInstanceAs (Decidable (0 ≤ minor ∧ minor ≤ maxMinor))

/-- The place of the major version: the number of the first of its bits. -/
def majorPlace : Nat := 22

/-- The place of the minor version. -/
def minorPlace : Nat := 12

/-- What holds of the number of a version. -/
structure Packs (v major minor : Int) : Prop where
  /-- The bits of the parts, at their places. -/
  bits : v = Int.lor (major <<< majorPlace) (minor <<< minorPlace)
  /-- The version is read back. -/
  decoded : decode v = (major, minor)
  /-- The lowest twelve bits are zero. -/
  low : Int.land v 0xFFF = 0
  /-- The number is a word of 32 bits for the first majors only. -/
  word : 0 ≤ v ∧ v < 2 ^ 32 ↔ 0 ≤ major ∧ major ≤ 1023

variable {major minor major' minor' v v' : Int}

theorem encode_of_isMinor (h : IsMinor minor) (major : Int) :
    encode major minor = .ok (major * 0x400000 + minor * 0x1000) := if_pos h

/-- Other versions are refused, and the minor version is cited if it can be written. -/
theorem encode_eq_error (h : ¬ IsMinor minor) (major : Int) :
    ∃ f, encode major minor = .error (.value f) ∧ (f = .minorRange minor ∨ f = .tooLongToWrite) := by
  have outside : ¬ (0 ≤ minor ∧ minor ≤ maxMinor) := h
  unfold encode
  rw [if_neg outside]
  rcases Fault.writable_cases minor with short | long
  · rw [short]
    exact ⟨_, rfl, Or.inl rfl⟩
  · rw [long]
    exact ⟨_, rfl, Or.inr rfl⟩

theorem encode_eq_ok (h : encode major minor = .ok v) :
    IsMinor minor ∧ v = major * 0x400000 + minor * 0x1000 := by
  by_cases room : IsMinor minor
  · rw [encode_of_isMinor room] at h
    cases h
    exact ⟨room, rfl⟩
  · obtain ⟨f, refused, -⟩ := encode_eq_error room major
    rw [refused] at h
    cases h

/-- **The number of a version holds its parts.** -/
theorem packs_encode (h : encode major minor = .ok v) : Packs v major minor := by
  obtain ⟨⟨low, high⟩, rfl⟩ := encode_eq_ok h
  simp only [maxMinor] at high
  constructor
  · have apart := lor_mul_two_pow major 22 (minor * 2 ^ 12) (by omega) (by omega)
    rw [majorPlace, minorPlace, Int.shiftLeft_eq, Int.shiftLeft_eq]
    exact apart.symm
  · simp only [decode, Prod.mk.injEq]
    omega
  · have rest := land_mask 12 (major * 0x400000 + minor * 0x1000)
    norm_num at rest ⊢
    omega
  · omega

/-- Numbers compare as versions do. -/
theorem encode_lt_iff (h : encode major minor = .ok v) (h' : encode major' minor' = .ok v') :
    v < v' ↔ toLex (major, minor) < toLex (major', minor') := by
  obtain ⟨⟨low, high⟩, rfl⟩ := encode_eq_ok h
  obtain ⟨⟨low', high'⟩, rfl⟩ := encode_eq_ok h'
  simp only [maxMinor] at high high'
  rw [Prod.Lex.toLex_lt_toLex]
  omega

/-- The version of a number is told by shifts and a mask. -/
theorem decode_eq (v : Int) : decode v = (v >>> majorPlace, Int.land (v >>> minorPlace) 0x3FF) := by
  have masked : Int.land (v >>> minorPlace) 0x3FF = v >>> minorPlace % 2 ^ 10 := land_mask 10 _
  rw [masked, Int.shiftRight_eq_div_pow, Int.shiftRight_eq_div_pow]
  rfl

/-- The version of a number has the number without its lowest twelve bits. -/
theorem encode_decode (v : Int) :
    encode (decode v).1 (decode v).2 = .ok (Int.ldiff v 0xFFF) := by
  have room : IsMinor (decode v).2 := by
    simp only [IsMinor, decode, maxMinor]
    omega
  have cleared := ldiff_mask 12 v
  norm_num at cleared
  rw [encode_of_isMinor room, cleared]
  simp only [decode, Except.ok.injEq]
  omega

/-- **Versions and their numbers.**

    A version has a number exactly if there is room for its minor part: the bits of its parts at
    their places, from which it is read back by shifts and a mask.  Else it is refused.  Numbers
    compare as versions do, and every number has a version, of which the number is the same but for
    the lowest twelve bits. -/
theorem versions_packed :
    (∀ major minor,
      0 ≤ minor ∧ minor ≤ 1023 ∧ (∃ v, encode major minor = .ok v ∧ Packs v major minor) ∨
      ¬ (0 ≤ minor ∧ minor ≤ 1023) ∧ ∃ f, encode major minor = .error (.value f)) ∧
    (∀ major minor major' minor' v v',
      encode major minor = .ok v → encode major' minor' = .ok v' →
        (v < v' ↔ toLex (major, minor) < toLex (major', minor'))) ∧
    ∀ v, decode v = (v >>> majorPlace, Int.land (v >>> minorPlace) 0x3FF) ∧
      encode (decode v).1 (decode v).2 = .ok (Int.ldiff v 0xFFF) := by
  refine ⟨fun major minor => ?_, fun _ _ _ _ _ _ => encode_lt_iff,
    fun v => ⟨decode_eq v, encode_decode v⟩⟩
  by_cases room : IsMinor minor
  · have number := encode_of_isMinor room major
    exact Or.inl ⟨room.1, room.2, _, number, packs_encode number⟩
  · obtain ⟨f, refused, -⟩ := encode_eq_error room major
    exact Or.inr ⟨room, f, refused⟩

/-- A major version below zero: the number is negative, and the version is read back. -/
theorem versions_packed_negative :
    encode (-1) 1023 = .ok (-4096) ∧ encode (-2) 0 = .ok (-8388608) ∧
      Packs (-4096) (-1) 1023 ∧ (-8388608 : Int) < -4096 := by
  have high : encode (-1) 1023 = .ok (-4096) := rfl
  have low : encode (-2) 0 = .ok (-8388608) := rfl
  obtain ⟨numbers, order, -⟩ := versions_packed
  refine ⟨high, low, ?_, ?_⟩
  · rcases numbers (-1) 1023 with ⟨-, -, v, number, packs⟩ | ⟨refused, -⟩
    · rw [high] at number
      cases number
      exact packs
    · exact absurd (by decide) refused
  · rw [order _ _ _ _ _ _ low high]
    decide

end ShaderBuild.Vulkan
