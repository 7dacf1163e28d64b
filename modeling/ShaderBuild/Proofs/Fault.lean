/-
  Faults, and the operations that check something or else fail.

  * `ShaderError.IsIn`: an error that cites a text;
  * `Fault.IsShader`: the faults that are errors of a build;
  * `Fault.writable_cases`: an integer can be written, or cannot;
  * `Fault.OfPath`, `Fault.systemBytes_eq_error_iff`: what is wrong with a path that the system does
    not take, whatever files there are.
-/
import ShaderBuild.Proofs.Text.Utf8
import ShaderBuild.Fault

namespace ShaderBuild

/-- An error that cites a text: it has a span, and that lies in the text of that name. -/
def ShaderError.IsIn (e : ShaderError) (origin : Text) : Prop :=
  ∃ span, e.span = some span ∧ span.origin = origin

namespace Fault

/-- A fault that is an error of a build. -/
def IsShader (f : Fault) : Prop := ∃ e, f = .shader e

theorem not_isShader_value (f : ValueFault) : ¬ (Fault.value f).IsShader := by
  rintro ⟨e, h⟩
  cases h

theorem not_isShader_unencodable : ¬ Fault.unencodable.IsShader := by
  rintro ⟨e, h⟩
  cases h

/-- An integer can be written, or else that is the fault. -/
theorem writable_cases (n : Int) :
    writable n = .ok n ∨ writable n = .error (.value .tooLongToWrite) := by
  unfold writable
  split
  · exact .inl rfl
  · exact .inr rfl

/-! ## Paths -/

/-- The fault of a path that the system does not take: it has no bytes, or has a zero among them. -/
inductive OfPath (path : Text) : Fault → Prop
  | stray {c} : c ∈ path → Utf8.IsStray c → OfPath path .unencodable
  | zero {c} : (∀ d ∈ path, ¬ Utf8.IsStray d) → c ∈ path → c.val = 0 →
    OfPath path (.value .nullByte)

theorem OfPath.not_isShader {path : Text} {f : Fault} (h : OfPath path f) : ¬ f.IsShader := by
  cases h with
  | stray => exact not_isShader_unencodable
  | zero => exact not_isShader_value _

theorem systemBytes_eq_error_iff {path : Text} {f : Fault} :
    systemBytes path = .error f ↔ OfPath path f := by
  unfold systemBytes
  cases h : Utf8.encodeEscaped? path with
  | none =>
    obtain ⟨c, hc, stray⟩ := Utf8.encodeEscaped?_eq_none_iff.1 h
    constructor
    · intro failed
      cases failed
      exact .stray hc stray
    · intro found
      cases found with
      | stray => rfl
      | zero none => exact absurd stray (none c hc)
  | some bytes =>
    have noStray : ∀ d ∈ path, ¬ Utf8.IsStray d := by
      intro d hd stray
      have none := Utf8.encodeEscaped?_eq_none_iff.2 ⟨d, hd, stray⟩
      rw [h] at none
      cases none
    have zeros := Utf8.zero_mem_encodeEscaped? h
    rw [← List.contains_iff_mem] at zeros
    dsimp only
    constructor
    · intro failed
      split at failed
      · rename_i found
        cases failed
        obtain ⟨c, hc, zero⟩ := zeros.1 found
        exact .zero noStray hc zero
      · cases failed
    · intro found
      cases found with
      | stray hc stray => exact absurd stray (noStray _ hc)
      | zero _ hc zero => exact if_pos (zeros.2 ⟨_, hc, zero⟩)

end Fault

end ShaderBuild
