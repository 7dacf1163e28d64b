/-
  What the parsers of options and invocations accept, whatever integers there are.

  An integer that is no version fails however long it is, so it may be taken for one that is a
  little too large.

  * `Parser.tame`: the token with such an integer;
  * `Parser.optionText_eq_ok_iff`, `Parser.sourceInvocation_eq_ok_iff`: the sentences that are
    accepted;
  * `Grammar.sourceForm_iff`: option lists in front of a source.
-/
import ShaderBuild.Proofs.Options.InStep
import ShaderBuild.Proofs.Options.Recognition

namespace ShaderBuild

open Token (Content)
open Grammar

/-- Tokens stand for each other if they are alike, or no versions; all faults are the same. -/
def Pairing.lax : Pairing where
  token t t' := t.Alike t' ∨ t.IsNoVersion ∧ t'.IsNoVersion
  fault _ _ := True
  alike h := h.imp_right fun h => ⟨h.1, h.2, fun _ _ => trivial⟩
  cited _ _ _ := trivial
  value _ := trivial

namespace Parser

variable {env : Environment} {t : Token} {body : List Token} {last : Token}

/-- The token, with a version that is too large in place of any integer that is none. -/
def tame (t : Token) : Token :=
  match t.content with
  | .int n => if CompileOptions.version? n = none then ⟨.int (2 ^ 32), t.span⟩ else t
  | _ => t

theorem tame_lax (t : Token) : Pairing.lax.token t (tame t) := by
  unfold tame
  split
  · rename_i n hn
    split
    · rename_i hv
      exact .inr ⟨⟨n, hn, hv⟩, ⟨2 ^ 32, rfl, by decide⟩⟩
    · exact .inl (.refl t)
  · exact .inl (.refl t)

theorem tame_content {t' : Token} (h : t.content = t'.content) :
    (tame t).content = (tame t').content := by
  unfold tame
  rw [← h]
  split
  · split
    · rfl
    · exact h
  · exact h

theorem tame_writable {n : Int} (h : (tame t).content = .int n) : Numeral.isWritable n := by
  have small : n.natAbs ≤ 2 ^ 32 := by
    unfold tame at h
    split at h
    · rename_i k hk
      split at h
      · cases h
        decide
      · rename_i hv
        cases hk.symm.trans h
        obtain ⟨v, hv⟩ := Option.ne_none_iff_exists'.1 hv
        have := v.toNat_lt
        rw [version?_eq_some.1 hv]
        omega
    · rename_i hother
      exact (hother n h).elim
  exact Numeral.isWritable_of_lt (by omega)

theorem tame_unended (h : Unended body) : Unended (body.map tame) := by
  intro t ht
  obtain ⟨u, hu, rfl⟩ := List.mem_map.1 ht
  rw [← Pairing.isFinish_eq (tame_lax u), h u hu]

theorem tame_legible (hlast : last.content = .finish) : Legible (body.map tame ++ [tame last]) where
  ends := ⟨tame last, by simp, by
    rw [← Pairing.isFinish_eq (tame_lax last)]
    exact decide_eq_true (by simp [Token.kind, hlast, Content.kind])⟩
  writable t ht n hn := by
    rw [← List.map_singleton, ← List.map_append] at ht
    obtain ⟨u, -, rfl⟩ := List.mem_map.1 ht
    exact tame_writable hn

theorem tame_finish (hlast : last.content = .finish) : (tame last).content = .finish :=
  (Pairing.content_iff (tame_lax last) (c := .finish) nofun).1 hlast

theorem streams_tame (hbody : Unended body) (hlast : last.content = .finish) :
    Pairing.lax.Streams ⟨body ++ [last]⟩ ⟨body.map tame ++ [tame last]⟩ := by
  refine Pairing.streams_append ?_ hbody (tame_lax last)
    (decide_eq_true (by simp [Token.kind, hlast, Content.kind]))
  exact List.forall₂_map_right_iff.2 (List.forall₂_same.2 fun t _ => tame_lax t)

/-- An option text is accepted if it is an option list, whatever integers there are. -/
theorem optionText_eq_ok_iff (hbody : Unended body) (hlast : last.content = .finish)
    {o : CompileOptions} : (optionText env ⟨body ++ [last]⟩).1 = .ok o ↔
      ∃ es, o = optionsOf env es ∧ Options es (contents (body.map tame)) := by
  have tamed : (optionText env ⟨body ++ [last]⟩).1 = .ok o ↔
      (optionText env ⟨body.map tame ++ [tame last]⟩).1 = .ok o := by
    have same := Pairing.keeps_optionText env _ _ (streams_tame hbody hlast)
    generalize optionText env ⟨body ++ [last]⟩ = x,
      optionText env ⟨body.map tame ++ [tame last]⟩ = y at same
    cases same with
    | ok h => rw [h.1]
    | error _ => exact ⟨nofun, nofun⟩
  rw [tamed]
  constructor
  · exact relation_of_whole (reads_optionBody env) (tame_legible hlast) (tame_unended hbody)
  · rintro ⟨es, rfl, h⟩
    exact congrArg Prod.fst (optionText_of_options env h rfl (tame_finish hlast))

/-- A source invocation is accepted if it is of its form, whatever integers there are. -/
theorem sourceInvocation_eq_ok_iff (hbody : Unended body) (hlast : last.content = .finish)
    {source : Text} {o : CompileOptions} :
    (∃ taken, (sourceInvocation env ⟨body ++ [last]⟩).1 = .ok (taken, o) ∧ taken.value = source) ↔
      ∃ es, o = optionsOf env es ∧ SourceForm es source (contents (body.map tame)) := by
  have tamed : (∃ taken, (sourceInvocation env ⟨body ++ [last]⟩).1 = .ok (taken, o) ∧
      taken.value = source) ↔
      ∃ taken, (sourceInvocation env ⟨body.map tame ++ [tame last]⟩).1 = .ok (taken, o) ∧
        taken.value = source := by
    have same := Pairing.keeps_sourceInvocation env _ _ (streams_tame hbody hlast)
    generalize sourceInvocation env ⟨body ++ [last]⟩ = x,
      sourceInvocation env ⟨body.map tame ++ [tame last]⟩ = y at same
    cases same with
    | @ok a b _ _ h =>
      obtain ⟨⟨hvalue, hoptions⟩, -⟩ := h
      constructor
      · rintro ⟨taken, ha, rfl⟩
        cases ha
        exact ⟨b.1, congrArg Except.ok (Prod.ext rfl hoptions.symm), hvalue.symm⟩
      · rintro ⟨taken, hb, rfl⟩
        cases hb
        exact ⟨a.1, congrArg Except.ok (Prod.ext rfl hoptions), hvalue⟩
    | error _ => exact ⟨nofun, nofun⟩
  rw [tamed]
  constructor
  · rintro ⟨taken, run, rfl⟩
    exact relation_of_whole (reads_sourceBody env) (tame_legible hlast) (tame_unended hbody) run
  · rintro ⟨es, rfl, h⟩
    obtain ⟨token, run⟩ := sourceInvocation_of_form env h rfl (tame_finish hlast)
    exact ⟨⟨source, token⟩, congrArg Prod.fst run, rfl⟩

end Parser

/-! ## Sentences -/

theorem Grammar.listed_of_leading {es : List Entry} {w : List Content}
    (h : Leading es (w ++ [comma])) : Listed es w := by
  generalize hu : w ++ [comma] = u at h
  induction h generalizing w with
  | nil => simp at hu
  | @cons e first es v he hes ih =>
    cases hes with
    | nil =>
      obtain rfl := List.append_cancel_right hu
      exact .one he
    | @cons e' second es v he' hes =>
      -- the comma at the end is that of the last entry
      rcases List.eq_nil_or_concat' (second ++ comma :: v) with hnil | ⟨u, c, hu'⟩
      · simp at hnil
      · rw [hu', ← List.cons_append, ← List.append_assoc] at hu
        obtain ⟨rfl, hc⟩ := List.append_inj' hu rfl
        cases hc
        exact .more he (ih hu'.symm)

/-- An option list that does not end in a comma may stand in front of a comma and a source. -/
theorem Grammar.sourceForm_iff {es : List Entry} {w : List Content} {source source' : Text}
    (hne : w ≠ []) (hcomma : w.getLast? ≠ some comma) :
    SourceForm es source' (w ++ [comma, .str source]) ↔ Options es w ∧ source' = source := by
  have split : w ++ [comma, .str source] = (w ++ [comma]) ++ [.str source] := by simp
  rw [split]
  constructor
  · intro h
    generalize hu : (w ++ [comma]) ++ [.str source] = u at h
    cases h with
    | @unterminated _ v h =>
      obtain ⟨rfl, hs⟩ := List.append_inj' hu rfl
      cases hs
      exact ⟨.unterminated (listed_of_leading h), rfl⟩
    | @terminated _ v h =>
      have ends := congrArg List.getLast? hu
      simp [comma] at ends
  · rintro ⟨h, rfl⟩
    refine .unterminated _ ?_
    cases h with
    | nothing => exact (hne rfl).elim
    | unterminated h => exact h.leading
    | terminated h => simp at hcomma

end ShaderBuild
