/-
  What the parsers of options take, whatever stream there is.

  A parser that gives a value has taken tokens from the left, and those stand in a relation to the
  value.  This holds of all streams: of those that do not end, and of those with integers that are
  too long to be written.

  * `Parser.ConsumesAt`, `Parser.Consumes`: the tokens that are taken stand in a relation to the
    value;
  * `Parser.ConsumesAt.andThen`, `Parser.Picks.consumes_take`: the parts and how they are put
    together;
  * `Parser.consumes_entry`, `Parser.consumes_entries`: entries, and lists of them.
-/
import ShaderBuild.Proofs.Options.Reading

namespace ShaderBuild.Parser

open Token (Content)
open Grammar

variable {α β : Type}

/-- If a parser gives a value on the tokens, it has taken the first of them, which stand in a
    relation to the value, and has left the others. -/
def ConsumesAt (p : Parser α) (R : α → List Content → Prop) (tokens : List Token) : Prop :=
  ∀ a s, p ⟨tokens⟩ = (.ok a, s) →
    ∃ taken rest, tokens = taken ++ rest ∧ s = ⟨rest⟩ ∧ R a (contents taken)

/-- A parser does so on all tokens. -/
def Consumes (p : Parser α) (R : α → List Content → Prop) : Prop := ∀ tokens, p.ConsumesAt R tokens

/-! ## Putting parsers together -/

section

variable {p q : Parser α} {R : α → List Content → Prop} {tokens : List Token}

theorem ConsumesAt.mono {S : α → List Content → Prop} (h : p.ConsumesAt R tokens)
    (hRS : ∀ a w, R a w → S a w) : p.ConsumesAt S tokens := by
  intro a s run
  obtain ⟨taken, rest, htokens, hs, hR⟩ := h a s run
  exact ⟨taken, rest, htokens, hs, hRS _ _ hR⟩

theorem Consumes.mono {S : α → List Content → Prop} (h : p.Consumes R)
    (hRS : ∀ a w, R a w → S a w) : p.Consumes S := fun tokens => (h tokens).mono hRS

theorem consumes_yield (a : α) : (yield a).Consumes fun b w => b = a ∧ w = [] := by
  intro tokens b s run
  cases run
  exact ⟨[], tokens, rfl, rfl, rfl, rfl⟩

theorem ConsumesAt.andThen {q : α → Parser β} {S : α → β → List Content → Prop}
    (hp : p.ConsumesAt R tokens)
    (hq : ∀ a taken rest, tokens = taken ++ rest → R a (contents taken) →
      (q a).ConsumesAt (S a) rest) :
    (Parser.andThen p q).ConsumesAt (fun b w => ∃ a u v, w = u ++ v ∧ R a u ∧ S a b v) tokens := by
  intro b s run
  rcases hrun : p ⟨tokens⟩ with ⟨⟨f⟩ | ⟨a⟩, s'⟩
  · rw [andThen_error hrun] at run
    cases run
  · rw [andThen_ok hrun] at run
    obtain ⟨taken, rest, rfl, rfl, hR⟩ := hp a s' hrun
    obtain ⟨taken', rest', rfl, rfl, hS⟩ := hq a taken rest rfl hR b s run
    refine ⟨taken ++ taken', rest', (List.append_assoc _ _ _).symm, rfl, a, _, _, ?_, hR, hS⟩
    simp [contents]

theorem Consumes.andThen {q : α → Parser β} {S : α → β → List Content → Prop} (hp : p.Consumes R)
    (hq : ∀ a, (q a).Consumes (S a)) :
    (Parser.andThen p q).Consumes fun b w => ∃ a u v, w = u ++ v ∧ R a u ∧ S a b v :=
  fun tokens => (hp tokens).andThen fun a _ rest _ _ => hq a rest

/-- A parser whose value is made into another. -/
theorem ConsumesAt.map (hp : p.ConsumesAt R tokens) (f : α → β) :
    (Parser.andThen p fun a => yield (f a)).ConsumesAt (fun b w => ∃ a, b = f a ∧ R a w)
      tokens := by
  refine (hp.andThen fun a _ rest _ _ => consumes_yield (f a) rest).mono ?_
  rintro b w ⟨a, u, v, rfl, hR, rfl, rfl⟩
  exact ⟨a, rfl, by simpa using hR⟩

theorem Consumes.map (hp : p.Consumes R) (f : α → β) :
    (Parser.andThen p fun a => yield (f a)).Consumes fun b w => ∃ a, b = f a ∧ R a w :=
  fun tokens => (hp tokens).map f

theorem ConsumesAt.branch {test : Token → Bool} (hp : p.ConsumesAt R tokens)
    (hq : q.ConsumesAt R tokens) : (Parser.branch test p q).ConsumesAt R tokens := by
  intro a s run
  unfold Parser.branch at run
  split at run
  · exact hp a s run
  · exact hq a s run

end

/-! ## Single tokens -/

section

variable {what : Expectation} {value? : Content → Option α} {make : α → Content}

theorem Picks.consumes_take (h : Picks value? make) :
    (take what value?).Consumes fun taken w => w = [make taken.value] := by
  intro tokens taken s run
  unfold take at run
  cases hv : value? (⟨tokens⟩ : TokenStream).current.content with
  | none =>
    rw [hv] at run
    cases run
  | some a =>
    rw [hv] at run
    cases run
    have content := h.iff.1 hv
    cases tokens with
    | nil => exact absurd (congrArg Content.kind content.symm) (h.unended a)
    | cons t rest =>
      have unended : t.isFinish = false := isFinish_eq content (h.unended a)
      exact ⟨[t], rest, rfl, next_cons unended, congrArg (fun c => [c]) content⟩

/-- A token of a kind that is taken, and then judged by its value. -/
theorem Picks.consumes_judged {judge : Taken α → Parser β} (h : Picks value? make)
    (check? : α → Option β)
    (sound : ∀ {taken b s s'}, judge taken s = (.ok b, s') → check? taken.value = some b ∧ s' = s) :
    (andThen (take what value?) judge).Consumes fun b w =>
      ∃ a, check? a = some b ∧ w = [make a] := by
  have judged (taken : Taken α) :
      (judge taken).Consumes fun b w => check? taken.value = some b ∧ w = [] := by
    intro tokens b s run
    obtain ⟨checked, rfl⟩ := sound run
    exact ⟨[], tokens, rfl, rfl, checked, rfl⟩
  refine (h.consumes_take.andThen judged).mono ?_
  rintro b w ⟨taken, u, v, rfl, rfl, checked, rfl⟩
  exact ⟨taken.value, checked, rfl⟩

theorem consumes_punct? (symbol : Text) :
    (punct? symbol).Consumes fun found w => w = if found then [.punct symbol] else [] := by
  intro tokens found s run
  unfold punct? at run
  split at run
  · rename_i stands
    cases run
    have content := of_decide_eq_true stands
    cases tokens with
    | nil => cases content
    | cons t rest =>
      have unended : t.isFinish = false := isFinish_eq content (by simp [Content.kind])
      exact ⟨[t], rest, rfl, next_cons unended, congrArg (fun c => [c]) content⟩
  · cases run
    exact ⟨[], tokens, rfl, rfl, rfl⟩

end

/-! ## Entries -/

theorem consumes_lookup (find? : Text → Option α) (fault : Text → ConfigFault) :
    (lookup find? fault).Consumes fun a w => ∃ name, find? name = some a ∧ w = [.ident name] := by
  refine picks_ident.consumes_judged find? ?_
  intro name a s s' run
  cases found : find? name.value with
  | none =>
    simp only [found] at run
    cases run
  | some b =>
    simp only [found] at run
    cases run
    exact ⟨rfl, rfl⟩

theorem consumes_version : version.Consumes fun v w => w = [.int v.toNat] := by
  refine Consumes.mono (picks_int.consumes_judged CompileOptions.version? ?_) ?_
  · intro n v s s' run
    cases inRange : CompileOptions.version? n.value with
    | none =>
      simp only [inRange] at run
      generalize Fault.writable n.value = written at run
      cases written <;> cases run
    | some v =>
      simp only [inRange] at run
      cases run
      exact ⟨rfl, rfl⟩
  · rintro v w ⟨n, inRange, rfl⟩
    rw [version?_eq_some.1 inRange]

theorem consumes_macroValue :
    macroValue.Consumes fun value w => w = (value.map Content.str).toList := by
  have eq : macroValue = branch (fun t => t.content = comma || t.isFinish)
      (yield none) (andThen str fun t => yield (some t.value)) := rfl
  rw [eq]
  intro tokens
  refine .branch ((consumes_yield none tokens).mono ?_)
    (((picks_str.consumes_take tokens).map fun t => some t.value).mono ?_)
  · rintro value w ⟨rfl, rfl⟩
    rfl
  · rintro value w ⟨t, rfl, rfl⟩
    rfl

/-- A colon, and what makes an entry behind it. -/
theorem consumes_valued {p : Parser α} {R : α → List Content → Prop} (make : α → Entry)
    (hp : p.Consumes R) :
    (andThen (punct (text ":")) fun _ => andThen p fun a => yield (make a)).Consumes
      fun e w => ∃ a u, e = make a ∧ R a u ∧ w = colon :: u := by
  refine ((picks_punct _).consumes_take.andThen fun _ => hp.map make).mono ?_
  rintro e w ⟨_, u, v, rfl, rfl, a, rfl, hR⟩
  exact ⟨a, v, rfl, hR, rfl⟩

theorem consumes_entryOf (key : Entry.Key) :
    (entryOf key).Consumes fun e w => Spells e (keyword key :: w) := by
  cases key with
  | kind =>
    refine (consumes_valued .stage (consumes_lookup _ _)).mono ?_
    rintro e w ⟨s, u, rfl, ⟨name, found, rfl⟩, rfl⟩
    obtain ⟨extension, he, rfl⟩ := stage_iff.1 found
    exact .stage he
  | version =>
    refine (consumes_valued .version consumes_version).mono ?_
    rintro e w ⟨v, u, rfl, rfl, rfl⟩
    exact .version v
  | strip =>
    refine (consumes_yield Entry.strip).mono ?_
    rintro e w ⟨rfl, rfl⟩
    exact .strip
  | debug =>
    refine (consumes_yield Entry.debug).mono ?_
    rintro e w ⟨rfl, rfl⟩
    exact .debug
  | define =>
    have definition (name : Taken Text) :=
      consumes_macroValue.map fun value => Entry.define (name.value, value)
    refine ((picks_punct _).consumes_take.andThen fun _ =>
      picks_ident.consumes_take.andThen definition).mono ?_
    rintro e w ⟨_, u, v, rfl, rfl, name, u', v', rfl, rfl, value, rfl, rfl⟩
    cases value with
    | none => exact .define name.value
    | some value => exact .defineAs name.value value
  | optimize =>
    refine (consumes_valued .optimize (consumes_lookup _ _)).mono ?_
    rintro e w ⟨l, u, rfl, ⟨name, found, rfl⟩, rfl⟩
    obtain rfl := level_iff.1 found
    exact .optimize l
  | target =>
    refine (consumes_valued .target (consumes_lookup _ _)).mono ?_
    rintro e w ⟨v, u, rfl, ⟨name, found, rfl⟩, rfl⟩
    obtain ⟨word, listed, rfl⟩ := target_iff.1 found
    exact .target listed

theorem consumes_entry : entry.Consumes Spells := by
  refine ((consumes_lookup _ _).andThen consumes_entryOf).mono ?_
  rintro e w ⟨key, u, v, rfl, ⟨name, found, rfl⟩, spelled⟩
  obtain rfl := key_iff.1 found
  exact spelled

/-! ## Lists -/

/-- What comes behind the first entry, if what comes behind a comma is known. -/
theorem consumesAt_continued {e : Entry} {rest : List Token}
    (later : ∀ tokens : List Token, tokens.length < rest.length →
      ConsumesAt entries Collected tokens) :
    (andThen (punct? (text ",")) fun found =>
      if found then andThen entries fun list => yield (e :: list.1, list.2)
      else yield ([e], true)).ConsumesAt (Continued e) rest := by
  refine ((consumes_punct? _ rest).andThen (S := Resumed e)
    fun found taken tokens hrest hfound => ?_).mono ?_
  · cases found with
    | false => exact consumes_yield _ _
    | true =>
      have shorter := length_lt_of_comma hrest hfound
      exact (later tokens shorter).map fun list => (e :: list.1, list.2)
  · rintro list w ⟨found, u, v, rfl, rfl, h⟩
    exact h.continued

theorem consumes_entries : Consumes entries Collected := by
  intro tokens
  -- every round takes a comma at least, so the induction is on the number of tokens
  induction hn : tokens.length using Nat.strongRecOn generalizing tokens with
  | ind n ih =>
    subst hn
    rw [entries_eq]
    refine .branch ?_ ((consumes_yield _ _).mono ?_)
    · refine ((consumes_entry tokens).andThen fun e taken rest htokens _ =>
        consumesAt_continued fun later shorter => ih later.length ?_ later rfl).mono ?_
      · rw [htokens, List.length_append]
        omega
      · rintro list w ⟨e, u, v, rfl, spelled, continued⟩
        exact continued.collected spelled
    · rintro list w ⟨rfl, rfl⟩
      exact .nil

end ShaderBuild.Parser
