/-
  Parsers on two streams, side by side.

  A parser looks at tokens only.  So on streams whose tokens stand for each other it does the same:
  it gives the same value and goes on with such streams, or it fails on both in the same way.

  * `Token.Alike`: tokens that differ in their places only;
  * `Pairing`: which tokens stand for each other, and what it is to fail in the same way;
  * `Pairing.InStep`, `Pairing.Keeps`: results side by side, and parsers that always have such;
  * `Pairing.keeps_take`, `Pairing.Keeps.andThen`, `Pairing.Keeps.branch`: the parts and how they
    are put together.
-/
import Mathlib.Data.List.Forall2
import ShaderBuild.Proofs.Invocation.Taking

namespace ShaderBuild

open Token (Content)
open ShaderBuild.Parser

/-! ## Tokens -/

namespace Token

/-- Tokens that denote the same and are spelled alike, wherever they stand. -/
structure Alike (t t' : Token) : Prop where
  content : t.content = t'.content
  spelling : t.span.spelling = t'.span.spelling

theorem Alike.refl (t : Token) : t.Alike t := ⟨rfl, rfl⟩

theorem Alike.kind {t t' : Token} (h : t.Alike t') : t.kind = t'.kind :=
  congrArg Content.kind h.content

/-- Diagnostics name tokens by what they denote and by their spelling. -/
theorem Alike.describe {t t' : Token} (h : t.Alike t') : t.describe = t'.describe := by
  unfold Token.describe isFinish
  rw [h.kind, h.spelling]

/-- A token that is an integer, but not a version. -/
def IsNoVersion (t : Token) : Prop :=
  ∃ n, t.content = .int n ∧ CompileOptions.version? n = none

end Token

/-- Which tokens stand for each other, and which faults are the same.  Tokens are alike, or else
    they are integers of which only the failure matters. -/
structure Pairing where
  token : Token → Token → Prop
  fault : Fault → Fault → Prop
  alike {t t'} : token t t' →
    t.Alike t' ∨ t.IsNoVersion ∧ t'.IsNoVersion ∧ ∀ f f', fault f f'
  cited {t t' c c'} : token t t' → t.Alike t' → ConfigFault.message c = ConfigFault.message c' →
    fault (.config c t.span) (.config c' t'.span)
  value (f) : fault (.value f) (.value f)

namespace Pairing

section

variable {m : Pairing} {t t' : Token}

theorem kind_eq (h : m.token t t') : t.kind = t'.kind := by
  rcases m.alike h with h | ⟨⟨n, hn, -⟩, ⟨n', hn', -⟩, -⟩
  · exact h.kind
  · simp only [Token.kind, hn, hn', Content.kind]

theorem isFinish_eq (h : m.token t t') : t.isFinish = t'.isFinish := by
  simp only [Token.isFinish, kind_eq h]

theorem content_iff (h : m.token t t') {c : Content} (hc : ∀ n, c ≠ .int n) :
    t.content = c ↔ t'.content = c := by
  rcases m.alike h with h | ⟨⟨n, hn, -⟩, ⟨n', hn', -⟩, -⟩
  · rw [h.content]
  · rw [hn, hn']
    exact ⟨fun h => (hc n h.symm).elim, fun h => (hc n' h.symm).elim⟩

/-- Faults that cite two tokens in the same words. -/
theorem cites (h : m.token t t') {c c' : ConfigFault} (hc : t.Alike t' → c.message = c'.message) :
    m.fault (.config c t.span) (.config c' t'.span) := by
  rcases m.alike h with ha | ⟨-, -, all⟩
  · exact m.cited h ha (hc ha)
  · exact all _ _

end

/-! ## Streams and results -/

/-- Streams whose tokens stand for each other, up to an end of the input. -/
inductive Streams (m : Pairing) : TokenStream → TokenStream → Prop
  | finish {t t'} : m.token t t' → t.isFinish = true → Streams m ⟨[t]⟩ ⟨[t']⟩
  | cons {t t' ts ts'} : m.token t t' → t.isFinish = false → Streams m ⟨ts⟩ ⟨ts'⟩ →
    Streams m ⟨t :: ts⟩ ⟨t' :: ts'⟩

/-- Results that are values in a relation, or faults that are the same. -/
inductive InStep {α β : Type} (m : Pairing) (V : α → β → TokenStream → TokenStream → Prop) :
    Except Fault α × TokenStream → Except Fault β × TokenStream → Prop
  | ok {a b s s'} : V a b s s' → InStep m V (.ok a, s) (.ok b, s')
  | error {f f' s s'} : m.fault f f' → InStep m V (.error f, s) (.error f', s')

variable {m : Pairing} {α β γ δ : Type}

theorem streams_append {last last' : Token} {body body' : List Token}
    (h : List.Forall₂ m.token body body') (hbody : Unended body) (hlast : m.token last last')
    (hfinish : last.isFinish = true) : m.Streams ⟨body ++ [last]⟩ ⟨body' ++ [last']⟩ := by
  induction h with
  | nil => exact .finish hlast hfinish
  | @cons t t' ts ts' ht _ ih =>
    exact .cons ht (hbody t List.mem_cons_self) (ih fun u hu => hbody u (List.mem_cons_of_mem _ hu))

theorem InStep.mono {V W : α → β → TokenStream → TokenStream → Prop}
    {x : Except Fault α × TokenStream} {y : Except Fault β × TokenStream} (h : m.InStep V x y)
    (hVW : ∀ a b s s', V a b s s' → W a b s s') : m.InStep W x y := by
  cases h with
  | ok h => exact .ok (hVW _ _ _ _ h)
  | error h => exact .error h

theorem InStep.andThen {V : α → β → TokenStream → TokenStream → Prop}
    {W : γ → δ → TokenStream → TokenStream → Prop} {p : Parser α} {p' : Parser β}
    {q : α → Parser γ} {q' : β → Parser δ} {s s' : TokenStream} (h : m.InStep V (p s) (p' s'))
    (hq : ∀ a b r r', p s = (.ok a, r) → V a b r r' → m.InStep W (q a r) (q' b r')) :
    m.InStep W (Parser.andThen p q s) (Parser.andThen p' q' s') := by
  rcases hp : p s with ⟨⟨f⟩ | ⟨a⟩, r⟩ <;> rcases hp' : p' s' with ⟨⟨f'⟩ | ⟨b⟩, r'⟩ <;>
    rw [hp, hp'] at h <;> cases h
  case error h =>
    rw [andThen_error hp, andThen_error hp']
    exact .error h
  case ok h =>
    rw [andThen_ok hp, andThen_ok hp']
    exact hq a b r r' hp h

/-- Two parsers give the same on streams whose tokens stand for each other, and leave such. -/
def Keeps (m : Pairing) (V : α → β → Prop) (p : Parser α) (p' : Parser β) : Prop :=
  ∀ s s', m.Streams s s' → m.InStep (fun a b r r' => V a b ∧ m.Streams r r') (p s) (p' s')

theorem keeps_yield {V : α → β → Prop} {a : α} {b : β} (h : V a b) :
    m.Keeps V (yield a) (yield b) := fun _ _ hs => .ok ⟨h, hs⟩

theorem keeps_fail {V : α → β → Prop} {f f' : Fault} (h : m.fault f f') :
    m.Keeps V (fail f : Parser α) (fail f' : Parser β) := fun _ _ _ => .error h

theorem Keeps.mono {V W : α → β → Prop} {p : Parser α} {p' : Parser β} (h : m.Keeps V p p')
    (hVW : ∀ a b, V a b → W a b) : m.Keeps W p p' :=
  fun _ _ hs => (h _ _ hs).mono fun a b _ _ hv => ⟨hVW a b hv.1, hv.2⟩

theorem Keeps.andThen {V : α → β → Prop} {W : γ → δ → Prop} {p : Parser α} {p' : Parser β}
    {q : α → Parser γ} {q' : β → Parser δ} (h : m.Keeps V p p')
    (hq : ∀ a b, V a b → m.Keeps W (q a) (q' b)) :
    m.Keeps W (Parser.andThen p q) (Parser.andThen p' q') :=
  fun _ _ hs => (h _ _ hs).andThen fun a b _ _ _ hv => hq a b hv.1 _ _ hv.2

/-- A parser whose value is made into another. -/
theorem Keeps.map {p : Parser α} (h : m.Keeps Eq p p) (f : α → β) :
    m.Keeps Eq (Parser.andThen p fun a => yield (f a)) (Parser.andThen p fun a => yield (f a)) :=
  h.andThen fun _ _ hab => keeps_yield (congrArg f hab)

/-- A choice by the current token is the same on both streams. -/
theorem InStep.branch {V : α → β → TokenStream → TokenStream → Prop} {test : Token → Bool}
    {p q : Parser α} {p' q' : Parser β} {s s' : TokenStream} (hs : m.Streams s s')
    (same : ∀ {t t'}, m.token t t' → test t = test t') (hp : m.InStep V (p s) (p' s'))
    (hq : m.InStep V (q s) (q' s')) :
    m.InStep V (Parser.branch test p q s) (Parser.branch test p' q' s') := by
  have htest : test s.current = test s'.current := by
    cases hs with
    | finish h _ => exact same h
    | cons h _ _ => exact same h
  unfold Parser.branch
  rw [htest]
  split
  · exact hp
  · exact hq

theorem Keeps.branch {V : α → β → Prop} {test : Token → Bool} {p q : Parser α} {p' q' : Parser β}
    (same : ∀ {t t'}, m.token t t' → test t = test t') (hp : m.Keeps V p p')
    (hq : m.Keeps V q q') : m.Keeps V (Parser.branch test p q) (Parser.branch test p' q') :=
  fun _ _ hs => .branch hs same (hp _ _ hs) (hq _ _ hs)

/-! ## Single tokens -/

/-- Taken tokens that stand for each other. -/
structure TakenAlike (m : Pairing) (make : α → Content) (a b : Taken α) : Prop where
  token : m.token a.token b.token
  left : a.token.content = make a.value
  right : b.token.content = make b.value

/-- Taken tokens other than integers have the same value. -/
theorem TakenAlike.value_eq {value? : Content → Option α} {make : α → Content} {a b : Taken α}
    (h : m.TakenAlike make a b) (hm : Picks value? make) (noInt : ∀ a n, make a ≠ .int n) :
    a.value = b.value := by
  have same := (content_iff h.token (noInt a.value)).1 h.left
  have hb := hm.iff.2 (same.symm.trans h.right)
  exact Option.some.inj ((hm.iff.2 rfl).symm.trans hb)

theorem keeps_take {what : Expectation} {value? : Content → Option α} {make : α → Content}
    (hm : Picks value? make)
    (ints : ∀ n n', value? (.int n) = none → value? (.int n') = none) :
    m.Keeps (m.TakenAlike make) (take what value?) (take what value?) := by
  have none_of_none {t t' : Token} (ht : m.token t t') (hv : value? t.content = none) :
      value? t'.content = none := by
    rcases m.alike ht with ha | ⟨⟨n, hn, -⟩, ⟨n', hn', -⟩, -⟩
    · rw [← ha.content, hv]
    · rw [hn']
      exact ints n n' (hn ▸ hv)
  have some_of_some {t t' : Token} {a : α} (ht : m.token t t') (hv : value? t.content = some a) :
      ∃ b, value? t'.content = some b := by
    rcases m.alike ht with ha | ⟨⟨n, hn, -⟩, ⟨n', hn', -⟩, -⟩
    · exact ⟨a, by rw [← ha.content, hv]⟩
    · refine Option.ne_none_iff_exists'.1 fun hnone => ?_
      rw [hn'] at hnone
      rw [hn, ints n' n hnone] at hv
      cases hv
  have fails {t t' : Token} {ts ts' : List Token} (ht : m.token t t')
      (hv : value? t.content = none) : m.InStep
        (fun a b r r' => m.TakenAlike make a b ∧ m.Streams r r') (take what value? ⟨t :: ts⟩)
        (take what value? ⟨t' :: ts'⟩) := by
    rw [take_error hv, take_error (none_of_none ht hv)]
    exact .error (m.cites ht fun ha => by simp only [ConfigFault.message, ha.describe])
  intro s s' hs
  cases hs with
  | @finish t t' ht hf =>
    refine fails ht (Option.eq_none_iff_forall_not_mem.2 fun a ha => ?_)
    rw [Parser.isFinish_eq (hm.iff.1 ha) (hm.unended a)] at hf
    cases hf
  | @cons t t' ts ts' ht hf hrest =>
    cases hv : value? t.content with
    | none => exact fails ht hv
    | some a =>
      obtain ⟨b, hb⟩ := some_of_some ht hv
      rw [take_ok hv hf, take_ok hb (isFinish_eq ht ▸ hf)]
      exact .ok ⟨⟨ht, hm.iff.1 hv, hm.iff.1 hb⟩, hrest⟩

theorem keeps_ident : m.Keeps (m.TakenAlike .ident) ident ident :=
  keeps_take picks_ident fun _ _ _ => rfl

theorem keeps_str : m.Keeps (m.TakenAlike .str) str str := keeps_take picks_str fun _ _ _ => rfl

theorem keeps_int : m.Keeps (m.TakenAlike .int) int int := keeps_take picks_int nofun

theorem keeps_punct (symbol : Text) :
    m.Keeps (fun _ _ => True) (punct symbol) (punct symbol) :=
  Keeps.mono (keeps_take (picks_punct symbol) fun _ _ _ => if_neg nofun) fun _ _ _ => trivial

theorem keeps_punct? (symbol : Text) : m.Keeps Eq (punct? symbol) (punct? symbol) := by
  intro s s' hs
  cases hs with
  | @finish t t' ht hf =>
    have other {t : Token} (hf : t.isFinish = true) : t.content ≠ .punct symbol := fun hc => by
      rw [Parser.isFinish_eq hc (by simp [Content.kind])] at hf
      cases hf
    rw [punct?_false (other hf), punct?_false (other (isFinish_eq ht ▸ hf))]
    exact .ok ⟨rfl, .finish ht hf⟩
  | @cons t t' ts ts' ht hf hrest =>
    have same := content_iff ht (c := .punct symbol) (by simp)
    by_cases hc : t.content = .punct symbol
    · rw [punct?_true hc, punct?_true (same.1 hc)]
      exact .ok ⟨rfl, hrest⟩
    · rw [punct?_false hc, punct?_false (mt same.2 hc)]
      exact .ok ⟨rfl, .cons ht hf hrest⟩

theorem keeps_finish : m.Keeps Eq finish finish := by
  have ends {t t' : Token} {ts ts' : List Token} (ht : m.token t t')
      (hs : m.Streams ⟨t :: ts⟩ ⟨t' :: ts'⟩) :
      m.InStep (fun a b r r' => a = b ∧ m.Streams r r') (finish ⟨t :: ts⟩) (finish ⟨t' :: ts'⟩) := by
    rw [finish_cons, finish_cons, ← isFinish_eq ht]
    split
    · exact .ok ⟨rfl, hs⟩
    · exact .error (m.cites ht fun ha => by simp only [ConfigFault.message, ha.describe])
  intro s s' hs
  cases hs with
  | finish ht hf => exact ends ht (.finish ht hf)
  | cons ht hf hrest => exact ends ht (.cons ht hf hrest)

/-- Something and nothing else. -/
theorem Keeps.whole {V : α → β → Prop} {p : Parser α} {p' : Parser β} (h : m.Keeps V p p') :
    m.Keeps V (Parser.whole p) (Parser.whole p') :=
  h.andThen fun _ _ hv => keeps_finish.andThen fun _ _ _ => keeps_yield hv

end Pairing

end ShaderBuild
