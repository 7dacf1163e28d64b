/-
  What parsers read.

  A parser that takes tokens from the left, and looks no further than the token it stands at, is
  known by what it takes for each value, if it cites the first token that it cannot go on with.
  Such parsers are put together from parsers of single tokens.

  * `Legible`: tokens that end, and of which the integers can be written;
  * `Parser.Takes`, `Parser.Stops`: what a parser does is decided by the tokens up to the one it
    stands at;
  * `Parser.Reads`: what a parser takes stands in a relation to its value, and what it has taken
    when it fails can be completed to that;
  * `Parser.reads_single`, `Parser.ReadsAt.andThen`, `Parser.ReadsAt.branch`: the parts and how they
    are put together.
-/
import ShaderBuild.Compile

namespace ShaderBuild

open Token (Content)

variable {α β : Type}

/-- What tokens denote. -/
def contents (tokens : List Token) : List Content := tokens.map Token.content

/-- Tokens none of which is the end of the input. -/
def Unended (tokens : List Token) : Prop := ∀ t ∈ tokens, t.isFinish = false

/-- Tokens that end, and of which the integers can be written. -/
structure Legible (tokens : List Token) : Prop where
  ends : ∃ t ∈ tokens, t.isFinish = true
  writable : ∀ t ∈ tokens, ∀ n, t.content = .int n → Numeral.isWritable n

namespace Legible

variable {tokens taken rest : List Token}

theorem drop (h : Legible (taken ++ rest)) (hu : Unended taken) : Legible rest where
  ends := by
    obtain ⟨t, ht, hf⟩ := h.ends
    rcases List.mem_append.1 ht with ht | ht
    · rw [hu t ht] at hf
      cases hf
    · exact ⟨t, ht, hf⟩
  writable t ht := h.writable t (List.mem_append_right _ ht)

theorem eq_cons (h : Legible tokens) : ∃ t rest, tokens = t :: rest := by
  obtain ⟨t, ht, -⟩ := h.ends
  exact List.exists_cons_of_ne_nil (List.ne_nil_of_mem ht)

end Legible

namespace Parser

/-! ## Single steps -/

theorem andThen_ok {p : Parser α} {q : α → Parser β} {s s' : TokenStream} {a : α}
    (h : p s = (.ok a, s')) : andThen p q s = q a s' := by
  simp only [andThen, h]

theorem andThen_error {p : Parser α} {q : α → Parser β} {s s' : TokenStream} {f : Fault}
    (h : p s = (.error f, s')) : andThen p q s = (.error f, s') := by
  simp only [andThen, h]

theorem next_cons {t : Token} {rest : List Token} (h : t.isFinish = false) :
    (⟨t :: rest⟩ : TokenStream).next = ⟨rest⟩ := by
  simp [TokenStream.next, TokenStream.isEmpty, TokenStream.current, h]

theorem take_ok {what : Expectation} {value? : Content → Option α} {t : Token} {rest : List Token}
    {a : α} (h : value? t.content = some a) (ht : t.isFinish = false) :
    take what value? ⟨t :: rest⟩ = (.ok ⟨a, t⟩, ⟨rest⟩) := by
  have hc : (⟨t :: rest⟩ : TokenStream).current = t := rfl
  simp only [take, hc, h, next_cons ht]

theorem take_error {what : Expectation} {value? : Content → Option α} {t : Token}
    {rest : List Token} (h : value? t.content = none) :
    take what value? ⟨t :: rest⟩ = (.error (.config (.expected what t) t.span), ⟨t :: rest⟩) := by
  have hc : (⟨t :: rest⟩ : TokenStream).current = t := rfl
  simp only [take, hc, h]

/-! ## Reading -/

/-- A parser takes just these tokens, whatever comes behind the first of the rest. -/
def Takes (p : Parser α) (a : α) (taken rest : List Token) : Prop :=
  ∀ rest' : List Token, rest'.head? = rest.head? → p ⟨taken ++ rest'⟩ = (.ok a, ⟨rest'⟩)

/-- A parser fails at a token behind others, whatever comes behind that. -/
def Stops (p : Parser α) (f : Fault) (taken : List Token) (t : Token) : Prop :=
  ∀ rest : List Token, (p ⟨taken ++ t :: rest⟩).1 = .error f

/-- On the tokens, a parser takes what stands in a relation to its value; and if it fails, it cites
    a token, and what stands before that can be completed to something it takes. -/
structure ReadsAt (p : Parser α) (R : α → List Content → Prop) (tokens : List Token) : Prop where
  accepts : ∀ {a s}, p ⟨tokens⟩ = (.ok a, s) → ∃ taken rest, tokens = taken ++ rest ∧ s = ⟨rest⟩ ∧
    Unended taken ∧ R a (contents taken) ∧ p.Takes a taken rest
  rejects : ∀ {f s}, p ⟨tokens⟩ = (.error f, s) → ∃ taken t rest fault,
    tokens = taken ++ t :: rest ∧ f = .config fault t.span ∧ Unended taken ∧
    (∃ a v, R a (contents taken ++ v)) ∧ p.Stops f taken t

/-- A parser reads a relation if it does so on all legible tokens. -/
def Reads (p : Parser α) (R : α → List Content → Prop) : Prop :=
  ∀ tokens, Legible tokens → p.ReadsAt R tokens

theorem ReadsAt.mono {p : Parser α} {R S : α → List Content → Prop} {tokens : List Token}
    (h : p.ReadsAt R tokens) (hRS : ∀ a w, R a w → S a w) : p.ReadsAt S tokens where
  accepts run := by
    obtain ⟨taken, rest, htokens, hs, hu, hR, htakes⟩ := h.accepts run
    exact ⟨taken, rest, htokens, hs, hu, hRS _ _ hR, htakes⟩
  rejects run := by
    obtain ⟨taken, t, rest, fault, htokens, hf, hu, ⟨a, v, hR⟩, hstops⟩ := h.rejects run
    exact ⟨taken, t, rest, fault, htokens, hf, hu, ⟨a, v, hRS _ _ hR⟩, hstops⟩

theorem Reads.mono {p : Parser α} {R S : α → List Content → Prop} (h : p.Reads R)
    (hRS : ∀ a w, R a w → S a w) : p.Reads S := fun tokens ht => (h tokens ht).mono hRS

theorem readsAt_yield (a : α) (tokens : List Token) :
    (yield a).ReadsAt (fun b w => b = a ∧ w = []) tokens where
  accepts run := by
    cases run
    exact ⟨[], tokens, rfl, rfl, nofun, ⟨rfl, rfl⟩, fun _ _ => rfl⟩
  rejects run := by cases run

theorem reads_yield (a : α) : (yield a).Reads fun b w => b = a ∧ w = [] :=
  fun tokens _ => readsAt_yield a tokens

/-- A parser that takes one token, or fails citing it, as a partial function has it. -/
theorem reads_single {p : Parser α} (value? : Token → Option α)
    (ok : ∀ {t a rest}, value? t = some a → t.isFinish = false ∧ p ⟨t :: rest⟩ = (.ok a, ⟨rest⟩))
    (error : ∀ {t}, value? t = none → (∀ n, t.content = .int n → Numeral.isWritable n) →
      ∃ fault, ∀ rest, (p ⟨t :: rest⟩).1 = .error (.config fault t.span))
    (some_value : ∃ t a, value? t = some a) :
    p.Reads fun a w => ∃ t, value? t = some a ∧ w = [t.content] := by
  intro tokens legible
  obtain ⟨t, rest, rfl⟩ := legible.eq_cons
  constructor
  · intro a s run
    cases hv : value? t with
    | none =>
      obtain ⟨fault, hf⟩ := error hv (legible.writable t List.mem_cons_self)
      have hfail := hf rest
      rw [run] at hfail
      cases hfail
    | some b =>
      obtain ⟨ht, hok⟩ : t.isFinish = false ∧ p ⟨t :: rest⟩ = (.ok b, ⟨rest⟩) := ok hv
      cases hok.symm.trans run
      exact ⟨[t], rest, rfl, rfl, by simpa [Unended] using ht, ⟨t, hv, rfl⟩,
        fun rest' _ => (ok hv).2⟩
  · intro f s run
    cases hv : value? t with
    | none =>
      obtain ⟨fault, hf⟩ := error hv (legible.writable t List.mem_cons_self)
      have hfail := hf rest
      rw [run] at hfail
      cases hfail
      obtain ⟨t', a, ha⟩ := some_value
      exact ⟨[], t, rest, fault, rfl, rfl, nofun, ⟨a, [t'.content], t', ha, rfl⟩, hf⟩
    | some b => cases (ok hv).2.symm.trans run

theorem head?_append {taken rest rest' : List Token} (h : rest'.head? = rest.head?) :
    (taken ++ rest').head? = (taken ++ rest).head? := by
  cases taken with
  | nil => exact h
  | cons t taken => rfl

/-- Two parsers one after the other read the two relations one after the other. -/
theorem ReadsAt.andThen {p : Parser α} {q : α → Parser β} {R : α → List Content → Prop}
    {S : α → β → List Content → Prop} {tokens : List Token} (legible : Legible tokens)
    (hp : p.ReadsAt R tokens)
    (hq : ∀ a taken rest, tokens = taken ++ rest → R a (contents taken) → Legible rest →
      (q a).ReadsAt (S a) rest)
    (completion : ∀ a u, R a u → ∃ b v, S a b v) :
    (andThen p q).ReadsAt (fun b w => ∃ a u v, w = u ++ v ∧ R a u ∧ S a b v) tokens where
  accepts {b s} run := by
    rcases hrun : p ⟨tokens⟩ with ⟨⟨f⟩ | ⟨a⟩, s'⟩
    · rw [andThen_error hrun] at run
      cases run
    · rw [andThen_ok hrun] at run
      obtain ⟨taken, rest, rfl, rfl, hu, hR, htakes⟩ := hp.accepts hrun
      obtain ⟨taken', rest', rfl, rfl, hu', hS, htakes'⟩ :=
        (hq a taken rest rfl hR (legible.drop hu)).accepts run
      refine ⟨taken ++ taken', rest', (List.append_assoc _ _ _).symm, rfl,
        List.forall_mem_append.2 ⟨hu, hu'⟩,
        ⟨a, contents taken, contents taken', List.map_append, hR, hS⟩, ?_⟩
      intro more hmore
      rw [List.append_assoc, andThen_ok (htakes _ (head?_append hmore))]
      exact htakes' more hmore
  rejects {f s} run := by
    rcases hrun : p ⟨tokens⟩ with ⟨⟨f'⟩ | ⟨a⟩, s'⟩
    · rw [andThen_error hrun] at run
      cases run
      obtain ⟨taken, t, rest, fault, rfl, rfl, hu, ⟨a, v, hR⟩, hstops⟩ := hp.rejects hrun
      obtain ⟨b, v', hS⟩ := completion a _ hR
      refine ⟨taken, t, rest, fault, rfl, rfl, hu,
        ⟨b, v ++ v', a, _, v', (List.append_assoc _ _ _).symm, hR, hS⟩, fun more => ?_⟩
      rcases hmore : p ⟨taken ++ t :: more⟩ with ⟨outcome, s'⟩
      have herror := hstops more
      rw [hmore] at herror
      obtain rfl : outcome = _ := herror
      rw [andThen_error hmore]
    · rw [andThen_ok hrun] at run
      obtain ⟨taken, rest, rfl, rfl, hu, hR, htakes⟩ := hp.accepts hrun
      obtain ⟨taken', t, rest', fault, rfl, rfl, hu', ⟨b, v, hS⟩, hstops⟩ :=
        (hq a taken rest rfl hR (legible.drop hu)).rejects run
      refine ⟨taken ++ taken', t, rest', fault, (List.append_assoc _ _ _).symm, rfl,
        List.forall_mem_append.2 ⟨hu, hu'⟩,
        ⟨b, v, a, contents taken, contents taken' ++ v, ?_, hR, hS⟩, fun more => ?_⟩
      · simp only [contents, List.map_append, List.append_assoc]
      · have hsame : (taken' ++ t :: more).head? = (taken' ++ t :: rest').head? := head?_append rfl
        rw [List.append_assoc]
        exact (congrArg Prod.fst (andThen_ok (htakes _ hsame))).trans (hstops more)

theorem Reads.andThen {p : Parser α} {q : α → Parser β} {R : α → List Content → Prop}
    {S : α → β → List Content → Prop} (hp : p.Reads R) (hq : ∀ a, (q a).Reads (S a))
    (completion : ∀ a u, R a u → ∃ b v, S a b v) :
    (andThen p q).Reads fun b w => ∃ a u v, w = u ++ v ∧ R a u ∧ S a b v :=
  fun tokens legible => (hp tokens legible).andThen legible
    (fun a _ rest _ _ hrest => hq a rest hrest) completion

/-- A parser whose value is made into another. -/
theorem ReadsAt.map {p : Parser α} {R : α → List Content → Prop} {tokens : List Token}
    (legible : Legible tokens) (hp : p.ReadsAt R tokens) (f : α → β) :
    (Parser.andThen p fun a => yield (f a)).ReadsAt (fun b w => ∃ a, b = f a ∧ R a w) tokens := by
  refine (hp.andThen legible (fun a _ rest _ _ _ => readsAt_yield (f a) rest)
    fun _ _ _ => ⟨_, _, rfl, rfl⟩).mono ?_
  rintro b w ⟨a, u, v, rfl, hR, rfl, rfl⟩
  exact ⟨a, rfl, (List.append_nil u).symm ▸ hR⟩

theorem Reads.map {p : Parser α} {R : α → List Content → Prop} (hp : p.Reads R) (f : α → β) :
    (Parser.andThen p fun a => yield (f a)).Reads fun b w => ∃ a, b = f a ∧ R a w :=
  fun tokens legible => (hp tokens legible).map legible f

/-- One parser or another, as the current token tells. -/
def branch (test : Token → Bool) (p q : Parser α) : Parser α := fun s =>
  if test s.current then p s else q s

/-- Parsers that are chosen by the current token read what they read. -/
theorem ReadsAt.branch {test : Token → Bool} {p q : Parser α} {R : α → List Content → Prop}
    {t : Token} {rest : List Token} (hp : test t = true → p.ReadsAt R (t :: rest))
    (hq : test t = false → q.ReadsAt R (t :: rest)) :
    (Parser.branch test p q).ReadsAt R (t :: rest) := by
  -- the choice is the same behind all tokens that start alike
  have choice {more : List Token} (h : more.head? = some t) :
      Parser.branch test p q ⟨more⟩ = if test t then p ⟨more⟩ else q ⟨more⟩ := by
    have hc : (⟨more⟩ : TokenStream).current = t := by
      simp [TokenStream.current, List.headD_eq_head?_getD, h]
    simp only [Parser.branch, hc]
  have same {r : Parser α} (hr : r.ReadsAt R (t :: rest))
      (hb : ∀ more : List Token, more.head? = some t → Parser.branch test p q ⟨more⟩ = r ⟨more⟩) :
      (Parser.branch test p q).ReadsAt R (t :: rest) := by
    constructor
    · intro a s run
      rw [hb _ rfl] at run
      obtain ⟨taken, rest', htokens, hs, hu, hR, htakes⟩ := hr.accepts run
      refine ⟨taken, rest', htokens, hs, hu, hR, fun more hmore => ?_⟩
      rw [hb _ ((head?_append hmore).trans (congrArg List.head? htokens.symm))]
      exact htakes more hmore
    · intro f s run
      rw [hb _ rfl] at run
      obtain ⟨taken, t', rest', fault, htokens, hf, hu, hR, hstops⟩ := hr.rejects run
      refine ⟨taken, t', rest', fault, htokens, hf, hu, hR, fun more => ?_⟩
      have hsame : (taken ++ t' :: more).head? = (taken ++ t' :: rest').head? := head?_append rfl
      rw [hb _ (hsame.trans (congrArg List.head? htokens.symm))]
      exact hstops more
  cases ht : test t with
  | false => exact same (hq ht) fun more hmore => by rw [choice hmore, ht]; rfl
  | true => exact same (hp ht) fun more hmore => by rw [choice hmore, ht]; rfl

end Parser

end ShaderBuild
