/-
  How a stream goes through its tokens, whatever is done with it.

  A stream stands at a place of its tokens, of which there is one for every list: a list that does not
  end with an end of the input is taken to have one behind it.  Tokens are taken one by one, and none
  from the first end on; what is looked at, and what is not as expected, stays where it is.

  * `TokenStream.closed`, `TokenStream.StandsAt`: the tokens that a stream of a list can stand at, and
    a stream that stands at one of them;
  * `TokenStream.Ahead`: a stream that has taken tokens in front of the end from another;
  * `Parser.Forward`: a parser that goes ahead, and its parts;
  * `Parser.Rounds`, `Parser.rounds_options`, `Parser.Rounds.ahead`: an option list is collected entry
    by entry, and each entry takes a token at least;
  * `Parser.TakesKinds`: the parsers of the kinds of tokens, as parsers of what is expected;
  * `TokenStream.Step`, `TokenStream.Does`: what is done with a stream, and what comes of it at a
    token;
  * `StandsAt.step`, `StandsAt.run`: one step, and a run;
  * `tokens_in_order`: what is true after any run.
-/
import ShaderBuild.Proofs.Options.Consumption

namespace ShaderBuild

open Token (Content)

/-- Is a token of the kind and the value that are expected? -/
def Token.Meets (t : Token) (what : Expectation) : Prop :=
  t.kind = what.kind ∧ (what.value = .absent ∨ t.value.sameAs what.value)

instance (t : Token) (what : Expectation) : Decidable (t.Meets what) :=
  inferInstanceAs (Decidable (_ ∧ _))

/-- Has a token a value that is told by its kind?  If not, none of the kinds that are expected is its
    kind. -/
def Token.Fits (t : Token) : Prop :=
  ∀ kind value, t.content = .other kind value → ∀ what : Expectation, what.kind ≠ t.kind

/-- What a token denotes that is expected, if its value is told by its kind. -/
theorem Token.Fits.meets_iff {t : Token} (fits : t.Fits) (what : Expectation) :
    t.Meets what ↔ match what with
      | .identifier => ∃ name, t.content = .ident name
      | .integer => ∃ n, t.content = .int n
      | .string => ∃ s, t.content = .str s
      | .symbol symbol => t.content = .punct symbol := by
  obtain ⟨content, span⟩ := t
  cases content with
  | other kind value =>
    have none : ¬ Token.Meets ⟨.other kind value, span⟩ what :=
      fun meets => fits kind value rfl what meets.1.symm
    cases what <;> simp [none]
  | _ => cases what <;> simp [Token.Meets, Token.kind, Token.value, Content.kind, Content.value,
      Expectation.kind, Expectation.value, Datum.sameAs]

namespace TokenStream

variable {tokens : List Token} {n m : Nat} {t : Token} {s r q : TokenStream}

theorem isFinish_impliedEnd : impliedEnd.isFinish = true := rfl

theorem meets_iff {what : Expectation} : s.meets what = true ↔ s.current.Meets what := by
  simp [meets, peek, peekValue, Token.Meets]

theorem isFinish_of_meets {what : Expectation} (h : t.Meets what) : t.isFinish = false := by
  have kind : t.kind ≠ .finish := by
    rw [h.1]
    cases what <;> exact nofun
  exact decide_eq_false kind

/-! ## Places -/

/-- The tokens that a stream of a list can stand at: there is an end behind a list without one. -/
def closed (tokens : List Token) : List Token :=
  if tokens.getLast?.any Token.isFinish then tokens else tokens ++ [impliedEnd]

/-- A stream stands at a place of a list, at a token there, and not behind the first end. -/
structure StandsAt (tokens : List Token) (n : Nat) (t : Token) (s : TokenStream) : Prop where
  rest : s.rest = tokens.drop n
  before : n ≤ (closed tokens).findIdx Token.isFinish
  indexed : (closed tokens)[n]? = some t
  current : s.current = t

theorem findIdx_closed (tokens : List Token) :
    (closed tokens).findIdx Token.isFinish = tokens.findIdx Token.isFinish := by
  unfold closed
  split
  · rfl
  · rw [List.findIdx_append]
    split
    · rfl
    · rename_i none
      have all : tokens.findIdx Token.isFinish = tokens.length :=
        Nat.le_antisymm List.findIdx_le_length (Nat.le_of_not_lt none)
      rw [all, List.findIdx_singleton, if_pos isFinish_impliedEnd, Nat.zero_add]

/-- At every place up to the first end there is a token, and the stream there stands at it. -/
theorem standsAt_drop (h : n ≤ tokens.findIdx Token.isFinish) :
    StandsAt tokens n (⟨tokens.drop n⟩ : TokenStream).current ⟨tokens.drop n⟩ := by
  refine ⟨rfl, findIdx_closed tokens ▸ h, ?_, rfl⟩
  by_cases inside : n < tokens.length
  · have at_n : (⟨tokens.drop n⟩ : TokenStream).current = tokens[n] := by
      rw [current, List.drop_eq_getElem_cons inside]
      rfl
    rw [at_n]
    unfold closed
    split
    · exact List.getElem?_eq_getElem inside
    · rw [List.getElem?_append_left inside]
      exact List.getElem?_eq_getElem inside
  · -- there is no end in the list, and the place is that behind its last token
    have all : tokens.findIdx Token.isFinish ≤ tokens.length := List.findIdx_le_length
    have behind : n = tokens.length := by omega
    have unended : tokens.getLast?.any Token.isFinish = false := by
      cases last : tokens.getLast? with
      | none => rfl
      | some t =>
        have member := List.mem_of_getLast? last
        have none := List.findIdx_eq_length.1 (Nat.le_antisymm all (behind ▸ h))
        simpa using none t member
    have at_n : (⟨tokens.drop n⟩ : TokenStream).current = impliedEnd := by
      simp [current, behind]
    rw [at_n, closed, if_neg (by simp [unended]), behind]
    exact List.getElem?_concat_length

theorem StandsAt.eq (h : StandsAt tokens n t s) : s = ⟨tokens.drop n⟩ := by
  obtain ⟨rest⟩ := s
  exact congrArg TokenStream.mk h.rest

theorem StandsAt.le (h : StandsAt tokens n t s) : n ≤ tokens.findIdx Token.isFinish :=
  findIdx_closed tokens ▸ h.before

/-- There is no end among the tokens before the first end. -/
theorem unended_iff {u v : List Token} :
    Unended u ↔ u.length ≤ (u ++ v).findIdx Token.isFinish := by
  induction u with
  | nil => simp [Unended]
  | cons t u ih =>
    cases ht : t.isFinish <;>
      simp [Unended, List.findIdx_cons, ht, ← ih]

/-! ## Going ahead -/

/-- A stream is what another leaves when some tokens in front of the end are taken. -/
def Ahead (s : TokenStream) (taken : List Token) (r : TokenStream) : Prop :=
  s.rest = taken ++ r.rest ∧ Unended taken

theorem ahead_refl (s : TokenStream) : Ahead s [] s := ⟨rfl, List.forall_mem_nil _⟩

theorem Ahead.trans {u v : List Token} (h : Ahead s u r) (h' : Ahead r v q) : Ahead s (u ++ v) q :=
  ⟨by rw [h.1, h'.1, List.append_assoc], List.forall_mem_append.2 ⟨h.2, h'.2⟩⟩

/-- Behind the current token, unless that is the end. -/
theorem ahead_next (s : TokenStream) :
    Ahead s (if s.current.isFinish then [] else [s.current]) s.next := by
  obtain ⟨rest⟩ := s
  cases rest with
  | nil => exact ahead_refl _
  | cons t rest =>
    by_cases ht : t.isFinish
    · simpa [next, isEmpty, current, ht] using ahead_refl ⟨t :: rest⟩
    · simp [Ahead, next, isEmpty, current, ht, Unended]

/-- What stands ahead of a place stands at a place, as far behind as tokens are taken. -/
theorem StandsAt.ahead {taken : List Token} (h : StandsAt tokens n t s) (ahead : Ahead s taken r) :
    StandsAt tokens (n + taken.length) r.current r ∧
      tokens.take (n + taken.length) = tokens.take n ++ taken := by
  have split : tokens.drop n = taken ++ r.rest := h.rest ▸ ahead.1
  have rest : tokens.drop (n + taken.length) = r.rest := by
    rw [← List.drop_drop, split, List.drop_left]
  have stream : r = ⟨tokens.drop (n + taken.length)⟩ := by
    obtain ⟨rest'⟩ := r
    exact congrArg TokenStream.mk rest.symm
  have before : n + taken.length ≤ tokens.findIdx Token.isFinish := by
    have length : (tokens.take n).length = n :=
      List.length_take_of_le (Nat.le_trans h.le List.findIdx_le_length)
    have whole : (tokens.take n ++ taken) ++ r.rest = tokens := by
      rw [List.append_assoc, ← split, List.take_append_drop]
    have unended : Unended (tokens.take n) := by
      rw [unended_iff (v := tokens.drop n), List.take_append_drop, length]
      exact h.le
    have all := (unended_iff (v := r.rest)).1 (List.forall_mem_append.2 ⟨unended, ahead.2⟩)
    rwa [whole, List.length_append, length] at all
  refine ⟨?_, ?_⟩
  · rw [stream]
    exact standsAt_drop before
  · rw [List.take_add, split, List.take_left]

/-- Behind a place with no end there is the next place. -/
theorem StandsAt.next (h : StandsAt tokens n t s) (unended : t.isFinish = false) :
    StandsAt tokens (n + 1) s.next.current s.next ∧
      tokens.take (n + 1) = tokens.take n ++ [t] := by
  have ahead := ahead_next s
  rw [h.current, unended] at ahead
  exact h.ahead ahead

end TokenStream

namespace Parser

open TokenStream

variable {α β : Type} {s r q : TokenStream}

/-- A parser that goes ahead, whether or not it fails. -/
def Forward (p : Parser α) : Prop := ∀ s, ∃ taken, Ahead s taken (p s).2

theorem forward_yield (a : α) : (yield a).Forward := fun s => ⟨[], ahead_refl s⟩

theorem forward_fail (f : Fault) : (fail f : Parser α).Forward := fun s => ⟨[], ahead_refl s⟩

theorem Forward.andThen {p : Parser α} {next : α → Parser β} (hp : p.Forward)
    (hnext : ∀ a, (next a).Forward) : (Parser.andThen p next).Forward := by
  intro s
  obtain ⟨u, first⟩ := hp s
  rcases run : p s with ⟨⟨f⟩ | ⟨a⟩, r⟩ <;> rw [run] at first
  · rw [andThen_error run]
    exact ⟨u, first⟩
  · rw [andThen_ok run]
    obtain ⟨v, second⟩ := hnext a r
    exact ⟨u ++ v, first.trans second⟩

theorem forward_take (what : Expectation) (value? : Content → Option α) :
    (take what value?).Forward := by
  intro s
  unfold take
  split
  · exact ⟨_, ahead_next s⟩
  · exact ⟨[], ahead_refl s⟩

theorem forward_lookup (find? : Text → Option α) (fault : Text → ConfigFault) :
    (lookup find? fault).Forward :=
  (forward_take _ _).andThen fun name => by
    split
    · exact forward_yield _
    · exact forward_fail _

theorem forward_version : version.Forward :=
  (forward_take _ _).andThen fun n => by
    split
    · exact forward_yield _
    · split <;> exact forward_fail _

theorem forward_macroValue : macroValue.Forward := by
  intro s
  unfold macroValue
  split
  · exact ⟨[], ahead_refl s⟩
  · exact (forward_take _ _).andThen (fun _ => forward_yield _) s

theorem forward_entryOf (key : Entry.Key) : (entryOf key).Forward := by
  have valued {γ : Type} {p : Parser γ} (make : γ → Entry) (hp : p.Forward) :
      (Parser.andThen (punct (text ":")) fun _ => Parser.andThen p fun a => yield (make a)).Forward :=
    (forward_take _ _).andThen fun _ => hp.andThen fun _ => forward_yield _
  cases key with
  | strip => exact forward_yield _
  | debug => exact forward_yield _
  | kind => exact valued .stage (forward_lookup _ _)
  | version => exact valued .version forward_version
  | optimize => exact valued .optimize (forward_lookup _ _)
  | target => exact valued .target (forward_lookup _ _)
  | define =>
    exact (forward_take _ _).andThen fun _ => (forward_take _ _).andThen fun _ =>
      forward_macroValue.andThen fun _ => forward_yield _

theorem forward_entry : entry.Forward := (forward_lookup _ _).andThen forward_entryOf

/-! ## Option lists -/

/-- An option list is collected: while an identifier stands there an entry is taken, which is
    accepted if nothing is wrong with it, and a comma behind it, without which the list ends.  The
    entries are those that are accepted, and the result tells whether the last of them has no comma,
    or else what is wrong with the one behind them. -/
inductive Rounds : TokenStream → List Entry → Except Fault Bool → TokenStream → Prop
  | done {s : TokenStream} : s.peek .ident = false → Rounds s [] (.ok false) s
  | broken {s r : TokenStream} {f : Fault} : s.peek .ident = true → entry s = (.error f, r) →
      Rounds s [] (.error f) r
  | last {s r : TokenStream} {e : Entry} : s.peek .ident = true → entry s = (.ok e, r) →
      r.peekContent (.punct (text ",")) = false → Rounds s [e] (.ok true) r
  | more {s r q : TokenStream} {e : Entry} {es : List Entry} {result : Except Fault Bool} :
      s.peek .ident = true → entry s = (.ok e, r) → r.peekContent (.punct (text ",")) = true →
      Rounds r.next es result q → Rounds s (e :: es) result q

/-- The rounds behind the comma of an entry, with the entry in front. -/
theorem Rounds.behind_comma {e : Entry} {es : List Entry} {result : Except Fault Bool}
    {later : Except Fault (List Entry × Bool)} (stands : s.peek .ident = true)
    (run : entry s = (.ok e, r)) (comma : r.peekContent (.punct (text ",")) = true)
    (rounds : Rounds r.next es result q)
    (same : later = result.map fun unterminated => (es, unterminated)) :
    ∃ es result, Rounds s es result q ∧ (later.map fun list => (e :: list.1, list.2)) =
      result.map fun unterminated => (es, unterminated) := by
  refine ⟨e :: es, result, .more stands run comma rounds, ?_⟩
  rw [same]
  cases result <;> rfl

/-- Every stream gives an option list, or fails, after a number of rounds. -/
theorem rounds_entries (s : TokenStream) : ∃ es result, Rounds s es result (entries s).2 ∧
    (entries s).1 = result.map fun unterminated => (es, unterminated) := by
  fun_induction entries s with
  | case1 s stands f r run => exact ⟨[], .error f, .broken stands run, rfl⟩
  | case2 s stands e r run comma es unterminated q later ih
  | case3 s stands e r run comma f q later ih =>
    -- behind the comma the list ends or fails, and so does the whole
    obtain ⟨_, _, rounds, same⟩ := ih
    rw [later] at rounds same
    exact rounds.behind_comma stands run comma same
  | case4 s stands e r run comma =>
    exact ⟨[e], .ok true, .last stands run (eq_false_of_ne_true comma), rfl⟩
  | case5 s stands => exact ⟨[], .ok false, .done (eq_false_of_ne_true stands), rfl⟩

/-- An entry that is accepted takes a token at least. -/
theorem ahead_entry {e : Entry} (run : entry s = (.ok e, r)) :
    ∃ taken, Ahead s taken r ∧ 0 < taken.length := by
  obtain ⟨taken, ahead⟩ := forward_entry s
  rw [run] at ahead
  obtain ⟨spelled, rest, split, rfl, spells⟩ := consumes_entry s.rest e r run
  -- both are what is left out of the stream
  have same : taken = spelled := List.append_cancel_right (ahead.1.symm.trans split)
  refine ⟨taken, ahead, ?_⟩
  rw [same]
  cases spelled with
  | nil => cases spells
  | cons => exact Nat.succ_pos _

/-- The rounds of an option list go ahead, and take a token at least for each entry. -/
theorem Rounds.ahead {es : List Entry} {result : Except Fault Bool} (h : Rounds s es result q) :
    ∃ taken, Ahead s taken q ∧ es.length ≤ taken.length := by
  induction h with
  | done _ => exact ⟨[], ahead_refl _, Nat.le_refl _⟩
  | @broken s r f _ run =>
    obtain ⟨taken, ahead⟩ := forward_entry s
    rw [run] at ahead
    exact ⟨taken, ahead, Nat.zero_le _⟩
  | last _ run _ =>
    obtain ⟨taken, ahead, some⟩ := ahead_entry run
    exact ⟨taken, ahead, some⟩
  | @more s r q e es result _ run _ _ ih =>
    obtain ⟨u, first, some⟩ := ahead_entry run
    obtain ⟨v, later, enough⟩ := ih
    refine ⟨u ++ (_ ++ v), first.trans ((ahead_next r).trans later), ?_⟩
    simp only [List.length_append, List.length_cons]
    omega

/-- An option list gives what its rounds give. -/
theorem rounds_options (env : Environment) (s : TokenStream) :
    ∃ es result, Rounds s es result (options env s).2 ∧
      (options env s).1 = result.map fun unterminated => ⟨optionsOf env es, unterminated⟩ := by
  obtain ⟨es, result, rounds, same⟩ := rounds_entries s
  rcases run : entries s with ⟨collected, r⟩
  rw [run] at rounds same
  cases result with
  | error f =>
    cases same
    rw [options, andThen_error run]
    exact ⟨es, .error f, rounds, rfl⟩
  | ok unterminated =>
    cases same
    rw [options, andThen_ok run]
    exact ⟨es, .ok unterminated, rounds, rfl⟩

/-! ## Tokens of a kind -/

/-- The parser of a kind takes just the tokens that are expected of it, and fails in the same way. -/
theorem Picks.take_eq_expect {what : Expectation} {value? : Content → Option α} {make : α → Content}
    (h : Picks value? make) (meets : s.current.Meets what ↔ ∃ a, s.current.content = make a) :
    ((take what value? s).1.map Taken.token, (take what value? s).2) = expect what s := by
  unfold take expect
  cases found : value? s.current.content with
  | some a =>
    rw [if_pos (meets_iff.2 (meets.2 ⟨a, h.iff.1 found⟩))]
    rfl
  | none =>
    have fails : ¬ s.current.Meets what := by
      intro holds
      obtain ⟨a, content⟩ := meets.1 holds
      cases found.symm.trans (h.iff.2 content)
    rw [if_neg (fun holds => fails (meets_iff.1 holds))]
    rfl

/-- The parsers of the kinds of tokens do what a parser of what is expected does. -/
structure TakesKinds (s : TokenStream) : Prop where
  ident : ((ident s).1.map Taken.token, (ident s).2) = expect .identifier s
  int : ((int s).1.map Taken.token, (int s).2) = expect .integer s
  str : ((str s).1.map Taken.token, (str s).2) = expect .string s
  punct (symbol : Text) :
    ((punct symbol s).1.map Taken.token, (punct symbol s).2) = expect (.symbol symbol) s

theorem takesKinds (fits : s.current.Fits) : TakesKinds s where
  ident := picks_ident.take_eq_expect (fits.meets_iff .identifier)
  int := picks_int.take_eq_expect (fits.meets_iff .integer)
  str := picks_str.take_eq_expect (fits.meets_iff .string)
  punct symbol := (picks_punct symbol).take_eq_expect (by simpa using fits.meets_iff (.symbol symbol))

end Parser

namespace TokenStream

open ShaderBuild.Parser (Rounds TakesKinds optionsOf)

variable {tokens : List Token} {n m : Nat} {t : Token} {s r : TokenStream}

/-! ## Steps -/

/-- What can be done with a stream. -/
inductive Step where
  | peek (kind : Token.Kind) (value : Datum)
  | isEmpty
  | current
  | next
  | expect (what : Expectation)
  | options (env : Environment)

/-- What is answered. -/
inductive Answer where
  | told (b : Bool)
  | token (t : Token)
  | options (list : OptionList)
  | failed (f : Fault)

/-- The answer that a parser gives. -/
def Answer.ofResult {α : Type} (answer : α → Answer) : Except Fault α → Answer
  | .ok a => answer a
  | .error f => .failed f

/-- The answer to a step. -/
def Step.answer (s : TokenStream) : Step → Answer
  | .peek kind value => .told (s.peek kind && s.peekValue value)
  | .isEmpty => .told s.isEmpty
  | .current | .next => .token s.current
  | .expect what => .ofResult .token (Parser.expect what s).1
  | .options env => .ofResult .options (Parser.options env s).1

/-- The stream after a step. -/
def Step.after (s : TokenStream) : Step → TokenStream
  | .peek _ _ | .isEmpty | .current => s
  | .next => s.next
  | .expect what => (Parser.expect what s).2
  | .options env => (Parser.options env s).2

/-- The stream after a run of steps. -/
def after (s : TokenStream) (steps : List Step) : TokenStream := steps.foldl Step.after s

/-- The tokens that a step gives: the answer of one that takes a token, and all that an option list
    takes. -/
def Step.given (s : TokenStream) (step : Step) : List Token :=
  match step, step.answer s with
  | .next, .token t => [t]
  | .expect _, .token t => [t]
  | .options _, _ => s.rest.take (s.rest.length - (step.after s).rest.length)
  | _, _ => []

/-- The tokens that a run of steps gives. -/
def given (s : TokenStream) : List Step → List Token
  | [] => []
  | step :: steps => step.given s ++ given (step.after s) steps

/-- All that a step can do at a place with a token: what is answered, and the place behind it. -/
inductive Does (tokens : List Token) (n : Nat) (t : Token) : Step → Answer → Nat → Prop
  | peek (kind : Token.Kind) (value : Datum) :
      Does tokens n t (.peek kind value)
        (.told (t.kind = kind && (value = .absent || t.value.sameAs value))) n
  | isEmpty : Does tokens n t .isEmpty (.told t.isFinish) n
  | current : Does tokens n t .current (.token t) n
  | next : t.isFinish = false → Does tokens n t .next (.token t) (n + 1)
  | stay : t.isFinish = true → Does tokens n t .next (.token t) n
  | take {what : Expectation} : t.Meets what → Does tokens n t (.expect what) (.token t) (n + 1)
  | refuse {what : Expectation} : ¬ t.Meets what →
      Does tokens n t (.expect what) (.failed (.config (.expected what t) t.span)) n
  | options {env : Environment} {es : List Entry} {unterminated : Bool} {m : Nat} :
      Rounds ⟨tokens.drop n⟩ es (.ok unterminated) ⟨tokens.drop m⟩ → n + es.length ≤ m →
      Does tokens n t (.options env) (.options ⟨optionsOf env es, unterminated⟩) m
  | broken {env : Environment} {es : List Entry} {f : Fault} {m : Nat} :
      Rounds ⟨tokens.drop n⟩ es (.error f) ⟨tokens.drop m⟩ → n + es.length ≤ m →
      Does tokens n t (.options env) (.failed f) m

/-- The tokens in front of the end that a step gives. -/
def Step.taken (s : TokenStream) (step : Step) : List Token :=
  (step.given s).filter fun t => !t.isFinish

theorem filter_unended {u : List Token} (h : Unended u) : (u.filter fun t => !t.isFinish) = u :=
  List.filter_eq_self.2 fun t ht => by rw [h t ht]; rfl

/-- What an option list takes is what it gives. -/
theorem Ahead.taken_options {taken : List Token} {env : Environment}
    (ahead : Ahead s taken (Parser.options env s).2) : (Step.options env).taken s = taken := by
  have given : (Step.options env).given s = taken := by
    simp [Step.given, Step.after, ahead.1]
  rw [Step.taken, given, filter_unended ahead.2]

/-- A step does what it can do at the token, and stands at a place behind the tokens it takes. -/
theorem StandsAt.step (h : StandsAt tokens n t s) (step : Step) :
    ∃ m t', StandsAt tokens m t' (step.after s) ∧ Does tokens n t step (step.answer s) m ∧
      tokens.take m = tokens.take n ++ step.taken s := by
  obtain rfl := h.current
  have unmoved := (List.append_nil (tokens.take n)).symm
  cases step with
  | peek kind value => exact ⟨n, _, h, .peek kind value, unmoved⟩
  | isEmpty => exact ⟨n, _, h, .isEmpty, unmoved⟩
  | current => exact ⟨n, _, h, .current, unmoved⟩
  | next =>
    cases ended : s.current.isFinish with
    | true =>
      have stays : s.next = s := if_pos ended
      refine ⟨n, _, stays.symm ▸ h, .stay ended, ?_⟩
      simp [Step.taken, Step.given, Step.answer, ended]
    | false =>
      obtain ⟨behind, tokens_taken⟩ := h.next ended
      refine ⟨n + 1, _, behind, .next ended, ?_⟩
      simpa [Step.taken, Step.given, Step.answer, ended] using tokens_taken
  | expect what =>
    by_cases holds : s.current.Meets what
    · have run : Parser.expect what s = (.ok s.current, s.next) := if_pos (meets_iff.2 holds)
      have unended := isFinish_of_meets holds
      obtain ⟨behind, tokens_taken⟩ := h.next unended
      simp only [Step.taken, Step.given, Step.after, Step.answer, run, Answer.ofResult]
      refine ⟨n + 1, _, behind, .take holds, ?_⟩
      simpa [unended] using tokens_taken
    · have run : Parser.expect what s =
          (.error (.config (.expected what s.current) s.current.span), s) :=
        if_neg fun meets => holds (meets_iff.1 meets)
      simp only [Step.taken, Step.given, Step.after, Step.answer, run, Answer.ofResult]
      exact ⟨n, _, h, .refuse holds, unmoved⟩
  | options env =>
    obtain ⟨es, result, rounds, answer⟩ := Parser.rounds_options env s
    obtain ⟨taken, ahead, enough⟩ := rounds.ahead
    obtain ⟨behind, tokens_taken⟩ := h.ahead ahead
    refine ⟨n + taken.length, _, behind, ?_, by rwa [ahead.taken_options]⟩
    rw [behind.eq, h.eq] at rounds
    have count : n + es.length ≤ n + taken.length := Nat.add_le_add_left enough n
    rw [Step.answer, answer]
    cases result with
    | ok unterminated => exact .options rounds count
    | error f => exact .broken rounds count

/-- The tokens in front of the end that a run of steps gives. -/
def taken (s : TokenStream) (steps : List Step) : List Token :=
  (given s steps).filter fun t => !t.isFinish

/-- A run of steps stands at a place behind the tokens it takes. -/
theorem StandsAt.run (h : StandsAt tokens n t s) (steps : List Step) :
    ∃ m t', StandsAt tokens m t' (after s steps) ∧
      tokens.take m = tokens.take n ++ taken s steps := by
  induction steps generalizing n t s with
  | nil => exact ⟨n, t, h, (List.append_nil _).symm⟩
  | cons step steps ih =>
    obtain ⟨_, _, first, -, taken_first⟩ := h.step step
    obtain ⟨m, t', later, taken_later⟩ := ih first
    refine ⟨m, t', later, ?_⟩
    rw [taken_later, taken_first, List.append_assoc, taken, taken, given, List.filter_append,
      Step.taken]

/-- **A stream goes through its tokens in order, and not behind the first end.**

    After any run of steps on the stream of any list, some of them refused, the stream stands at a
    place that has a token, and not behind the first end.  The tokens that the run gave, the ends left
    out, are those in front of the place.  The parsers of the kinds do what `Parser.expect` does there,
    unless the token has a value that is not of its kind; and whatever step is done next, it does one
    of the things it can do at that token, and leaves the stream at a place again. -/
theorem tokens_in_order (tokens : List Token) (steps : List Step) :
    ∃ n t, StandsAt tokens n t (after (ofTokens tokens) steps) ∧
      taken (ofTokens tokens) steps = tokens.take n ∧
      (t.Fits → TakesKinds (after (ofTokens tokens) steps)) ∧
      ∀ step : Step, ∃ m t', StandsAt tokens m t' (step.after (after (ofTokens tokens) steps)) ∧
        Does tokens n t step (step.answer (after (ofTokens tokens) steps)) m := by
  have first : StandsAt tokens 0 (ofTokens tokens).current (ofTokens tokens) :=
    standsAt_drop (Nat.zero_le _)
  obtain ⟨n, t, stands, all⟩ := first.run steps
  refine ⟨n, t, stands, all.symm, ?_, fun step => ?_⟩
  · intro fits
    exact Parser.takesKinds (stands.current ▸ fits)
  · obtain ⟨m, t', behind, does, -⟩ := stands.step step
    exact ⟨m, t', behind, does⟩

/-- A list with an end between two words: behind the first word the stream stays at the end. -/
theorem tokens_in_order_two_words :
    let word (name : String) : Token := ⟨.ident (text name), impliedEnd.span⟩
    let tokens := [word "a", impliedEnd, word "b"]
    let s := after (ofTokens tokens) [.expect .identifier, .expect .string, .next, .next]
    ∃ n, StandsAt tokens n impliedEnd s ∧ [word "a"] = tokens.take n ∧ impliedEnd.Fits ∧
      TakesKinds s := by
  intro word tokens s
  obtain ⟨n, t, stands, given, kinds, -⟩ :=
    tokens_in_order tokens [.expect .identifier, .expect .string, .next, .next]
  obtain rfl : impliedEnd = t := stands.current
  have fits : impliedEnd.Fits := nofun
  exact ⟨n, stands, given, fits, kinds fits⟩

end TokenStream

end ShaderBuild
