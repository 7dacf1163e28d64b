/-
  The parsers of single tokens.

  Each of them takes a token of a kind, or fails citing the token that stands there.

  * `Parser.Picks`: what the parser of a kind looks for;
  * `Parser.Picks.reads_take`, `Parser.Picks.reads_judged`: a token is taken, or taken and judged by
    its value;
  * `Parser.reads_whole`, `Parser.relation_of_whole`: something and nothing else.
-/
import ShaderBuild.Proofs.Invocation.Reads

namespace ShaderBuild.Parser

open Token (Content)

variable {α β : Type} {t : Token} {rest : List Token}

theorem isFinish_eq {c : Content} (hc : t.content = c) (h : c.kind ≠ .finish) :
    t.isFinish = false := decide_eq_false (by rwa [Token.kind, hc])

/-- A partial function that gives what contents of a kind are made from. -/
structure Picks (value? : Content → Option α) (make : α → Content) : Prop where
  iff {c a} : value? c = some a ↔ c = make a
  unended (a) : (make a).kind ≠ .finish

/-! ## Tokens that are taken -/

section

variable {what : Expectation} {value? : Content → Option α} {make : α → Content} {a : α}

theorem Picks.take_ok (h : Picks value? make) (hc : t.content = make a) :
    take what value? ⟨t :: rest⟩ = (.ok ⟨a, t⟩, ⟨rest⟩) :=
  Parser.take_ok (h.iff.2 hc) (isFinish_eq hc (h.unended a))

/-- A token of a kind. -/
theorem Picks.reads_take [Inhabited α] (h : Picks value? make) :
    (take what value?).Reads fun taken w => w = [make taken.value] := by
  have single := reads_single (p := take what value?)
    (fun t => (value? t.content).map fun a => ⟨a, t⟩) ?_ ?_ ?_
  · refine single.mono fun taken w hw => ?_
    obtain ⟨t, ht, rfl⟩ := hw
    obtain ⟨a, ha, rfl⟩ := Option.map_eq_some_iff.1 ht
    rw [h.iff.1 ha]
  · intro t taken rest ht
    obtain ⟨a, ha, rfl⟩ := Option.map_eq_some_iff.1 ht
    have hc := h.iff.1 ha
    exact ⟨isFinish_eq hc (h.unended a), h.take_ok hc⟩
  · intro t ht _
    exact ⟨_, fun rest => congrArg Prod.fst (take_error (Option.map_eq_none_iff.1 ht))⟩
  · exact ⟨⟨make default, TokenStream.impliedEnd.span⟩, _,
      Option.map_eq_some_iff.2 ⟨default, h.iff.2 rfl, rfl⟩⟩

/-- A token of a kind that is taken, and then judged by its value. -/
theorem Picks.reads_judged {judge : Taken α → Parser β} (h : Picks value? make)
    (check? : α → Option β) (ok : ∀ {t a b s}, check? a = some b → judge ⟨a, t⟩ s = (.ok b, s))
    (error : ∀ {t a}, t.content = make a → check? a = none →
      (∀ n, t.content = .int n → Numeral.isWritable n) →
      ∃ fault, ∀ s, (judge ⟨a, t⟩ s).1 = .error (.config fault t.span))
    (some_value : ∃ a b, check? a = some b) :
    (andThen (take what value?) judge).Reads fun b w =>
      ∃ a, check? a = some b ∧ w = [make a] := by
  have single := reads_single (p := andThen (take what value?) judge)
    (fun t => (value? t.content).bind check?) ?_ ?_ ?_
  · refine single.mono fun b w hw => ?_
    obtain ⟨t, ht, rfl⟩ := hw
    obtain ⟨a, ha, hb⟩ := Option.bind_eq_some_iff.1 ht
    exact ⟨a, hb, by rw [h.iff.1 ha]⟩
  · intro t b rest ht
    obtain ⟨a, ha, hb⟩ := Option.bind_eq_some_iff.1 ht
    have hc := h.iff.1 ha
    exact ⟨isFinish_eq hc (h.unended a), (andThen_ok (h.take_ok hc)).trans (ok hb)⟩
  · intro t ht writable
    cases ha : value? t.content with
    | none => exact ⟨_, fun rest => congrArg Prod.fst (andThen_error (take_error ha))⟩
    | some a =>
      rw [ha] at ht
      obtain ⟨fault, hf⟩ := error (h.iff.1 ha) ht writable
      exact ⟨fault, fun rest =>
        (congrArg Prod.fst (andThen_ok (h.take_ok (h.iff.1 ha)))).trans (hf ⟨rest⟩)⟩
  · obtain ⟨a, b, hb⟩ := some_value
    exact ⟨⟨make a, TokenStream.impliedEnd.span⟩, b,
      Option.bind_eq_some_iff.2 ⟨a, h.iff.2 rfl, hb⟩⟩

end

/-! ## Kinds -/

theorem picks_ident : Picks (fun | .ident name => some name | _ => none) Content.ident where
  iff {c name} := by cases c <;> simp
  unended name := by simp [Content.kind]

theorem picks_int : Picks (fun | .int n => some n | _ => none) Content.int where
  iff {c n} := by cases c <;> simp
  unended n := by simp [Content.kind]

theorem picks_str : Picks (fun | .str s => some s | _ => none) Content.str where
  iff {c s} := by cases c <;> simp
  unended s := by simp [Content.kind]

theorem picks_punct (symbol : Text) :
    Picks (fun c => if c = .punct symbol then some () else none)
      (fun _ => Content.punct symbol) where
  iff {c u} := by by_cases h : c = .punct symbol <;> simp [h]
  unended u := by simp [Content.kind]

theorem ident_ok {name : Text} (hc : t.content = .ident name) :
    ident ⟨t :: rest⟩ = (.ok ⟨name, t⟩, ⟨rest⟩) := picks_ident.take_ok hc

theorem int_ok {n : Int} (hc : t.content = .int n) :
    int ⟨t :: rest⟩ = (.ok ⟨n, t⟩, ⟨rest⟩) := picks_int.take_ok hc

theorem str_ok {s : Text} (hc : t.content = .str s) :
    str ⟨t :: rest⟩ = (.ok ⟨s, t⟩, ⟨rest⟩) := picks_str.take_ok hc

theorem punct_ok {symbol : Text} (hc : t.content = .punct symbol) :
    punct symbol ⟨t :: rest⟩ = (.ok ⟨(), t⟩, ⟨rest⟩) := (picks_punct symbol).take_ok hc

theorem reads_ident : ident.Reads fun taken w => w = [.ident taken.value] := picks_ident.reads_take

theorem reads_str : str.Reads fun taken w => w = [.str taken.value] := picks_str.reads_take

theorem reads_punct (symbol : Text) : (punct symbol).Reads fun _ w => w = [.punct symbol] :=
  (picks_punct symbol).reads_take

/-! ## Symbols that may stand there -/

theorem punct?_true {symbol : Text} (hc : t.content = .punct symbol) :
    punct? symbol ⟨t :: rest⟩ = (.ok true, ⟨rest⟩) := by
  refine (if_pos (decide_eq_true hc)).trans ?_
  rw [next_cons (isFinish_eq hc (by simp [Content.kind]))]

theorem punct?_false {symbol : Text} (hc : t.content ≠ .punct symbol) :
    punct? symbol ⟨t :: rest⟩ = (.ok false, ⟨t :: rest⟩) :=
  if_neg (by simpa [TokenStream.peekContent, TokenStream.current] using hc)

theorem reads_punct? (symbol : Text) :
    (punct? symbol).Reads fun found w => w = if found then [.punct symbol] else [] := by
  intro tokens legible
  obtain ⟨t, rest, rfl⟩ := legible.eq_cons
  by_cases hc : t.content = .punct symbol
  · have taken (more : List Token) : punct? symbol ⟨t :: more⟩ = (.ok true, ⟨more⟩) :=
      punct?_true hc
    constructor
    · intro found s run
      cases (taken rest).symm.trans run
      have unfinished := isFinish_eq hc (by simp [Content.kind])
      exact ⟨[t], rest, rfl, rfl, by simpa [Unended] using unfinished, by simp [contents, hc],
        fun more _ => taken more⟩
    · intro f s run
      cases (taken rest).symm.trans run
  · have left (more : List Token) : punct? symbol ⟨t :: more⟩ = (.ok false, ⟨t :: more⟩) :=
      punct?_false hc
    constructor
    · intro found s run
      cases (left rest).symm.trans run
      refine ⟨[], t :: rest, rfl, rfl, by simp [Unended], rfl, fun more hmore => ?_⟩
      obtain ⟨more, rfl⟩ := List.head?_eq_some_iff.1 hmore
      exact left more
    · intro f s run
      cases (left rest).symm.trans run

/-! ## The end of the input -/

theorem finish_cons (t : Token) (rest : List Token) : finish ⟨t :: rest⟩ =
    if t.isFinish then (.ok (), ⟨t :: rest⟩)
    else (.error (.config (.unexpected t) t.span), ⟨t :: rest⟩) := rfl

theorem reads_finish : finish.Reads fun _ w => w = [] := by
  intro tokens legible
  obtain ⟨t, rest, rfl⟩ := legible.eq_cons
  constructor
  · intro a s run
    rw [finish_cons] at run
    split at run
    · rename_i ht
      cases run
      refine ⟨[], t :: rest, rfl, rfl, by simp [Unended], rfl, fun more hmore => ?_⟩
      obtain ⟨more, rfl⟩ := List.head?_eq_some_iff.1 hmore
      exact (finish_cons t more).trans (if_pos ht)
    · cases run
  · intro f s run
    rw [finish_cons] at run
    split at run
    · cases run
    · rename_i ht
      cases run
      exact ⟨[], t, rest, _, rfl, rfl, by simp [Unended], ⟨(), [], rfl⟩, fun more =>
        congrArg Prod.fst ((finish_cons t more).trans (if_neg ht))⟩

/-- What is read in front of the end of the input. -/
theorem reads_whole {p : Parser α} {R : α → List Content → Prop} (hp : p.Reads R) :
    (whole p).Reads R := by
  have ending (a : α) := reads_finish.map fun _ => a
  refine Reads.mono (hp.andThen ending fun _ _ _ => ⟨_, _, (), rfl, rfl⟩) ?_
  rintro b w ⟨a, u, v, rfl, hR, _, rfl, rfl⟩
  exact (List.append_nil u).symm ▸ hR

/-- Tokens before the first end of the input are all tokens before it. -/
theorem Unended.eq_of_append {taken body rest : List Token} {last : Token}
    (htaken : Unended taken) (hbody : Unended body) (ht : t.isFinish = true)
    (h : body ++ [last] = taken ++ t :: rest) : taken = body := by
  rcases List.append_eq_append_iff.1 h with ⟨more, rfl, hmore⟩ | ⟨more, rfl, hmore⟩
  · cases more with
    | nil => exact List.append_nil _
    | cons u more => simp at hmore
  · cases more with
    | nil => exact (List.append_nil _).symm
    | cons u more =>
      obtain ⟨rfl, -⟩ := List.cons.inj hmore
      rw [hbody t (List.mem_append_right _ List.mem_cons_self)] at ht
      cases ht

/-- Something and nothing else is all that stands in front of the end of the input. -/
theorem relation_of_whole {p : Parser α} {R : α → List Content → Prop} {body : List Token}
    {last : Token} {a : α} (hp : p.Reads R) (legible : Legible (body ++ [last]))
    (hbody : Unended body) (run : (whole p ⟨body ++ [last]⟩).1 = .ok a) : R a (contents body) := by
  have eq : whole p = andThen p fun a => andThen finish fun _ => yield a := rfl
  rcases hrun : p ⟨body ++ [last]⟩ with ⟨⟨f⟩ | ⟨b⟩, s⟩
  · rw [eq, andThen_error hrun] at run
    cases run
  · obtain ⟨taken, rest, htokens, rfl, hu, hR, -⟩ := (hp _ legible).accepts hrun
    obtain ⟨t, rest, rfl⟩ := ((htokens ▸ legible : Legible (taken ++ rest)).drop hu).eq_cons
    rw [eq, andThen_ok hrun] at run
    cases ht : t.isFinish with
    | false =>
      rw [andThen_error ((finish_cons t rest).trans (if_neg (by simp [ht])))] at run
      cases run
    | true =>
      rw [andThen_ok ((finish_cons t rest).trans (if_pos ht))] at run
      cases run
      exact Unended.eq_of_append hu hbody ht htokens ▸ hR

theorem whole_ok {p : Parser α} {s : TokenStream} {last : Token} {a : α}
    (hlast : last.isFinish = true) (run : p s = (.ok a, ⟨[last]⟩)) :
    whole p s = (.ok a, ⟨[last]⟩) := by
  refine (andThen_ok run).trans ?_
  exact (andThen_ok ((finish_cons last []).trans (if_pos hlast))).trans rfl

end ShaderBuild.Parser
