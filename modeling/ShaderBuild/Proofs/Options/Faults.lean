/-
  What can be wrong with an invocation.

  A parser fails citing a token, and that is an error of the build.  There is one exception: where a
  version is too large the error cites the number, and that may be too long to be written.

  * `Parser.ParseFault`: the faults of parsing some tokens;
  * `Parser.Ensures`: a parser that has no other faults, and whose values have a property;
  * `Parser.ensures_take`, `Parser.Ensures.andThen`, `Parser.ensures_entries`: the parts and how
    they are put together;
  * `Parser.ensures_fileInvocation`, `Parser.ensures_sourceInvocation`: what makes up a text;
  * `tokenize_error`: a text without tokens is an error of the build that cites it.
-/
import ShaderBuild.Proofs.Invocation.Contents
import ShaderBuild.Proofs.Options.InStep

namespace ShaderBuild

open Token (Content)

/-- A token that is an integer which is too long to be written. -/
def Token.IsTooLong (t : Token) : Prop := ∃ n, t.content = .int n ∧ Numeral.isWritable n = false

/-- A version of the interface that options can name. -/
def Vulkan.IsNamed (version : Int) : Prop := ∃ name, Vulkan.target? name = some version

theorem Vulkan.IsNamed.isWord {version : Int} (h : Vulkan.IsNamed version) :
    0 ≤ version ∧ version < 2 ^ 32 := by
  obtain ⟨name, hn⟩ := h
  obtain ⟨pair, hp, rfl⟩ := Option.map_eq_some_iff.1 hn
  have all : ∀ pair ∈ Vulkan.targets, 0 ≤ pair.2 ∧ pair.2 < 2 ^ 32 := by decide
  exact all pair (List.mem_of_find?_eq_some hp)

/-- An entry with a target has one that can be named. -/
def Entry.IsNamed : Entry → Prop
  | .target named => Vulkan.IsNamed named
  | .stage _ | .version _ | .strip | .debug | .define _ | .optimize _ => True

namespace Parser

/-- The faults of parsing some tokens. -/
inductive ParseFault (tokens : List Token) : Fault → Prop
  | shader (e : ShaderError) : ParseFault tokens (.shader e)
  | tooLong {t : Token} : t ∈ tokens → t.IsTooLong →
    ParseFault tokens (.value .tooLongToWrite)

variable {tokens : List Token} {α β : Type}

/-- A value with a property, and some of the tokens, or else a fault of parsing them. -/
inductive Outcome (tokens : List Token) (Q : α → Prop) : Except Fault α × TokenStream → Prop
  | ok {a s} : Q a → s.rest ⊆ tokens → Outcome tokens Q (.ok a, s)
  | error {f s} : ParseFault tokens f → Outcome tokens Q (.error f, s)

/-- A parser has no other faults on these tokens than those of parsing, and its values have a
    property. -/
def Ensures (tokens : List Token) (p : Parser α) (Q : α → Prop) : Prop :=
  ∀ s : TokenStream, s.rest ⊆ tokens → Outcome tokens Q (p s)

/-! ## Putting parsers together -/

section

variable {p q : Parser α} {Q : α → Prop} {R : β → Prop}

theorem ensures_yield {a : α} (h : Q a) : Ensures tokens (yield a) Q := fun _ hs => .ok h hs

theorem ensures_fail (e : ShaderError) : Ensures tokens (fail (.shader e) : Parser α) Q :=
  fun _ _ => .error (.shader e)

theorem Ensures.mono {Q' : α → Prop} (h : Ensures tokens p Q) (hQ : ∀ a, Q a → Q' a) :
    Ensures tokens p Q' := by
  intro s hs
  have outcome := h s hs
  generalize p s = result at outcome
  cases outcome with
  | ok ha hr => exact .ok (hQ _ ha) hr
  | error hf => exact .error hf

/-- What comes of two parsers one after the other, if what the second finds is known. -/
theorem Outcome.andThen {next : α → Parser β} {s : TokenStream} (h : Outcome tokens Q (p s))
    (hnext : ∀ a r, p s = (.ok a, r) → Q a → r.rest ⊆ tokens → Outcome tokens R (next a r)) :
    Outcome tokens R (Parser.andThen p next s) := by
  rcases hp : p s with ⟨⟨f⟩ | ⟨a⟩, r⟩ <;> rw [hp] at h
  · rw [andThen_error hp]
    cases h with
    | error hf => exact .error hf
  · rw [andThen_ok hp]
    cases h with
    | ok ha hr => exact hnext a r hp ha hr

theorem Ensures.andThen {next : α → Parser β} (h : Ensures tokens p Q)
    (hnext : ∀ a, Q a → Ensures tokens (next a) R) : Ensures tokens (Parser.andThen p next) R :=
  fun s hs => (h s hs).andThen fun a r _ ha hr => hnext a ha r hr

theorem Ensures.map (h : Ensures tokens p Q) {f : α → β} (hf : ∀ a, Q a → R (f a)) :
    Ensures tokens (Parser.andThen p fun a => yield (f a)) R :=
  h.andThen fun a ha => ensures_yield (hf a ha)

theorem Ensures.branch {test : Token → Bool} (hp : Ensures tokens p Q) (hq : Ensures tokens q Q) :
    Ensures tokens (Parser.branch test p q) Q := by
  intro s hs
  unfold Parser.branch
  split
  · exact hp s hs
  · exact hq s hs

end

/-! ## Single tokens -/

theorem next_subset (s : TokenStream) : s.next.rest ⊆ s.rest := by
  unfold TokenStream.next
  split
  · exact List.Subset.refl _
  · exact fun _ => List.mem_of_mem_tail

/-- A token that is taken is one of the tokens. -/
theorem ensures_take {what : Expectation} {value? : Content → Option α} {make : α → Content}
    (h : Picks value? make) : Ensures tokens (take what value?) fun taken =>
      taken.token ∈ tokens ∧ taken.token.content = make taken.value := by
  intro s hs
  unfold take
  cases hv : value? s.current.content with
  | none => exact .error (.shader _)
  | some a =>
    have content := h.iff.1 hv
    refine .ok ⟨?_, content⟩ fun t ht => hs (next_subset s ht)
    obtain ⟨rest⟩ := s
    cases rest with
    | nil => exact absurd (congrArg Content.kind content.symm) (h.unended a)
    | cons t rest => exact hs List.mem_cons_self

theorem ensures_any {what : Expectation} {value? : Content → Option α} {make : α → Content}
    (h : Picks value? make) : Ensures tokens (take what value?) fun _ => True :=
  (ensures_take h).mono fun _ _ => trivial

theorem ensures_punct? (symbol : Text) : Ensures tokens (punct? symbol) fun _ => True := by
  intro s hs
  unfold punct?
  split
  · exact .ok trivial fun t ht => hs (next_subset s ht)
  · exact .ok trivial hs

theorem ensures_finish : Ensures tokens finish fun _ => True := by
  intro s hs
  unfold finish
  split
  · exact .ok trivial hs
  · exact .error (.shader _)

theorem Ensures.whole {p : Parser α} {Q : α → Prop} (h : Ensures tokens p Q) :
    Ensures tokens (Parser.whole p) Q :=
  h.andThen fun _ ha => ensures_finish.andThen fun _ _ => ensures_yield ha

/-! ## Entries -/

theorem ensures_lookup (find? : Text → Option α) (fault : Text → ConfigFault) :
    Ensures tokens (lookup find? fault) fun a => ∃ name, find? name = some a := by
  refine (ensures_take picks_ident).andThen fun name _ => ?_
  cases h : find? name.value with
  | some a => exact ensures_yield ⟨name.value, h⟩
  | none => exact ensures_fail _

/-- A number that is no version is cited, if it can be written. -/
theorem ensures_version : Ensures tokens version fun _ => True := by
  refine (ensures_take picks_int).andThen fun n ⟨hn, hc⟩ => ?_
  cases CompileOptions.version? n.value with
  | some v => exact ensures_yield trivial
  | none =>
    unfold Fault.writable
    cases hw : Numeral.isWritable n.value with
    | true => exact ensures_fail _
    | false => exact fun _ _ => .error (.tooLong hn ⟨n.value, hc, hw⟩)

theorem ensures_macroValue : Ensures tokens macroValue fun _ => True := by
  have eq : macroValue = branch (fun t => t.content = Grammar.comma || t.isFinish)
      (yield none) (andThen str fun t => yield (some t.value)) := rfl
  rw [eq]
  exact .branch (ensures_yield trivial) ((ensures_any picks_str).map fun _ _ => trivial)

/-- A colon, and what makes an entry behind it. -/
theorem ensures_valued {p : Parser α} {Q : α → Prop} (hp : Ensures tokens p Q) {make : α → Entry}
    (hm : ∀ a, Q a → (make a).IsNamed) :
    Ensures tokens (andThen (punct (text ":")) fun _ => andThen p fun a => yield (make a))
      Entry.IsNamed :=
  (ensures_any (picks_punct _)).andThen fun _ _ => hp.map hm

theorem ensures_entryOf (key : Entry.Key) : Ensures tokens (entryOf key) Entry.IsNamed := by
  cases key with
  | kind => exact ensures_valued (ensures_lookup _ _) fun _ _ => trivial
  | version => exact ensures_valued ensures_version fun _ _ => trivial
  | strip => exact ensures_yield trivial
  | debug => exact ensures_yield trivial
  | define =>
    exact (ensures_any (picks_punct _)).andThen fun _ _ => (ensures_any picks_ident).andThen
      fun _ _ => ensures_macroValue.map fun _ _ => trivial
  | optimize => exact ensures_valued (ensures_lookup _ _) fun _ _ => trivial
  | target => exact ensures_valued (ensures_lookup _ _) fun _ h => h

theorem ensures_entry : Ensures tokens entry Entry.IsNamed :=
  (ensures_lookup _ _).andThen fun key _ => ensures_entryOf key

/-! ## Lists -/

theorem ensures_entries : Ensures tokens entries fun list => ∀ e ∈ list.1, e.IsNamed := by
  intro s hs
  -- every round takes a comma at least, so the induction is on what is left before the end
  induction hn : s.size using Nat.strongRecOn generalizing s with
  | ind n ih =>
    subst hn
    rw [entries_eq]
    unfold Parser.branch
    split
    · refine (ensures_entry s hs).andThen fun e r he named hr => ?_
      refine (ensures_punct? _ r hr).andThen fun found q hc _ hq => ?_
      cases found with
      | false => exact .ok (by simpa using named) hq
      | true =>
        have steady : r.size ≤ s.size := by simpa [he] using steady_entry s
        have shorter := Nat.lt_of_lt_of_le (Pairing.size_of_punct? hc) steady
        refine (ih q.size shorter q hq rfl).andThen fun list u _ hlist hu => .ok ?_ hu
        exact List.forall_mem_cons.2 ⟨named, hlist⟩
    · exact .ok (List.forall_mem_nil _) hs

/-- Entries that name a version of the interface leave options with one. -/
theorem isNamed_optionsOf (env : Environment) {es : List Entry} (h : ∀ e ∈ es, e.IsNamed) :
    Vulkan.IsNamed (optionsOf env es).target := by
  have step (o : CompileOptions) (e : Entry) (ho : Vulkan.IsNamed o.target) (he : e.IsNamed) :
      Vulkan.IsNamed (e.apply o).target := by
    cases e with
    | target named => exact he
    | _ => exact ho
  have folded (o : CompileOptions) (ho : Vulkan.IsNamed o.target) :
      Vulkan.IsNamed (es.foldl Entry.apply o).target := by
    induction es generalizing o with
    | nil => exact ho
    | cons e es ih =>
      have ⟨he, hes⟩ := List.forall_mem_cons.1 h
      exact ih hes (e.apply o) (step o e ho he)
  have plain : Vulkan.target? (text "vulkan") = some Vulkan.version1_0 := by decide +kernel
  exact folded (.defaults env) ⟨_, plain⟩

variable (env : Environment)

theorem ensures_options :
    Ensures tokens (options env) fun list => Vulkan.IsNamed list.options.target :=
  ensures_entries.map fun _ named => isNamed_optionsOf env named

/-! ## Invocations -/

theorem ensures_trailingOptions :
    Ensures tokens (trailingOptions env) fun o => Vulkan.IsNamed o.target := by
  refine (ensures_punct? _).andThen fun found _ => ?_
  cases found with
  | false => exact ensures_yield (isNamed_optionsOf env (List.forall_mem_nil _))
  | true => exact (ensures_options env).map fun _ named => named

theorem ensures_leadingOptions :
    Ensures tokens (leadingOptions env) fun o => Vulkan.IsNamed o.target := by
  refine (ensures_options env).andThen fun list named => ?_
  cases list.unterminated with
  | false => exact ensures_yield named
  | true => exact (ensures_any (picks_punct _)).andThen fun _ _ => ensures_yield named

theorem ensures_fileInvocation :
    Ensures tokens (fileInvocation env) fun r => Vulkan.IsNamed r.2.target :=
  .whole <| (ensures_any picks_str).andThen fun _ _ =>
    (ensures_trailingOptions env).map fun _ named => named

theorem ensures_sourceInvocation :
    Ensures tokens (sourceInvocation env) fun r => Vulkan.IsNamed r.2.target :=
  .whole <| (ensures_leadingOptions env).andThen fun _ named =>
    (ensures_any picks_str).andThen fun _ _ => (ensures_punct? _).map fun _ _ => named

end Parser

/-! ## Texts without tokens -/

section

variable {t origin : Text} {f : Fault}

theorem Lexeme.toToken_error {l : Lexeme} (h : l.toToken origin = .error f) :
    ∃ e : ShaderError, f = .shader e ∧ e.IsIn origin := by
  unfold Lexeme.toToken at h
  dsimp only at h
  split at h
  · cases h
  · cases h
    exact ⟨_, rfl, _, rfl, rfl⟩

/-- A text without tokens is an error of a build, which cites the text. -/
theorem tokenize_error (h : tokenize t origin = .error f) :
    ∃ e : ShaderError, f = .shader e ∧ e.IsIn origin := by
  unfold tokenize at h
  split at h
  · cases h
    exact ⟨_, rfl, _, rfl, rfl⟩
  · split at h
    · rename_i lexemes
      cases h
      obtain ⟨l, -, hl⟩ := Lexeme.toTokens_eq_error lexemes
      exact Lexeme.toToken_error hl
    · cases h

end

end ShaderBuild
