/-
  The parsers of options and invocations accept their grammars.

  What a parser takes is a part of a sentence, and where it fails, no sentence goes on: otherwise
  that sentence would be accepted, although the parser fails behind the same tokens.

  * `Parser.entry_of_spells`, `Parser.entries_of_listed`, `Parser.entries_of_leading`: what is
    written as an entry or a list is taken;
  * `Parser.Reads.judges`: a parser accepts a language, or cites the first misfit;
  * `unended_of_tokenize`: a text has its end behind all of its tokens;
  * `invocations_judged`: the entry points accept their grammars, and otherwise stop before they
    read a file or call a compiler.
-/
import ShaderBuild.Proofs.Invocation.Contents
import ShaderBuild.Proofs.Options.Reading
import ShaderBuild.Proofs.Outcome

namespace ShaderBuild

open Token (Content)
open Grammar

variable {α : Type}

namespace Parser

variable {t : Token} {taken rest : List Token}

/-! ## Entries -/

theorem lookup_ok {find? : Text → Option α} {fault : Text → ConfigFault} {name : Text} {a : α}
    (hc : t.content = .ident name) (ha : find? name = some a) :
    lookup find? fault ⟨t :: rest⟩ = (.ok a, ⟨rest⟩) := by
  refine (andThen_ok (ident_ok hc)).trans ?_
  simp only [ha]
  rfl

theorem version_ok {n : Int} {v : UInt32} (hc : t.content = .int n)
    (hv : CompileOptions.version? n = some v) : version ⟨t :: rest⟩ = (.ok v, ⟨rest⟩) := by
  refine (andThen_ok (int_ok hc)).trans ?_
  simp only [hv]
  rfl

/-- Does a token close an entry? -/
def Closes (t : Token) : Prop := t.content = comma ∨ t.content = .finish

theorem macroValue_none (ht : Closes t) : macroValue ⟨t :: rest⟩ = (.ok none, ⟨t :: rest⟩) := by
  refine if_pos ?_
  rcases ht with ht | ht
  · exact Bool.or_eq_true_iff.2 (.inl (decide_eq_true ht))
  · refine Bool.or_eq_true_iff.2 (.inr (decide_eq_true ?_))
    change t.content.kind = .finish
    rw [ht]
    rfl

theorem macroValue_some {value : Text} (hc : t.content = .str value) :
    macroValue ⟨t :: rest⟩ = (.ok (some value), ⟨rest⟩) := by
  refine (if_neg ?_).trans ((andThen_ok (str_ok hc)).trans rfl)
  have noComma : (⟨t :: rest⟩ : TokenStream).peekContent (.punct (text ",")) = false :=
    decide_eq_false (by
      change t.content ≠ _
      rw [hc]
      exact nofun)
  have noEnd : (⟨t :: rest⟩ : TokenStream).isEmpty = false :=
    isFinish_eq hc (by simp [Content.kind])
  simp [noComma, noEnd]

theorem entry_of_key {key : Entry.Key} (hc : t.content = keyword key) :
    entry ⟨t :: rest⟩ = entryOf key ⟨rest⟩ := andThen_ok (lookup_ok hc (key_iff.2 rfl))

/-- An entry that is a key, a colon and a value. -/
theorem entry_of_value {p : Parser α} {make : α → Entry} {key : Entry.Key} {c : Content} {a : α}
    (hkey : entryOf key = andThen (punct (text ":")) fun _ => andThen p fun a => yield (make a))
    (hw : contents taken = [keyword key, colon, c])
    (hp : ∀ {t : Token}, t.content = c → p ⟨t :: rest⟩ = (.ok a, ⟨rest⟩)) :
    entry ⟨taken ++ rest⟩ = (.ok (make a), ⟨rest⟩) := by
  simp only [contents, List.map_eq_cons_iff, List.map_eq_nil_iff] at hw
  obtain ⟨t₁, _, rfl, h₁, t₂, _, rfl, h₂, t₃, _, rfl, h₃, rfl⟩ := hw
  refine (entry_of_key h₁).trans ?_
  rw [hkey]
  exact (andThen_ok (punct_ok h₂)).trans (andThen_ok (hp h₃))

/-- An entry that is a key alone. -/
theorem entry_of_word {key : Entry.Key} {e : Entry} (hkey : entryOf key = yield e)
    (hw : contents taken = [keyword key]) : entry ⟨taken ++ rest⟩ = (.ok e, ⟨rest⟩) := by
  simp only [contents, List.map_eq_cons_iff, List.map_eq_nil_iff] at hw
  obtain ⟨t₁, _, rfl, h₁, rfl⟩ := hw
  refine (entry_of_key h₁).trans ?_
  rw [hkey]
  rfl

/-- What is written as an entry is taken, if a comma or the end comes behind it. -/
theorem entry_of_spells {e : Entry} {w : List Content} (h : Spells e w) (hw : contents taken = w)
    (ht : Closes t) : entry ⟨taken ++ t :: rest⟩ = (.ok e, ⟨t :: rest⟩) := by
  cases h with
  | stage hs => exact entry_of_value rfl hw fun hc => lookup_ok hc (stage_iff.2 ⟨_, hs, rfl⟩)
  | version v => exact entry_of_value rfl hw fun hc => version_ok hc (version?_eq_some.2 rfl)
  | strip => exact entry_of_word rfl hw
  | debug => exact entry_of_word rfl hw
  | optimize l => exact entry_of_value rfl hw fun hc => lookup_ok hc (level_iff.2 rfl)
  | target hv => exact entry_of_value rfl hw fun hc => lookup_ok hc (target_iff.2 ⟨_, hv, rfl⟩)
  | define name =>
    simp only [contents, List.map_eq_cons_iff, List.map_eq_nil_iff] at hw
    obtain ⟨t₁, _, rfl, h₁, t₂, _, rfl, h₂, t₃, _, rfl, h₃, rfl⟩ := hw
    refine (entry_of_key h₁).trans ((andThen_ok (punct_ok h₂)).trans ?_)
    exact (andThen_ok (ident_ok h₃)).trans (andThen_ok (macroValue_none ht))
  | defineAs name value =>
    simp only [contents, List.map_eq_cons_iff, List.map_eq_nil_iff] at hw
    obtain ⟨t₁, _, rfl, h₁, t₂, _, rfl, h₂, t₃, _, rfl, h₃, t₄, _, rfl, h₄, rfl⟩ := hw
    refine (entry_of_key h₁).trans ((andThen_ok (punct_ok h₂)).trans ?_)
    exact (andThen_ok (ident_ok h₃)).trans (andThen_ok (macroValue_some h₄))

/-! ## Lists -/

theorem entries_of_not_ident (ht : t.kind ≠ .ident) :
    entries ⟨t :: rest⟩ = (.ok ([], false), ⟨t :: rest⟩) := by
  rw [entries_eq]
  exact if_neg (by simpa [TokenStream.current] using ht)

/-- A list goes on with an entry that is taken. -/
theorem entries_of_entry {e : Entry} {w : List Content} {s : TokenStream} (h : Spells e w)
    (hw : contents taken = w) (he : entry ⟨taken ++ rest⟩ = (.ok e, s)) :
    entries ⟨taken ++ rest⟩ = andThen (punct? (text ",")) (fun found =>
        if found then andThen entries fun list => yield (e :: list.1, list.2)
        else yield ([e], true)) s := by
  obtain ⟨key, v, rfl⟩ : ∃ key v, w = keyword key :: v := by
    cases h <;> exact ⟨_, _, rfl⟩
  obtain ⟨t, taken, rfl, hc, -⟩ := List.map_eq_cons_iff.1 hw
  refine (congrFun entries_eq _).trans ((if_pos ?_).trans (andThen_ok he))
  change decide (t.content.kind = .ident) = true
  rw [hc]
  rfl

/-- A list with a comma behind its first entry is taken if what comes behind the comma is. -/
theorem entries_of_comma {e : Entry} {es : List Entry} {w v : List Content} {b : Bool}
    {s : TokenStream} (h : Spells e w) (hw : contents taken = w ++ comma :: v)
    (later : ∀ {behind : List Token}, contents behind = v →
      entries ⟨behind ++ rest⟩ = (.ok (es, b), s)) :
    entries ⟨taken ++ rest⟩ = (.ok (e :: es, b), s) := by
  obtain ⟨first, behind, rfl, hfirst, hbehind⟩ := List.map_eq_append_iff.1 hw
  obtain ⟨c, behind, rfl, hc, hbehind⟩ := List.map_eq_cons_iff.1 hbehind
  have first_taken : entry ⟨first ++ c :: (behind ++ rest)⟩ = _ :=
    entry_of_spells h hfirst (.inl hc)
  rw [List.append_assoc]
  refine (entries_of_entry h hfirst first_taken).trans ((andThen_ok (punct?_true hc)).trans ?_)
  exact andThen_ok (later hbehind)

/-- What is written as a list without a comma at its end is taken, if the end comes behind it. -/
theorem entries_of_listed {es : List Entry} {w : List Content} (h : Listed es w)
    (hw : contents taken = w) (ht : t.content = .finish) :
    entries ⟨taken ++ t :: rest⟩ = (.ok (es, true), ⟨t :: rest⟩) := by
  induction h generalizing taken with
  | one he =>
    refine (entries_of_entry he hw (entry_of_spells he hw (.inr ht))).trans ?_
    exact andThen_ok (punct?_false (by simp [ht]))
  | more he _ ih => exact entries_of_comma he hw ih

/-- What is written as a list with a comma behind each entry is taken, if no identifier comes
    behind it. -/
theorem entries_of_leading {es : List Entry} {w : List Content} (h : Leading es w)
    (hw : contents taken = w) (ht : t.kind ≠ .ident) :
    entries ⟨taken ++ t :: rest⟩ = (.ok (es, false), ⟨t :: rest⟩) := by
  induction h generalizing taken with
  | nil =>
    obtain rfl := List.map_eq_nil_iff.1 hw
    exact entries_of_not_ident ht
  | cons he _ ih => exact entries_of_comma he hw ih

/-! ## Sentences -/

variable (env : Environment) {es : List Entry} {w : List Content} {last : Token}

/-- What is written as an option list is taken, if the end comes behind it. -/
theorem options_of_options (h : Options es w) (hw : contents taken = w)
    (ht : last.content = .finish) : ∃ unterminated,
    options env ⟨taken ++ [last]⟩ = (.ok ⟨optionsOf env es, unterminated⟩, ⟨[last]⟩) := by
  rcases options_iff.1 h with h | h
  · exact ⟨true, andThen_ok (entries_of_listed h hw ht)⟩
  · have other : last.kind ≠ .ident := by simp [Token.kind, ht, Content.kind]
    exact ⟨false, andThen_ok (entries_of_leading h hw other)⟩

theorem optionText_of_options (h : Options es w) (hw : contents taken = w)
    (ht : last.content = .finish) :
    optionText env ⟨taken ++ [last]⟩ = (.ok (optionsOf env es), ⟨[last]⟩) := by
  obtain ⟨unterminated, hlist⟩ := options_of_options env h hw ht
  exact whole_ok (decide_eq_true (by simp [Token.kind, ht, Content.kind])) (andThen_ok hlist)

theorem fileInvocation_of_form {p : Text} (h : FileForm p es w) (hw : contents taken = w)
    (ht : last.content = .finish) : ∃ token,
    fileInvocation env ⟨taken ++ [last]⟩ = (.ok (⟨p, token⟩, optionsOf env es), ⟨[last]⟩) := by
  have hlast : last.isFinish = true := decide_eq_true (by simp [Token.kind, ht, Content.kind])
  cases h with
  | path =>
    obtain ⟨token, _, rfl, htoken, hnil⟩ := List.map_eq_cons_iff.1 hw
    obtain rfl := List.map_eq_nil_iff.1 hnil
    refine ⟨token, whole_ok hlast ((andThen_ok (str_ok htoken)).trans ?_)⟩
    have alone : trailingOptions env ⟨[last]⟩ = (.ok (optionsOf env []), ⟨[last]⟩) :=
      andThen_ok (punct?_false (by simp [ht]))
    exact andThen_ok alone
  | options h =>
    obtain ⟨token, _, rfl, htoken, hrest⟩ := List.map_eq_cons_iff.1 hw
    obtain ⟨c, taken, rfl, hc, hrest⟩ := List.map_eq_cons_iff.1 hrest
    obtain ⟨unterminated, hlist⟩ := options_of_options env h hrest ht
    refine ⟨token, whole_ok hlast ((andThen_ok (str_ok htoken)).trans ?_)⟩
    have trailing : trailingOptions env ⟨c :: (taken ++ [last])⟩
        = (.ok (optionsOf env es), ⟨[last]⟩) :=
      (andThen_ok (punct?_true hc)).trans (andThen_ok hlist)
    exact andThen_ok trailing

theorem leadingOptions_of_leading (h : Leading es w) (hw : contents taken = w)
    (ht : t.kind ≠ .ident) :
    leadingOptions env ⟨taken ++ t :: rest⟩ = (.ok (optionsOf env es), ⟨t :: rest⟩) := by
  have hlist : options env ⟨taken ++ t :: rest⟩
      = (.ok ⟨optionsOf env es, false⟩, ⟨t :: rest⟩) := andThen_ok (entries_of_leading h hw ht)
  exact andThen_ok hlist

/-- A source behind its options is taken as far as a comma behind it is. -/
theorem sourceInvocation_of_leading {source : Text} {v : List Content} (found : Bool)
    (h : Leading es w) (hw : contents taken = w ++ .str source :: v) (hlast : last.isFinish)
    (behind : ∀ {later : List Token}, contents later = v →
      punct? (text ",") ⟨later ++ [last]⟩ = (.ok found, ⟨[last]⟩)) :
    ∃ token, sourceInvocation env ⟨taken ++ [last]⟩ =
      (.ok (⟨source, token⟩, optionsOf env es), ⟨[last]⟩) := by
  obtain ⟨first, later, rfl, hfirst, hlater⟩ := List.map_eq_append_iff.1 hw
  obtain ⟨token, later, rfl, htoken, hlater⟩ := List.map_eq_cons_iff.1 hlater
  refine ⟨token, whole_ok hlast ?_⟩
  rw [List.append_assoc]
  have other : token.kind ≠ .ident := by simp [Token.kind, htoken, Content.kind]
  refine (andThen_ok (leadingOptions_of_leading env h hfirst other)).trans ?_
  exact (andThen_ok (str_ok htoken)).trans (andThen_ok (behind hlater))

theorem sourceInvocation_of_form {source : Text} (h : SourceForm es source w)
    (hw : contents taken = w) (ht : last.content = .finish) :
    ∃ token, sourceInvocation env ⟨taken ++ [last]⟩ =
      (.ok (⟨source, token⟩, optionsOf env es), ⟨[last]⟩) := by
  have hlast : last.isFinish = true := decide_eq_true (by simp [Token.kind, ht, Content.kind])
  cases h with
  | unterminated _ h =>
    refine sourceInvocation_of_leading env false h hw hlast fun hnil => ?_
    obtain rfl := List.map_eq_nil_iff.1 hnil
    exact punct?_false (by simp [ht])
  | terminated _ h =>
    refine sourceInvocation_of_leading env true h hw hlast fun hcomma => ?_
    obtain ⟨c, _, rfl, hc, hnil⟩ := List.map_eq_cons_iff.1 hcomma
    obtain rfl := List.map_eq_nil_iff.1 hnil
    exact punct?_true hc

/-- A parser that takes the sentences of a language, and nothing but parts of them, accepts the
    language, or cites the first misfit. -/
theorem Reads.judges {p : Parser α} {R : α → List Content → Prop} {L : List Content → Prop}
    {body : List Token} (hp : p.Reads R) (sound : ∀ a w, R a w → L w)
    (complete : ∀ {taken : List Token} {last : Token}, L (contents taken) →
      last.content = .finish → ∃ a s, whole p ⟨taken ++ [last]⟩ = (.ok a, s))
    (legible : Legible (body ++ [last])) (hbody : Unended body) (hlast : last.content = .finish) :
    Judges L (body ++ [last]) (whole p ⟨body ++ [last]⟩).1 where
  accepts := by
    constructor
    · rintro ⟨a, run⟩
      refine ⟨contents body, sound a _ (relation_of_whole hp legible hbody run), ?_⟩
      simp [contents, hlast]
    · rintro ⟨w, hw, heq⟩
      have hsplit : contents body ++ [last.content] = w ++ [.finish] := by
        simpa [contents] using heq
      have hcontents : contents body = w := (List.append_inj' hsplit rfl).1
      obtain ⟨a, s, run⟩ := complete (hcontents ▸ hw) hlast
      exact ⟨a, congrArg Prod.fst run⟩
  rejects f run := by
    rcases hrun : whole p ⟨body ++ [last]⟩ with ⟨outcome, s⟩
    rw [hrun] at run
    obtain rfl : outcome = .error f := run
    obtain ⟨taken, t, rest, fault, htokens, hf, -, ⟨a, v, hR⟩, hstops⟩ :=
      (reads_whole hp _ legible).rejects hrun
    refine ⟨fault, t, hf, taken, rest, htokens,
      ⟨contents taken ++ v, v ++ [.finish], sound a _ hR, by rw [List.append_assoc]⟩, ?_⟩
    -- a sentence that goes on with the token would be accepted, but the parser fails at the token
    rintro ⟨w, later, hw, heq⟩
    have hall : contents (taken ++ t :: later.map fun c => ⟨c, t.span⟩) = w ++ [.finish] := by
      rw [heq]
      simp [contents, Function.comp_def]
    obtain ⟨sentence, ending, hsplit, hsentence, hending⟩ := List.map_eq_append_iff.1 hall
    obtain ⟨e, _, rfl, he, hnil⟩ := List.map_eq_cons_iff.1 hending
    obtain rfl := List.map_eq_nil_iff.1 hnil
    have hw' : L (contents sentence) := by rwa [contents, hsentence]
    obtain ⟨b, s', haccept⟩ := complete hw' he
    have hreject := hstops (later.map fun c => ⟨c, t.span⟩)
    rw [hsplit, haccept] at hreject
    cases hreject

theorem judges_optionText {body : List Token} (legible : Legible (body ++ [last]))
    (hbody : Unended body) (hlast : last.content = .finish) :
    Judges OptionSentence (body ++ [last]) (optionText env ⟨body ++ [last]⟩).1 := by
  refine (reads_optionBody env).judges (fun o w ⟨es, _, h⟩ => ⟨es, h⟩) ?_ legible hbody hlast
  rintro taken last ⟨es, h⟩ ht
  exact ⟨_, _, optionText_of_options env h rfl ht⟩

theorem judges_fileInvocation {body : List Token} (legible : Legible (body ++ [last]))
    (hbody : Unended body) (hlast : last.content = .finish) :
    Judges FileSentence (body ++ [last]) (fileInvocation env ⟨body ++ [last]⟩).1 := by
  refine (reads_fileBody env).judges (fun r w ⟨es, _, h⟩ => ⟨_, es, h⟩) ?_ legible hbody hlast
  rintro taken last ⟨p, es, h⟩ ht
  obtain ⟨token, run⟩ := fileInvocation_of_form env h rfl ht
  exact ⟨_, _, run⟩

theorem judges_sourceInvocation {body : List Token} (legible : Legible (body ++ [last]))
    (hbody : Unended body) (hlast : last.content = .finish) :
    Judges SourceSentence (body ++ [last]) (sourceInvocation env ⟨body ++ [last]⟩).1 := by
  refine (reads_sourceBody env).judges (fun r w ⟨es, _, h⟩ => ⟨es, _, h⟩) ?_ legible hbody hlast
  rintro taken last ⟨es, source, h⟩ ht
  obtain ⟨token, run⟩ := sourceInvocation_of_form env h rfl ht
  exact ⟨_, _, run⟩

end Parser

/-! ## Texts -/

theorem toToken_unended {origin : Text} {l : Lexeme} {token : Token}
    (h : l.toToken origin = .ok token) : token.isFinish = false := by
  unfold Lexeme.toToken at h
  cases hc : l.content with
  | error f => simp [hc] at h
  | ok content =>
    simp only [hc, Except.ok.injEq] at h
    subst h
    refine Parser.isFinish_eq rfl fun hk => ?_
    unfold Lexeme.content at hc
    split at hc
    · cases hc
      cases hk
    · split at hc <;> cases hc <;> cases hk
    · split at hc <;> cases hc
      cases hk
    · cases hc
      cases hk
    · cases hc

theorem toTokens_unended {origin : Text} {ls : List Lexeme} {tokens : List Token}
    (h : Lexeme.toTokens origin ls = .ok tokens) : Unended tokens := by
  intro token mem
  obtain ⟨l, -, hl⟩ := Lexeme.exists_of_mem_toTokens h token mem
  exact toToken_unended hl

/-- The end of the input comes behind all tokens of a text. -/
theorem unended_of_tokenize {t origin : Text} {tokens : List Token}
    (h : tokenize t origin = .ok tokens) :
    ∃ body, tokens = body ++ [.endOf t origin] ∧ Unended body := by
  unfold tokenize at h
  split at h
  · cases h
  · split at h
    · cases h
    · rename_i body hbody
      cases h
      exact ⟨body, rfl, toTokens_unended hbody⟩

/-! ## Entry points -/

variable {ν : Type}

/-- The options of a text are parsed before anything else is done. -/
theorem withOptions_of_text {t : Text} {tokens : List Token}
    (h : tokenize t OptionsArgument.origin = .ok tokens) (s : Setting ν)
    (use : CompileOptions → BuildRun ν) :
    OptionsArgument.parse s.environment t = (Parser.optionText s.environment ⟨tokens⟩).1 ∧
      (∀ f, OptionsArgument.parse s.environment t = .error f →
        withOptions s (some (.text t)) none use = .failed f (OptionList.log s.environment)) ∧
      ∀ o, OptionsArgument.parse s.environment t = .ok o →
        withOptions s (some (.text t)) none use = (use o).after (OptionList.log s.environment) := by
  have stream : TokenStream.ofText t OptionsArgument.origin = .ok ⟨tokens⟩ := by
    simp [TokenStream.ofText, TokenStream.ofTokens, h, Except.map]
  have log : OptionsArgument.log s.environment (some (.text t)) none
      = OptionList.log s.environment := by
    simp [OptionsArgument.log, stream, Except.isOk, Except.toBool]
  have resolve : OptionsArgument.resolve s.environment (some (.text t)) none
      = OptionsArgument.parse s.environment t := rfl
  refine ⟨by simp only [OptionsArgument.parse, stream], fun f hf => ?_, fun o ho => ?_⟩
  · simp only [withOptions, log, resolve, hf]
  · simp only [withOptions, log, resolve, ho]

/-- **The entry points accept just their grammars, and cite the first misfit of other texts.**

    A text whose integers can be written is an option text, a file invocation or a source
    invocation if its tokens are such a sentence; then the compilation goes on with the options.
    Otherwise nothing is done but to log: the run is the same whatever files there are, and no
    compiler is asked for. -/
theorem invocations_judged {t origin : Text} {tokens : List Token}
    (ht : tokenize t origin = .ok tokens)
    (writable : ∀ token ∈ tokens, ∀ n, token.content = .int n → Numeral.isWritable n)
    (s : Setting ν) (root : Option Datum) :
    (origin = OptionsArgument.origin → ∀ (path source : Text) (span : Option Span),
      let parsed := OptionsArgument.parse s.environment t
      let log := OptionList.log s.environment
      let file := compileFile s root path (some (.text t)) none span
      let inline := compileSource s root (.text source) (some (.text t)) none span
      Judges OptionSentence tokens parsed ∧
        (∀ f, parsed = .error f → file = .failed f log ∧ inline = .failed f log) ∧
        ∀ o, parsed = .ok o → file = (compileFileWith s root path o span).after log ∧
          inline = (compileSourceWith s root source o span).after log) ∧
    (let parsed := (Parser.fileInvocation s.environment ⟨tokens⟩).1
      let log := fileInvocationLog s.environment ⟨tokens⟩
      Judges FileSentence tokens parsed ∧
        (∀ f, parsed = .error f → includeGlsl s root t origin = .failed f log) ∧
        ∀ path o, parsed = .ok (path, o) → includeGlsl s root t origin =
          (compileFileWith s root path.value o (some path.token.span)).after log) ∧
    (let parsed := (Parser.sourceInvocation s.environment ⟨tokens⟩).1
      let log := OptionList.log s.environment
      Judges SourceSentence tokens parsed ∧
        (∀ f, parsed = .error f → glsl s root t origin = .failed f log) ∧
        ∀ source o, parsed = .ok (source, o) → glsl s root t origin =
          (compileSourceWith s root source.value o (some source.token.span)).after log) := by
  obtain ⟨body, rfl, hbody⟩ := unended_of_tokenize ht
  have legible : Legible (body ++ [.endOf t origin]) :=
    ⟨⟨_, List.mem_append_right _ List.mem_cons_self, rfl⟩, writable⟩
  have stream : TokenStream.ofText t origin = .ok ⟨body ++ [.endOf t origin]⟩ := by
    simp [TokenStream.ofText, TokenStream.ofTokens, ht, Except.map]
  refine ⟨?_, ?_, ?_⟩
  · rintro rfl path source span
    obtain ⟨parsed, fileStops, fileGoes⟩ :=
      withOptions_of_text ht s fun o => compileFileWith s root path o span
    obtain ⟨-, inlineStops, inlineGoes⟩ :=
      withOptions_of_text ht s fun o => compileSourceWith s root source o span
    refine ⟨?_, fun f hf => ⟨fileStops f hf, inlineStops f hf⟩,
      fun o ho => ⟨fileGoes o ho, inlineGoes o ho⟩⟩
    rw [parsed]
    exact Parser.judges_optionText _ legible hbody rfl
  · refine ⟨Parser.judges_fileInvocation _ legible hbody rfl, fun f hf => ?_, fun path o ho => ?_⟩
    · simp only [includeGlsl, stream, hf]
    · simp only [includeGlsl, stream, ho]
  · refine ⟨Parser.judges_sourceInvocation _ legible hbody rfl, fun f hf => ?_,
      fun source o ho => ?_⟩
    · simp only [glsl, stream, hf]
    · simp only [glsl, stream, ho]

/-- Two entries without a comma are no option text: there is no sentence with the second behind the
    first. -/
theorem invocations_judged_missing_comma :
    let t := text "strip debug"
    let strip : Token := ⟨.ident (text "strip"), ⟨1, 0, text "strip", OptionsArgument.origin⟩⟩
    let debug : Token := ⟨.ident (text "debug"), ⟨1, 6, text "debug", OptionsArgument.origin⟩⟩
    let tokens := [strip, debug, .endOf t OptionsArgument.origin]
    let s : Setting Unit :=
      { read := fun _ => .error .unencodable, cwd := [], environment := []
        compiler := .error .unencodable }
    let f := Fault.config (.unexpected debug) debug.span
    tokenize t OptionsArgument.origin = .ok tokens ∧ ¬ Accepts OptionSentence tokens ∧
      (∃ fault misfit, f = .config fault misfit.span ∧ FirstMisfit OptionSentence tokens misfit) ∧
      compileFile s none (text "a.frag") (some (.text t)) none none
        = .failed f (OptionList.log []) := by
  intro t strip debug tokens s f
  have ht : tokenize t OptionsArgument.origin = .ok tokens := by decide +kernel
  have parsed : OptionsArgument.parse [] t = .error f := by decide +kernel
  have writable : ∀ token ∈ tokens, ∀ n, token.content = .int n → Numeral.isWritable n := by
    simp [tokens, strip, debug, Token.endOf]
  obtain ⟨judges, stops, -⟩ :=
    (invocations_judged ht writable s none).1 rfl (text "a.frag") [] none
  refine ⟨ht, fun accepted => ?_, judges.rejects f parsed, (stops f parsed).1⟩
  obtain ⟨o, ho⟩ := judges.accepts.2 accepted
  cases parsed.symm.trans ho

end ShaderBuild
