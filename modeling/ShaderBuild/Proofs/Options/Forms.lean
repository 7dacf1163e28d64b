/-
  Invocations and calls say the same.

  A file invocation is a call with the path and with what stands behind the comma as options.  A
  source invocation is a call with the source and with what stands before the comma as options.  The
  two runs are the same but for the places that errors cite.

  * `CitesAlike`: faults that cite the tokens at one place of two sequences;
  * `includeGlsl_options`, `includeGlsl_path`, `glsl_options`: an invocation and the call;
  * `forms_agree`: the three together.
-/
import ShaderBuild.Proofs.Build.Dependencies
import ShaderBuild.Proofs.Build.Located
import ShaderBuild.Proofs.Options.Acceptance

namespace ShaderBuild

open Token (Content)
open Grammar

/-! ## Tokens at one place -/

/-- Faults that cite the tokens at one place of two sequences, or no tokens at all. -/
inductive CitesAlike (tokens tokens' : List Token) : Fault → Fault → Prop
  | token {c c' t t'} (i : Nat) : tokens[i]? = some t → tokens'[i]? = some t' →
    ConfigFault.message c = ConfigFault.message c' →
    CitesAlike tokens tokens' (.config c t.span) (.config c' t'.span)
  | value (f) : CitesAlike tokens tokens' (.value f) (.value f)

theorem CitesAlike.alike {tokens tokens' : List Token} {f f' : Fault}
    (h : CitesAlike tokens tokens' f f') : f.Alike f' := by
  cases h with
  | token i _ _ hc => exact .config _ _ hc
  | value f => exact .same _

/-- The tokens at one place of two sequences stand for each other. -/
def Pairing.placed (tokens tokens' : List Token) : Pairing where
  token t t' := t.Alike t' ∧ ∃ i : Nat, tokens[i]? = some t ∧ tokens'[i]? = some t'
  fault := CitesAlike tokens tokens'
  alike h := .inl h.1
  cited h _ hc := by
    obtain ⟨-, i, ht, ht'⟩ := h
    exact .token i ht ht' hc
  value := .value

theorem Pairing.streams_placed {body body' : List Token} {last last' : Token}
    (h : List.Forall₂ Token.Alike body body') (hbody : Unended body) (hlast : last.Alike last')
    (hfinish : last.isFinish = true) :
    (Pairing.placed (body ++ [last]) (body' ++ [last'])).Streams ⟨body ++ [last]⟩
      ⟨body' ++ [last']⟩ := by
  obtain ⟨hlength, hall⟩ := List.forall₂_iff_get.1 h
  refine Pairing.streams_append (List.forall₂_iff_get.2 ⟨hlength, fun i hi hi' => ?_⟩) hbody
    ⟨hlast, body.length, ?_, ?_⟩ hfinish
  · refine ⟨hall i hi hi', i, ?_, ?_⟩
    · simp [List.getElem?_append_left hi, hi]
    · simp [List.getElem?_append_left hi', hi']
  · simp
  · simp [hlength]

namespace Parser

variable {env : Environment} {path : Text} {first : Token}

/-- Where something ends depends on what it leaves. -/
theorem whole_congr {α : Type} {p q : Parser α} {s s' : TokenStream} (h : p s = q s') :
    whole p s = whole q s' := by
  have eq (p : Parser α) : whole p = andThen p fun a => andThen finish fun _ => yield a := rfl
  simp only [eq, andThen, h]

theorem whole_map {α β : Type} (p : Parser α) (f : α → β) (s : TokenStream) :
    (whole (andThen p fun a => yield (f a)) s).1 = (whole p s).1.map f := by
  have eq {γ : Type} (p : Parser γ) :
      whole p = andThen p fun a => andThen finish fun _ => yield a := rfl
  simp only [eq, andThen, yield]
  rcases p s with ⟨⟨fault⟩ | ⟨a⟩, r⟩
  · rfl
  · dsimp only
    rcases finish r with ⟨⟨fault⟩ | ⟨u⟩, r'⟩ <;> rfl

/-- What stands behind the path of a file invocation is read as an option text. -/
theorem fileInvocation_eq {second : Token} (rest : List Token)
    (hfirst : first.content = .str path) (hsecond : second.content = comma) :
    (fileInvocation env ⟨first :: second :: rest⟩).1 =
      (optionText env ⟨rest⟩).1.map fun o => (⟨path, first⟩, o) := by
  have trailing : trailingOptions env ⟨second :: rest⟩ =
      andThen (options env) (fun list => yield list.options) ⟨rest⟩ :=
    andThen_ok (punct?_true hsecond)
  have behind : andThen str (fun path => andThen (trailingOptions env) fun o => yield (path, o))
      ⟨first :: second :: rest⟩ =
      andThen (andThen (options env) fun list => yield list.options)
        (fun o => yield (⟨path, first⟩, o)) ⟨rest⟩ := by
    rw [andThen_ok (str_ok hfirst)]
    unfold andThen at trailing ⊢
    rw [trailing]
  exact (congrArg Prod.fst (whole_congr behind)).trans (whole_map _ _ _)

/-- A path alone is a file invocation with the default options. -/
theorem fileInvocation_path {last : Token} (hfirst : first.content = .str path)
    (hlast : last.content = .finish) :
    (fileInvocation env ⟨[first, last]⟩).1 = .ok (⟨path, first⟩, .defaults env) := by
  have finished : last.isFinish = true :=
    decide_eq_true (by simp [Token.kind, hlast, Content.kind])
  have trailing : trailingOptions env ⟨[last]⟩ = (.ok (.defaults env), ⟨[last]⟩) :=
    andThen_ok (punct?_false (by simp [hlast]))
  have body : andThen str (fun path => andThen (trailingOptions env) fun o => yield (path, o))
      ⟨[first, last]⟩ = (.ok (⟨path, first⟩, .defaults env), ⟨[last]⟩) := by
    rw [andThen_ok (str_ok hfirst), andThen_ok trailing]
    rfl
  exact congrArg Prod.fst (whole_ok finished body)

end Parser

/-! ## Entry points -/

variable {ν : Type}

theorem ends_of_tokenize {t origin : Text} {body : List Token} {last : Token}
    (h : tokenize t origin = .ok (body ++ [last])) : last = .endOf t origin ∧ Unended body := by
  obtain ⟨body', heq, hbody⟩ := unended_of_tokenize h
  obtain ⟨rfl, hlast⟩ := List.append_inj' heq rfl
  exact ⟨List.head_eq_of_cons_eq hlast, hbody⟩

theorem ofText_of_tokenize {t origin : Text} {tokens : List Token}
    (h : tokenize t origin = .ok tokens) : TokenStream.ofText t origin = .ok ⟨tokens⟩ := by
  simp [TokenStream.ofText, TokenStream.ofTokens, h, Except.map]

/-- A file invocation is parsed before anything else is done. -/
theorem includeGlsl_of_tokenize (s : Setting ν) (root : Option Datum) {t origin path : Text}
    {first : Token} {rest : List Token} (h : tokenize t origin = .ok (first :: rest))
    (hfirst : first.content = .str path) :
    (∀ f, (Parser.fileInvocation s.environment ⟨first :: rest⟩).1 = .error f →
        includeGlsl s root t origin = .failed f (OptionList.log s.environment)) ∧
      ∀ taken o, (Parser.fileInvocation s.environment ⟨first :: rest⟩).1 = .ok (taken, o) →
        includeGlsl s root t origin =
          (compileFileWith s root taken.value o (some taken.token.span)).after
            (OptionList.log s.environment) := by
  have log : fileInvocationLog s.environment ⟨first :: rest⟩ = OptionList.log s.environment :=
    if_pos (decide_eq_true (by simp [TokenStream.current, Token.kind, hfirst, Content.kind]))
  refine ⟨fun f hf => ?_, fun taken o ho => ?_⟩
  · simp only [includeGlsl, ofText_of_tokenize h, hf, log]
  · simp only [includeGlsl, ofText_of_tokenize h, ho, log]

/-- A source invocation is parsed before anything else is done. -/
theorem glsl_of_tokenize (s : Setting ν) (root : Option Datum) {t origin : Text}
    {tokens : List Token} (h : tokenize t origin = .ok tokens) :
    (∀ f, (Parser.sourceInvocation s.environment ⟨tokens⟩).1 = .error f →
        glsl s root t origin = .failed f (OptionList.log s.environment)) ∧
      ∀ taken o, (Parser.sourceInvocation s.environment ⟨tokens⟩).1 = .ok (taken, o) →
        glsl s root t origin =
          (compileSourceWith s root taken.value o (some taken.token.span)).after
            (OptionList.log s.environment) := by
  refine ⟨fun f hf => ?_, fun taken o ho => ?_⟩
  · simp only [glsl, ofText_of_tokenize h, hf]
  · simp only [glsl, ofText_of_tokenize h, ho]

section

variable {s : Setting ν} {root : Option Datum} {t t' origin path source : Text}
  {span : Option Span} {first comma str last last' : Token} {body body' : List Token}

/-- A file invocation with options, and the call with the path and the same options. -/
theorem includeGlsl_options (ht : tokenize t origin = .ok (first :: comma :: (body ++ [last])))
    (ht' : tokenize t' OptionsArgument.origin = .ok (body' ++ [last']))
    (hfirst : first.content = .str path) (hcomma : comma.content = .punct (text ","))
    (alike : List.Forall₂ Token.Alike body body') :
    let parsed := (Parser.fileInvocation s.environment ⟨first :: comma :: (body ++ [last])⟩).1
    let parsed' := OptionsArgument.parse s.environment t'
    let log := OptionList.log s.environment
    let file := includeGlsl s root t origin
    let call := compileFile s root path (some (.text t')) none span
    file.Alike call ∧
      ((∃ o, parsed = .ok (⟨path, first⟩, o) ∧ parsed' = .ok o) ∨
        ∃ f f', parsed = .error f ∧ parsed' = .error f' ∧ file = .failed f log ∧
          call = .failed f' log ∧ CitesAlike (body ++ [last]) (body' ++ [last']) f f') := by
  intro parsed parsed' log file call
  obtain ⟨hparsed', callStops, callGoes⟩ :=
    withOptions_of_text ht' s fun o => compileFileWith s root path o span
  obtain ⟨fileStops, fileGoes⟩ := includeGlsl_of_tokenize s root ht hfirst
  have hparsed : parsed = (Parser.optionText s.environment ⟨body ++ [last]⟩).1.map
      fun o => (⟨path, first⟩, o) := Parser.fileInvocation_eq _ hfirst hcomma
  have streams : (Pairing.placed (body ++ [last]) (body' ++ [last'])).Streams ⟨body ++ [last]⟩
      ⟨body' ++ [last']⟩ := by
    have whole : tokenize t origin = .ok ((first :: comma :: body) ++ [last]) := ht
    obtain ⟨rfl, hbody⟩ := ends_of_tokenize whole
    obtain ⟨rfl, -⟩ := ends_of_tokenize ht'
    refine Pairing.streams_placed alike (fun u hu => hbody u ?_) ⟨rfl, rfl⟩ rfl
    exact List.mem_cons_of_mem _ (List.mem_cons_of_mem _ hu)
  have same := Pairing.keeps_optionText s.environment _ _ streams
  rcases hx : Parser.optionText s.environment ⟨body ++ [last]⟩ with ⟨⟨f⟩ | ⟨o⟩, r⟩ <;>
    rcases hy : Parser.optionText s.environment ⟨body' ++ [last']⟩ with ⟨⟨f'⟩ | ⟨o'⟩, r'⟩ <;>
    rw [hx, hy] at same <;> rw [hx] at hparsed <;> rw [hy] at hparsed' <;> cases same
  case error.error cited =>
    have hfile : file = _ := fileStops f hparsed
    have hcall : call = _ := callStops f' hparsed'
    refine ⟨?_, .inr ⟨f, f', hparsed, hparsed', hfile, hcall, cited⟩⟩
    rw [hfile, hcall]
    exact BuildRun.alike_failed cited.alike log
  case ok.ok h =>
    obtain ⟨rfl, -⟩ := h
    have hfile : file = _ := fileGoes _ o hparsed
    have hcall : call = _ := callGoes o hparsed'
    refine ⟨?_, .inl ⟨o, hparsed, hparsed'⟩⟩
    rw [hfile, hcall]
    exact (compileFileWith_alike s root path o (some first.span) span).after log

/-- A file invocation without options, and the call with the path alone. -/
theorem includeGlsl_path (ht : tokenize t origin = .ok [first, last])
    (hfirst : first.content = .str path) :
    (includeGlsl s root t origin).Alike (compileFile s root path none none span) := by
  have hlast : last.content = .finish := by
    have whole : tokenize t origin = .ok ([first] ++ [last]) := ht
    rw [(ends_of_tokenize whole).1]
    rfl
  rw [(includeGlsl_of_tokenize s root ht hfirst).2 _ _ (Parser.fileInvocation_path hfirst hlast)]
  exact (compileFileWith_alike s root path _ (some first.span) span).after _

/-- A source invocation is accepted just if what stands before the comma is an option text. -/
theorem source_accepted_iff {env : Environment} {source' : Text} {o : CompileOptions}
    (ht : tokenize t origin = .ok (body ++ [comma, str, last]))
    (ht' : tokenize t' OptionsArgument.origin = .ok (body' ++ [last']))
    (hcomma : comma.content = .punct (text ",")) (hstr : str.content = .str source)
    (alike : List.Forall₂ Token.Alike body body') (hne : body ≠ [])
    (noComma : ∀ token ∈ body.getLast?, token.content ≠ .punct (text ",")) :
    (∃ taken, (Parser.sourceInvocation env ⟨body ++ [comma, str, last]⟩).1 = .ok (taken, o) ∧
        taken.value = source') ↔
      (Parser.optionText env ⟨body' ++ [last']⟩).1 = .ok o ∧ source' = source := by
  have tokens : body ++ [comma, str, last] = (body ++ [comma, str]) ++ [last] := by simp
  rw [tokens] at ht ⊢
  obtain ⟨rfl, hbody⟩ := ends_of_tokenize ht
  obtain ⟨rfl, hbody'⟩ := ends_of_tokenize ht'
  have before : contents (body'.map Parser.tame) = contents (body.map Parser.tame) := by
    have same := alike.imp fun _ _ h => (Parser.tame_content h.content).symm
    rw [contents, contents, List.map_map, List.map_map, ← List.forall₂_eq_eq_eq,
      List.forall₂_map_left_iff, List.forall₂_map_right_iff]
    exact same.flip
  have behind : contents ((body ++ [comma, str]).map Parser.tame) =
      contents (body.map Parser.tame) ++ [Grammar.comma, .str source] := by
    have ends := Pairing.content_iff (Parser.tame_lax comma) (c := .punct (text ",")) (by simp)
    have told := Pairing.content_iff (Parser.tame_lax str) (c := .str source) (by simp)
    simp [contents, ends.1 hcomma, told.1 hstr, Grammar.comma]
  have nonempty : contents (body.map Parser.tame) ≠ [] := by simpa [contents] using hne
  have unended : (contents (body.map Parser.tame)).getLast? ≠ some Grammar.comma := by
    rw [contents, List.map_map, List.getLast?_map]
    intro h
    obtain ⟨u, hu, hc⟩ := Option.map_eq_some_iff.1 h
    have tamed := Pairing.content_iff (Parser.tame_lax u) (c := .punct (text ",")) (by simp)
    exact noComma u hu (tamed.2 hc)
  rw [Parser.sourceInvocation_eq_ok_iff hbody rfl, Parser.optionText_eq_ok_iff hbody' rfl, behind,
    before]
  simp only [sourceForm_iff nonempty unended]
  constructor
  · rintro ⟨es, ho, hes, hs⟩
    exact ⟨⟨es, ho, hes⟩, hs⟩
  · rintro ⟨⟨es, ho, hes⟩, hs⟩
    exact ⟨es, ho, hes, hs⟩

/-- A source invocation with options, and the call with the source and the same options. -/
theorem glsl_options (ht : tokenize t origin = .ok (body ++ [comma, str, last]))
    (ht' : tokenize t' OptionsArgument.origin = .ok (body' ++ [last']))
    (hcomma : comma.content = .punct (text ",")) (hstr : str.content = .str source)
    (alike : List.Forall₂ Token.Alike body body') (hne : body ≠ [])
    (noComma : ∀ token ∈ body.getLast?, token.content ≠ .punct (text ",")) :
    let parsed := (Parser.sourceInvocation s.environment ⟨body ++ [comma, str, last]⟩).1
    let parsed' := OptionsArgument.parse s.environment t'
    let log := OptionList.log s.environment
    let inline := glsl s root t origin
    let call := compileSource s root (.text source) (some (.text t')) none span
    (∃ taken o, parsed = .ok (taken, o) ∧ taken.value = source ∧ parsed' = .ok o ∧
        inline.Alike call) ∨
      ∃ f f', parsed = .error f ∧ parsed' = .error f' ∧ inline = .failed f log ∧
        call = .failed f' log := by
  intro parsed parsed' log inline call
  obtain ⟨hparsed', callStops, callGoes⟩ :=
    withOptions_of_text ht' s fun o => compileSourceWith s root source o span
  obtain ⟨inlineStops, inlineGoes⟩ := glsl_of_tokenize s root ht
  have accepted {source' : Text} {o : CompileOptions} :
      (∃ taken, parsed = .ok (taken, o) ∧ taken.value = source') ↔
        parsed' = .ok o ∧ source' = source := by
    rw [show parsed' = _ from hparsed']
    exact source_accepted_iff ht ht' hcomma hstr alike hne noComma
  rcases hp : parsed with f | ⟨taken, o⟩
  · cases hp' : parsed' with
    | error f' => exact .inr ⟨f, f', rfl, rfl, inlineStops f hp, callStops f' hp'⟩
    | ok o =>
      obtain ⟨taken, ho, -⟩ := accepted.2 ⟨hp', rfl⟩
      cases hp.symm.trans ho
  · obtain ⟨hp', hsource⟩ := accepted.1 ⟨taken, hp, rfl⟩
    refine .inl ⟨taken, o, rfl, hsource, hp', ?_⟩
    have hinline : inline = _ := inlineGoes taken o hp
    have hcall : call = _ := callGoes o hp'
    rw [hinline, hcall, hsource]
    exact (compileSourceWith_alike s root source o (some taken.token.span) span).after log

end

/-- **The two forms of an invocation, and the two forms of a call, say the same.**

    Behind a path and a comma stands what could be an option text: both are accepted with the same
    options, or both fail at the same token in the same words.  A path alone is a file with the
    default options.  Before a comma and a source stands what could be an option text, if it is not
    empty and has no comma at its end.  Where both are accepted, the two runs are the same, but for
    the span of errors that come without one. -/
theorem forms_agree (s : Setting ν) (root : Option Datum) (t t' origin path source : Text)
    (span : Option Span) :
    (∀ {first comma last last' : Token} {body body' : List Token},
      tokenize t origin = .ok (first :: comma :: (body ++ [last])) →
      tokenize t' OptionsArgument.origin = .ok (body' ++ [last']) →
      first.content = .str path → comma.content = .punct (text ",") →
      List.Forall₂ Token.Alike body body' →
      let parsed := (Parser.fileInvocation s.environment ⟨first :: comma :: (body ++ [last])⟩).1
      let parsed' := OptionsArgument.parse s.environment t'
      let log := OptionList.log s.environment
      let file := includeGlsl s root t origin
      let call := compileFile s root path (some (.text t')) none span
      file.Alike call ∧
        ((∃ o, parsed = .ok (⟨path, first⟩, o) ∧ parsed' = .ok o) ∨
          ∃ f f', parsed = .error f ∧ parsed' = .error f' ∧ file = .failed f log ∧
            call = .failed f' log ∧ CitesAlike (body ++ [last]) (body' ++ [last']) f f')) ∧
    (∀ {first last : Token}, tokenize t origin = .ok [first, last] → first.content = .str path →
      (includeGlsl s root t origin).Alike (compileFile s root path none none span)) ∧
    (∀ {comma str last last' : Token} {body body' : List Token},
      tokenize t origin = .ok (body ++ [comma, str, last]) →
      tokenize t' OptionsArgument.origin = .ok (body' ++ [last']) →
      comma.content = .punct (text ",") → str.content = .str source →
      List.Forall₂ Token.Alike body body' → body ≠ [] →
      (∀ token ∈ body.getLast?, token.content ≠ .punct (text ",")) →
      let parsed := (Parser.sourceInvocation s.environment ⟨body ++ [comma, str, last]⟩).1
      let parsed' := OptionsArgument.parse s.environment t'
      let log := OptionList.log s.environment
      let inline := glsl s root t origin
      let call := compileSource s root (.text source) (some (.text t')) none span
      (∃ taken o, parsed = .ok (taken, o) ∧ taken.value = source ∧ parsed' = .ok o ∧
          inline.Alike call) ∨
        ∃ f f', parsed = .error f ∧ parsed' = .error f' ∧ inline = .failed f log ∧
          call = .failed f' log) :=
  ⟨includeGlsl_options, includeGlsl_path, glsl_options⟩

/-- The token on the first line of a text. -/
def tokenAt (origin : Text) (col : Nat) (spelling : String) (content : Content) : Token :=
  ⟨content, ⟨1, col, text spelling, origin⟩⟩

/-- An entry without its colon fails in both forms, at the identifier in its place.  A path alone is
    compiled in both forms, and so is a source behind an entry. -/
theorem forms_agree_missing_colon :
    let s := countingSetting (flatTree [("a", [120]), ("b", [121, 122])])
    let origin := OptionsArgument.origin
    let debug (col : Nat) := tokenAt origin col "debug" (.ident (text "debug"))
    let define (col : Nat) := tokenAt origin col "define" (.ident (text "define"))
    let colon (col : Nat) := tokenAt origin col "X" (.ident (text "X"))
    let comma (col : Nat) := tokenAt origin col "," (.punct (text ","))
    let str (col : Nat) := tokenAt origin col "'a'" (.str (text "a"))
    let ending (t : Text) := Token.endOf t origin
    let bad := text "define X"
    let badFile := text "'a', define X"
    let good := text "debug"
    let goodSource := text "debug, 'a'"
    tokenize bad origin = .ok ([define 0, colon 7] ++ [ending bad]) ∧
      tokenize badFile origin =
        .ok (str 0 :: comma 3 :: ([define 5, colon 12] ++ [ending badFile])) ∧
      tokenize (text "'a'") origin = .ok [str 0, ending (text "'a'")] ∧
      tokenize good origin = .ok ([debug 0] ++ [ending good]) ∧
      tokenize goodSource origin = .ok ([debug 0] ++ [comma 5, str 7, ending goodSource]) ∧
      (∃ f f', includeGlsl s none badFile origin = .failed f (OptionList.log s.environment) ∧
        compileFile s none (text "a") (some (.text bad)) none none =
          .failed f' (OptionList.log s.environment) ∧
        CitesAlike ([define 5, colon 12] ++ [ending badFile]) ([define 0, colon 7] ++ [ending bad])
          f f') ∧
      (includeGlsl s none (text "'a'") origin).Alike
        (compileFile s none (text "a") none none none) ∧
      (glsl s none goodSource origin).Alike
        (compileSource s none (.text (text "a")) (some (.text good)) none none) := by
  intro s origin debug define colon comma str ending bad badFile good goodSource
  have tBad : tokenize bad origin = .ok ([define 0, colon 7] ++ [ending bad]) := by decide +kernel
  have tBadFile : tokenize badFile origin =
      .ok (str 0 :: comma 3 :: ([define 5, colon 12] ++ [ending badFile])) := by decide +kernel
  have tPath : tokenize (text "'a'") origin = .ok [str 0, ending (text "'a'")] := by
    decide +kernel
  have tGood : tokenize good origin = .ok ([debug 0] ++ [ending good]) := by decide +kernel
  have tGoodSource : tokenize goodSource origin =
      .ok ([debug 0] ++ [comma 5, str 7, ending goodSource]) := by decide +kernel
  have strings (col : Nat) : (str col).content = .str (text "a") := rfl
  have commas (col : Nat) : (comma col).content = .punct (text ",") := rfl
  refine ⟨tBad, tBadFile, tPath, tGood, tGoodSource, ?_, ?_, ?_⟩
  · have agree := (forms_agree s none badFile bad origin (text "a") [] none).1 tBadFile tBad
      (strings 0) (commas 3) (.cons ⟨rfl, rfl⟩ (.cons ⟨rfl, rfl⟩ .nil))
    have fails : (OptionsArgument.parse s.environment bad).toOption = none := by decide +kernel
    rcases agree.2 with ⟨o, -, ho⟩ | ⟨f, f', -, -, h⟩
    · rw [ho] at fails
      cases fails
    · exact ⟨f, f', h⟩
  · exact (forms_agree s none (text "'a'") [] origin (text "a") [] none).2.1 tPath (strings 0)
  · have agree := (forms_agree s none goodSource good origin [] (text "a") none).2.2 tGoodSource
      tGood (commas 5) (strings 7) (.cons ⟨rfl, rfl⟩ .nil) (List.cons_ne_nil _ _) (by decide)
    have succeeds : (OptionsArgument.parse s.environment good).toOption.isSome := by
      decide +kernel
    rcases agree with ⟨taken, o, -, -, -, h⟩ | ⟨f, f', -, hf, -⟩
    · exact h
    · rw [hf] at succeeds
      cases succeeds

end ShaderBuild
