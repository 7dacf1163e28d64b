/-
  What the parsers of options and invocations read.

  * `Parser.reads_entry`: the ways to write an entry;
  * `Parser.reads_entries`: lists of which the last entry has no comma, or all have one;
  * `Parser.reads_optionBody`, `Parser.reads_fileBody`, `Parser.reads_sourceBody`: what is in front
    of the end of the input.
-/
import ShaderBuild.Proofs.Options.Grammar

namespace ShaderBuild.Parser

open Token (Content)
open Grammar

variable {α β : Type}

/-! ## Words and versions -/

/-- A word that is looked up. -/
theorem reads_lookup {find? : Text → Option α} {fault : Text → ConfigFault}
    (some_value : ∃ name a, find? name = some a) :
    (lookup find? fault).Reads fun a w => ∃ name, find? name = some a ∧ w = [.ident name] := by
  refine picks_ident.reads_judged find? ?_ ?_ some_value
  · intro t name a s h
    simp only [h]
    rfl
  · intro t name _ h _
    refine ⟨fault name, fun s => ?_⟩
    simp only [h]
    rfl

theorem version?_eq_some {n : Int} {v : UInt32} :
    CompileOptions.version? n = some v ↔ n = v.toNat := by
  unfold CompileOptions.version? CompileOptions.maxVersion
  constructor
  · intro h
    split at h
    · rename_i hn
      cases h
      have small : n.toNat < 2 ^ 32 := by omega
      rw [UInt32.toNat_ofNat_of_lt' small, Int.toNat_of_nonneg hn.1]
    · cases h
  · rintro rfl
    have small := v.toNat_lt
    rw [if_pos (by omega)]
    simp

/-- A version, which is in range. -/
theorem reads_version : version.Reads fun v w => w = [.int v.toNat] := by
  refine Reads.mono (picks_int.reads_judged CompileOptions.version? ?_ ?_
    ⟨0, 0, version?_eq_some.2 rfl⟩) ?_
  · intro t n v s h
    simp only [h]
    rfl
  · intro t n hc h writable
    refine ⟨.versionTooLarge n, fun s => ?_⟩
    simp only [h, Fault.writable, writable n hc, if_true]
    rfl
  · rintro v w ⟨n, hv, rfl⟩
    rw [version?_eq_some.1 hv]

/-! ## Entries -/

/-- What is written as the value of a macro. -/
theorem reads_macroValue :
    macroValue.Reads fun value w => w = (value.map Content.str).toList := by
  have eq : macroValue = branch (fun t => t.content = comma || t.isFinish)
      (yield none) (andThen str fun t => yield (some t.value)) := rfl
  rw [eq]
  intro tokens legible
  obtain ⟨t, rest, rfl⟩ := legible.eq_cons
  refine .branch (fun _ => (readsAt_yield _ _).mono ?_) (fun _ => ?_)
  · rintro value w ⟨rfl, rfl⟩
    rfl
  · refine ((reads_str _ legible).map legible fun taken => some taken.value).mono ?_
    rintro value w ⟨taken, rfl, rfl⟩
    rfl

/-- A colon, and what makes an entry behind it. -/
theorem reads_valued {p : Parser α} {R : α → List Content → Prop} (make : α → Entry)
    (hp : p.Reads R) (inhabited : ∃ a w, R a w) :
    (andThen (punct (text ":")) fun _ => andThen p fun a => yield (make a)).Reads
      fun e w => ∃ a u, e = make a ∧ R a u ∧ w = colon :: u := by
  obtain ⟨a₀, w₀, h₀⟩ := inhabited
  refine ((reads_punct _).andThen (fun _ => hp.map make)
    fun _ _ _ => ⟨_, w₀, a₀, rfl, h₀⟩).mono ?_
  rintro e w ⟨_, u, v, rfl, rfl, a, rfl, hR⟩
  exact ⟨a, v, rfl, hR, rfl⟩

/-- What follows the key of an entry. -/
theorem reads_entryOf (key : Entry.Key) :
    (entryOf key).Reads fun e w => Spells e (keyword key :: w) := by
  cases key with
  | kind =>
    have word : Stage.ofExtension? (text "vert") = some .vertex := stage_iff.2 ⟨_, rfl, rfl⟩
    refine (reads_valued .stage (reads_lookup ⟨_, _, word⟩) ⟨_, _, _, word, rfl⟩).mono ?_
    rintro e w ⟨s, u, rfl, ⟨name, hs, rfl⟩, rfl⟩
    obtain ⟨extension, he, rfl⟩ := stage_iff.1 hs
    exact .stage he
  | version =>
    refine (reads_valued .version reads_version ⟨0, _, rfl⟩).mono ?_
    rintro e w ⟨v, u, rfl, rfl, rfl⟩
    exact .version v
  | strip =>
    refine (reads_yield Entry.strip).mono ?_
    rintro e w ⟨rfl, rfl⟩
    exact .strip
  | debug =>
    refine (reads_yield Entry.debug).mono ?_
    rintro e w ⟨rfl, rfl⟩
    exact .debug
  | define =>
    have definition : (andThen ident fun name => andThen macroValue fun value =>
        yield (Entry.define (name.value, value))).Reads
          fun e w => ∃ name value, e = .define (name, value) ∧
            w = .ident name :: (value.map Content.str).toList := by
      refine (reads_ident.andThen
        (fun name => reads_macroValue.map fun value => Entry.define (name.value, value))
        fun _ _ _ => ⟨_, _, none, rfl, rfl⟩).mono ?_
      rintro e w ⟨name, u, v, rfl, rfl, value, rfl, rfl⟩
      exact ⟨name.value, value, rfl, rfl⟩
    refine ((reads_punct _).andThen (fun _ => definition)
      fun _ _ _ => ⟨_, _, [], none, rfl, rfl⟩).mono ?_
    rintro e w ⟨_, u, v, rfl, rfl, name, value, rfl, rfl⟩
    cases value with
    | none => exact .define name
    | some value => exact .defineAs name value
  | optimize =>
    have word : OptimizationLevel.ofKeyword? (text "zero") = some .zero := level_iff.2 rfl
    refine (reads_valued .optimize (reads_lookup ⟨_, _, word⟩) ⟨_, _, _, word, rfl⟩).mono ?_
    rintro e w ⟨l, u, rfl, ⟨name, hl, rfl⟩, rfl⟩
    obtain rfl := level_iff.1 hl
    exact .optimize l
  | target =>
    have word := target_iff.2 ⟨"vulkan", List.mem_cons_self, rfl⟩
    refine (reads_valued .target (reads_lookup ⟨_, _, word⟩) ⟨_, _, _, word, rfl⟩).mono ?_
    rintro e w ⟨v, u, rfl, ⟨name, hv, rfl⟩, rfl⟩
    obtain ⟨name, hmem, rfl⟩ := target_iff.1 hv
    exact .target hmem

theorem exists_spells (key : Entry.Key) : ∃ e w, Spells e (keyword key :: w) := by
  cases key with
  | kind => exact ⟨_, _, .stage (rfl : Stage.vertex.extension? = _)⟩
  | version => exact ⟨_, _, .version 0⟩
  | strip => exact ⟨_, _, .strip⟩
  | debug => exact ⟨_, _, .debug⟩
  | define => exact ⟨_, _, .define []⟩
  | optimize => exact ⟨_, _, .optimize .zero⟩
  | target => exact ⟨_, _, .target (List.mem_cons_self : _ ∈ Vulkan.targets)⟩

theorem reads_entry : entry.Reads Spells := by
  refine ((reads_lookup ⟨_, _, key_iff.2 (rfl : _ = text Entry.Key.strip.name)⟩).andThen
    reads_entryOf fun key _ _ => exists_spells key).mono ?_
  rintro e w ⟨key, u, v, rfl, ⟨name, hkey, rfl⟩, hv⟩
  obtain rfl := key_iff.1 hkey
  exact hv

/-! ## Lists -/

/-- What a list of entries is written as, of which the last has no comma or all have one. -/
def Collected (list : List Entry × Bool) (w : List Content) : Prop :=
  if list.2 then Listed list.1 w else Leading list.1 w

/-- A list ends in front of what is no identifier, or goes on with an entry. -/
theorem entries_eq : entries =
    branch (fun t => t.kind = .ident)
      (andThen entry fun e => andThen (punct? (text ",")) fun found =>
        if found then andThen entries fun list => yield (e :: list.1, list.2)
        else yield ([e], true))
      (yield ([], false)) := by
  funext s
  rw [entries]
  unfold branch TokenStream.peek
  split
  · rcases he : entry s with ⟨⟨f⟩ | ⟨e⟩, rest⟩
    · rw [andThen_error he]
    · rw [andThen_ok he]
      unfold punct?
      by_cases hc : rest.peekContent (.punct (text ","))
      · simp only [andThen, hc, dif_pos, if_true]
        rcases entries rest.next with ⟨⟨f⟩ | ⟨es, unterminated⟩, rest'⟩ <;> rfl
      · simp [andThen, hc, yield]
  · rfl

/-- What a list is written as behind its first entry. -/
def Continued (e : Entry) (list : List Entry × Bool) (w : List Content) : Prop :=
  (list = ([e], true) ∧ w = []) ∨
    ∃ later v, list = (e :: later.1, later.2) ∧ w = comma :: v ∧ Collected later v

theorem Continued.collected {e : Entry} {list : List Entry × Bool} {w v : List Content}
    (he : Spells e w) (h : Continued e list v) : Collected list (w ++ v) := by
  rcases h with ⟨rfl, rfl⟩ | ⟨⟨es, unterminated⟩, v, rfl, rfl, h⟩
  · rw [List.append_nil]
    exact .one he
  · cases unterminated with
    | false => exact .cons he h
    | true => exact .more he h

/-- What a list is written as behind its first entry and a comma, if one was found there. -/
def Resumed (e : Entry) (found : Bool) (list : List Entry × Bool) (w : List Content) : Prop :=
  if found then ∃ later, list = (e :: later.1, later.2) ∧ Collected later w
  else list = ([e], true) ∧ w = []

theorem Resumed.continued {e : Entry} {found : Bool} {list : List Entry × Bool} {w : List Content}
    (h : Resumed e found list w) : Continued e list ((if found then [comma] else []) ++ w) := by
  cases found with
  | false =>
    obtain ⟨rfl, rfl⟩ := h
    exact .inl ⟨rfl, rfl⟩
  | true =>
    obtain ⟨later, rfl, hlater⟩ := h
    exact .inr ⟨later, w, rfl, rfl, hlater⟩

/-- What comes behind a comma is shorter. -/
theorem length_lt_of_comma {taken tokens rest : List Token} (hrest : rest = taken ++ tokens)
    (hcomma : contents taken = [comma]) : tokens.length < rest.length := by
  have one : taken.length = 1 := by simpa [contents] using congrArg List.length hcomma
  rw [hrest, List.length_append]
  omega

/-- What comes behind the first entry, if what comes behind a comma is read. -/
theorem readsAt_continued {e : Entry} {rest : List Token} (legible : Legible rest)
    (later : ∀ tokens : List Token, tokens.length < rest.length → Legible tokens →
      ReadsAt entries Collected tokens) :
    ReadsAt (andThen (punct? (text ",")) fun found =>
      if found then andThen entries fun list => yield (e :: list.1, list.2)
      else yield ([e], true)) (Continued e) rest := by
  refine ((reads_punct? _ rest legible).andThen legible (S := Resumed e)
    (fun found taken tokens hrest hfound legible' => ?_) fun found _ _ => ?_).mono ?_
  · cases found with
    | false => exact readsAt_yield _ _
    | true =>
      have shorter := length_lt_of_comma hrest hfound
      exact (later tokens shorter legible').map legible' fun list => (e :: list.1, list.2)
  · cases found with
    | false => exact ⟨_, _, rfl, rfl⟩
    | true => exact ⟨_, _, ([], false), rfl, .nil⟩
  · rintro list w ⟨found, u, v, rfl, rfl, h⟩
    exact h.continued

theorem reads_entries : Reads entries Collected := by
  intro tokens legible
  -- every round takes a comma at least, so the induction is on the number of tokens
  induction hn : tokens.length using Nat.strongRecOn generalizing tokens with
  | ind n ih =>
    subst hn
    have continued (e : Entry) (taken rest : List Token) (htokens : tokens = taken ++ rest)
        (legible : Legible rest) := readsAt_continued (e := e) legible fun later shorter hlater =>
      ih later.length (by rw [htokens, List.length_append]; omega) later hlater rfl
    obtain ⟨t, rest, rfl⟩ := legible.eq_cons
    rw [entries_eq]
    refine .branch (fun _ => ?_) (fun _ => (readsAt_yield _ _).mono ?_)
    · refine ((reads_entry _ legible).andThen legible
        (fun e taken rest htokens _ hrest => continued e taken rest htokens hrest)
        fun e _ _ => ⟨_, _, .inl ⟨rfl, rfl⟩⟩).mono ?_
      rintro list w ⟨e, u, v, rfl, he, hv⟩
      exact hv.collected he
    · rintro list w ⟨rfl, rfl⟩
      exact .nil

/-! ## Invocations -/

/-- The options of entries, which change the defaults of an environment. -/
def optionsOf (env : Environment) (es : List Entry) : CompileOptions :=
  es.foldl Entry.apply (.defaults env)

theorem reads_options (env : Environment) :
    (options env).Reads fun list w =>
      ∃ es, list.options = optionsOf env es ∧ Collected (es, list.unterminated) w := by
  have read : Reads entries Collected := reads_entries
  refine (read.map fun list => OptionList.mk (optionsOf env list.1) list.2).mono ?_
  rintro list w ⟨⟨es, unterminated⟩, rfl, h⟩
  exact ⟨es, rfl, h⟩

theorem Collected.options {list : List Entry × Bool} {w : List Content} (h : Collected list w) :
    Options list.1 w := by
  obtain ⟨es, unterminated⟩ := list
  cases unterminated with
  | false => exact options_iff.2 (.inr h)
  | true => exact options_iff.2 (.inl h)

/-- What an option text is read as. -/
theorem reads_optionBody (env : Environment) :
    (andThen (options env) fun list => yield list.options).Reads fun o w =>
      ∃ es, o = optionsOf env es ∧ Options es w := by
  refine ((reads_options env).map fun list => list.options).mono ?_
  rintro o w ⟨list, rfl, es, hes, h⟩
  exact ⟨es, hes, h.options⟩

theorem reads_trailingOptions (env : Environment) :
    (trailingOptions env).Reads fun o w => ∃ es, o = optionsOf env es ∧
      (es = [] ∧ w = [] ∨ ∃ v, w = comma :: v ∧ Options es v) := by
  refine ((reads_punct? _).andThen (S := fun found o w => ∃ es, o = optionsOf env es ∧
    if found then Options es w else es = [] ∧ w = []) (fun found => ?_) fun found _ _ => ?_).mono ?_
  · cases found with
    | false =>
      refine (reads_yield (CompileOptions.defaults env)).mono ?_
      rintro o w ⟨rfl, rfl⟩
      exact ⟨[], rfl, rfl, rfl⟩
    | true => exact reads_optionBody env
  · cases found with
    | false => exact ⟨_, _, [], rfl, rfl, rfl⟩
    | true => exact ⟨_, _, [], rfl, .nothing⟩
  · rintro o w ⟨found, u, v, rfl, rfl, es, rfl, h⟩
    cases found with
    | false => exact ⟨es, rfl, .inl h⟩
    | true => exact ⟨es, rfl, .inr ⟨v, rfl, h⟩⟩

/-- What a file invocation is read as. -/
theorem reads_fileBody (env : Environment) :
    (andThen str fun path => andThen (trailingOptions env) fun o => yield (path, o)).Reads
      fun r w => ∃ es, r.2 = optionsOf env es ∧ FileForm r.1.value es w := by
  refine (reads_str.andThen (fun path => (reads_trailingOptions env).map fun o => (path, o))
    fun path _ _ => ⟨_, _, _, rfl, [], rfl, .inl ⟨rfl, rfl⟩⟩).mono ?_
  rintro r w ⟨path, u, v, rfl, rfl, o, rfl, es, rfl, h⟩
  refine ⟨es, rfl, ?_⟩
  rcases h with ⟨rfl, rfl⟩ | ⟨v, rfl, h⟩
  · exact .path path.value
  · exact .options h

theorem reads_leadingOptions (env : Environment) :
    (leadingOptions env).Reads fun o w => ∃ es, o = optionsOf env es ∧ Leading es w := by
  refine ((reads_options env).andThen (S := fun list o w => o = list.options ∧
    w = if list.unterminated then [comma] else []) (fun list => ?_) fun list _ _ =>
      ⟨_, _, rfl, rfl⟩).mono ?_
  · cases hu : list.unterminated with
    | false => exact reads_yield list.options
    | true =>
      refine ((reads_punct _).map fun _ => list.options).mono ?_
      rintro o w ⟨_, rfl, rfl⟩
      exact ⟨rfl, rfl⟩
  · rintro o w ⟨list, u, v, rfl, ⟨es, hes, h⟩, rfl, rfl⟩
    refine ⟨es, hes, ?_⟩
    cases hu : list.unterminated with
    | false =>
      rw [hu] at h
      have all : Leading es u := h
      simpa using all
    | true =>
      rw [hu] at h
      exact Listed.leading h

/-- What a source invocation is read as. -/
theorem reads_sourceBody (env : Environment) :
    (andThen (leadingOptions env) fun o => andThen str fun source =>
      andThen (punct? (text ",")) fun _ => yield (source, o)).Reads
      fun r w => ∃ es, r.2 = optionsOf env es ∧ SourceForm es r.1.value w := by
  have last (o : CompileOptions) (source : Taken Text) :=
    (reads_punct? (text ",")).map fun _ => (source, o)
  have rest (o : CompileOptions) :=
    reads_str.andThen (last o) fun _ _ _ => ⟨_, [], false, rfl, rfl⟩
  refine ((reads_leadingOptions env).andThen rest fun o _ _ =>
    ⟨_, _, ⟨[], TokenStream.impliedEnd⟩, _, [], rfl, rfl, false, rfl, rfl⟩).mono ?_
  rintro r w ⟨o, u, v, rfl, ⟨es, rfl, h⟩, source, u', v', rfl, rfl, found, rfl, rfl⟩
  cases found with
  | false => exact ⟨es, rfl, .unterminated _ h⟩
  | true => exact ⟨es, rfl, .terminated _ h⟩

end ShaderBuild.Parser
