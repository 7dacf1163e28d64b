/-
  The options of a list, field by field.

  An entry assigns one field.  The last entry for a field counts, macros are collected, and the
  fields that no entry assigns have their defaults; so only entries for the same field have to keep
  their order.

  * `Entry.Field`, `Entry.assigned`: the fields of options, and the one that an entry assigns;
  * `Entry.value?`, `Entry.values`: what an entry says about a field, and what a list says about it;
  * `CompileOptions.ofEntries`: the options that entries describe, field by field;
  * `Parser.optionsOf_eq`: the entries one after the other make these options;
  * `Entry.Reorders`: lists of entries that differ in the order of different fields only;
  * `options_by_field`: what is read from an option list, whatever order its entries are in.
-/
import ShaderBuild.Proofs.Options.Consumption
import ShaderBuild.Proofs.Options.Recognition
import Mathlib.Data.List.Induction

namespace ShaderBuild

open Token (Content)
open Grammar

namespace Entry

/-- The fields of options. -/
inductive Field where
  | stage
  | version
  | debug
  | definitions
  | optimization
  | target
  deriving DecidableEq

/-- What one entry can say about a field. -/
abbrev Field.Value : Field → Type
  | .stage => Stage
  | .version => UInt32
  | .debug => Bool
  | .definitions => Definition
  | .optimization => OptimizationLevel
  | .target => Int

/-- The field that an entry assigns, with what it says about the field. -/
def assigned : Entry → (f : Field) × f.Value
  | .stage s => ⟨.stage, s⟩
  | .version v => ⟨.version, v⟩
  | .strip => ⟨.debug, false⟩
  | .debug => ⟨.debug, true⟩
  | .define d => ⟨.definitions, d⟩
  | .optimize l => ⟨.optimization, l⟩
  | .target v => ⟨.target, v⟩

/-- The field that an entry assigns. -/
def field (e : Entry) : Field := e.assigned.1

/-- What an entry says about a field, if it assigns that. -/
def value? (f : Field) (e : Entry) : Option f.Value :=
  if h : e.field = f then some (h ▸ e.assigned.2) else none

theorem isSome_value? {f : Field} {e : Entry} : (e.value? f).isSome ↔ e.field = f := by
  unfold value?
  split
  · exact iff_of_true rfl ‹_›
  · exact iff_of_false Bool.false_ne_true ‹_›

theorem value?_of_ne {f : Field} {e : Entry} (h : e.field ≠ f) : e.value? f = none :=
  Option.not_isSome_iff_eq_none.1 (mt isSome_value?.1 h)

/-- What the entries of a list say about a field, in order. -/
def values (f : Field) (es : List Entry) : List f.Value := es.filterMap (value? f)

theorem values_cons (f : Field) (e : Entry) (es : List Entry) :
    values f (e :: es) = (e.value? f).toList ++ values f es := by
  unfold values
  rw [List.filterMap_cons]
  cases e.value? f <;> rfl

theorem values_filter (f : Field) (es : List Entry) :
    values f (es.filter fun e => e.field = f) = values f es := by
  unfold values
  rw [List.filterMap_filter]
  congr 1
  funext e
  by_cases h : e.field = f
  · simp [h]
  · simp [h, value?_of_ne h]

theorem values_ne_nil {f : Field} {es : List Entry} (h : ∃ e ∈ es, e.field = f) :
    values f es ≠ [] := by
  obtain ⟨e, he, hf⟩ := h
  obtain ⟨v, hv⟩ := Option.isSome_iff_exists.1 (isSome_value?.2 hf)
  exact List.ne_nil_of_mem (List.mem_filterMap.2 ⟨e, he, hv⟩)

/-- Lists of entries that differ in the order of different fields only. -/
structure Reorders (es es' : List Entry) : Prop where
  perm : es.Perm es'
  order : ∀ f, es.filter (fun e => e.field = f) = es'.filter (fun e => e.field = f)

theorem Reorders.values {es es' : List Entry} (h : Reorders es es') (f : Field) :
    values f es = values f es' := by
  rw [← values_filter f es, h.order f, values_filter]

end Entry

attribute [ext] CompileOptions

namespace CompileOptions

/-- The options that entries describe: the last entry for a field counts, and macros are collected.
    The environment decides on what no entry tells. -/
def ofEntries (env : Environment) (es : List Entry) : CompileOptions where
  stage := (Entry.values .stage es).getLast?
  version := (Entry.values .version es).getLast?
  debug := (Entry.values .debug es).getLast?.getD (!env.flag Environment.stripFlag)
  definitions := Entry.values .definitions es
  optimization := (Entry.values .optimization es).getLast?.getD
    (if env.flag Environment.zeroFlag then .zero else .performance)
  target := (Entry.values .target es).getLast?.getD Vulkan.version1_0

theorem ofEntries_reorders {es es' : List Entry} (h : Entry.Reorders es es') (env : Environment) :
    ofEntries env es = ofEntries env es' := by
  simp only [ofEntries, h.values]

/-- The environment does not count if entries tell about all that it decides. -/
theorem ofEntries_env {es : List Entry} (debug : ∃ e ∈ es, e.field = .debug)
    (optimization : ∃ e ∈ es, e.field = .optimization) (env env' : Environment) :
    ofEntries env es = ofEntries env' es := by
  have last {f : Entry.Field} (h : ∃ e ∈ es, e.field = f) :
      ∃ v, (Entry.values f es).getLast? = some v :=
    ⟨_, List.getLast?_eq_some_getLast (Entry.values_ne_nil h)⟩
  obtain ⟨d, hd⟩ := last debug
  obtain ⟨l, hl⟩ := last optimization
  simp only [ofEntries, hd, hl, Option.getD_some]

end CompileOptions

/-! ## One entry after the other -/

/-- If an entry replaces a part of the options by what it says about a field, the part is what the
    last entry says that says something about the field. -/
theorem Entry.get_foldl_apply {γ : Type} {f : Field} (get : CompileOptions → γ) (make : f.Value → γ)
    (step : ∀ o e, get (apply o e) = (e.value? f).elim (get o) make) (es : List Entry)
    (o : CompileOptions) :
    get (es.foldl apply o) = (values f es).getLast?.elim (get o) make := by
  -- the last entry acts last
  induction es using List.reverseRecOn with
  | nil => rfl
  | append_singleton es e ih =>
    rw [List.foldl_append, List.foldl_cons, List.foldl_nil, step, ih]
    unfold values
    rw [List.filterMap_append]
    cases he : e.value? f with
    | none => simp [he]
    | some v => simp [he]

theorem Entry.definitions_foldl_apply (es : List Entry) (o : CompileOptions) :
    (es.foldl apply o).definitions = o.definitions ++ values .definitions es := by
  induction es generalizing o with
  | nil => exact (List.append_nil _).symm
  | cons e es ih =>
    have step : (apply o e).definitions = o.definitions ++ (e.value? .definitions).toList := by
      cases e with
      | define d => rfl
      | _ => exact (List.append_nil _).symm
    rw [List.foldl_cons, ih, step, values_cons, List.append_assoc]

namespace Parser

/-- The entries one after the other make the options that they describe. -/
theorem optionsOf_eq (env : Environment) (es : List Entry) :
    optionsOf env es = .ofEntries env es := by
  have replaced {γ : Type} (f : Entry.Field) (get : CompileOptions → γ) (make : f.Value → γ)
      (step : ∀ o e, get (Entry.apply o e) = (e.value? f).elim (get o) make) :=
    Entry.get_foldl_apply get make step es (.defaults env)
  have elim_some {β : Type} (x : Option β) : x.elim none some = x := by cases x <;> rfl
  have elim_id {β : Type} (x : Option β) (b : β) : x.elim b id = x.getD b := by cases x <;> rfl
  apply CompileOptions.ext
  · exact (replaced .stage CompileOptions.stage some fun o e => by cases e <;> rfl).trans
      (elim_some _)
  · exact (replaced .version CompileOptions.version some fun o e => by cases e <;> rfl).trans
      (elim_some _)
  · exact (replaced .debug CompileOptions.debug id fun o e => by cases e <;> rfl).trans
      (elim_id _ _)
  · exact Entry.definitions_foldl_apply es (.defaults env)
  · exact (replaced .optimization CompileOptions.optimization id fun o e => by
      cases e <;> rfl).trans (elim_id _ _)
  · exact (replaced .target CompileOptions.target id fun o e => by cases e <;> rfl).trans
      (elim_id _ _)

theorem options_eq_ok_iff {env : Environment} {start s : TokenStream} {list : OptionList} :
    options env start = (.ok list, s) ↔ ∃ es,
      entries start = (.ok (es, list.unterminated), s) ∧ list.options = .ofEntries env es := by
  constructor
  · intro run
    rcases read : entries start with ⟨⟨f⟩ | ⟨es, unterminated⟩, s'⟩
    · rw [options, andThen_error read] at run
      cases run
    · rw [options, andThen_ok read] at run
      cases run
      exact ⟨es, rfl, optionsOf_eq env es⟩
  · rintro ⟨es, read, described⟩
    obtain ⟨o, unterminated⟩ := list
    obtain rfl : o = optionsOf env es := described.trans (optionsOf_eq env es).symm
    exact andThen_ok read

end Parser

/-- **Only entries for the same field have to keep their order.**

    The options of a list that is read have from each field what the last entry for the field says,
    all macros in order, and for the other fields the defaults.  So the same is read from the
    entries in another order, as a list of its own or in front of what goes on with a source, if
    those for the same field keep theirs; and it is read in every environment if there are entries
    for debug information and for the optimization level. -/
theorem options_by_field {env : Environment} {tokens : List Token} {list : OptionList}
    {s : TokenStream} (run : Parser.options env ⟨tokens⟩ = (.ok list, s)) :
    ∃ es taken rest, tokens = taken ++ rest ∧ s = ⟨rest⟩ ∧
      Parser.Collected (es, list.unterminated) (contents taken) ∧
      list.options = .ofEntries env es ∧
      (∀ es', Entry.Reorders es es' → ∀ (taken' : List Token) (t : Token) (rest' : List Token),
        (Listed es' (contents taken') → t.content = .finish →
          Parser.options env ⟨taken' ++ t :: rest'⟩ = (.ok ⟨list.options, true⟩, ⟨t :: rest'⟩)) ∧
        (Leading es' (contents taken') → t.kind ≠ .ident →
          Parser.options env ⟨taken' ++ t :: rest'⟩
            = (.ok ⟨list.options, false⟩, ⟨t :: rest'⟩))) ∧
      ((∃ e ∈ es, e.field = .debug) → (∃ e ∈ es, e.field = .optimization) →
        ∀ env', Parser.options env' ⟨tokens⟩ = (.ok list, s)) := by
  obtain ⟨es, read, described⟩ := Parser.options_eq_ok_iff.1 run
  obtain ⟨taken, rest, rfl, rfl, collected⟩ := Parser.consumes_entries tokens _ _ read
  refine ⟨es, taken, rest, rfl, rfl, collected, described, ?_, ?_⟩
  · intro es' reorders taken' t rest'
    have same : list.options = .ofEntries env es' :=
      described.trans (CompileOptions.ofEntries_reorders reorders env)
    constructor
    · intro listed ht
      exact Parser.options_eq_ok_iff.2 ⟨es', Parser.entries_of_listed listed rfl ht, same⟩
    · intro leading ht
      exact Parser.options_eq_ok_iff.2 ⟨es', Parser.entries_of_leading leading rfl ht, same⟩
  · intro debug optimization env'
    have same : list.options = .ofEntries env' es :=
      described.trans (CompileOptions.ofEntries_env debug optimization env env')
    exact Parser.options_eq_ok_iff.2 ⟨es, read, same⟩

/-- The entries for debug information keep their order, and so do the macros; the level may come
    first, and a source behind the list. -/
theorem options_by_field_level_first :
    let token (c : Content) : Token := ⟨c, ⟨1, 0, [], []⟩⟩
    let define (name : String) := [keyword .define, colon, .ident (text name)]
    let level := [keyword .optimize, colon, .ident (text "zero")]
    let w := [keyword .strip] ++ comma :: (define "A" ++ comma ::
      ([keyword .debug] ++ comma :: (define "B" ++ comma :: level)))
    let w' := level ++ comma :: (define "A" ++ comma :: (define "B" ++ comma ::
      ([keyword .strip] ++ comma :: ([keyword .debug] ++ [comma]))))
    let last := token .finish
    let source := token (.str (text "void main() { }"))
    let o : CompileOptions :=
      { stage := none, version := none, debug := true
        definitions := [(text "A", none), (text "B", none)]
        optimization := .zero, target := Vulkan.version1_0 }
    (∀ env, Parser.options env ⟨w.map token ++ [last]⟩ = (.ok ⟨o, true⟩, ⟨[last]⟩)) ∧
      Parser.options [] ⟨w'.map token ++ [source]⟩ = (.ok ⟨o, false⟩, ⟨[source]⟩) := by
  intro token define level w w' last source o
  have contents_token (v : List Content) : contents (v.map token) = v := by
    simp [contents, token, Function.comp_def]
  let es : List Entry := [.strip, .define (text "A", none), .debug, .define (text "B", none),
    .optimize .zero]
  let es' : List Entry := [.optimize .zero, .define (text "A", none), .define (text "B", none),
    .strip, .debug]
  have listed : Listed es w :=
    .more .strip (.more (.define _) (.more .debug (.more (.define _) (.one (.optimize .zero)))))
  have leading : Leading es' w' :=
    .cons (.optimize .zero) (.cons (.define _) (.cons (.define _)
      (.cons .strip (.cons .debug .nil))))
  have read : Parser.entries ⟨w.map token ++ [last]⟩ = (.ok (es, true), ⟨[last]⟩) :=
    Parser.entries_of_listed listed (contents_token w) rfl
  have run : Parser.options [] ⟨w.map token ++ [last]⟩ = (.ok ⟨o, true⟩, ⟨[last]⟩) :=
    Parser.options_eq_ok_iff.2 ⟨es, read, by decide +kernel⟩
  obtain ⟨found, taken, rest, htokens, hrest, collected, -, reordered, everywhere⟩ :=
    options_by_field run
  cases hrest
  -- the list that is found is the one that is written
  have again : Parser.entries ⟨taken ++ [last]⟩ = (.ok (found, true), ⟨[last]⟩) :=
    Parser.entries_of_listed collected rfl rfl
  rw [← htokens, read] at again
  cases again
  have reorders : Entry.Reorders es es' := ⟨by decide, by rintro (_ | _ | _ | _ | _ | _) <;> decide⟩
  refine ⟨everywhere ⟨.strip, by decide, rfl⟩ ⟨.optimize .zero, by decide, rfl⟩, ?_⟩
  refine (reordered es' reorders (w'.map token) source []).2 ?_ (by decide)
  rw [contents_token]
  exact leading

end ShaderBuild
