/-
  The grammar of options and invocations.

  A sentence is what the tokens of a text denote, without the end of the input.

  * `Grammar.Spells`: the ways to write an entry;
  * `Grammar.Options`: option lists;
  * `Grammar.FileForm`, `Grammar.SourceForm`: the two invocations;
  * `Grammar.Begins`, `Grammar.FirstMisfit`: the beginnings of sentences, and the first token up to
    which tokens are none;
  * `Grammar.options_iff`: an option list is a list whose last entry has no comma, or one in which
    every entry has.
-/
import ShaderBuild.Proofs.Invocation.Taking

namespace ShaderBuild.Grammar

open Token (Content)

/-- The comma. -/
def comma : Content := .punct (text ",")

/-- The colon behind a key. -/
def colon : Content := .punct (text ":")

/-- The word for a key. -/
def keyword (key : Entry.Key) : Content := .ident (text key.name)

/-- The ways to write an entry. -/
inductive Spells : Entry → List Content → Prop
  | stage {s : Stage} {name : String} : s.extension? = some name →
      Spells (.stage s) [keyword .kind, colon, .ident (text name)]
  | version (v : UInt32) : Spells (.version v) [keyword .version, colon, .int v.toNat]
  | strip : Spells .strip [keyword .strip]
  | debug : Spells .debug [keyword .debug]
  | define (name : Text) : Spells (.define (name, none)) [keyword .define, colon, .ident name]
  | defineAs (name value : Text) :
      Spells (.define (name, some value)) [keyword .define, colon, .ident name, .str value]
  | optimize (l : OptimizationLevel) :
      Spells (.optimize l) [keyword .optimize, colon, .ident (text l.keyword)]
  | target {name : String} {v : Int} : (name, v) ∈ Vulkan.targets →
      Spells (.target v) [keyword .target, colon, .ident (text name)]

/-- Entries with a comma between any two of them. -/
inductive Listed : List Entry → List Content → Prop
  | one {e w} : Spells e w → Listed [e] w
  | more {e w es v} : Spells e w → Listed es v → Listed (e :: es) (w ++ comma :: v)

/-- An option list: nothing, or entries with a comma between any two, and perhaps one at the end. -/
inductive Options : List Entry → List Content → Prop
  | nothing : Options [] []
  | unterminated {es w} : Listed es w → Options es w
  | terminated {es w} : Listed es w → Options es (w ++ [comma])

/-- Entries with a comma behind each of them. -/
inductive Leading : List Entry → List Content → Prop
  | nil : Leading [] []
  | cons {e w es v} : Spells e w → Leading es v → Leading (e :: es) (w ++ comma :: v)

/-- A file invocation: a path, and perhaps a comma and an option list. -/
inductive FileForm : Text → List Entry → List Content → Prop
  | path (p : Text) : FileForm p [] [.str p]
  | options {p es w} : Options es w → FileForm p es (.str p :: comma :: w)

/-- A source invocation: entries with a comma behind each, a source, and perhaps a comma. -/
inductive SourceForm : List Entry → Text → List Content → Prop
  | unterminated {es w} (source : Text) : Leading es w → SourceForm es source (w ++ [.str source])
  | terminated {es w} (source : Text) : Leading es w →
      SourceForm es source (w ++ [.str source, comma])

/-- The sentences of an option text. -/
def OptionSentence (w : List Content) : Prop := ∃ es, Options es w

/-- The sentences of a file invocation. -/
def FileSentence (w : List Content) : Prop := ∃ p es, FileForm p es w

/-- The sentences of a source invocation. -/
def SourceSentence (w : List Content) : Prop := ∃ es source, SourceForm es source w

/-! ## Tables -/

theorem key_iff {name : Text} {key : Entry.Key} :
    Entry.Key.ofName? name = some key ↔ name = text key.name := by
  constructor
  · intro h
    have found := List.find?_some h
    exact (of_decide_eq_true found).symm
  · rintro rfl
    cases key <;> decide

theorem stage_iff {name : Text} {s : Stage} :
    Stage.ofExtension? name = some s ↔ ∃ extension, s.extension? = some extension ∧
      name = text extension := by
  constructor
  · intro h
    have found := List.find?_some h
    obtain ⟨extension, he, hname⟩ := Option.map_eq_some_iff.1 (of_decide_eq_true found)
    exact ⟨extension, he, hname.symm⟩
  · rintro ⟨extension, he, rfl⟩
    cases s <;> cases he <;> decide

theorem level_iff {name : Text} {l : OptimizationLevel} :
    OptimizationLevel.ofKeyword? name = some l ↔ name = text l.keyword := by
  constructor
  · intro h
    have found := List.find?_some h
    exact (of_decide_eq_true found).symm
  · rintro rfl
    cases l <;> decide

theorem target_iff {name : Text} {v : Int} :
    Vulkan.target? name = some v ↔ ∃ word, (word, v) ∈ Vulkan.targets ∧ name = text word := by
  unfold Vulkan.target?
  constructor
  · intro h
    obtain ⟨⟨word, v'⟩, hfind, rfl⟩ := Option.map_eq_some_iff.1 h
    have found := List.find?_some hfind
    exact ⟨word, List.mem_of_find?_eq_some hfind, (of_decide_eq_true found).symm⟩
  · rintro ⟨word, hmem, rfl⟩
    simp only [Vulkan.targets, List.mem_cons, Prod.mk.injEq, List.not_mem_nil, or_false] at hmem
    rcases hmem with ⟨rfl, rfl⟩ | ⟨rfl, rfl⟩ | ⟨rfl, rfl⟩ | ⟨rfl, rfl⟩ | ⟨rfl, rfl⟩ <;> decide

/-! ## Option lists -/

theorem Listed.leading {es : List Entry} {w : List Content} (h : Listed es w) :
    Leading es (w ++ [comma]) := by
  induction h with
  | one he => exact .cons he .nil
  | more he _ ih =>
    rw [List.append_assoc]
    exact .cons he ih

theorem Leading.options {es : List Entry} {w : List Content} (h : Leading es w) : Options es w := by
  induction h with
  | nil => exact .nothing
  | cons he _ ih =>
    cases ih with
    | nothing => exact .terminated (.one he)
    | unterminated h => exact .unterminated (.more he h)
    | @terminated _ v h =>
      rw [← List.cons_append, ← List.append_assoc]
      exact .terminated (.more he h)

/-- An option list is one whose last entry has no comma behind it, or one in which all have. -/
theorem options_iff {es : List Entry} {w : List Content} :
    Options es w ↔ Listed es w ∨ Leading es w := by
  constructor
  · intro h
    cases h with
    | nothing => exact .inr .nil
    | unterminated h => exact .inl h
    | terminated h => exact .inr h.leading
  · rintro (h | h)
    · exact .unterminated h
    · exact h.options

/-! ## Beginnings -/

/-- Does a sentence of a language, with the end of the input behind it, begin like that? -/
def Begins (L : List Content → Prop) (beginning : List Content) : Prop :=
  ∃ w v, L w ∧ w ++ [.finish] = beginning ++ v

/-- Are the tokens a sentence of a language, with the end of the input behind it? -/
def Accepts (L : List Content → Prop) (tokens : List Token) : Prop :=
  ∃ w, L w ∧ contents tokens = w ++ [.finish]

/-- The first token with which the tokens up to it do not begin a sentence of a language. -/
def FirstMisfit (L : List Content → Prop) (tokens : List Token) (t : Token) : Prop :=
  ∃ before after, tokens = before ++ t :: after ∧ Begins L (contents before) ∧
    ¬ Begins L (contents (before ++ [t]))

/-- A result is a success for the sentences of a language, and otherwise cites the first misfit. -/
structure Judges {α : Type} (L : List Content → Prop) (tokens : List Token)
    (result : Except Fault α) : Prop where
  accepts : (∃ a, result = .ok a) ↔ Accepts L tokens
  rejects : ∀ f, result = .error f → ∃ fault t, f = .config fault t.span ∧ FirstMisfit L tokens t

end ShaderBuild.Grammar
