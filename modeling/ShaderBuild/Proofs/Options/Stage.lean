/-
  The stage of a shader.

  Options may give the stage.  Where they do not, the name of the file may tell it: the name must be
  a stem that is more than dots, a dot, and a word for a stage.  Where the name does not either, the
  source is to tell it.  The words are those of the option for the stage.

  * `Path.lastComponent_eq_iff`, `Path.extension?_eq_some_iff`: the parts of a path that count;
  * `Stage.Tells`, `Path.Tells`: names and paths that tell a stage;
  * `CompileOptions.stageFor_eq_iff`: the stage for a path, where options give none;
  * `OptionsArgument.parse_stage`: the option for the stage, read as a text;
  * `CompileOptions.stage_selected`: all of them together.
-/
import ShaderBuild.Proofs.Invocation.Layout
import ShaderBuild.Proofs.Options.Fields
import ShaderBuild.Proofs.Options.Forms
import ShaderBuild.Proofs.Path.Joined

namespace ShaderBuild

/-! ## Parts of a path -/

namespace Path

variable {p name stem extension : Text}

/-- The last component of a path is all of it, if there is no slash, or what is behind the last
    slash. -/
theorem lastComponent_eq_iff : lastComponent p = name ↔
    slash ∉ name ∧ (p = name ∨ ∃ directory, p = directory ++ slash :: name) := by
  constructor
  · rintro rfl
    rcases lastComponent_cases p with h | ⟨directory, c, h, rfl⟩
    · rw [lastComponent_of_notMem h]
      exact ⟨h, .inl rfl⟩
    · rw [lastComponent_append h]
      exact ⟨h, .inr ⟨directory, rfl⟩⟩
  · rintro ⟨h, rfl | ⟨directory, rfl⟩⟩
    · exact lastComponent_of_notMem h
    · exact lastComponent_append h directory

/-- What `extension?` cuts off at the end of a name. -/
theorem takeWhile_extension (h : ('.' : CodePoint) ∉ extension) (before : Text) :
    ((before ++ extension).reverse.takeWhile fun c : CodePoint => c ≠ '.') =
      extension.reverse ++ before.reverse.takeWhile fun c : CodePoint => c ≠ '.' := by
  rw [List.reverse_append, List.takeWhile_append_of_pos]
  intro c hc
  rw [decide_eq_true_iff]
  rintro rfl
  exact h (List.mem_reverse.1 hc)

theorem extension?_of_append (hp : lastComponent p = stem ++ ('.' : CodePoint) :: extension)
    (h : ('.' : CodePoint) ∉ extension) :
    extension? p = if stem.any fun c : CodePoint => c ≠ '.' then some extension else none := by
  have cut : ((lastComponent p).reverse.takeWhile fun c : CodePoint => c ≠ '.') =
      extension.reverse := by
    rw [hp, List.append_cons, takeWhile_extension h]
    simp
  have before : (lastComponent p).length - extension.length - 1 = stem.length := by
    rw [hp, List.length_append, List.length_cons]
    omega
  simp only [extension?, cut, List.reverse_reverse, before]
  rw [hp, List.take_left]

theorem extension?_of_notMem (h : ('.' : CodePoint) ∉ lastComponent p) : extension? p = none := by
  have cut := takeWhile_extension h []
  rw [List.nil_append, List.reverse_nil, List.takeWhile_nil, List.append_nil] at cut
  simp only [extension?, cut, List.reverse_reverse, Nat.sub_self, Nat.zero_sub, List.take_zero]
  rfl

/-- A file name is cut at its last dot, if the stem before that dot is more than dots. -/
theorem extension?_eq_some_iff : extension? p = some extension ↔
    ('.' : CodePoint) ∉ extension ∧
      ∃ stem, lastComponent p = stem ++ ('.' : CodePoint) :: extension ∧ ∃ c ∈ stem, c ≠ '.' := by
  constructor
  · intro h
    by_cases dotted : ('.' : CodePoint) ∈ lastComponent p
    · obtain ⟨behind, before, cut, undotted⟩ :=
        List.eq_append_cons_of_mem (List.mem_reverse.2 dotted)
      have hp : lastComponent p = before.reverse ++ ('.' : CodePoint) :: behind.reverse := by
        rw [← List.reverse_reverse (lastComponent p), cut]
        simp
      have undotted : ('.' : CodePoint) ∉ behind.reverse := by simpa using undotted
      rw [extension?_of_append hp undotted] at h
      obtain ⟨stem, same⟩ := Option.ite_none_right_eq_some.1 h
      obtain rfl := Option.some.inj same
      exact ⟨undotted, _, hp, by simpa using stem⟩
    · rw [extension?_of_notMem dotted] at h
      cases h
  · rintro ⟨undotted, stem, hp, c, hc, other⟩
    rw [extension?_of_append hp undotted, if_pos]
    exact List.any_eq_true.2 ⟨c, hc, by simpa using other⟩

end Path

/-! ## Names that tell a stage -/

/-- A file name tells a stage: it is a stem that is more than dots, a dot, and the word for the
    stage. -/
def Stage.Tells (stage : Stage) (name : Text) : Prop :=
  ∃ stem word, stage.extension? = some word ∧ name = stem ++ ('.' : CodePoint) :: text word ∧
    ∃ c ∈ stem, c ≠ '.'

/-- A path tells a stage if what is behind its last slash does. -/
def Path.Tells (p : Text) (stage : Stage) : Prop :=
  ∃ name, Path.slash ∉ name ∧ (p = name ∨ ∃ directory, p = directory ++ Path.slash :: name) ∧
    stage.Tells name

namespace Stage

variable {stage : Stage} {word : String}

/-- A word for a stage is a name without a dot. -/
theorem word_facts (h : stage.extension? = some word) : ('.' : CodePoint) ∉ text word ∧
    ∃ initial rest, text word = initial :: rest ∧ initial.isLetter ∧ ∀ c ∈ rest, c.isNamePart := by
  cases stage <;> cases h <;> exact ⟨by decide, _, _, rfl, by decide, by decide⟩

end Stage

namespace Path

variable {p : Text} {stage : Stage}

theorem tells_iff_lastComponent : Tells p stage ↔ stage.Tells (lastComponent p) := by
  constructor
  · rintro ⟨name, plain, named, told⟩
    rwa [lastComponent_eq_iff.2 ⟨plain, named⟩]
  · intro told
    obtain ⟨plain, named⟩ := lastComponent_eq_iff.1 (rfl : lastComponent p = _)
    exact ⟨_, plain, named, told⟩

/-- A path tells the stage that stands for its extension. -/
theorem tells_iff : Tells p stage ↔ (extension? p).bind Stage.ofExtension? = some stage := by
  rw [tells_iff_lastComponent, Option.bind_eq_some_iff]
  constructor
  · rintro ⟨stem, word, hword, named, more⟩
    exact ⟨text word, extension?_eq_some_iff.2 ⟨(Stage.word_facts hword).1, stem, named, more⟩,
      Grammar.stage_iff.2 ⟨word, hword, rfl⟩⟩
  · rintro ⟨extension, hp, listed⟩
    obtain ⟨word, hword, rfl⟩ := Grammar.stage_iff.1 listed
    obtain ⟨-, stem, named, more⟩ := extension?_eq_some_iff.1 hp
    exact ⟨stem, word, hword, named, more⟩

end Path

/-! ## The stage for a path -/

namespace CompileOptions

variable {o : CompileOptions} {path : Option Text} {stage : Stage}

theorem stageFor_of_given (h : o.stage = some stage) (path : Option Text) :
    o.stageFor path = stage := by
  rw [stageFor, h]

/-- Where options give no stage, it is what stands for the extension of the path. -/
theorem stageFor_of_none (h : o.stage = none) (path : Option Text) : o.stageFor path =
    ((path.bind Path.extension?).bind Stage.ofExtension?).getD .inferFromSource := by
  rw [stageFor, h]
  cases path.bind Path.extension? <;> rfl

/-- Where options give no stage, it is the one that the path tells, or else the source is to tell
    it. -/
theorem stageFor_eq_iff (h : o.stage = none) : o.stageFor path = stage ↔
    (∃ p, path = some p ∧ Path.Tells p stage) ∨
      stage = .inferFromSource ∧ ∀ p, path = some p → ∀ other, ¬ Path.Tells p other := by
  have selected : o.stageFor path = stage ↔
      (path.bind Path.extension?).bind Stage.ofExtension? = some stage ∨
        stage = .inferFromSource ∧ (path.bind Path.extension?).bind Stage.ofExtension? = none := by
    rw [stageFor_of_none h]
    cases (path.bind Path.extension?).bind Stage.ofExtension? <;> simp [eq_comm]
  rw [selected, Option.bind_assoc, Option.bind_eq_some_iff]
  simp only [Path.tells_iff]
  refine or_congr_right (and_congr_right fun _ => ?_)
  cases path with
  | none => simp
  | some p => simp [Option.eq_none_iff_forall_ne_some]

/-- The directory of a file makes no difference. -/
theorem stageFor_append {name : Text} (h : Path.slash ∉ name) (o : CompileOptions)
    (directory : Text) :
    o.stageFor (some (directory ++ Path.slash :: name)) = o.stageFor (some name) := by
  have same : Path.extension? (directory ++ Path.slash :: name) = Path.extension? name := by
    unfold Path.extension?
    rw [Path.lastComponent_append h, Path.lastComponent_of_notMem h]
  simp only [stageFor, Option.bind_some, same]

end CompileOptions

/-! ## The option for the stage -/

namespace OptionsArgument

open Token (Content)
open Grammar

variable {stage : Stage} {word : String}

/-- The option for a stage, as it is laid out in a text. -/
theorem tokenize_stage (h : stage.extension? = some word) (origin : Text) : ∃ taken last,
    tokenize (ShaderBuild.text "kind: " ++ ShaderBuild.text word) origin = .ok (taken ++ [last]) ∧
      contents taken = [keyword .kind, colon, .ident (ShaderBuild.text word)] ∧
      last.content = .finish := by
  obtain ⟨-, initial, rest, hword, isLetter, isName⟩ := Stage.word_facts h
  let key : Layout.Item := .word 'k' (ShaderBuild.text "ind") (by decide) (by decide)
  let layout : Layout :=
    { pieces := [([], key), ([], .colon), ([.space], .word initial rest isLetter isName)]
      apart := by simp [Layout.Pieces.Apart, Layout.Item.IsSymbol, Layout.Item.kind, key]
      last := []
      remark := none }
  have spelled : layout.spelling = ShaderBuild.text "kind: " ++ ShaderBuild.text word := by
    rw [hword]
    simp [layout, Layout.spelling, Layout.Pieces.spelling, Layout.Gap.spelling,
      Layout.Filler.spelling, Layout.Item.spelling, key]
    rfl
  refine ⟨_, _, spelled ▸ layout.tokenize_spelling origin, ?_, rfl⟩
  rw [hword]
  rfl

/-- The option for a stage gives that stage, in every environment. -/
theorem parse_stage (h : stage.extension? = some word) (env : Environment) : ∃ o,
    parse env (ShaderBuild.text "kind: " ++ ShaderBuild.text word) = .ok o ∧
      o.stage = some stage := by
  obtain ⟨taken, last, tokens, spelled, finish⟩ := tokenize_stage h origin
  have entry : Options [.stage stage] (contents taken) :=
    spelled ▸ .unterminated (.one (.stage h))
  refine ⟨Parser.optionsOf env [.stage stage], ?_, rfl⟩
  rw [parse, ofText_of_tokenize tokens]
  exact congrArg Prod.fst (Parser.optionText_of_options env entry rfl finish)

end OptionsArgument

/-! ## Selection -/

namespace CompileOptions

/-- **The stage of a shader.**

    The stage that is given counts.  If none is given, it is the one that the path tells, and if
    there is no path or it tells none, the source is to tell it.  The directory makes no difference.
    A file that tells a stage is compiled as any path is with the word for that stage as a text of
    options. -/
theorem stage_selected (o : CompileOptions) :
    (∀ stage, o.stage = some stage → ∀ path, o.stageFor path = stage) ∧
    (o.stage = none → ∀ path stage, o.stageFor path = stage ↔
      (∃ p, path = some p ∧ Path.Tells p stage) ∨
        stage = .inferFromSource ∧ ∀ p, path = some p → ∀ other, ¬ Path.Tells p other) ∧
    (∀ directory name, Path.slash ∉ name →
      o.stageFor (some (directory ++ Path.slash :: name)) = o.stageFor (some name)) ∧
    (o.stage = none → ∀ file stage word, Path.Tells file stage → stage.extension? = some word →
      ∀ env, ∃ told,
        OptionsArgument.parse env (text "kind: " ++ text word) = .ok told ∧
        ∀ path, o.stageFor (some file) = told.stageFor path) := by
  refine ⟨fun stage => stageFor_of_given, fun h path stage => stageFor_eq_iff h,
    fun directory name plain => stageFor_append plain o directory, ?_⟩
  intro h file stage word told hword env
  obtain ⟨o', parsed, given⟩ := OptionsArgument.parse_stage hword env
  refine ⟨o', parsed, fun path => ?_⟩
  rw [stageFor_of_given given, (stageFor_eq_iff h).2 (.inl ⟨file, rfl, told⟩)]

/-- A file with dots before and in its stem, in a directory with a dot, and one of dots and a word
    alone. -/
theorem stage_selected_dotted :
    let o : CompileOptions := .defaults []
    let file := text "/w.frag/..a.comp.vert"
    Path.Tells file .vertex ∧ o.stageFor (some file) = .vertex ∧
      o.stageFor (some (text "a.vert/...vert")) = .inferFromSource ∧
      ({ o with stage := some .mesh }).stageFor (some file) = .mesh ∧
      o.stageFor (some file) = o.stageFor (some (text "..a.comp.vert")) ∧
      ∃ told, OptionsArgument.parse [] (text "kind: vert") = .ok told ∧
        o.stageFor (some file) = told.stageFor (some (text "b.frag")) := by
  intro o file
  have told : Path.Tells file .vertex :=
    ⟨text "..a.comp.vert", by decide, .inr ⟨text "/w.frag", rfl⟩, text "..a.comp", "vert", rfl, rfl,
      'a', by decide, by decide⟩
  have untold (stage : Stage) : ¬ Path.Tells (text "a.vert/...vert") stage := by
    rw [Path.tells_iff, show Path.extension? (text "a.vert/...vert") = none from rfl]
    exact nofun
  obtain ⟨-, selected, placed, worded⟩ := stage_selected o
  obtain ⟨given, -⟩ := stage_selected { o with stage := some .mesh }
  obtain ⟨o', parsed, same⟩ := worded rfl file .vertex "vert" told rfl []
  refine ⟨told, (selected rfl _ _).2 (.inl ⟨_, rfl, told⟩),
    (selected rfl _ _).2 (.inr ⟨rfl, ?_⟩), given _ rfl _,
    placed (text "/w.frag") _ (by decide), o', parsed, same _⟩
  rintro _ ⟨⟩
  exact untold

end CompileOptions

end ShaderBuild
