/-
  Options in a text, and options by arguments.

  Both ways give the same options: what is read from a list may be given by arguments, and what is
  given by arguments may be written as a list, as long as there are words for its stage and its
  target.

  * `CompileOptions.fields`, `CompileOptions.make_fields`: the arguments that tell all of the
    options;
  * `CompileOptions.IsNamed`: are there words for the stage and the target?
  * `CompileOptions.entries`, `CompileOptions.ofEntries_entries`: the entries that tell all of the
    options;
  * `options_by_argument`: a list and arguments can tell the same.
-/
import ShaderBuild.Compiler.Basic
import ShaderBuild.Proofs.Options.Fields

namespace ShaderBuild

open Token (Content)
open Grammar

/-! ## Numbers -/

theorem Stage.ofDatum?_code (s : Stage) : ofDatum? (.int s.code) = some s := by
  cases s <;> rfl

theorem OptimizationLevel.ofDatum?_code (l : OptimizationLevel) :
    ofDatum? (.int l.code) = some l := by
  cases l <;> rfl

namespace CompileOptions

/-- The arguments that tell all of the options. -/
def fields (o : CompileOptions) : OptionFields where
  stage := o.stage.map fun s => .int s.code
  version := o.version.map fun v => .int v.toNat
  debug := some o.debug
  definitions := some o.definitions
  optimization := some (.int o.optimization.code)
  target := o.target

variable {c : CompileOptions} {env : Environment}

theorem make_fields (env : Environment) (o : CompileOptions) : make env o.fields = .ok o := by
  have stage : makeStage o.fields.stage = .ok o.stage := by
    cases h : o.stage with
    | none => simp [fields, makeStage, h]
    | some s => simp [fields, makeStage, h, Stage.ofDatum?_code]
  have level :
      makeLevel (defaults env).optimization o.fields.optimization = .ok o.optimization := by
    simp [fields, makeLevel, OptimizationLevel.ofDatum?_code]
  have version : makeVersion o.fields.version = .ok o.version := by
    cases h : o.version with
    | none => simp [fields, makeVersion, h]
    | some v =>
      have inRange : version? v.toNat = some v := Parser.version?_eq_some.2 rfl
      simp [fields, makeVersion, h, Datum.isNumber, Datum.int?, inRange]
  rw [make, stage, level, version]
  rfl

theorem makeLog_fields (env : Environment) (o : CompileOptions) : makeLog env o.fields = [] := rfl

/-! ## Entries -/

/-- Are there words for the stage and the target? -/
structure IsNamed (c : CompileOptions) : Prop where
  stage : ∀ s, c.stage = some s → s.extension?.isSome
  target : c.target ∈ Vulkan.targets.map (·.2)

/-- The entries that tell all of the options. -/
def entries (c : CompileOptions) : List Entry :=
  c.stage.toList.map .stage ++ c.version.toList.map .version
    ++ [if c.debug then .debug else .strip] ++ c.definitions.map .define
    ++ [.optimize c.optimization] ++ [.target c.target]

theorem values_entries (c : CompileOptions) (f : Entry.Field) : Entry.values f c.entries =
    match f with
    | .stage => c.stage.toList
    | .version => c.version.toList
    | .debug => [c.debug]
    | .definitions => c.definitions
    | .optimization => [c.optimization]
    | .target => [c.target] := by
  have nothing {β γ : Type} (bs : List β) : bs.filterMap (fun _ => (none : Option γ)) = [] :=
    List.filterMap_eq_nil_iff.2 fun _ _ => rfl
  cases f <;> cases hd : c.debug <;>
    simp [entries, Entry.values, Entry.value?, Entry.field, Entry.assigned, hd, Function.comp_def,
      nothing]

theorem ofEntries_entries (env : Environment) (c : CompileOptions) :
    ofEntries env c.entries = c := by
  have last {β : Type} (x : Option β) : x.toList.getLast? = x := by cases x <;> rfl
  simp only [ofEntries, values_entries, last]
  rfl

/-- All of them can be written if there are words for the stage and the target. -/
theorem IsNamed.spelled (h : c.IsNamed) : ∀ e ∈ c.entries, ∃ w, Spells e w := by
  intro e he
  simp only [entries, List.mem_append, List.mem_map, List.mem_singleton, Option.mem_toList] at he
  rcases he with ((((⟨s, hs, rfl⟩ | ⟨v, -, rfl⟩) | rfl) | ⟨⟨name, value⟩, -, rfl⟩) | rfl) | rfl
  · obtain ⟨name, hname⟩ := Option.isSome_iff_exists.1 (h.stage s hs)
    exact ⟨_, .stage hname⟩
  · exact ⟨_, .version v⟩
  · cases c.debug with
    | false => exact ⟨_, .strip⟩
    | true => exact ⟨_, .debug⟩
  · cases value with
    | none => exact ⟨_, .define name⟩
    | some value => exact ⟨_, .defineAs name value⟩
  · exact ⟨_, .optimize c.optimization⟩
  · obtain ⟨⟨name, v⟩, listed, hv⟩ := List.mem_map.1 h.target
    obtain rfl : v = c.target := hv
    exact ⟨_, .target listed⟩

/-- Entries that can be written have words for the stage and the target. -/
theorem isNamed_ofEntries {es : List Entry} (h : ∀ e ∈ es, ∃ w, Spells e w) :
    (ofEntries env es).IsNamed := by
  have assigned {f : Entry.Field} {v : f.Value} (hv : (Entry.values f es).getLast? = some v) :
      ∃ e ∈ es, e.value? f = some v :=
    List.mem_filterMap.1 (List.mem_of_getLast? hv)
  constructor
  · intro s hs
    obtain ⟨e, he, told⟩ := assigned hs
    obtain ⟨w, spells⟩ := h e he
    cases spells with
    | @stage s' name hname =>
      obtain rfl : s' = s := Option.some.inj told
      rw [hname]
      rfl
    | _ => cases told
  · cases hv : (Entry.values .target es).getLast? with
    | none =>
      simp only [ofEntries, hv, Option.getD_none]
      decide
    | some v =>
      obtain ⟨e, he, told⟩ := assigned hv
      obtain ⟨w, spells⟩ := h e he
      simp only [ofEntries, hv, Option.getD_some]
      cases spells with
      | @target name v' listed =>
        obtain rfl : v' = v := Option.some.inj told
        exact List.mem_map.2 ⟨_, listed, rfl⟩
      | _ => cases told

end CompileOptions

/-! ## Lists -/

theorem Grammar.exists_leading {es : List Entry} (h : ∀ e ∈ es, ∃ w, Spells e w) :
    ∃ w, Leading es w := by
  induction es with
  | nil => exact ⟨[], .nil⟩
  | cons e es ih =>
    obtain ⟨⟨w, he⟩, hes⟩ := List.forall_mem_cons.1 h
    obtain ⟨v, hv⟩ := ih hes
    exact ⟨_, .cons he hv⟩

theorem Grammar.Leading.spelled {es : List Entry} {w : List Content} (h : Leading es w) :
    ∀ e ∈ es, ∃ w, Spells e w := by
  induction h with
  | nil => exact fun e he => absurd he List.not_mem_nil
  | cons he _ ih => exact List.forall_mem_cons.2 ⟨⟨_, he⟩, ih⟩

theorem Parser.Collected.spelled {list : List Entry × Bool} {w : List Content}
    (h : Collected list w) : ∀ e ∈ list.1, ∃ w, Spells e w := by
  rcases options_iff.1 h.options with listed | leading
  · exact listed.leading.spelled
  · exact leading.spelled

/-- **A list and arguments can tell the same options.**

    What is read from a list has words for its stage and its target, and the arguments that tell the
    same make the same options in every environment, without a look at it.  Conversely, for options
    with such words, which arguments make, there is a list of tokens that is read as these options,
    whatever the environments are; so a compiler is given the same parameters, and the stage for a
    path is the same. -/
theorem options_by_argument :
    (∀ env tokens list s, Parser.options env ⟨tokens⟩ = (.ok list, s) →
      list.options.IsNamed ∧ ∀ env',
        CompileOptions.make env' list.options.fields = .ok list.options ∧
        CompileOptions.makeLog env' list.options.fields = []) ∧
    (∀ c : CompileOptions, c.IsNamed → (∀ env', CompileOptions.make env' c.fields = .ok c) ∧
      ∃ body, Options c.entries (contents body) ∧ ∀ env last, last.content = .finish → ∃ list,
        Parser.options env ⟨body ++ [last]⟩ = (.ok list, ⟨[last]⟩) ∧ list.options = c ∧
        Parameters.ofOptions list.options = .ofOptions c ∧
        ∀ path, list.options.stageFor path = c.stageFor path) := by
  constructor
  · intro env tokens list s run
    obtain ⟨es, read, described⟩ := Parser.options_eq_ok_iff.1 run
    obtain ⟨taken, rest, -, -, collected⟩ := Parser.consumes_entries tokens _ _ read
    refine ⟨?_, fun env' => ⟨list.options.make_fields env', list.options.makeLog_fields env'⟩⟩
    rw [described]
    exact CompileOptions.isNamed_ofEntries collected.spelled
  · intro c named
    obtain ⟨w, leading⟩ := exists_leading named.spelled
    let token (content : Content) : Token := ⟨content, ⟨1, 0, [], []⟩⟩
    have spelled : contents (w.map token) = w := by
      simp [contents, token, Function.comp_def]
    refine ⟨c.make_fields, w.map token, spelled.symm ▸ leading.options, fun env last ht => ?_⟩
    have other : last.kind ≠ .ident := by simp [Token.kind, ht, Content.kind]
    have read : Parser.entries ⟨w.map token ++ [last]⟩ = (.ok (c.entries, false), ⟨[last]⟩) :=
      Parser.entries_of_leading leading spelled other
    have run : Parser.options env ⟨w.map token ++ [last]⟩ = (.ok ⟨c, false⟩, ⟨[last]⟩) :=
      Parser.options_eq_ok_iff.2 ⟨c.entries, read, (c.ofEntries_entries env).symm⟩
    exact ⟨⟨c, false⟩, run, rfl, rfl, fun _ => rfl⟩

/-- Options that set every field, with a macro that comes twice, in two environments. -/
theorem options_by_argument_all_fields :
    let env := [(Environment.stripFlag, text "1")]
    let last : Token := ⟨.finish, ⟨1, 0, [], []⟩⟩
    let c : CompileOptions :=
      { stage := some .mesh, version := some 460, debug := true
        definitions := [(text "N", some (text "1")), (text "N", none)]
        optimization := .size, target := 0x403000 }
    c.IsNamed ∧ CompileOptions.make [] c.fields = .ok c ∧ ∃ body list,
      Options c.entries (contents body) ∧
        Parser.options env ⟨body ++ [last]⟩ = (.ok list, ⟨[last]⟩) ∧ list.options = c := by
  intro env last c
  have named : c.IsNamed := by
    refine ⟨?_, by decide⟩
    rintro s hs
    cases hs
    rfl
  obtain ⟨made, body, spelled, read⟩ := options_by_argument.2 c named
  obtain ⟨list, run, same, -⟩ := read env last rfl
  exact ⟨named, made [], body, list, spelled, run, same⟩

end ShaderBuild
