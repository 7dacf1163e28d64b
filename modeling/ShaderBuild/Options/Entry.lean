/-
  Option lists: entries separated by commas.

  An entry is a key, and for most keys a colon and a value.  A list goes on while an identifier
  follows; each entry may be followed by a comma, and an entry that is not ends the list.

  * `Entry`: what an entry says; `Entry.apply` is its effect on options;
  * `Parser.entry`, `Parser.entries`, `Parser.options`.
-/
import ShaderBuild.Invocation.TokenStream
import ShaderBuild.Options.Basic

namespace ShaderBuild

/-- What an entry of an option list says. -/
inductive Entry where
  | stage (s : Stage)
  | version (v : UInt32)
  | strip
  | debug
  | define (d : Definition)
  | optimize (l : OptimizationLevel)
  | target (v : Int)
  deriving DecidableEq

namespace Entry

/-- The options after an entry. -/
def apply (o : CompileOptions) : Entry → CompileOptions
  | .stage s => { o with stage := some s }
  | .version v => { o with version := some v }
  | .strip => { o with debug := false }
  | .debug => { o with debug := true }
  | .define d => { o with definitions := o.definitions ++ [d] }
  | .optimize l => { o with optimization := l }
  | .target v => { o with target := v }

/-- The keys of entries. -/
inductive Key where
  | kind
  | version
  | strip
  | debug
  | define
  | optimize
  | target
  deriving DecidableEq

def Key.name : Key → String
  | .kind => "kind"
  | .version => "version"
  | .strip => "strip"
  | .debug => "debug"
  | .define => "define"
  | .optimize => "optimize"
  | .target => "target"

def Key.all : List Key := [.kind, .version, .strip, .debug, .define, .optimize, .target]

def Key.ofName? (name : Text) : Option Key := Key.all.find? fun k => text k.name = name

end Entry

/-- The options of a list, and whether the list ended without a comma. -/
structure OptionList where
  options : CompileOptions
  unterminated : Bool
  deriving DecidableEq

namespace Parser

/-- Take an identifier and look it up; fail citing it if it is not found. -/
def lookup (find? : Text → Option α) (fault : Text → ConfigFault) : Parser α := do
  let name ← ident
  match find? name.value with
  | some a => pure a
  | none => fail (.config (fault name.value) name.token.span)

/-- Take an integer that is a version. -/
def version : Parser UInt32 := do
  let n ← int
  match CompileOptions.version? n.value with
  | some v => pure v
  | none => match Fault.writable n.value with
    | .ok m => fail (.config (.versionTooLarge m) n.token.span)
    | .error f => fail f

/-- Take the value of a macro, unless a comma or the end of the input stands in its place. -/
def macroValue : Parser (Option Text) := fun s =>
  if s.peekContent (.punct (text ",")) || s.isEmpty then (.ok none, s)
  else andThen str (fun t => yield (some t.value)) s

/-- Take what follows the key of an entry. -/
def entryOf : Entry.Key → Parser Entry
  | .kind => do
    let _ ← punct (text ":")
    return .stage (← lookup Stage.ofExtension? .unknownStage)
  | .version => do
    let _ ← punct (text ":")
    return .version (← version)
  | .strip => pure .strip
  | .debug => pure .debug
  | .define => do
    let _ ← punct (text ":")
    let name ← ident
    return .define (name.value, ← macroValue)
  | .optimize => do
    let _ ← punct (text ":")
    return .optimize (← lookup OptimizationLevel.ofKeyword? .unknownLevel)
  | .target => do
    let _ ← punct (text ":")
    return .target (← lookup Vulkan.target? .unknownTarget)

/-- Take an entry. -/
def entry : Parser Entry := do
  let key ← lookup Entry.Key.ofName? .unknownOption
  entryOf key

theorem steady_lookup (find? : Text → Option α) (fault : Text → ConfigFault) :
    Steady (lookup find? fault) :=
  steady_andThen (steady_take _ _) fun name => by
    split
    · exact steady_yield _
    · exact steady_fail _

theorem steady_version : Steady version :=
  steady_andThen (steady_take _ _) fun n => by
    split
    · exact steady_yield _
    · split <;> exact steady_fail _

theorem steady_macroValue : Steady macroValue := by
  intro s
  unfold macroValue
  split
  · exact Nat.le_refl _
  · exact steady_andThen (steady_take _ _) (fun _ => steady_yield _) s

theorem steady_entryOf (key : Entry.Key) : Steady (entryOf key) := by
  have colon {p : Parser Entry} (hp : Steady p) :
      Steady (andThen (punct (text ":")) fun _ => p) :=
    steady_andThen (steady_take _ _) fun _ => hp
  cases key with
  | strip => exact steady_yield _
  | debug => exact steady_yield _
  | kind => exact colon (steady_andThen (steady_lookup _ _) fun _ => steady_yield _)
  | version => exact colon (steady_andThen steady_version fun _ => steady_yield _)
  | optimize => exact colon (steady_andThen (steady_lookup _ _) fun _ => steady_yield _)
  | target => exact colon (steady_andThen (steady_lookup _ _) fun _ => steady_yield _)
  | define =>
    exact colon (steady_andThen (steady_take _ _) fun _ =>
      steady_andThen steady_macroValue fun _ => steady_yield _)

theorem steady_entry : Steady entry := steady_andThen (steady_lookup _ _) steady_entryOf

/-- Take the entries of a list, and tell whether the list ended without a comma. -/
def entries (s : TokenStream) : Except Fault (List Entry × Bool) × TokenStream :=
  if s.peek .ident then
    match _h : entry s with
    | (.error f, rest) => (.error f, rest)
    | (.ok e, rest) =>
      if _hc : rest.peekContent (.punct (text ",")) then
        match entries rest.next with
        | (.ok (es, unterminated), rest) => (.ok (e :: es, unterminated), rest)
        | (.error f, rest) => (.error f, rest)
      else (.ok ([e], true), rest)
  else (.ok ([], false), s)
  termination_by s.size
  decreasing_by
    have hle : rest.size ≤ s.size := by simpa [_h] using steady_entry s
    have hne : rest.isEmpty = false := by
      simp only [TokenStream.peekContent, decide_eq_true_eq] at _hc
      simp [TokenStream.isEmpty, Token.isFinish, Token.kind, _hc, Token.Content.kind]
    have := TokenStream.size_pos_of_not_isEmpty hne
    rw [TokenStream.size_next]
    omega

/-- Take an option list, which changes the defaults of the environment. -/
def options (env : Environment) : Parser OptionList :=
  andThen entries fun (es, unterminated) =>
    yield ⟨es.foldl Entry.apply (.defaults env), unterminated⟩

end Parser

/-- What is logged when an option list is parsed. -/
def OptionList.log (env : Environment) : Log := CompileOptions.makeLog env {}

end ShaderBuild
