/-
  The switches of the command line, and how an argument is taken for one.

  * `Switch`: what can be switched, with its spellings;
  * `UsageFault`: what is wrong with the arguments;
  * `Reading`: a switch that an argument spells, and what is attached to it in the same argument;
  * `Item.ofArgument`: what an argument is.

  A long spelling may be cut short as long as no other starts the same way, and takes a value behind
  an equals sign.  Behind a short spelling the value follows at once.  A negative number is a value,
  and so is an argument with a space that spells no switch.
-/
import ShaderBuild.Text.Quoted

namespace ShaderBuild.CommandLine

/-- What can be switched. -/
inductive Switch where
  | help
  | output
  | options
  | glsl
  | depfile
  | projectRoot
  | name
  | verbose
  | report
  | version
  deriving DecidableEq

namespace Switch

/-- All switches. -/
def all : List Switch :=
  [help, output, options, glsl, depfile, projectRoot, name, verbose, report, version]

/-- The spellings of a switch. -/
def spellings : Switch → List String
  | help => ["-h", "--help"]
  | output => ["-o", "--output"]
  | options => ["--options"]
  | glsl => ["--glsl"]
  | depfile => ["--depfile"]
  | projectRoot => ["--project-root"]
  | name => ["--name"]
  | verbose => ["-v", "--verbose"]
  | report => ["--report"]
  | version => ["--version"]

/-- Does the switch take a value? -/
def takesValue : Switch → Bool
  | output | options | glsl | depfile | projectRoot | name => true
  | help | verbose | report | version => false

/-- The switch with all its spellings. -/
def describe (s : Switch) : Text := List.intercalate (text "/") (s.spellings.map text)

/-- All spellings with their switches. -/
def dictionary : List (Text × Switch) :=
  all.flatMap fun s => s.spellings.map fun spelling => (text spelling, s)

/-- The switch of a spelling. -/
def ofSpelling? (t : Text) : Option Switch := (dictionary.find? fun p => p.1 = t).map (·.2)

end Switch

/-- What is wrong with the arguments. -/
inductive UsageFault where
  | ambiguous (argument : Text) (candidates : List Text)
  | valueExpected (s : Switch)
  | valueIgnored (s : Switch) (value : Text)
  | unrecognized (arguments : List Text)
  /-- Neither a file nor an invocation is given, or both are. -/
  | noSingleSource
  | optionsTwice
  | outputMissing
  deriving DecidableEq

/-- The wording of a fault. -/
def UsageFault.message : UsageFault → Text
  | .ambiguous argument candidates => text "ambiguous option: " ++ argument
      ++ text " could match " ++ List.intercalate (text ", ") candidates
  | .valueExpected s => text "argument " ++ s.describe ++ text ": expected one argument"
  | .valueIgnored s value => text "argument " ++ s.describe
      ++ text ": ignored explicit argument " ++ Quoted.quote value
  | .unrecognized arguments =>
    text "unrecognized arguments: " ++ List.intercalate (text " ") arguments
  | .noSingleSource => text "Specify either a source file or --glsl."
  | .optionsTwice => text "Options are part of the --glsl invocation."
  | .outputMissing => text "--glsl requires --output."

/-- What is attached to a switch. -/
structure Attachment where
  /-- Does an equals sign stand before it? -/
  isEquated : Bool
  value : Text
  deriving DecidableEq

/-- A switch that an argument spells. -/
structure Reading where
  switch : Switch
  /-- Is the spelling a short one? -/
  isShort : Bool
  /-- What else stands in the argument. -/
  attached : Option Attachment
  deriving DecidableEq

namespace Reading

/-- An argument cut at its first equals sign. -/
def cut (t : Text) : Text × Option Attachment :=
  let isSign (c : CodePoint) : Bool := c = '='
  match t.dropWhile fun c => !isSign c with
  | [] => (t, none)
  | _ :: value => (t.takeWhile fun c => !isSign c, some ⟨true, value⟩)

/-- Does the text start with two dashes? -/
def isLong (t : Text) : Bool := (text "--").isPrefixOf t

/-- The switches that an argument can spell though it is no spelling itself, with the spellings. -/
def candidates (t : Text) : List (Text × Reading) :=
  if isLong t then
    let (start, value) := cut t
    Switch.dictionary.filterMap fun (spelling, s) =>
      if start.isPrefixOf spelling then some (spelling, ⟨s, false, value⟩) else none
  else
    Switch.dictionary.filterMap fun (spelling, s) =>
      if spelling = t.take 2 then some (spelling, ⟨s, true, some ⟨false, t.drop 2⟩⟩) else none

/-- The switch that an argument spells in full. -/
def spelled? (t : Text) : Option Reading :=
  match Switch.ofSpelling? t with
  | some s => some ⟨s, !isLong t, none⟩
  | none => match cut t with
    | (_, none) => none
    | (spelling, some attached) => (Switch.ofSpelling? spelling).map fun s =>
        ⟨s, !isLong spelling, some attached⟩

end Reading

/-- What an argument is. -/
inductive Item where
  | value (t : Text)
  /-- Two dashes: all that follows are values. -/
  | separator
  | switch (r : Reading)
  /-- Something like a switch that there is not. -/
  | unknown (t : Text)
  deriving DecidableEq

namespace Item

/-- The two dashes. -/
def dashes : Text := text "--"

/-- Are there digits and nothing else? -/
def isDigits (t : Text) : Bool := t.all fun c => c.digitValue?.isSome

/-- Does the text behind a dash make a negative number?  A line feed may end it. -/
def isNumber (t : Text) : Bool :=
  let t := if t.getLast? = some '\n' then t.dropLast else t
  let isPoint (c : CodePoint) : Bool := c = '.'
  let whole := t.takeWhile fun c => !isPoint c
  match t.dropWhile fun c => !isPoint c with
  | [] => isDigits whole && !whole.isEmpty
  | _ :: fraction => isDigits whole && isDigits fraction && !fraction.isEmpty

/-- What an argument is that spells no switch. -/
def ofOther (t : Text) : Item :=
  if isNumber (t.drop 1) || t.contains (' ' : CodePoint) then .value t else .unknown t

/-- What an argument is that starts with a dash. -/
def ofDashed (t : Text) : Except UsageFault Item :=
  if t.length = 1 then .ok (.value t)
  else match Reading.spelled? t with
    | some r => .ok (.switch r)
    | none => match Reading.candidates t with
      | [] => .ok (ofOther t)
      | [(_, r)] => .ok (.switch r)
      | several => .error (.ambiguous t (several.map (·.1)))

/-- What an argument is. -/
def ofArgument (t : Text) : Except UsageFault Item :=
  if t = dashes then .ok .separator
  else if t.head? = some '-' then ofDashed t
  else .ok (.value t)

/-- What the arguments are. -/
def ofArguments : List Text → Except UsageFault (List Item)
  | [] => .ok []
  | t :: rest =>
    if t = dashes then .ok (.separator :: rest.map .value)
    else match ofArgument t with
      | .error f => .error f
      | .ok item => match ofArguments rest with
        | .error f => .error f
        | .ok items => .ok (item :: items)

end Item

end ShaderBuild.CommandLine
