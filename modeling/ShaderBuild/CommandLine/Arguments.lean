/-
  The arguments of the command line.

  * `Convention`: the two ways in which arguments are read;
  * `Arguments`: what they set;
  * `Cluster.ofReading`: the switches that one argument turns;
  * `read`: what the arguments set, from first to last;
  * `Arguments.parse`.

  The first value that no switch takes is the source.  What nothing takes is left over; that is a
  fault once all arguments are read.
-/
import ShaderBuild.Artifact
import ShaderBuild.CommandLine.Switch

namespace ShaderBuild.CommandLine

/-- How arguments are read, which depends on the release of the host.  The conventions differ in
    what may stand behind a short switch without a value, and in two dashes as a value. -/
inductive Convention where
  /-- Behind a short switch without a value must stand the letter of another, or a fault is raised.
      Two dashes that are attached to a switch are taken away, and leave an empty list. -/
  | early
  /-- Behind a short switch without a value may stand the letter of another, whose value may stand
      behind an equals sign; if it is another letter, it is left over.  Two dashes that are attached
      to a switch are its value. -/
  | late
  deriving DecidableEq

/-- What the arguments set. -/
structure Arguments where
  source : Option Text := none
  output : Option Datum := none
  options : Option Datum := none
  glsl : Option Datum := none
  depfile : Option Datum := none
  projectRoot : Option Datum := none
  name : Datum := .text BuildOutput.defaultName
  verbose : Bool := false
  report : Bool := false
  deriving DecidableEq

/-- Why the arguments are not read to their end. -/
inductive Stop where
  | usage (fault : UsageFault)
  /-- The version is asked for. -/
  | version
  /-- An account of the arguments is asked for. -/
  | help
  deriving DecidableEq

/-! ## One argument -/

/-- What follows the switches without a value in one argument. -/
inductive Cluster.Tail where
  | nothing
  /-- A switch takes its value from the next argument. -/
  | wanting (s : Switch)
  | given (s : Switch) (value : Text)
  /-- Something that spells no switch. -/
  | unknown (t : Text)
  deriving DecidableEq

/-- The switches that one argument turns. -/
structure Cluster where
  flags : List Switch
  tail : Cluster.Tail
  deriving DecidableEq

namespace Cluster

/-- The cluster behind a switch without a value. -/
def push (s : Switch) (c : Cluster) : Cluster := { c with flags := s :: c.flags }

/-- The cluster of a switch with nothing attached. -/
def alone (s : Switch) : Cluster :=
  if s.takesValue then ⟨[], .wanting s⟩ else ⟨[s], .nothing⟩

/-- The cluster of a switch with a text attached, by the early convention. -/
def early (s : Switch) (isShort : Bool) (t : Text) : Except UsageFault Cluster :=
  if s.takesValue then .ok ⟨[], .given s t⟩
  else if !isShort then .error (.valueIgnored s t)
  else match t with
    | [] => .error (.valueIgnored s t)
    | c :: rest => match Switch.ofSpelling? ['-', c] with
      | none => .error (.valueIgnored s t)
      | some next =>
        if rest.isEmpty then .ok (push s (alone next)) else (early next true rest).map (push s)

/-- The cluster of a switch with a text attached, by the late convention. -/
def late (s : Switch) (isShort isEquated : Bool) (t : Text) : Except UsageFault Cluster :=
  if s.takesValue then .ok ⟨[], .given s t⟩
  else if !isShort || isEquated then .error (.valueIgnored s t)
  else match t with
    | [] => .error (.valueIgnored s t)
    | c :: rest =>
      if c = '-' then .error (.valueIgnored s t)
      else match Switch.ofSpelling? ['-', c], rest with
        | none, _ => .ok ⟨[s], .unknown ('-' :: t)⟩
        | some next, [] => .ok (push s (alone next))
        | some next, d :: rest =>
          if d = '=' then (late next true true rest).map (push s)
          else (late next true false (d :: rest)).map (push s)

/-- The switches of an argument. -/
def ofReading (convention : Convention) (r : Reading) : Except UsageFault Cluster :=
  match r.attached, convention with
  | none, _ => .ok (alone r.switch)
  | some a, .early => early r.switch r.isShort a.value
  | some a, .late => late r.switch r.isShort a.isEquated a.value

end Cluster

/-! ## All arguments -/

/-- What is read so far. -/
structure Progress where
  arguments : Arguments := {}
  /-- What nothing takes. -/
  leftOver : List Text := []
  deriving DecidableEq

namespace Progress

/-- Something more that nothing takes. -/
def leave (p : Progress) (ts : List Text) : Progress := { p with leftOver := p.leftOver ++ ts }

/-- What a switch is given by a text. -/
def valueOf (convention : Convention) (t : Text) : Datum :=
  if convention = .early && t = Item.dashes then .list [] else .text t

/-- Set what a switch stands for. -/
def give (p : Progress) (convention : Convention) (s : Switch) (t : Text) : Progress :=
  let a := p.arguments
  let value := valueOf convention t
  { p with arguments := match s with
    | .output => { a with output := some value }
    | .options => { a with options := some value }
    | .glsl => { a with glsl := some value }
    | .depfile => { a with depfile := some value }
    | .projectRoot => { a with projectRoot := some value }
    | .name => { a with name := value }
    | .help | .verbose | .report | .version => a }

/-- Turn a switch without a value. -/
def turn (p : Progress) (s : Switch) : Except Stop Progress :=
  match s with
  | .verbose => .ok { p with arguments := { p.arguments with verbose := true } }
  | .report => .ok { p with arguments := { p.arguments with report := true } }
  | .version => .error .version
  | .help => .error .help
  | .output | .options | .glsl | .depfile | .projectRoot | .name => .ok p

/-- Take a value that no switch takes. -/
def place (p : Progress) (t : Text) : Progress :=
  match p.arguments.source with
  | none => { p with arguments := { p.arguments with source := some t } }
  | some _ => p.leave [t]

/-- Take the values behind the two dashes.  The dashes count as left over if the source was given
    before them, unless it stands right before. -/
def placeAll (p : Progress) (isBehindSource : Bool) (ts : List Text) : Progress :=
  match p.arguments.source with
  | some _ => p.leave (if isBehindSource then ts else Item.dashes :: ts)
  | none => match ts with
    | [] => p
    | t :: ts => (p.place t).leave ts

end Progress

/-- The values among items. -/
def values (items : List Item) : List Text :=
  items.filterMap fun
    | .value t => some t
    | .separator | .switch _ | .unknown _ => none

/-- What items set, after what is read so far; `isBehindSource` tells whether the last of it was the
    source. -/
def read (convention : Convention) (p : Progress) (isBehindSource : Bool) :
    List Item → Except Stop Progress
  | [] => .ok p
  | .value t :: rest => read convention (p.place t) p.arguments.source.isNone rest
  | .separator :: rest => .ok (p.placeAll isBehindSource (values rest))
  | .unknown t :: rest => read convention (p.leave [t]) false rest
  | .switch r :: rest => do
    match Cluster.ofReading convention r with
    | .error f => throw (.usage f)
    | .ok c => match c.tail, rest with
      | .nothing, rest => read convention (← c.flags.foldlM Progress.turn p) false rest
      | .given s t, rest =>
        read convention ((← c.flags.foldlM Progress.turn p).give convention s t) false rest
      | .wanting s, .value t :: rest =>
        read convention ((← c.flags.foldlM Progress.turn p).give convention s t) false rest
      | .wanting s, _ => throw (.usage (.valueExpected s))
      | .unknown t, rest =>
        read convention ((← c.flags.foldlM Progress.turn p).leave [t]) false rest

/-- What the arguments set. -/
def Arguments.parse (convention : Convention) (arguments : List Text) : Except Stop Arguments := do
  match Item.ofArguments arguments with
  | .error f => throw (.usage f)
  | .ok items =>
    let p ← read convention {} false items
    if p.leftOver.isEmpty then return p.arguments
    else throw (.usage (.unrecognized p.leftOver))

end ShaderBuild.CommandLine
