/-
  Diagnostics: topics with data, in the order of their first registration, under one root.

  * `Topic`, `Topic.report`;
  * `Diagnostics`, the root, and `Diagnostics.register`;
  * `Diagnostics.topic`, `Diagnostics.attribute?`: one topic;
  * `Diagnostics.items`, `Diagnostics.report`, `Diagnostics.print`, `Diagnostics.describe`: all
    topics.

  A topic is an attribute of the root under its name.  A topic with the name of an operation of the
  root therefore hides that operation, one with the name of the store of topics hides all topics,
  and a few names are refused after the topic is recorded.
-/
import ShaderBuild.Keyed
import ShaderBuild.Report
import ShaderBuild.Text.Identifier

namespace ShaderBuild

/-- A topic of the diagnostics. -/
structure Topic where
  name : Text
  /-- What the topic reports; none if it has no way to tell. -/
  data? : Option Report

namespace Topic

/-- The topic, for debugging. -/
def describe (t : Topic) : Text := text "<Diagnostics for '" ++ t.name ++ text "'>"

/-- The items of the topic. -/
def items (t : Topic) : Except Fault Report :=
  match t.data? with
  | some r => .ok r
  | none => .error .notImplemented

/-- The report of the topic, under its name. -/
def report (t : Topic) : Except Fault Text := do
  let body ← (← t.items).render
  return text "\n██ " ++ t.name ++ text ":\n\n" ++ body

end Topic

/-- The root of the diagnostics. -/
structure Diagnostics where
  /-- The topics by their names. -/
  topics : List (Text × Topic) := []
  /-- The topics that are attributes, by their names. -/
  attributes : List (Text × Topic) := []

namespace Diagnostics

/-- The root with topics, each registered under its name. -/
def ofTopics (topics : List Topic) : Diagnostics :=
  let named := topics.map fun t => (t.name, t)
  ⟨named, named⟩

/-- The operations of the root. -/
inductive Operation where
  | register
  | items
  | report
  | print
  deriving DecidableEq

/-- The attribute that is an operation. -/
def Operation.name : Operation → String
  | .register => "_register_diagnostics"
  | .items => "get_dict"
  | .report => "get_report"
  | .print => "print_report"

/-- The attribute that holds the topics. -/
def store : Text := text "_diagnostics_instances"

/-- The class of the root. -/
def rootClass : Text := text "DiagnosticsRoot"

/-- The class of topics. -/
def topicClass : Text := text "DiagnosticsBase"

/-- The topic that is the attribute of a name, if it is a topic. -/
def attribute? (d : Diagnostics) (name : Text) : Option Topic := Keyed.find? name d.attributes

/-- Check that an operation is not hidden by a topic. -/
def check (d : Diagnostics) (op : Operation) : Except Fault Unit :=
  if (d.attribute? (text op.name)).isSome then .error (.type .notCallable) else .ok ()

/-- The topics, of which something is asked that a topic refuses with a fault. -/
def stored (d : Diagnostics) (refusal : Fault) : Except Fault (List (Text × Topic)) :=
  if (d.attribute? store).isSome then .error refusal else .ok d.topics

/-- The fault of asking a topic for an attribute that the store of topics has. -/
def noMember (name : String) : Fault := .member (.missing topicClass (text name))

/-- Why a name cannot be an attribute of the root, if it cannot. -/
def refusal? (name : Text) : Option Fault :=
  if name = text "__class__" then some (.type .classExpected)
  else if name = text "__dict__" then some (.type .attributesExpected)
  else if name = text "__weakref__" then some (.member (.readOnly rootClass name))
  else none

/-- Register a topic under its name. -/
def register (d : Diagnostics) (t : Topic) : Except Fault Unit × Diagnostics :=
  if !Text.isIdentifier t.name then (.error (.value .topicName), d)
  else match d.check .register, d.stored (.type .noItemAssignment) with
    | .error f, _ | .ok (), .error f => (.error f, d)
    | .ok (), .ok topics =>
      let recorded := { d with topics := Keyed.put t.name t topics }
      match refusal? t.name with
      | some f => (.error f, recorded)
      | none => (.ok (), { recorded with attributes := Keyed.put t.name t d.attributes })

/-- The topic of a name. -/
def topic (d : Diagnostics) (name : Text) : Except Fault Topic := do
  match Keyed.find? name (← d.stored (.type .noItems)) with
  | some t => return t
  | none => throw (.noItem (Quoted.quote name))

/-- The report of the topic of a name. -/
def topicReport (d : Diagnostics) (name : Text) : Except Fault Text := do (← d.topic name).report

/-- The root with the names of its topics, for debugging. -/
def describe (d : Diagnostics) : Except Fault Text := do
  let topics ← d.stored (noMember "keys")
  return text "<DiagnosticsRoot with topics: "
    ++ List.intercalate (text ", ") (topics.map (·.1)) ++ text ">"

/-- The items of all topics. -/
def items (d : Diagnostics) : Except Fault (List (Text × Report)) := do
  d.check .items
  (← d.stored (noMember "items")).mapM fun (name, t) => do return (name, ← t.items)

/-- The reports of all topics, one after the other. -/
def report (d : Diagnostics) : Except Fault Text := do
  d.check .report
  return (← (← d.stored (noMember "values")).mapM fun (_, t) => t.report).flatten

/-- What is printed as the report of all topics. -/
def print (d : Diagnostics) : Except Fault Text := do
  d.check .print
  d.report

end Diagnostics

end ShaderBuild
