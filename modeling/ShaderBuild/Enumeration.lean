/-
  Enumerations: named constants in a fixed order.

  An enumeration is made from a list of attributes.  A name that starts with a low line is hidden:
  it is no field, and it can be set afterwards.  The fields have integers or texts as values, where a
  field without a value has its name for one, and none of them can be set.

  An enumeration holds its fields in three ways: among its attributes, where the value of a name is
  looked up; as the names that are gone through, which are an attribute themselves; and as the members
  that are handed out.

  * `Enumeration`, `Enumeration.ofFields`, `Enumeration.define`;
  * `Enumeration.values`, `Enumeration.get`, `Enumeration.has`, `Enumeration.nameOf`;
  * `Enumeration.set`, `Enumeration.new`;
  * `Enumeration.describe`.
-/
import ShaderBuild.Fault
import ShaderBuild.Keyed

namespace ShaderBuild

/-- Named constants in a fixed order. -/
structure Enumeration where
  name : Text
  /-- The members that are handed out: the fields as they were defined. -/
  fields : List (Text × Datum)
  /-- What is kept under names, hidden or not. -/
  attributes : List (Text × Datum)
  /-- Is it the enumeration that all others extend? -/
  isBase : Bool := false
  /-- Where it is defined: the name of a package, and what follows behind a dot. -/
  home : Text := text "vkshader"
  /-- What is said about it. -/
  doc : Datum := .absent

namespace Enumeration

/-! ## Definitions -/

/-- Is the name hidden? -/
def isHidden (name : Text) : Bool := (text "_").isPrefixOf name

/-- The value of a field that is defined with a value; none if it cannot be one. -/
def fieldValue? (name : Text) : Datum → Option Datum
  | .absent => some (.text name)
  | .int n => some (.int n)
  | .flag b => some (.flag b)
  | .text t => some (.text t)
  | .real _ | .bytes _ | .list _ => none

/-- The fields among the attributes; none if one has a value that no field can have. -/
def fieldsOf? : List (Text × Datum) → Option (List (Text × Datum))
  | [] => some []
  | (name, d) :: rest =>
    if isHidden name then fieldsOf? rest
    else match fieldValue? name d, fieldsOf? rest with
      | some v, some fields => some ((name, v) :: fields)
      | _, _ => none

/-- Why an enumeration cannot be called by a name: the name has no bytes, or a zero among them. -/
def refusal? (name : Text) : Option Fault :=
  if !Utf8.isEncodable name then some .unencodable
  else if name.any fun c => c.val = 0 then some (.value .enumName)
  else none

/-- The hidden name of the names of the fields. -/
def fieldsName : Text := text "__fields__"

/-- The hidden name of the members. -/
def membersName : Text := text "__members__"

/-- The enumeration of fields, which are put among other attributes, and their names after them. -/
def ofFields (name : Text) (fields : List (Text × Datum)) (attributes : List (Text × Datum) := []) :
    Enumeration :=
  let names := Datum.list (fields.map fun f => .text f.1)
  { name, fields
    attributes := Keyed.putAll [(fieldsName, names), (membersName, names)]
      (Keyed.putAll fields attributes) }

/-- The enumeration of a list of attributes, of which the last of a name counts.  The fields are
    judged first, and then the name. -/
def define (name : Text) (definitions : List (Text × Datum)) : Except Fault Enumeration :=
  let attributes := Keyed.ofList definitions
  match fieldsOf? attributes with
  | none => .error (.type .enumField)
  | some fields => match refusal? name with
    | some f => .error f
    | none => .ok (ofFields name fields attributes)

/-! ## Readings -/

/-- A value as a name. -/
def asName? : Datum → Option Text
  | .text n => some n
  | .absent | .flag _ | .int _ | .real _ | .bytes _ | .list _ => none

/-- The names that are gone through: those of the fields, in the order of their definition. -/
def names (e : Enumeration) : List Text :=
  match Keyed.find? fieldsName e.attributes with
  | some (.list items) => items.filterMap asName?
  | some (.text t) => t.map fun c => [c]
  | _ => []

/-- The names, in alphabetical order. -/
def sortedNames (e : Enumeration) : List Text := e.names.mergeSort Text.atMost

/-- The hidden name of where an enumeration is defined. -/
def homeName : Text := text "__module__"

/-- The hidden name of the name of an enumeration. -/
def nameName : Text := text "__name__"

/-- What is under a hidden name that is not set. -/
def unset? (e : Enumeration) (name : Text) : Option Datum :=
  if name = homeName then some (.text e.home)
  else if name = text "__doc__" then some e.doc
  else none

/-- The value under a name, hidden or not. -/
def find? (e : Enumeration) (name : Text) : Option Datum :=
  (Keyed.find? name e.attributes).or (e.unset? name)

/-- The value under a key, which must be a name. -/
def get (e : Enumeration) (key : Datum) : Except Fault Datum :=
  match key with
  | .list _ => .error (.type (.notKey key.className))
  | .text name => match e.find? name with
    | some v => .ok v
    | none => .error (.noItem (Quoted.quote name))
  | key => do throw (.noItem (← Fault.formOf key))

/-- The values of the fields, in the order of their definition. -/
def values (e : Enumeration) : List Datum := e.names.filterMap e.find?

/-- Is the value that of a field? -/
def has (e : Enumeration) (value : Datum) : Bool := e.values.any fun v => v.sameAs value

/-- The name of the first field with a value, else the value as it is written. -/
def nameOf (e : Enumeration) (value : Datum) : Except Fault Text :=
  match e.names.find? fun n => (e.find? n).any fun v => v.sameAs value with
  | some n => .ok n
  | none => Fault.showOf value

/-- How a field is listed: by its name with the number, or by the text that is its value. -/
def optionForm (f : Text × Datum) : Except Fault Text :=
  match f.2 with
  | .text t => .ok (text "'" ++ t ++ text "'")
  | d => (Fault.formOf d).map fun v => text "'" ++ f.1 ++ text "' (" ++ v ++ text ")"

/-- The name of the package that the enumeration is from. -/
def package (e : Enumeration) : Except Fault Text :=
  match e.find? homeName with
  | some (.text t) => .ok (t.takeWhile fun c : CodePoint => c ≠ '.')
  | some d => .error (.member (.missing d.className (text "split")))
  | none => .ok []

/-- The enumeration with its fields, for debugging. -/
def describe (e : Enumeration) : Except Fault Text :=
  if e.isBase then .ok (text "<vkshader.BaseEnum>")
  else do
    let package ← e.package
    let forms ← e.names.mapM fun n => do optionForm (n, ← e.get (.text n))
    return text "<" ++ package ++ text "." ++ e.name ++ text " enum with options: "
      ++ List.intercalate (text ", ") forms ++ text ">"

/-! ## Changes -/

/-- The enumeration with a hidden name set; fields cannot be set.  What an enumeration is called is
    not kept under a name. -/
def set (e : Enumeration) (name : Text) (value : Datum) : Except Fault Enumeration :=
  if !isHidden name then .error .fixedEnum
  else if name = nameName then match value with
    | .text t => match refusal? t with
      | some f => .error f
      | none => .ok { e with name := t }
    | d => .error (.type (.enumName e.name d.className))
  else .ok { e with attributes := Keyed.put name value e.attributes }

/-- An enumeration has no instances. -/
def new (_ : Enumeration) : Except Fault Empty := .error .noInstances

end Enumeration

end ShaderBuild
