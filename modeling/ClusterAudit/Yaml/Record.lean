import ClusterAudit.Yaml.Value

/-!
# Reading records from values

A record is a mapping whose keys are the names of its fields. Fields that it does not know are
passed over, and a field that it knows stands there once at most. A record may also be written as
the list of the values of its fields, in their order, and null is a record without fields. What a
tag says about a record, a list, a mapping or a text does not count.
-/

namespace ClusterAudit.Yaml

/-- A field of a record that is being read: absent, or there with its value. -/
abbrev Slot := Option Value

/-- A field that a record knows. -/
structure FieldName where
  /-- Its name. -/
  name : String
  /-- Whether a list of values may end in front of it. -/
  mayEnd : Bool := false
deriving DecidableEq, Inhabited

namespace FieldName

/-- Fields that a list of values has to hold. -/
def all (names : List String) : List FieldName :=
  names.map fun n => { name := n }

/-- The fields of a record from the values of a list. -/
def ofItems? : List FieldName → List Value → Option (List Slot)
  | [], [] => some []
  | [], _ :: _ => none
  | f :: fs, [] => if f.mayEnd then (ofItems? fs []).map (none :: ·) else none
  | _ :: fs, v :: vs => (ofItems? fs vs).map (some v :: ·)

/-- A field of a record from the entries of a mapping. -/
def ofEntries? (entries : List (String × Value)) (f : FieldName) : Option Slot :=
  match entries.filter fun e => e.1 == f.name with
  | [] => some none
  | [e] => some (some e.2)
  | _ => none

end FieldName

namespace Value

/-- **The fields of a record**, in the order in which they are asked for. -/
def slots? (fields : List FieldName) (v : Value) : Option (List Slot) :=
  match v.untagged with
  | .null => some (fields.map fun _ => none)
  | .list items => FieldName.ofItems? fields items
  | .dict entries => do
    let named ← entries.mapM fun e => e.1.asText?.map (·, e.2)
    fields.mapM (FieldName.ofEntries? named)
  | _ => none

/-- The truth value that a value is. -/
def asFlag? (v : Value) : Option Bool :=
  match v.untagged with
  | .bool b => some b
  | _ => none

/-- A list whose items are read by `read`; null is the empty list. -/
def listOf? {α : Type} (read : Value → Option α) (v : Value) : Option (List α) :=
  match v.untagged with
  | .null => some []
  | .list items => items.mapM read
  | _ => none

/-- A mapping from text whose values are read by `read`; null is the empty mapping. -/
def dictOf? {α : Type} (read : Value → Option α) (v : Value) : Option (List (String × α)) :=
  match v.untagged with
  | .null => some []
  | .dict entries => entries.mapM fun e => do return (← e.1.asText?, ← read e.2)
  | _ => none

/-- One of some words: a text, or the name of a tag on null. -/
def wordOf? (words : List String) : Value → Option String
  | .text s => if words.contains s then some s else none
  | .tagged t .null => if words.contains t then some t else none
  | _ => none

end Value

namespace Slot

/-- A field that must be there. -/
def required {α : Type} (read : Value → Option α) (s : Slot) : Option α :=
  s.bind read

/-- A field that may be left out or be null. -/
def optional {α : Type} (read : Value → Option α) : Slot → Option (Option α)
  | none => some none
  | some .null => some none
  | some v => (read v).map some

/-- A field that may be left out but not be null. -/
def orElse {α : Type} (default : α) (read : Value → Option α) : Slot → Option α
  | none => some default
  | some v => read v

end Slot

end ClusterAudit.Yaml
