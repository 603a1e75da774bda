import ClusterAudit.Yaml.Value

/-!
# Reading nodes by type

A document with known fields is read straight from its nodes, with the type of each field saying
what counts. Any scalar is text where text is wanted, however it is written; only unquoted words
are truth values; a field that may be left out may also be null; and where a list or a mapping
is wanted, nothing at all stands for an empty one.
-/

namespace ClusterAudit.Yaml.Node

/-- The text of a scalar. -/
def text? : Node → Option String
  | .scalar _ _ s => some s
  | _ => none

/-- The truth value of an unquoted word. Lines after a bar count only behind the tag for truth
values. -/
def bool? : Node → Option Bool
  | .scalar tag style s =>
    if style = .plain || (style = .literal && tag == some Tag.bool) then
      Scalar.bool? s
    else none
  | _ => none

/-- Whether nothing is written here. -/
def isVoid : Node → Bool
  | .scalar _ .plain "" => true
  | _ => false

/-- Whether a node is left out where it may be: an unquoted scalar without a tag that is null, or
one with the tag for null, which must be null. The answer is none when it is not. -/
def isAbsent? : Node → Option Bool
  | .scalar none .plain s => some (s.isEmpty || Scalar.isNull s)
  | .scalar (some t) .plain s =>
    if t ≠ .null then some false else if Scalar.isNull s then some true else none
  | _ => some false

/-- A node that may be left out, read by `read`. -/
def option? {α : Type} (read : Node → Option α) (n : Node) : Option (Option α) :=
  match n.isAbsent? with
  | some true => some none
  | some false => (read n).map some
  | none => none

/-- A list whose items are read by `read`. -/
def list? {α : Type} (read : Node → Option α) : Node → Option (List α)
  | .sequence _ items => items.mapM read
  | n => if n.isVoid then some [] else none

/-- The entries of a mapping from text. -/
def entries? : Node → Option (List (String × Node))
  | .mapping _ entries => entries.mapM fun e => e.1.text?.map fun k => (k, e.2)
  | n => if n.isVoid then some [] else none

/-- The fields of a record: each of the names occurs at most once, and no other does. -/
def fields? (names : List String) (n : Node) : Option (List (String × Node)) := do
  let fields ← n.entries?
  let keys := fields.map (·.1)
  if keys.all names.contains && decide keys.Nodup then some fields else none

/-- The value of a field read by `read`, or `default` when there is none. -/
def field? {α : Type} (fields : List (String × Node)) (name : String) (default : α)
    (read : Node → Option α) : Option α :=
  match fields.find? fun f => f.1 == name with
  | some f => read f.2
  | none => some default

/-- The value of a field that must be there. -/
def required? {α : Type} (fields : List (String × Node)) (name : String) (read : Node → Option α) :
    Option α :=
  (fields.find? fun f => f.1 == name).bind fun f => read f.2

/-- The word of a choice: a scalar, or the name of a tag of the document's own on nothing. -/
def word? : Node → Option String
  | .scalar tag style s =>
    match tag.bind Tag.ownName? with
    | some t => if style = .plain && (s.isEmpty || Scalar.isNull s) then some t else none
    | none => some s
  | _ => none

end ClusterAudit.Yaml.Node
