import ClusterAudit.Yaml.Document
import ClusterAudit.Yaml.Scalar

/-!
# Untyped YAML values

A manifest is read into a value before anything is known about its kind. Scalars become what
they stand for, tags of the document's own stay as marks around a value, and a mapping must
not have two equal keys. `Value.ofNode` is this reading.
-/

namespace ClusterAudit.Yaml

/-- A value. -/
inductive Value where
  /-- Null. -/
  | null
  /-- A truth value. -/
  | bool (b : Bool)
  /-- An integer of at most 64 bits. -/
  | int (n : Int)
  /-- A number that is no integer. -/
  | real (x : Binary64)
  /-- Text. -/
  | text (s : String)
  /-- A list. -/
  | list (items : List Value)
  /-- A mapping. -/
  | dict (entries : List (Value × Value))
  /-- A value with a tag of the document's own. -/
  | tagged (tag : String) (value : Value)
deriving Inhabited

namespace Value

/-! ### Equality of keys -/

/-- Whether a value occurs in a list, given how to compare it. -/
def findEntry (same : Value → Bool) : List (Value × Value) → Option Value
  | [] => none
  | (k, v) :: rest => if same k then some v else findEntry same rest

mutual

/-- Whether two values are the same key. The order of the entries of a mapping does not count. -/
def same : Value → Value → Bool
  | .null, .null => true
  | .bool a, .bool b => a == b
  | .int a, .int b => a == b
  | .real a, .real b => Binary64.sameKey a b
  | .text a, .text b => a == b
  | .list a, .list b => sameItems a b
  | .dict a, .dict b => a.length == b.length && within a b
  | .tagged s a, .tagged t b => s == t && same a b
  | _, _ => false

/-- Whether two lists hold the same keys one by one. -/
def sameItems : List Value → List Value → Bool
  | [], [] => true
  | a :: as, b :: bs => same a b && sameItems as bs
  | _, _ => false

/-- Whether every entry of the first mapping is one of the second. -/
def within : List (Value × Value) → List (Value × Value) → Bool
  | [], _ => true
  | (k, v) :: rest, b =>
    (match findEntry (same k) b with
      | some w => same v w
      | none => false) && within rest b

end

/-- Whether a key occurs among the entries of a mapping. -/
def hasKey (k : Value) (entries : List (Value × Value)) : Bool :=
  entries.any fun e => same k e.1

/-! ### Reading nodes -/

/-- The value of an integer, if it can be held. -/
def ofInt (n : Int) : Except Fault Value :=
  if Scalar.fits n then .ok (.int n) else .error .integerRange

/-- The value of what a scalar stands for. -/
def ofScalar : Scalar → Except Fault Value
  | .null => .ok .null
  | .bool b => .ok (.bool b)
  | .int n => ofInt n
  | .real x => .ok (.real x)
  | .text s => .ok (.text s)

/-- A value that must be there, because the tag says so. -/
def agreed {α : Type} (make : α → Value) (found : Option α) : Except Fault Value :=
  match found with
  | some a => .ok (make a)
  | none => .error .wrongTag

/-- The value of a scalar without a tag. -/
def ofUntagged (style : Style) (s : String) : Except Fault Value :=
  if style = .plain then ofScalar (Scalar.ofPlain s) else .ok (.text s)

/-- The value of a scalar that carries no name of a tag of the document's own. The tags for truth
values, integers, numbers and null must agree with the text. A tag with an exclamation mark in
front that is no text counts as none; any other one makes it text. -/
def ofBare (tag : Option Tag) (style : Style) (s : String) : Except Fault Value :=
  match tag with
  | none => ofUntagged style s
  | some t =>
    if t = .bool then agreed .bool (Scalar.bool? s)
    else if t = .int then agreed .int ((Scalar.int? s.toList).filter Scalar.fits)
    else if t = .real then agreed .real (Scalar.real? s.toList)
    else if t = .null then (if Scalar.isNull s then .ok .null else .error .wrongTag)
    else if t.isOwn then ofUntagged style s
    else .ok (.text s)

/-- The mark that a tag of the document's own leaves on a value: its name, without a second
exclamation mark in front. -/
def markOf? (tag : Option Tag) : Option String :=
  (tag.bind Tag.ownName?).map fun name =>
    match name.toList with
    | '!' :: c :: cs => String.ofList (c :: cs)
    | _ => name

/-- Put a value under the tag of the document's own, if there is one. -/
def mark (tag : Option Tag) (v : Value) : Value :=
  match markOf? tag with
  | some t => .tagged t v
  | none => v

mutual

/-- **The value of a node.** -/
def ofNode : Node → Except Fault Value
  | .scalar tag style s =>
    match markOf? tag with
    | some t => (ofUntagged style s).map (.tagged t)
    | none => ofBare tag style s
  | .sequence tag items => (ofItems items).map fun l => mark tag (.list l)
  | .mapping tag entries => (ofEntries entries []).map fun l => mark tag (.dict l)

/-- The values of the items of a list. -/
def ofItems : List Node → Except Fault (List Value)
  | [] => .ok []
  | n :: ns =>
    match ofNode n with
    | .error e => .error e
    | .ok v => (ofItems ns).map (v :: ·)

/-- The entries of a mapping behind those in `done`, which are in reverse. -/
def ofEntries : List (Node × Node) → List (Value × Value) → Except Fault (List (Value × Value))
  | [], done => .ok done.reverse
  | (k, v) :: rest, done =>
    match ofNode k with
    | .error e => .error e
    | .ok k =>
      if hasKey k done then .error .repeatedKey
      else match ofNode v with
        | .error e => .error e
        | .ok v => ofEntries rest ((k, v) :: done)

end

/-! ### Looking inside -/

/-- The value without tags around it. -/
def untagged : Value → Value
  | .tagged _ v => untagged v
  | v => v

/-- The text of a value. -/
def asText? (v : Value) : Option String :=
  match v.untagged with
  | .text s => some s
  | _ => none

/-- The value of a field, the last one if there are several. A tag on its name does not count. -/
def field? (v : Value) (name : String) : Option Value :=
  match v.untagged with
  | .dict entries => findEntry (fun k => k.asText? == some name) entries.reverse
  | _ => none

/-- The value under the key that is this text and has no tag. -/
def entry? (v : Value) (name : String) : Option Value :=
  match v.untagged with
  | .dict entries => findEntry (same (.text name)) entries
  | _ => none

/-- Whether a value is null without a tag. -/
def isNull : Value → Bool
  | .null => true
  | _ => false

end Value

/-- The values of the documents of a text in order, up to the first that cannot be read, and what is
wrong with that one. -/
def values (text : String) : List Value × Option Fault :=
  let stream := documents text
  let rec go : List Node → List Value → List Value × Option Fault
    | [], done => (done.reverse, stream.fault)
    | n :: ns, done =>
      match Value.ofNode n with
      | .ok v => go ns (v :: done)
      | .error e => (done.reverse, some e)
  go stream.documents []

end ClusterAudit.Yaml
