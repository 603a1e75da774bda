import ClusterAudit.Kubernetes.Timestamp
import ClusterAudit.Yaml.Value

/-!
# The shape of API objects

An object is accepted only if every field that its kind knows has the type it should have,
whether the audit looks at the field or not. `Shape` describes such types and `Shape.admits`
checks a value against one.

A field of a record may always be missing or null, except one whose text is prescribed; fields
that are not known are skipped. What a null stands for elsewhere depends on the format: in a
manifest it is an empty list, mapping or record, in an answer of the API server it is an
error.
-/

namespace ClusterAudit.Kubernetes

open Yaml (Value)

/-- The type of a part of an API object. -/
inductive Shape where
  /-- Text. -/
  | text
  /-- This very text, and never null. -/
  | exactly (s : String)
  /-- A truth value. -/
  | flag
  /-- An integer of 32 bits. -/
  | int32
  /-- An integer of 64 bits. -/
  | int64
  /-- An integer of 32 bits, or text. -/
  | intOrText
  /-- A timestamp. -/
  | time
  /-- Any JSON document. -/
  | anything
  /-- A list. -/
  | list (item : Shape)
  /-- A mapping from text. -/
  | dict (value : Shape)
  /-- A record with the fields it knows. -/
  | record (fields : List (String × Shape))
deriving Inhabited

namespace Shape

/-- Whether an integer fits the given number of bits. -/
def fits (bits : Nat) (n : Int) : Bool :=
  decide (-((1 <<< (bits - 1) : Nat) : Int) ≤ n ∧ n < ((1 <<< (bits - 1) : Nat) : Int))

/-- Whether a null stands for an empty collection of this shape. -/
def emptyAsNull : Shape → Bool
  | .list _ | .dict _ | .record _ | .anything => true
  | _ => false

/-- Whether the field of this shape must not be null. -/
def refusesNull : Shape → Bool
  | .exactly _ => true
  | _ => false

/-- The shape of the field called `name`. -/
def field? (name : String) (fields : List (String × Shape)) : Option Shape :=
  (fields.find? fun f => f.1 == name).map (·.2)

mutual

/-- **Whether a value has a shape.** In a lenient format a null is an empty collection. -/
def admitsValue (lenient : Bool) : Value → Shape → Bool
  | .tagged _ v, shape =>
    match shape with
    | .intOrText => false
    | .anything => false
    | shape => admitsValue lenient v shape
  | .null, shape =>
    match shape with
    | .anything => true
    | shape => lenient && shape.emptyAsNull
  | .bool _, shape =>
    match shape with
    | .flag => true
    | .anything => true
    | _ => false
  | .int n, shape =>
    match shape with
    | .int32 => fits 32 n
    | .intOrText => fits 32 n
    | .int64 => fits 64 n
    | .anything => true
    | _ => false
  | .real _, shape =>
    match shape with
    | .anything => true
    | _ => false
  | .text s, shape =>
    match shape with
    | .text => true
    | .intOrText => true
    | .anything => true
    | .exactly t => s == t
    | .time => Timestamp.isValid s
    | _ => false
  | .list items, shape =>
    match shape with
    | .list item => admitsItems lenient items item
    | .anything => admitsItems lenient items .anything
    | _ => false
  | .dict entries, shape =>
    match shape with
    | .dict value => admitsEntries lenient entries value
    | .anything => admitsEntries lenient entries .anything
    | .record fields => admitsFields lenient entries fields
    | _ => false

/-- Whether every item of a list has a shape. -/
def admitsItems (lenient : Bool) : List Value → Shape → Bool
  | [], _ => true
  | v :: vs, item => admitsValue lenient v item && admitsItems lenient vs item

/-- Whether every key of a mapping is text and every value has a shape. -/
def admitsEntries (lenient : Bool) : List (Value × Value) → Shape → Bool
  | [], _ => true
  | (k, v) :: rest, value =>
    k.asText?.isSome && admitsValue lenient v value && admitsEntries lenient rest value

/-- Whether every key of a mapping is text and every known field has its shape. -/
def admitsFields (lenient : Bool) : List (Value × Value) → List (String × Shape) → Bool
  | [], _ => true
  | (k, v) :: rest, fields =>
    (match k.asText? with
      | some name =>
        match field? name fields with
        | some shape =>
          if v.isNull then !shape.refusesNull else admitsValue lenient v shape
        | none => true
      | none => false) && admitsFields lenient rest fields

end

/-- Whether a value has this shape. -/
def admits (shape : Shape) (lenient : Bool) (v : Value) : Bool :=
  admitsValue lenient v shape

/-! ### Writing shapes -/

/-- Fields that are text. -/
def texts (names : List String) : List (String × Shape) := names.map (·, .text)

/-- Fields that are truth values. -/
def flags (names : List String) : List (String × Shape) := names.map (·, .flag)

/-- Fields that are integers of 32 bits. -/
def ints (names : List String) : List (String × Shape) := names.map (·, .int32)

/-- Fields that are integers of 64 bits. -/
def longs (names : List String) : List (String × Shape) := names.map (·, .int64)

/-- Fields that are timestamps. -/
def times (names : List String) : List (String × Shape) := names.map (·, .time)

/-- Fields that are lists of texts. -/
def textLists (names : List String) : List (String × Shape) := names.map (·, .list .text)

/-- Fields that are mappings from text to text; amounts of resources are text too. -/
def textDicts (names : List String) : List (String × Shape) := names.map (·, .dict .text)

end Shape

end ClusterAudit.Kubernetes
