import ClusterAudit.Number.Binary64

/-!
# JSON documents

Reports, scans, schemas and the answers of the services around the audit are JSON. `Json` is
the document tree. Fields of an object keep the order in which they were written, and a field
may stand there twice: what that means is for the reader of the document to say.
-/

namespace ClusterAudit

/-- A JSON document. -/
inductive Json where
  /-- The null value. -/
  | null
  /-- A truth value. -/
  | bool (b : Bool)
  /-- A number written without fraction and exponent. -/
  | int (n : Int)
  /-- Any other number. -/
  | real (x : Binary64)
  /-- Text. -/
  | string (s : String)
  /-- A list. -/
  | array (items : List Json)
  /-- An object with its fields in writing order. -/
  | object (fields : List (String × Json))
deriving Inhabited

namespace Json

/-- The number `n`. -/
def nat (n : Nat) : Json := .int n

/-- The number `n`. -/
def count (n : UInt32) : Json := .int n.toNat

/-- Text or null. -/
def optString : Option String → Json
  | none => .null
  | some s => .string s

/-- A list of texts. -/
def strings (l : List String) : Json := .array (l.map .string)

/-- The last field called `name`, if this is an object that has one. -/
def field? (name : String) : Json → Option Json
  | .object fields => (fields.reverse.find? fun f => f.1 == name).map (·.2)
  | _ => none

/-- The text of a string. -/
def asString? : Json → Option String
  | .string s => some s
  | _ => none

/-- The value of a truth value. -/
def asBool? : Json → Option Bool
  | .bool b => some b
  | _ => none

/-- The items of a list. -/
def asArray? : Json → Option (List Json)
  | .array items => some items
  | _ => none

/-- The fields of an object. -/
def asObject? : Json → Option (List (String × Json))
  | .object fields => some fields
  | _ => none

/-- The value of a number in the range of a 32-bit count. -/
def asCount? : Json → Option UInt32
  | .int n => if 0 ≤ n ∧ n < UInt32.size then some (UInt32.ofNat n.toNat) else none
  | _ => none

/-- Whether this is null. -/
def isNull : Json → Bool
  | .null => true
  | _ => false

end Json

end ClusterAudit
