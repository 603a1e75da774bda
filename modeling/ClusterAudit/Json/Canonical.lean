import ClusterAudit.Json.Basic
import ClusterAudit.Text.Table

/-!
# Documents in canonical order

Two JSON objects with the same fields say the same thing, in whatever order the fields stand.
`Json.canonical` puts the fields of all objects in the order of their names, and of fields with one
name it keeps the last.
-/

namespace ClusterAudit.Json

mutual

/-- **The document with the fields of its objects in order**, each once. -/
def canonical : Json → Json
  | .array items => .array (canonicalItems items)
  | .object fields => .object (Table.ofList (canonicalFields fields)).entries
  | x => x

/-- The items of a list with the fields of their objects in order. -/
def canonicalItems : List Json → List Json
  | [] => []
  | x :: xs => canonical x :: canonicalItems xs

/-- The fields of an object with the fields of their objects in order. -/
def canonicalFields : List (String × Json) → List (String × Json)
  | [] => []
  | (k, x) :: fs => (k, canonical x) :: canonicalFields fs

end

end ClusterAudit.Json
