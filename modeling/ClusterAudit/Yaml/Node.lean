import ClusterAudit.Yaml.Token.Basic

/-!
# YAML nodes

A node is a scalar with the way it is written, a list or a mapping, each with its tag if it has
one. Aliases are gone: wherever one stood, the node it names stands again. Whether a scalar is
a number, a truth value or text is not decided here; that is for the reader of the node.
-/

namespace ClusterAudit.Yaml

/-- A node of a document. -/
inductive Node where
  /-- A scalar. -/
  | scalar (tag : Option Tag) (style : Style) (text : String)
  /-- A list. -/
  | sequence (tag : Option Tag) (items : List Node)
  /-- A mapping, its entries in writing order. -/
  | mapping (tag : Option Tag) (entries : List (Node × Node))
deriving Inhabited

/-- The node of a document in which nothing is written. -/
def Node.void : Node := .scalar none .plain ""

end ClusterAudit.Yaml
