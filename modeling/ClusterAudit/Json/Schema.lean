import ClusterAudit.Json.Canonical

/-!
# Schemas of JSON documents

A schema says which documents are valid. `JsonSchema.admits` is that judgement, and
`JsonSchema.toJson` is the schema as a document of its own, in which a schema with a name is
referred to by its name. A record has no fields but those it knows.
-/

namespace ClusterAudit

/-- What is said about a field besides its schema. -/
structure JsonSchema.Note where
  /-- What the field is for. -/
  description : Option String := none
  /-- What it is when it is left out. -/
  default : Option Json := none
deriving Inhabited

/-- A schema. -/
inductive JsonSchema where
  /-- One of some words. -/
  | word (choices : List String)
  /-- Text. -/
  | text
  /-- Text or null. -/
  | textOrNull
  /-- A truth value. -/
  | flag
  /-- A list. -/
  | list (item : JsonSchema)
  /-- An object with fields of any names. -/
  | dict (value : JsonSchema)
  /-- An object with known fields, some of which must be there. -/
  | record (fields : List (String × JsonSchema.Note × JsonSchema)) (required : List String)
  /-- A schema with a name. -/
  | named (name : String) (schema : JsonSchema)
  /-- Null, or what a schema with a name admits. -/
  | orNull (schema : JsonSchema)
deriving Inhabited

namespace JsonSchema

/-! ### Validity -/

mutual

/-- **Whether a document is valid.** -/
def admits : JsonSchema → Json → Bool
  | .word choices, x =>
    match x with
    | .string s => choices.contains s
    | _ => false
  | .text, x =>
    match x with
    | .string _ => true
    | _ => false
  | .textOrNull, x =>
    match x with
    | .string _ => true
    | .null => true
    | _ => false
  | .flag, x =>
    match x with
    | .bool _ => true
    | _ => false
  | .list item, x =>
    match x with
    | .array items => items.all (admits item)
    | _ => false
  | .dict value, x =>
    match x with
    | .object fields => fields.all fun f => admits value f.2
    | _ => false
  | .record known required, x =>
    match x with
    | .object fields =>
      (fields.all fun f => admitsField known f.1 f.2)
        && required.all fun r => fields.any fun f => f.1 == r
    | _ => false
  | .named _ schema, x => admits schema x
  | .orNull schema, x =>
    match x with
    | .null => true
    | x => admits schema x

/-- Whether a field of a record is known and valid. -/
def admitsField : List (String × Note × JsonSchema) → String → Json → Bool
  | [], _, _ => false
  | (name, _, schema) :: rest, k, x => if name == k then admits schema x else admitsField rest k x

end

/-! ### Schemas as documents -/

/-- The field that names the type of a schema. -/
def typeField (name : String) : String × Json :=
  ("type", .string name)

namespace Note

/-- What is said about a field, as fields of the document of its schema. -/
def fields (n : Note) : List (String × Json) :=
  (match n.description with
    | some s => [("description", .string s)]
    | none => [])
    ++ match n.default with
      | some x => [("default", x)]
      | none => []

end Note

mutual

/-- The fields of the document of a schema. -/
def documentFields : JsonSchema → List (String × Json)
  | .word choices => [typeField "string", ("enum", Json.strings choices)]
  | .text => [typeField "string"]
  | .textOrNull => [("type", Json.strings ["string", "null"])]
  | .flag => [typeField "boolean"]
  | .list item => [typeField "array", ("items", .object (documentFields item))]
  | .dict value => [typeField "object", ("additionalProperties", .object (documentFields value))]
  | .record fields required =>
    [typeField "object", ("additionalProperties", .bool false),
      ("properties", .object (documentProperties fields))]
      ++ if required.isEmpty then [] else [("required", Json.strings required)]
  | .named name _ => [("$ref", .string ("#/definitions/" ++ name))]
  | .orNull schema =>
    [("anyOf", .array [.object (documentFields schema), .object [typeField "null"]])]

/-- The documents of the fields of a record. -/
def documentProperties : List (String × Note × JsonSchema) → List (String × Json)
  | [] => []
  | (name, note, schema) :: rest =>
    (name, .object (documentFields schema ++ note.fields)) :: documentProperties rest

end

/-- A schema with its name and with what it describes. -/
structure Definition where
  /-- Its name. -/
  name : String
  /-- What it describes. -/
  description : String
  /-- The schema. -/
  schema : JsonSchema
deriving Inhabited

namespace Definition

/-- The schema where it is only referred to. -/
def use (d : Definition) : JsonSchema := .named d.name d.schema

/-- The document of the schema. -/
def toJson (d : Definition) : Json :=
  .object (("description", .string d.description) :: documentFields d.schema)

end Definition

/-- **A schema as a document** of its own, with the schemas that it refers to. -/
def document (d : Definition) (referred : List Definition) : Json :=
  Json.canonical <| .object <|
    [("$schema", .string "http://json-schema.org/draft-07/schema#"), ("title", .string d.name),
      ("description", .string d.description)]
      ++ documentFields d.schema
      ++ [("definitions", .object (referred.map fun r => (r.name, r.toJson)))]

end JsonSchema

end ClusterAudit
