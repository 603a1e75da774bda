import ClusterAudit.Json.Schema
import ClusterAudit.Proofs.Json.Fields

/-!
# What a schema document says

A schema is published as a document, and whoever has only the document judges by its keywords.
`ClusterAudit.Json.Valid` is this judgement, without any knowledge of where the document came from:
every keyword asks something of its own, a keyword that is not there asks nothing, and next to a
reference the others do not count. Titles, descriptions, defaults and definitions ask nothing.

That the judgement is the one of `ClusterAudit.JsonSchema.admits` is an induction on the schema
(`ClusterAudit.JsonSchema.IsWrittenIn.valid_iff`), with one fact for each constructor about what its
document asks. Nothing is proved about documents that were not made from a schema. What the
induction needs of the root document, that a name leads to what it stands for, is
`ClusterAudit.JsonSchema.IsWrittenIn`; what is written around a schema, such as the description of a
field, leaves its keywords alone (`ClusterAudit.Json.SameKeywords`).

A document is a tree when its objects give each name once, which is what a text layer delivers.
`ClusterAudit.JsonSchema.Describes` says that a schema admits a tree, and is unfolded constructor by
constructor.
-/

namespace ClusterAudit

namespace Json

/-! ### Validity under a schema document -/

/-- The names of the types that a document has. -/
def typeNames : Json → List String
  | .null => ["null"]
  | .bool _ => ["boolean"]
  | .int _ => ["integer", "number"]
  | .real _ => ["number"]
  | .string _ => ["string"]
  | .array _ => ["array"]
  | .object _ => ["object"]

/-- Whether a document is of a type, or of one of several. -/
def IsOfType (x t : Json) : Prop :=
  ∃ n ∈ x.typeNames, t = .string n ∨ ∃ l, t = .array l ∧ .string n ∈ l

/-- The items of a list; no other document has any. -/
def items : Json → List Json
  | .array l => l
  | _ => []

/-- The fields of an object; no other document has any. -/
def fieldList : Json → List (String × Json)
  | .object l => l
  | _ => []

/-- The schema of a root document that has a name. -/
def definition? (root : Json) (name : String) : Option Json :=
  (root.field? "definitions").bind fun d => d.field? name

/-- **Validity under a schema document**, whose references are looked up in a root document. With
`keywords` the keywords of an object are obeyed one by one, and `choice` is the alternative of
`anyOf` that was chosen, where there are alternatives. -/
inductive Valid (root : Json) : Json → Json → Prop
  /-- The schema of everything. -/
  | anything (x : Json) : Valid root (.bool true) x
  /-- A reference, next to which nothing else counts. -/
  | reference {d s x : Json} {name : String}
      (refers : d.field? "$ref" = some (.string ("#/definitions/" ++ name)))
      (found : root.definition? name = some s) (valid : Valid root s x) : Valid root d x
  /-- An object that is no reference. -/
  | keywords {l : List (String × Json)} {x : Json} (choice : Json)
      (plain : (object l).field? "$ref" = none)
      (type : ∀ t ∈ (object l).field? "type", x.IsOfType t)
      (enum : ∀ c ∈ (object l).field? "enum", x ∈ c.items)
      (items : ∀ s ∈ (object l).field? "items", ∀ y ∈ x.items, Valid root s y)
      (properties : ∀ p ∈ (object l).field? "properties", ∀ f ∈ x.fieldList,
        ∀ s ∈ p.field? f.1, Valid root s f.2)
      (additional : ∀ s ∈ (object l).field? "additionalProperties", ∀ f ∈ x.fieldList,
        (((object l).field? "properties").bind fun p => p.field? f.1) = none → Valid root s f.2)
      (required : ∀ r ∈ (object l).field? "required", ∀ fs, x = .object fs →
        ∀ n, .string n ∈ r.items → ∃ f ∈ fs, f.1 = n)
      (among : ∀ c ∈ (object l).field? "anyOf", choice ∈ c.items)
      (chosen : ((object l).field? "anyOf").isSome → Valid root choice x) :
      Valid root (.object l) x

variable {root x : Json} {l l' : List (String × Json)}

@[simp] theorem isOfType_string {w : String} : x.IsOfType (.string w) ↔ w ∈ x.typeNames := by
  simp [IsOfType]

@[simp] theorem isOfType_strings {l : List String} :
    x.IsOfType (.strings l) ↔ ∃ w ∈ l, w ∈ x.typeNames := by
  simp [IsOfType, strings, and_comm]

theorem not_valid_false : ¬Valid root (.bool false) x := by
  intro h
  cases h with
  | reference refers => cases refers

/-- Without a reference every keyword counts. -/
theorem valid_iff {d : Json} (hd : ∃ l, d = .object l) (plain : d.field? "$ref" = none) :
    Valid root d x ↔
      (∀ t ∈ d.field? "type", x.IsOfType t) ∧
      (∀ c ∈ d.field? "enum", x ∈ c.items) ∧
      (∀ s ∈ d.field? "items", ∀ y ∈ x.items, Valid root s y) ∧
      (∀ p ∈ d.field? "properties", ∀ f ∈ x.fieldList, ∀ s ∈ p.field? f.1, Valid root s f.2) ∧
      (∀ s ∈ d.field? "additionalProperties", ∀ f ∈ x.fieldList,
        ((d.field? "properties").bind fun p => p.field? f.1) = none → Valid root s f.2) ∧
      (∀ r ∈ d.field? "required", ∀ fs, x = .object fs →
        ∀ n, .string n ∈ r.items → ∃ f ∈ fs, f.1 = n) ∧
      ∀ c ∈ d.field? "anyOf", ∃ s ∈ c.items, Valid root s x := by
  obtain ⟨l, rfl⟩ := hd
  constructor
  · intro h
    cases h with
    | reference refers => rw [plain] at refers; cases refers
    | keywords _ _ type enum items properties additional required among chosen =>
      refine ⟨type, enum, items, properties, additional, required, fun c hc => ⟨_, among c hc, ?_⟩⟩
      exact chosen (Option.isSome_iff_exists.2 ⟨c, hc⟩)
  · rintro ⟨type, enum, items, properties, additional, required, anyOf⟩
    cases hany : (object l).field? "anyOf" with
    | none =>
      -- without alternatives nothing is asked of the choice
      exact .keywords x plain type enum items properties additional required
        (by simp [hany]) (by simp [hany])
    | some c =>
      obtain ⟨s, hs, hvalid⟩ := anyOf c hany
      exact .keywords s plain type enum items properties additional required
        (fun c' hc' => by
          obtain rfl : c = c' := Option.some.inj (hany.symm.trans hc')
          exact hs)
        fun _ => hvalid

/-- The keywords that a schema document is read by. -/
def keywordNames : List String :=
  ["$ref", "type", "enum", "items", "properties", "additionalProperties", "required", "anyOf"]

/-- Two schema documents with the same keywords. -/
def SameKeywords (d d' : Json) : Prop :=
  (∃ l, d = .object l) ∧ (∃ l, d' = .object l) ∧ ∀ k ∈ keywordNames, d.field? k = d'.field? k

theorem SameKeywords.symm {d d' : Json} (h : SameKeywords d d') : SameKeywords d' d :=
  ⟨h.2.1, h.1, fun k hk => (h.2.2 k hk).symm⟩

theorem Valid.congr {d d' : Json} (h : SameKeywords d d') (hvalid : Valid root d x) :
    Valid root d' x := by
  obtain ⟨hd, ⟨l', rfl⟩, h⟩ := h
  simp only [keywordNames, List.forall_mem_cons] at h
  obtain ⟨href, htype, henum, hitems, hproperties, hadditional, hrequired, hany, -⟩ := h
  cases hvalid with
  | anything => exact absurd hd nofun
  | reference refers found valid => exact .reference (href ▸ refers) found valid
  | keywords choice plain type enum items properties additional required among chosen =>
    exact .keywords choice (href ▸ plain) (htype ▸ type) (henum ▸ enum) (hitems ▸ items)
      (hproperties ▸ properties) (by rw [← hadditional, ← hproperties]; exact additional)
      (hrequired ▸ required) (hany ▸ among) (hany ▸ chosen)

/-- **What else a schema document says does not count.** -/
theorem SameKeywords.valid_iff {d d' : Json} (h : SameKeywords d d') :
    Valid root d x ↔ Valid root d' x :=
  ⟨.congr h, .congr h.symm⟩

end Json

namespace JsonSchema

open Json

/-! ### Schemas and their documents -/

/-- The document of a schema in canonical order. -/
def written (s : JsonSchema) : Json :=
  canonical (.object s.documentFields)

/-- **A schema is written in a root document**: its names lead to the schemas they stand for, and no
field of a record is described twice. -/
inductive IsWrittenIn (root : Json) : JsonSchema → Prop
  /-- One of some words. -/
  | word (choices : List String) : IsWrittenIn root (.word choices)
  /-- Text. -/
  | text : IsWrittenIn root .text
  /-- Text or null. -/
  | textOrNull : IsWrittenIn root .textOrNull
  /-- A truth value. -/
  | flag : IsWrittenIn root .flag
  /-- A list. -/
  | list {item : JsonSchema} (h : IsWrittenIn root item) : IsWrittenIn root (.list item)
  /-- An object with fields of any names. -/
  | dict {value : JsonSchema} (h : IsWrittenIn root value) : IsWrittenIn root (.dict value)
  /-- An object with known fields. -/
  | record {fields : List (String × Note × JsonSchema)} {required : List String}
      (names : (fields.map (·.1)).Nodup) (each : ∀ f ∈ fields, IsWrittenIn root f.2.2) :
      IsWrittenIn root (.record fields required)
  /-- A name, which leads to a document with the keywords of its schema. -/
  | named {name : String} {schema : JsonSchema} {d : Json}
      (found : root.definition? name = some d) (same : SameKeywords d schema.written)
      (h : IsWrittenIn root schema) : IsWrittenIn root (.named name schema)
  /-- Null or something else. -/
  | orNull {schema : JsonSchema} (h : IsWrittenIn root schema) : IsWrittenIn root (.orNull schema)

variable {root x : Json}

-- the keywords of a schema are looked up by evaluation
attribute [local simp] documentFields typeField field?_object given

@[simp] theorem field?_written (s : JsonSchema) (k : String) :
    s.written.field? k = ((Json.object s.documentFields).field? k).map canonical :=
  field?_canonical _ _

theorem exists_written_eq (s : JsonSchema) : ∃ l, s.written = .object l :=
  ⟨_, by rw [written, canonical]⟩

theorem canonical_documentFields (s : JsonSchema) :
    canonical (.object s.documentFields) = s.written := rfl

@[simp] theorem canonical_string (w : String) : canonical (.string w) = .string w := by
  rw [canonical] <;> simp

theorem canonical_array (l : List Json) : canonical (.array l) = .array (l.map canonical) := by
  rw [canonical, canonicalItems_eq]

@[simp] theorem canonical_bool (b : Bool) : canonical (.bool b) = .bool b := by
  rw [canonical] <;> simp

@[simp] theorem canonical_strings (l : List String) :
    canonical (Json.strings l) = Json.strings l := by
  rw [Json.strings, canonical_array, List.map_map]
  exact congrArg _ (List.map_congr_left fun w _ => canonical_string w)

/-! ### What the documents of schemas ask -/

theorem valid_text_iff : Valid root (written .text) x ↔ "string" ∈ x.typeNames := by
  rw [valid_iff (exists_written_eq _) (by simp)]
  simp

theorem valid_flag_iff : Valid root (written .flag) x ↔ "boolean" ∈ x.typeNames := by
  rw [valid_iff (exists_written_eq _) (by simp)]
  simp

theorem valid_textOrNull_iff :
    Valid root (written .textOrNull) x ↔ "string" ∈ x.typeNames ∨ "null" ∈ x.typeNames := by
  rw [valid_iff (exists_written_eq _) (by simp)]
  simp

theorem valid_word_iff {choices : List String} :
    Valid root (written (.word choices)) x ↔
      "string" ∈ x.typeNames ∧ x ∈ (Json.strings choices).items := by
  rw [valid_iff (exists_written_eq _) (by simp)]
  simp

theorem valid_list_iff {item : JsonSchema} :
    Valid root (written (.list item)) x ↔
      "array" ∈ x.typeNames ∧ ∀ y ∈ x.items, Valid root (written item) y := by
  rw [valid_iff (exists_written_eq _) (by simp)]
  simp [canonical_documentFields]

theorem valid_dict_iff {value : JsonSchema} :
    Valid root (written (.dict value)) x ↔
      "object" ∈ x.typeNames ∧ ∀ f ∈ x.fieldList, Valid root (written value) f.2 := by
  rw [valid_iff (exists_written_eq _) (by simp)]
  simp [canonical_documentFields]

theorem valid_orNull_iff {schema : JsonSchema} :
    Valid root (written (.orNull schema)) x ↔
      Valid root (written schema) x ∨ "null" ∈ x.typeNames := by
  have hnull : Valid root (canonical (.object [("type", .string "null")])) x ↔
      "null" ∈ x.typeNames := by
    rw [valid_iff ⟨_, by rw [canonical]⟩ (by simp [field?_canonical])]
    simp [field?_canonical]
  rw [valid_iff (exists_written_eq _) (by simp)]
  simp [canonical_array, canonical_documentFields, Json.items, hnull]

@[simp] theorem mem_items_strings {w : String} {l : List String} :
    Json.string w ∈ (Json.strings l).items ↔ w ∈ l := by
  simp [Json.strings, Json.items]

/-- What the keywords of a record ask. -/
theorem valid_record_keywords {fields : List (String × Note × JsonSchema)}
    {required : List String} :
    Valid root (written (.record fields required)) x ↔
      "object" ∈ x.typeNames ∧
      (∀ f ∈ x.fieldList, ∀ s ∈ (Json.object (documentProperties fields)).canonical.field? f.1,
        Valid root s f.2) ∧
      (∀ f ∈ x.fieldList, (Json.object (documentProperties fields)).canonical.field? f.1 ≠ none) ∧
      ∀ fs, x = .object fs → ∀ r ∈ required, ∃ f ∈ fs, f.1 = r := by
  rw [valid_iff (exists_written_eq _) (by cases required <;> simp)]
  -- fields are looked up among the properties by name, not by evaluation
  generalize hproperties : (Json.object (documentProperties fields)).canonical = properties
  cases required <;> simp [not_valid_false, hproperties]

/-- A record is an object with known fields, and with those that must be there. -/
theorem valid_record_iff {fields : List (String × Note × JsonSchema)} {required : List String} :
    Valid root (written (.record fields required)) x ↔
      "object" ∈ x.typeNames ∧
      (∀ f ∈ x.fieldList, ∃ s ∈ (Json.object (documentProperties fields)).field? f.1,
        Valid root s.canonical f.2) ∧
      ∀ r ∈ required, ∃ f ∈ x.fieldList, f.1 = r := by
  rw [valid_record_keywords]
  refine and_congr_right fun hobject => ?_
  obtain ⟨fs, rfl⟩ : ∃ fs, x = .object fs := by
    cases x <;> simp [typeNames] at hobject
    exact ⟨_, rfl⟩
  simp only [field?_canonical]
  constructor
  · rintro ⟨valid, known, there⟩
    refine ⟨fun f hf => ?_, there fs rfl⟩
    obtain ⟨s, hs⟩ := Option.ne_none_iff_exists'.1 (known f hf)
    obtain ⟨s', hs', rfl⟩ := Option.map_eq_some_iff.1 hs
    exact ⟨s', hs', valid f hf _ hs⟩
  · rintro ⟨each, there⟩
    refine ⟨fun f hf s hs => ?_, fun f hf hnone => ?_, ?_⟩
    · obtain ⟨s', hs', hvalid⟩ := each f hf
      rw [hs'] at hs
      cases hs
      exact hvalid
    · obtain ⟨s', hs', -⟩ := each f hf
      rw [hs'] at hnone
      cases hnone
    · rintro _ ⟨⟩
      exact there

/-- A name stands for what it leads to. -/
theorem valid_named_iff {name : String} {schema : JsonSchema} {d : Json}
    (found : root.definition? name = some d) :
    Valid root (written (.named name schema)) x ↔ Valid root d x := by
  -- only the reference matters of the document, and it determines the name
  have href : (written (.named name schema)).field? "$ref" =
      some (.string ("#/definitions/" ++ name)) := by
    simp
  generalize written (.named name schema) = d' at href
  constructor
  · intro h
    cases h with
    | anything => cases href
    | @reference _ s _ other refers found' valid =>
      rw [href] at refers
      obtain rfl : name = other := by simpa using refers
      rw [found] at found'
      cases found'
      exact valid
    | keywords _ plain => rw [plain] at href; cases href
  · exact .reference href found

theorem documentProperties_eq (fields : List (String × Note × JsonSchema)) :
    documentProperties fields =
      fields.map fun f => (f.1, .object (documentFields f.2.2 ++ f.2.1.fields)) := by
  induction fields with
  | nil => rfl
  | cons f fields ih => rw [documentProperties, ih, List.map_cons]

/-- Fields around those of a schema that are no keywords do not count. -/
theorem sameKeywords_of_others (s : JsonSchema) {before after : List (String × Json)}
    (hbefore : ∀ f ∈ before, f.1 ∉ keywordNames) (hafter : ∀ f ∈ after, f.1 ∉ keywordNames) :
    SameKeywords (canonical (.object (before ++ s.documentFields ++ after))) s.written := by
  refine ⟨⟨_, by rw [canonical]⟩, exists_written_eq s, fun k hk => ?_⟩
  rw [field?_written, field?_canonical,
    field?_append_of_right fun f hf heq => hafter f hf (heq ▸ hk),
    field?_append_of_left fun f hf heq => hbefore f hf (heq ▸ hk)]

theorem sameKeywords_note (s : JsonSchema) (n : Note) :
    SameKeywords (canonical (.object (s.documentFields ++ n.fields))) s.written := by
  change SameKeywords (canonical (.object ([] ++ s.documentFields ++ n.fields))) s.written
  refine sameKeywords_of_others s nofun ?_
  obtain ⟨description, default⟩ := n
  cases description <;> cases default <;> simp [Note.fields, keywordNames]

theorem admitsField_iff {fields : List (String × Note × JsonSchema)}
    (names : (fields.map (·.1)).Nodup) {k : String} :
    admitsField fields k x = true ↔ ∃ f ∈ fields, f.1 = k ∧ f.2.2.admits x = true := by
  induction fields with
  | nil => simp [admitsField]
  | cons f fields ih =>
    obtain ⟨name, note, schema⟩ := f
    obtain ⟨hnew, hrest⟩ := List.nodup_cons.1 names
    rw [admitsField]
    by_cases hk : name = k
    · -- the first field of a name decides, and there is no other
      subst hk
      rw [if_pos (by simp)]
      refine ⟨fun h => ⟨_, List.mem_cons_self, rfl, h⟩, ?_⟩
      rintro ⟨g, hg, hname, hadmits⟩
      rcases List.mem_cons.1 hg with rfl | hg
      · exact hadmits
      · exact absurd (List.mem_map.2 ⟨g, hg, hname⟩) hnew
    · rw [if_neg (by simpa using hk), ih hrest]
      simp [hk]

/-- A field is valid when the schema that describes it admits it. -/
theorem exists_property_iff {fields : List (String × Note × JsonSchema)}
    (names : (fields.map (·.1)).Nodup)
    (each : ∀ f ∈ fields, ∀ x, Valid root f.2.2.written x ↔ f.2.2.admits x = true) {k : String} :
    (∃ s ∈ (Json.object (documentProperties fields)).field? k, Valid root s.canonical x) ↔
      admitsField fields k x = true := by
  rw [admitsField_iff names, documentProperties_eq]
  constructor
  · rintro ⟨s, hs, hvalid⟩
    obtain ⟨f, hf, heq⟩ := List.mem_map.1 (mem_of_field?_eq_some hs)
    cases heq
    exact ⟨f, hf, rfl, (each f hf x).1 ((sameKeywords_note _ _).valid_iff.1 hvalid)⟩
  · rintro ⟨f, hf, rfl, hadmits⟩
    have hnodup : ((fields.map fun f =>
        (f.1, Json.object (documentFields f.2.2 ++ f.2.1.fields))).map (·.1)).Nodup := by
      rwa [List.map_map]
    exact ⟨_, field?_of_mem hnodup (List.mem_map_of_mem hf),
      (sameKeywords_note _ _).valid_iff.2 ((each f hf x).2 hadmits)⟩

/-- **A schema document says what the schema admits.** -/
theorem IsWrittenIn.valid_iff {s : JsonSchema} (h : s.IsWrittenIn root) :
    ∀ x, Valid root s.written x ↔ s.admits x = true := by
  -- what the document asks is rewritten first, and then both sides look at the form of `x`
  induction h with
  | word choices =>
    intro x
    rw [valid_word_iff]
    cases x <;> simp [typeNames, admits]
  | text =>
    intro x
    rw [valid_text_iff]
    cases x <;> simp [typeNames, admits]
  | textOrNull =>
    intro x
    rw [valid_textOrNull_iff]
    cases x <;> simp [typeNames, admits]
  | flag =>
    intro x
    rw [valid_flag_iff]
    cases x <;> simp [typeNames, admits]
  | list _ ih =>
    intro x
    rw [valid_list_iff]
    simp only [ih]
    cases x <;> simp [typeNames, admits, Json.items]
  | dict _ ih =>
    intro x
    rw [valid_dict_iff]
    simp only [ih]
    cases x <;> simp [typeNames, admits, Json.fieldList]
  | @record fields required names each ih =>
    intro x
    rw [valid_record_iff]
    simp only [exists_property_iff names ih]
    cases x <;> simp [typeNames, admits, Json.fieldList]
  | named found same _ ih =>
    intro x
    rw [valid_named_iff found, same.valid_iff, ih, admits]
  | orNull _ ih =>
    intro x
    rw [valid_orNull_iff, ih]
    cases x <;> simp [typeNames, admits]

/-! ### Documents of definitions -/

variable {d r : Definition} {referred : List Definition}

theorem sameKeywords_definition (r : Definition) :
    SameKeywords (canonical r.toJson) r.schema.written := by
  have hsame : SameKeywords (canonical (.object ([("description", .string r.description)] ++
      r.schema.documentFields ++ []))) r.schema.written :=
    sameKeywords_of_others r.schema (by simp [keywordNames]) nofun
  rwa [List.append_nil] at hsame

theorem sameKeywords_document (d : Definition) (referred : List Definition) :
    SameKeywords (document d referred) d.schema.written :=
  sameKeywords_of_others d.schema (by simp [keywordNames]) (by simp [keywordNames])

/-- A name leads to the definition that has it. -/
theorem definition?_document (names : (referred.map Definition.name).Nodup) (hr : r ∈ referred) :
    (document d referred).definition? r.name = some (canonical r.toJson) := by
  have hnodup : ((referred.map fun r => (r.name, r.toJson)).map (·.1)).Nodup := by
    rwa [List.map_map]
  rw [definition?, document, field?_canonical, field?_concat, Option.map_some, Option.bind_some,
    field?_canonical, field?_of_mem hnodup (List.mem_map_of_mem hr), Option.map_some]

theorem IsWrittenIn.use (names : (referred.map Definition.name).Nodup) (hr : r ∈ referred)
    (h : r.schema.IsWrittenIn (document d referred)) :
    r.use.IsWrittenIn (document d referred) :=
  .named (definition?_document names hr) (sameKeywords_definition r) h

/-- **What is valid under the document of a schema** is what the schema admits. -/
theorem valid_document_iff (h : d.schema.IsWrittenIn (document d referred)) :
    Valid (document d referred) (document d referred) x ↔ d.schema.admits x = true :=
  (sameKeywords_document d referred).valid_iff.trans (h.valid_iff x)

end JsonSchema

namespace Json

/-! ### Document trees -/

/-- **A document tree**: an object gives each of its names once. -/
inductive IsTree : Json → Prop
  /-- The null value. -/
  | null : IsTree .null
  /-- A truth value. -/
  | bool (b : Bool) : IsTree (.bool b)
  /-- An integer. -/
  | int (n : Int) : IsTree (.int n)
  /-- Any other number. -/
  | real (x : Binary64) : IsTree (.real x)
  /-- Text. -/
  | string (s : String) : IsTree (.string s)
  /-- A list of trees. -/
  | array {l : List Json} (each : ∀ x ∈ l, IsTree x) : IsTree (.array l)
  /-- An object whose values are trees. -/
  | object {l : List (String × Json)} (names : (l.map (·.1)).Nodup) (each : ∀ f ∈ l, IsTree f.2) :
      IsTree (.object l)

end Json

namespace JsonSchema

open Json

/-- **A schema describes a document**: it is a tree, and admitted. -/
structure Describes (s : JsonSchema) (j : Json) : Prop where
  /-- It is a tree. -/
  tree : j.IsTree
  /-- It is admitted. -/
  admitted : s.admits j = true

variable {s item value : JsonSchema} {known : List (String × Note × JsonSchema)}
  {required : List String} {j : Json}

theorem describes_word_iff {choices : List String} :
    Describes (.word choices) j ↔ ∃ w ∈ choices, j = .string w := by
  constructor
  · rintro ⟨-, hadmits⟩
    cases j with
    | string w => exact ⟨w, by simpa [admits] using hadmits, rfl⟩
    | _ => cases hadmits
  · rintro ⟨w, hw, rfl⟩
    exact ⟨.string w, by simpa [admits] using hw⟩

theorem describes_text_iff : Describes .text j ↔ ∃ w, j = .string w := by
  constructor
  · rintro ⟨-, hadmits⟩
    cases j with
    | string w => exact ⟨w, rfl⟩
    | _ => cases hadmits
  · rintro ⟨w, rfl⟩
    exact ⟨.string w, rfl⟩

theorem describes_flag_iff : Describes .flag j ↔ ∃ b, j = .bool b := by
  constructor
  · rintro ⟨-, hadmits⟩
    cases j with
    | bool b => exact ⟨b, rfl⟩
    | _ => cases hadmits
  · rintro ⟨b, rfl⟩
    exact ⟨.bool b, rfl⟩

theorem describes_named_iff {name : String} : Describes (.named name s) j ↔ s.Describes j := by
  constructor
  · rintro ⟨htree, hadmits⟩
    exact ⟨htree, by rwa [admits] at hadmits⟩
  · rintro ⟨htree, hadmits⟩
    exact ⟨htree, by rwa [admits]⟩

theorem describes_orNull_iff : Describes (.orNull s) j ↔ j = .null ∨ s.Describes j := by
  constructor
  · rintro ⟨htree, hadmits⟩
    cases j with
    | null => exact .inl rfl
    | _ => exact .inr ⟨htree, hadmits⟩
  · rintro (rfl | ⟨htree, hadmits⟩)
    · exact ⟨.null, rfl⟩
    · refine ⟨htree, ?_⟩
      cases j with
      | null => rfl
      | _ => exact hadmits

theorem describes_textOrNull_iff : Describes .textOrNull j ↔ Describes (.orNull .text) j := by
  have hadmits : admits .textOrNull j = admits (.orNull .text) j := by cases j <;> rfl
  constructor
  · rintro ⟨htree, h⟩
    exact ⟨htree, hadmits ▸ h⟩
  · rintro ⟨htree, h⟩
    exact ⟨htree, hadmits ▸ h⟩

theorem describes_list_iff :
    Describes (.list item) j ↔ ∃ l, j = .array l ∧ ∀ x ∈ l, item.Describes x := by
  constructor
  · rintro ⟨htree, hadmits⟩
    cases htree with
    | @array l each =>
      rw [admits, List.all_eq_true] at hadmits
      exact ⟨l, rfl, fun x hx => ⟨each x hx, hadmits x hx⟩⟩
    | _ => cases hadmits
  · rintro ⟨l, rfl, each⟩
    refine ⟨.array fun x hx => (each x hx).tree, ?_⟩
    rw [admits, List.all_eq_true]
    exact fun x hx => (each x hx).admitted

theorem describes_dict_iff :
    Describes (.dict value) j ↔
      ∃ l, j = .object l ∧ (l.map (·.1)).Nodup ∧ ∀ f ∈ l, value.Describes f.2 := by
  constructor
  · rintro ⟨htree, hadmits⟩
    cases htree with
    | @object l names each =>
      rw [admits, List.all_eq_true] at hadmits
      exact ⟨l, rfl, names, fun f hf => ⟨each f hf, hadmits f hf⟩⟩
    | _ => cases hadmits
  · rintro ⟨l, rfl, names, each⟩
    refine ⟨.object names fun f hf => (each f hf).tree, ?_⟩
    rw [admits, List.all_eq_true]
    exact fun f hf => (each f hf).admitted

/-- A record has fields that are known, each of them once and described under its name, and the
fields that must be there. -/
theorem describes_record_iff (names : (known.map (·.1)).Nodup) :
    Describes (.record known required) j ↔
      ∃ l, j = .object l ∧ (l.map (·.1)).Nodup ∧
        (∀ f ∈ l, ∃ g ∈ known, g.1 = f.1 ∧ g.2.2.Describes f.2) ∧
        ∀ r ∈ required, r ∈ l.map (·.1) := by
  constructor
  · rintro ⟨htree, hadmits⟩
    cases htree with
    | @object l distinct each =>
      rw [admits, Bool.and_eq_true, List.all_eq_true, List.all_eq_true] at hadmits
      refine ⟨l, rfl, distinct, fun f hf => ?_, fun r hr => ?_⟩
      · obtain ⟨g, hg, hname, hadmitted⟩ := (admitsField_iff names).1 (hadmits.1 f hf)
        exact ⟨g, hg, hname, each f hf, hadmitted⟩
      · obtain ⟨f, hf, hname⟩ := List.any_eq_true.1 (hadmits.2 r hr)
        exact List.mem_map.2 ⟨f, hf, by simpa using hname⟩
    | _ => cases hadmits
  · rintro ⟨l, rfl, distinct, each, there⟩
    refine ⟨.object distinct fun f hf => ?_, ?_⟩
    · obtain ⟨g, -, -, hdescribes⟩ := each f hf
      exact hdescribes.tree
    · rw [admits, Bool.and_eq_true, List.all_eq_true, List.all_eq_true]
      refine ⟨fun f hf => ?_, fun r hr => ?_⟩
      · obtain ⟨g, hg, hname, hdescribes⟩ := each f hf
        exact (admitsField_iff names).2 ⟨g, hg, hname, hdescribes.admitted⟩
      · obtain ⟨f, hf, hname⟩ := List.mem_map.1 (there r hr)
        exact List.any_eq_true.2 ⟨f, hf, by simpa using hname⟩

end JsonSchema

end ClusterAudit
