import ClusterAudit.Proofs.Configuration.Document
import ClusterAudit.Proofs.Json.Reading
import ClusterAudit.Proofs.Yaml.Spelling

/-!
# The schema is sound for the reader

An editor that checks a configuration against its schema promises that the program will be able to
read it. Schema and reader are written apart from each other, and have to agree in every position:
which fields there are and which must be there, where null is as good as nothing, and which words
are actions.

* `ClusterAudit.Configuration.valid_schemaDocument_iff`: what the printed schema says is what
  `ClusterAudit.JsonSchema.admits` decides. Its references lead where they should.
* `ClusterAudit.Configuration.parse?_schemaDocument`: who reads what is printed has the schema.
* `ClusterAudit.Configuration.understands_schema`: the reader understands the schema, in the sense
  of `ClusterAudit.Yaml.Node.Understands`. The readers of the parts are followed from the actions
  upwards, and there is one fact about each of them.
* `ClusterAudit.Configuration.describes_toJson`: the schema describes what is written. Fields that
  are left out need no word about them, and the others are gone through in the order of the schema.
-/

namespace ClusterAudit

open Yaml JsonSchema

/-! ### The schema as a document -/

namespace Configuration

/-- The schemas that the schema of a configuration refers to. -/
def referred : List Definition :=
  [Action.schema, Exemption.schema, scannerSchema]

theorem nodup_name_referred : (referred.map Definition.name).Nodup := by decide

/-- The fields of a configuration in its schema. -/
def knownFields : List (String × Note × JsonSchema) :=
  [described "displayName" "Overrides the cluster name shown in the report." .textOrNull,
    ("disallowExemptions",
      { description := some "Ignore every exemption below.", default := some (.bool false) },
      .flag),
    described "namespacesToScan" "Restrict the audit to these namespaces. Empty means all."
      (.list .text),
    described "scanner"
      "Vulnerability scanner to query. When omitted, no image checks are emitted."
      (.orNull scannerSchema.use),
    rulesField .security, rulesField .networking, rulesField .resources, rulesField .images,
    rulesField .healthChecks, ("exemptions", {}, .list Exemption.schema.use)]

theorem schema_eq : schema.schema = .record knownFields [] := rfl

theorem nodup_knownFields : (knownFields.map (·.1)).Nodup := show fieldNames.Nodup by decide

theorem use_isWrittenIn {d : Definition} (hd : d ∈ referred)
    (h : d.schema.IsWrittenIn schemaDocument) : d.use.IsWrittenIn schemaDocument :=
  h.use nodup_name_referred hd

/-- The tables of rules refer to the actions. -/
theorem table_isWrittenIn : (JsonSchema.dict Action.schema.use).IsWrittenIn schemaDocument :=
  .dict (use_isWrittenIn (by simp [referred]) (.word _))

theorem exemption_isWrittenIn : Exemption.schema.use.IsWrittenIn schemaDocument := by
  refine use_isWrittenIn (by simp [referred]) (.record (by decide) ?_)
  simp only [List.forall_mem_cons]
  exact ⟨.list .text, .list .text, .list .text, nofun⟩

theorem scanner_isWrittenIn : scannerSchema.use.IsWrittenIn schemaDocument := by
  refine use_isWrittenIn (by simp [referred]) (.record (by decide) ?_)
  simp only [List.forall_mem_cons]
  exact ⟨.text, nofun⟩

theorem schema_isWrittenIn : schema.schema.IsWrittenIn schemaDocument := by
  rw [schema_eq]
  refine .record nodup_knownFields ?_
  simp only [knownFields, List.forall_mem_cons]
  exact ⟨.textOrNull, .flag, .list .text, .orNull scanner_isWrittenIn, table_isWrittenIn,
    table_isWrittenIn, table_isWrittenIn, table_isWrittenIn, table_isWrittenIn,
    .list exemption_isWrittenIn, nofun⟩

/-- **The printed schema says what is admitted.** -/
theorem valid_schemaDocument_iff {j : Json} :
    Json.Valid schemaDocument schemaDocument j ↔ schema.schema.admits j = true :=
  valid_document_iff schema_isWrittenIn

/-- **What is printed is read as the schema.** -/
theorem parse?_schemaDocument :
    Json.parse? (schemaDocument.pretty ++ "\n") = some schemaDocument := by
  have hreadable : Json.IsReadable .everything 8 schemaDocument := by decide +kernel
  exact Json.select?_pretty hreadable (by decide) (by decide +kernel)

/-- The word of an action is one of three. -/
example : schema.schema.admits (.object [("images", .object [("tagNotSpecified", .string "fatal")])])
    = false := by decide

/-- An exemption without rules to list is not admitted. -/
example : schema.schema.admits (.object [("exemptions", .array [.object []])]) = false := by decide

end Configuration

/-! ### Reading what the schema describes -/

theorem Action.mem_labels {w : String} (h : w ∈ Action.all.map Action.label) :
    ∃ a, Action.ofLabel? w = some a := by
  obtain ⟨a, -, rfl⟩ := List.mem_map.1 h
  exact ⟨a, a.ofLabel?_label⟩

theorem Action.understands_schema : Node.Understands Action.ofNode? Action.schema.use := by
  refine Node.Understands.named fun j n hdescribes hn => ?_
  obtain ⟨w, hw, rfl⟩ := describes_word_iff.1 hdescribes
  obtain ⟨a, ha⟩ := Action.mem_labels hw
  rw [Action.ofNode?, hn.isText.word?, Option.bind_some, ha]
  rfl

theorem Exemption.understands_schema :
    Node.Understands Exemption.ofNode? Exemption.schema.use := by
  refine Node.Understands.named fun j n hdescribes hn => ?_
  obtain ⟨nodes, hfields, hholds, hthere⟩ := hn.fields? (by decide) hdescribes
  simp only [Configuration.described, List.forall_mem_cons] at hholds
  obtain ⟨hcontrollers, hcontainers, hrules, -⟩ := hholds
  have hstrings := Node.understands_text.list
  obtain ⟨controllers, hcontrollers⟩ := hcontrollers.field? [] hstrings
  obtain ⟨containers, hcontainers⟩ := hcontainers.field? [] hstrings
  obtain ⟨rules, hrules⟩ := hrules.required? hstrings (hthere _ List.mem_cons_self)
  have hknown : n.fields? fieldNames = some nodes := hfields
  rw [ofNode?, hknown]
  simp only [Option.bind_eq_bind, Option.bind_some, hcontrollers, hcontainers, hrules]
  rfl

namespace Configuration

theorem understands_table : Node.Understands table? (.dict Action.schema.use) := by
  intro j n hdescribes hn
  obtain ⟨nodes, hentries, hactions⟩ :=
    Node.Understands.mapM_entries Action.understands_schema hdescribes hn
  obtain ⟨actions, hactions⟩ := Option.isSome_iff_exists.1 hactions
  rw [table?, hentries]
  simp only [Option.bind_eq_bind, Option.bind_some, hactions]
  rfl

theorem understands_scanner : Node.Understands scanner? scannerSchema.use := by
  refine Node.Understands.named fun j n hdescribes hn => ?_
  obtain ⟨nodes, hfields, hholds, hthere⟩ := hn.fields? (by decide) hdescribes
  simp only [described, List.forall_mem_cons] at hholds
  obtain ⟨url, hurl⟩ :=
    hholds.1.required? Node.understands_text (hthere _ List.mem_cons_self)
  have hknown : n.fields? ["url"] = some nodes := hfields
  rw [scanner?, hknown]
  exact Option.isSome_iff_exists.2 ⟨url, hurl⟩

/-- **The reader understands the schema.** -/
theorem understands_schema : Node.Understands ofNode? schema.schema := by
  intro j n hdescribes hn
  rw [schema_eq] at hdescribes
  obtain ⟨nodes, hfields, hholds, -⟩ := hn.fields? nodup_knownFields hdescribes
  -- one field after the other, in the order of the schema
  simp only [knownFields, described, rulesField, RuleGroup.key, List.forall_mem_cons] at hholds
  obtain ⟨hdisplay, hexempt, hnamespaces, hscanner, hsecurity, hnetworking, hresources, himages,
    hhealth, hexemptions, -⟩ := hholds
  obtain ⟨displayName, hdisplay⟩ := hdisplay.field? none Node.understands_textOrNull
  obtain ⟨disallowExemptions, hexempt⟩ := hexempt.field? false Node.understands_flag
  obtain ⟨namespacesToScan, hnamespaces⟩ := hnamespaces.field? [] Node.understands_text.list
  obtain ⟨scannerUrl, hscanner⟩ := hscanner.field? none understands_scanner.orNull
  obtain ⟨security, hsecurity⟩ := hsecurity.field? .empty understands_table
  obtain ⟨networking, hnetworking⟩ := hnetworking.field? .empty understands_table
  obtain ⟨resources, hresources⟩ := hresources.field? .empty understands_table
  obtain ⟨images, himages⟩ := himages.field? .empty understands_table
  obtain ⟨healthChecks, hhealth⟩ := hhealth.field? .empty understands_table
  obtain ⟨exemptions, hexemptions⟩ :=
    hexemptions.field? [] Exemption.understands_schema.list
  have hknown : n.fields? fieldNames = some nodes := hfields
  rw [ofNode?, hknown]
  simp only [Option.bind_eq_bind, Option.bind_some, hdisplay, hexempt, hnamespaces, hscanner,
    hsecurity, hnetworking, hresources, himages, hhealth, hexemptions]
  rfl

end Configuration

/-! ### Describing what is written -/

/-- **A record that is written is described**, if its slots are those of the schema, in the same
order, and hold nothing or what the schema describes. -/
theorem describes_written {known : List (String × Note × JsonSchema)} {required : List String}
    {slots : List (String × Option Json)} (names : (known.map (·.1)).Nodup)
    (each : List.Forall₂ (fun s f => s.1 = f.1 ∧ ∀ j ∈ s.2, f.2.2.Describes j) slots known)
    (there : ∀ r ∈ required, ∃ j, (r, some j) ∈ slots) :
    Describes (.record known required) (.object (written slots)) := by
  have hnames : slots.map (·.1) = known.map (·.1) := by
    rw [← List.forall₂_eq_eq_eq, List.forall₂_map_left_iff, List.forall₂_map_right_iff]
    exact each.imp fun _ _ h => h.1
  have hdistinct : ((written slots).map (·.1)).Nodup :=
    (names_written_sublist slots).nodup (hnames ▸ names)
  refine (describes_record_iff names).2 ⟨_, rfl, hdistinct, fun f hf => ?_, fun r hr => ?_⟩
  · obtain ⟨s, hs, hfield⟩ := List.mem_filterMap.1 hf
    obtain ⟨j, hj, rfl⟩ := Option.map_eq_some_iff.1 hfield
    obtain ⟨g, hg, hname, hdescribes⟩ := Node.exists_mem_of_forall₂ each hs
    exact ⟨g, hg, hname.symm, hdescribes j hj⟩
  · obtain ⟨j, hj⟩ := there r hr
    exact List.mem_map.2 ⟨(r, j), List.mem_filterMap.2 ⟨_, hj, rfl⟩, rfl⟩

theorem describes_slotUnless {s : JsonSchema} {empty : Bool} {j : Json} (h : s.Describes j) :
    ∀ j' ∈ slotUnless empty j, s.Describes j' :=
  fun _ hj' => (mem_slotUnless.1 hj').2 ▸ h

theorem describes_strings (l : List String) : Describes (.list .text) (Json.strings l) :=
  describes_list_iff.2 ⟨_, rfl, List.forall_mem_map.2 fun w _ => describes_text_iff.2 ⟨w, rfl⟩⟩

theorem Action.describes_label (a : Action) : Action.schema.use.Describes (.string a.label) :=
  describes_named_iff.2 <|
    describes_word_iff.2 ⟨_, List.mem_map_of_mem (by cases a <;> decide), rfl⟩

/-- **The schema describes an exemption.** -/
theorem Exemption.describes_toJson (e : Exemption) : Exemption.schema.use.Describes e.toJson := by
  rw [toJson_eq]
  refine describes_named_iff.2 (describes_written (by decide) ?_ ?_)
  · refine .cons ⟨rfl, describes_slotUnless (describes_strings _)⟩
      (.cons ⟨rfl, describes_slotUnless (describes_strings _)⟩ (.cons ⟨rfl, ?_⟩ .nil))
    rintro j ⟨⟩
    exact describes_strings e.rules
  · exact List.forall_mem_singleton.2 ⟨Json.strings e.rules, by simp [slots]⟩

namespace Configuration

theorem describes_tableJson (t : Table Action) :
    Describes (.dict Action.schema.use) (tableJson t) := by
  refine describes_dict_iff.2 ⟨_, rfl, ?_, List.forall_mem_map.2 fun e _ => e.2.describes_label⟩
  rw [List.map_map]
  exact t.pairwise_keys.imp String.ne_of_lt

theorem describes_scanner (u : String) :
    scannerSchema.use.Describes (.object [("url", .string u)]) := by
  have hurl : Describes scannerSchema.schema (.object (written [("url", some (.string u))])) := by
    refine describes_written (by decide) (.cons ⟨rfl, ?_⟩ .nil)
      (List.forall_mem_singleton.2 ⟨_, List.mem_cons_self⟩)
    rintro j ⟨⟩
    exact describes_text_iff.2 ⟨u, rfl⟩
  exact describes_named_iff.2 hurl

/-- **The schema describes a configuration.** -/
theorem describes_toJson (c : Configuration) : schema.schema.Describes c.toJson := by
  have hdisplay : ∀ j ∈ c.displayName.map Json.string, Describes .textOrNull j :=
    Option.forall_mem_map.2 fun w _ =>
      describes_textOrNull_iff.2 (describes_orNull_iff.2 (.inr (describes_text_iff.2 ⟨w, rfl⟩)))
  have hexempt : ∀ j ∈ some (Json.bool c.disallowExemptions), Describes .flag j := by
    rintro j ⟨⟩
    exact describes_flag_iff.2 ⟨_, rfl⟩
  have hscanner : ∀ j ∈ c.scannerUrl.map fun u => Json.object [("url", .string u)],
      Describes (.orNull scannerSchema.use) j :=
    Option.forall_mem_map.2 fun u _ => describes_orNull_iff.2 (.inr (describes_scanner u))
  have hexemptions : Describes (.list Exemption.schema.use)
      (.array (c.exemptions.map Exemption.toJson)) :=
    describes_list_iff.2 ⟨_, rfl, List.forall_mem_map.2 fun e _ => e.describes_toJson⟩
  have htable : ∀ t : Table Action, ∀ j ∈ slotUnless t.isEmpty (tableJson t),
      Describes (.dict Action.schema.use) j := fun t => describes_slotUnless (describes_tableJson t)
  rw [toJson_eq, schema_eq]
  refine describes_written nodup_knownFields ?_ nofun
  exact .cons ⟨rfl, hdisplay⟩ <| .cons ⟨rfl, hexempt⟩ <|
    .cons ⟨rfl, describes_slotUnless (describes_strings _)⟩ <| .cons ⟨rfl, hscanner⟩ <|
    .cons ⟨rfl, htable _⟩ <| .cons ⟨rfl, htable _⟩ <| .cons ⟨rfl, htable _⟩ <|
    .cons ⟨rfl, htable _⟩ <| .cons ⟨rfl, htable _⟩ <|
    .cons ⟨rfl, describes_slotUnless hexemptions⟩ .nil

/-! ### Schema and reader agree -/

section Reading

variable {c : Configuration} {text : String} {n : Node}

/-- A text that is read is refused for no reason but those of validation. -/
theorem read_eq_validate (stands : Yaml.document text = .ok n) (reading : ofNode? n = some c) :
    read text = c.validate.map fun _ => c := by
  have hread : (Yaml.document text).toOption.bind ofNode? = some c := by
    rw [stands]
    exact reading
  rw [read, hread, validate]
  cases hfault : c.fault? with
  | none => simp only [hfault]; rfl
  | some f => simp only [hfault]; rfl

theorem validate_ne_malformed (c : Configuration) : c.validate ≠ .error .malformed := by
  intro h
  cases mem_faults.1 (List.mem_of_mem_head? (validate_eq_error.1 h))

theorem read_ne_malformed (stands : Yaml.document text = .ok n) (reading : ofNode? n = some c) :
    read text ≠ .error .malformed := by
  rw [read_eq_validate stands reading]
  intro hmalformed
  cases hvalidate : c.validate with
  | ok u => rw [hvalidate] at hmalformed; cases hmalformed
  | error f =>
    rw [hvalidate] at hmalformed
    obtain rfl : f = .malformed := Except.error.inj hmalformed
    exact c.validate_ne_malformed hvalidate

end Reading

/-- **The schema is sound for the reader.** What is printed is a text of the schema. A document tree
that is valid under it can be spelled, and however it is spelled it is read as a configuration, so
that a text which spells it is accepted or has a fault that validation finds, but is never refused
as no configuration at all. And what is written of a configuration is a document tree, and valid. -/
theorem schema_sound :
    (∀ env isFree, Command.run env isFree .configSchema =
      .finished (.printed env.files (schemaDocument.pretty ++ "\n"))) ∧
    Json.parse? (schemaDocument.pretty ++ "\n") = some schemaDocument ∧
    (∀ j : Json, j.IsTree → Json.Valid schemaDocument schemaDocument j →
      (Node.ofJson j).Spells j ∧
      ∀ n : Node, n.Spells j → ∃ c, ofNode? n = some c ∧
        ∀ text, Yaml.document text = .ok n →
          read text = c.validate.map (fun _ => c) ∧ read text ≠ .error .malformed) ∧
    ∀ c : Configuration, c.toJson.IsTree ∧
      Json.Valid schemaDocument schemaDocument c.toJson := by
  refine ⟨fun _ _ => rfl, parse?_schemaDocument,
    fun j htree hvalid => ⟨Node.spells_ofJson j, fun n hn => ?_⟩, fun c => ?_⟩
  · have hdescribes : schema.schema.Describes j := ⟨htree, valid_schemaDocument_iff.1 hvalid⟩
    obtain ⟨c, hc⟩ := Option.isSome_iff_exists.1 (understands_schema j n hdescribes hn)
    exact ⟨c, hc, fun text stands => ⟨read_eq_validate stands hc, read_ne_malformed stands hc⟩⟩
  · have hdescribes := c.describes_toJson
    exact ⟨hdescribes.tree, valid_schemaDocument_iff.2 hdescribes.admitted⟩

/-- A rule that does not exist is no matter of the schema: the document is valid, and read. -/
theorem schema_sound_misspelt :
    let text := "security:\n  'hostIPC': error\nexemptions:\n- rules: []\n"
    let j := Json.object [("security", .object [("hostIPC", .string "error")]),
      ("exemptions", .array [.object [("rules", .array [])]])]
    j.IsTree ∧ Json.Valid schemaDocument schemaDocument j ∧
    (∃ n c, Yaml.document text = .ok n ∧ n.Spells j ∧ ofNode? n = some c ∧
      read text = c.validate.map fun _ => c) ∧
    read text = .error (.unknownRule .security "hostIPC") := by
  intro text j
  have hrules : (Json.object [("rules", .array [])]).IsTree :=
    .object (by decide) (List.forall_mem_singleton.2 (.array nofun))
  have htree : j.IsTree := by
    refine .object (by decide) ?_
    simp only [List.forall_mem_cons]
    exact ⟨.object (by decide) (List.forall_mem_singleton.2 (.string _)),
      .array (List.forall_mem_singleton.2 hrules), nofun⟩
  have hvalid : Json.Valid schemaDocument schemaDocument j :=
    valid_schemaDocument_iff.2 (by decide +kernel)
  have hstands : ∃ n, Yaml.document text = .ok n ∧ n.Carries j := by
    refine Node.exists_document_of_carried ?_
    rw [Yaml.document, documents, Token.scan_ofList]
    decide +kernel
  obtain ⟨n, hn, hcarries⟩ := hstands
  obtain ⟨c, hc, hread⟩ := (schema_sound.2.2.1 j htree hvalid).2 n hcarries.spells
  exact ⟨htree, hvalid, ⟨n, c, hn, hcarries.spells, hc, (hread text hn).1⟩, by decide +kernel⟩

end Configuration

end ClusterAudit
