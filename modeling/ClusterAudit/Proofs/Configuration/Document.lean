import ClusterAudit.Command.Run
import ClusterAudit.Proofs.Configuration.Faults
import ClusterAudit.Proofs.Yaml.Reading

/-!
# A configuration survives being written

What is shown of a configuration can be put into a file and loaded again. A configuration has a
document, from which everything that is absent or empty is left out, and the reader has to know for
every field what it means that it is not there. `ClusterAudit.Configuration.slots` lists the fields
together with what they hold; the document is made of those that hold something
(`ClusterAudit.Configuration.toJson_eq`), and the reader finds each of them under its name
(`ClusterAudit.Configuration.reads`), with the default of the field when it was left out.

Nothing is assumed about the style in which the document is written, only that it is carried in the
sense of `ClusterAudit.Yaml.Node.Carries`. So a cluster that is called `null` or `123` keeps its
name, and a list of one empty namespace does not become an empty list.

That tables of rules come back is a property of tables: the entries of a table are in order, so
putting them into an empty table one after another makes the same table
(`ClusterAudit.Table.ofList_entries`).
-/

namespace ClusterAudit

open Yaml

/-! ### Tables -/

namespace Table

variable {α : Type}

theorem putEntry_of_forall_lt {k : String} {v : α} {l : List (String × α)}
    (h : ∀ e ∈ l, e.1 < k) : putEntry k v l = l ++ [(k, v)] := by
  induction l with
  | nil => rfl
  | cons e rest ih =>
    obtain ⟨hfirst, hrest⟩ := List.forall_mem_cons.1 h
    rw [putEntry, if_neg (String.lt_asymm hfirst), if_neg (String.ne_of_lt hfirst).symm, ih hrest,
      List.cons_append]

/-- Entries in order are put one behind the other. -/
theorem entries_foldl_insert (t : Table α) {l : List (String × α)}
    (h : (t.entries ++ l).Pairwise fun a b => a.1 < b.1) :
    (l.foldl (fun t e => t.insert e.1 e.2) t).entries = t.entries ++ l := by
  induction l generalizing t with
  | nil => rw [List.foldl_nil, List.append_nil]
  | cons e rest ih =>
    have hinsert : (t.insert e.1 e.2).entries = t.entries ++ [e] := by
      refine putEntry_of_forall_lt fun e' he' => ?_
      exact (List.pairwise_append.1 h).2.2 e' he' e List.mem_cons_self
    have happend : (t.insert e.1 e.2).entries ++ rest = t.entries ++ e :: rest := by
      rw [hinsert, List.append_assoc]
      rfl
    rw [List.foldl_cons, ih _ (happend ▸ h), happend]

theorem eq_of_entries {t u : Table α} (h : t.entries = u.entries) : t = u := by
  cases t
  cases u
  cases h
  rfl

/-- **The entries of a table make the table.** -/
theorem ofList_entries (t : Table α) : ofList t.entries = t :=
  eq_of_entries (entries_foldl_insert empty t.sorted)

end Table

/-! ### Fields -/

/-- A document holds something. -/
def Json.IsFilled (j : Json) : Prop :=
  j ≠ .null ∧ j ≠ .array [] ∧ j ≠ .object []

theorem Action.ofLabel?_label (a : Action) : Action.ofLabel? a.label = some a := by
  cases a <;> rfl

theorem Action.reads (a : Action) : Node.Reads Action.ofNode? (.string a.label) a := by
  rintro n ⟨htext⟩
  rw [Action.ofNode?, htext.word?]
  exact Action.ofLabel?_label a

namespace Exemption

/-- What the fields of an exemption hold; a list without names is left out. -/
def slots (e : Exemption) : List (String × Option Json) :=
  [("controllerNames", slotUnless e.controllerNames.isEmpty (Json.strings e.controllerNames)),
    ("containerNames", slotUnless e.containerNames.isEmpty (Json.strings e.containerNames)),
    ("rules", some (Json.strings e.rules))]

theorem toJson_eq (e : Exemption) : e.toJson = .object (written e.slots) := by
  rw [toJson, slots]
  simp

/-- **An exemption is read back.** -/
theorem reads (e : Exemption) : Node.Reads ofNode? e.toJson e := by
  intro n hn
  rw [toJson_eq] at hn
  have hnames : (e.slots.map Prod.fst).Nodup := show fieldNames.Nodup by decide
  obtain ⟨nodes, hfields, hslots⟩ := hn.fields? hnames
  have hcontrollers : Node.field? nodes "controllerNames" [] (Node.list? Node.text?) =
      some e.controllerNames :=
    hslots.field?_unless (by simp [slots]) List.isEmpty_iff.1 (Node.reads_strings _)
  have hcontainers : Node.field? nodes "containerNames" [] (Node.list? Node.text?) =
      some e.containerNames :=
    hslots.field?_unless (by simp [slots]) List.isEmpty_iff.1 (Node.reads_strings _)
  have hrules : Node.required? nodes "rules" (Node.list? Node.text?) = some e.rules :=
    hslots.required? (by simp [slots]) (Node.reads_strings _)
  have hknown : n.fields? fieldNames = some nodes := hfields
  rw [ofNode?, hknown]
  simp only [Option.bind_eq_bind, Option.bind_some, hcontrollers, hcontainers, hrules]
  rfl

theorem carries_toJson (e : Exemption) : (Node.ofJson e.toJson).Carries e.toJson := by
  rw [toJson_eq]
  refine Node.carries_written ?_
  simp only [slots, List.forall_mem_cons]
  refine ⟨Node.carries_slotUnless (Node.carries_strings _),
    Node.carries_slotUnless (Node.carries_strings _), ?_, nofun⟩
  rintro j ⟨⟩
  exact Node.carries_strings _

end Exemption

namespace Configuration

/-- What the fields of a configuration hold; what is absent or empty is left out. -/
def slots (c : Configuration) : List (String × Option Json) :=
  [("displayName", c.displayName.map .string),
    ("disallowExemptions", some (.bool c.disallowExemptions)),
    ("namespacesToScan", slotUnless c.namespacesToScan.isEmpty (Json.strings c.namespacesToScan)),
    ("scanner", c.scannerUrl.map fun u => .object [("url", .string u)]),
    ("security", slotUnless c.security.isEmpty (tableJson c.security)),
    ("networking", slotUnless c.networking.isEmpty (tableJson c.networking)),
    ("resources", slotUnless c.resources.isEmpty (tableJson c.resources)),
    ("images", slotUnless c.images.isEmpty (tableJson c.images)),
    ("healthChecks", slotUnless c.healthChecks.isEmpty (tableJson c.healthChecks)),
    ("exemptions",
      slotUnless c.exemptions.isEmpty (.array (c.exemptions.map Exemption.toJson)))]

theorem toJson_eq (c : Configuration) : c.toJson = .object (written c.slots) := by
  rw [toJson, slots]
  cases c.displayName <;> cases c.scannerUrl <;> simp [tableField]

theorem reads_table (t : Table Action) : Node.Reads table? (tableJson t) t := by
  intro n hn
  obtain ⟨nodes, hentries, hactions⟩ := hn.mapM_entries Action.reads
  rw [table?, hentries]
  simp only [Option.bind_eq_bind, Option.bind_some, hactions]
  exact congrArg some (Table.ofList_entries t)

theorem reads_scanner (u : String) :
    Node.Reads scanner? (.object [("url", .string u)]) u := by
  intro n hn
  have hwritten : n.Carries (.object (written [("url", some (.string u))])) := hn
  obtain ⟨nodes, hfields, hslots⟩ := hwritten.fields? (by simp)
  have hurl : Node.required? nodes "url" Node.text? = some u :=
    hslots.required? (by simp) (Node.reads_text u)
  have hknown : n.fields? ["url"] = some nodes := hfields
  rw [scanner?, hknown]
  exact hurl

/-- **A configuration is read back.** -/
theorem reads (c : Configuration) : Node.Reads ofNode? c.toJson c := by
  intro n hn
  rw [toJson_eq] at hn
  have hnames : (c.slots.map Prod.fst).Nodup := show fieldNames.Nodup by decide
  obtain ⟨nodes, hfields, hslots⟩ := hn.fields? hnames
  have hdisplay : Node.field? nodes "displayName" none (Node.option? Node.text?) =
      some c.displayName :=
    hslots.field?_option (by simp [slots]) Node.reads_text
  have hexempt : Node.field? nodes "disallowExemptions" false Node.bool? =
      some c.disallowExemptions :=
    hslots.field? (o := some (.bool c.disallowExemptions)) (by simp [slots]) nofun
      (by rintro j ⟨⟩; exact Node.reads_bool _)
  have hnamespaces : Node.field? nodes "namespacesToScan" [] (Node.list? Node.text?) =
      some c.namespacesToScan :=
    hslots.field?_unless (by simp [slots]) List.isEmpty_iff.1 (Node.reads_strings _)
  have hscanner : Node.field? nodes "scanner" none (Node.option? scanner?) = some c.scannerUrl :=
    hslots.field?_option (by simp [slots]) reads_scanner
  have htable : ∀ name t, (name, slotUnless t.isEmpty (tableJson t)) ∈ c.slots →
      Node.field? nodes name .empty table? = some t := fun name t hslot =>
    hslots.field?_unless hslot (fun h => Table.eq_of_entries (List.isEmpty_iff.1 h)) (reads_table t)
  have hsecurity := htable "security" c.security (by simp [slots])
  have hnetworking := htable "networking" c.networking (by simp [slots])
  have hresources := htable "resources" c.resources (by simp [slots])
  have himages := htable "images" c.images (by simp [slots])
  have hhealth := htable "healthChecks" c.healthChecks (by simp [slots])
  have hexemptions : Node.field? nodes "exemptions" [] (Node.list? Exemption.ofNode?) =
      some c.exemptions :=
    hslots.field?_unless (by simp [slots]) List.isEmpty_iff.1
      (Node.Reads.list? Exemption.reads c.exemptions)
  have hknown : n.fields? fieldNames = some nodes := hfields
  rw [ofNode?, hknown]
  simp only [Option.bind_eq_bind, Option.bind_some, hdisplay, hexempt, hnamespaces, hscanner,
    hsecurity, hnetworking, hresources, himages, hhealth, hexemptions]
  rfl

theorem carries_tableJson (t : Table Action) :
    (Node.ofJson (tableJson t)).Carries (tableJson t) := by
  refine Node.carries_object fun f hf => ?_
  obtain ⟨e, -, rfl⟩ := List.mem_map.1 hf
  exact Node.carries_string e.2.label

/-- **The document of a configuration is carried** by the node that is printed. -/
theorem carries_toJson (c : Configuration) : (Node.ofJson c.toJson).Carries c.toJson := by
  have hdisplay : ∀ j ∈ c.displayName.map Json.string, (Node.ofJson j).Carries j :=
    Option.forall_mem_map.2 fun s _ => Node.carries_string s
  have hscanner : ∀ j ∈ c.scannerUrl.map fun u => Json.object [("url", .string u)],
      (Node.ofJson j).Carries j :=
    Option.forall_mem_map.2 fun u _ =>
      Node.carries_object (List.forall_mem_singleton.2 (Node.carries_string u))
  have hexempt : ∀ j ∈ some (Json.bool c.disallowExemptions), (Node.ofJson j).Carries j := by
    rintro j ⟨⟩
    exact Node.carries_bool _
  have hexemptions : ∀ j ∈ c.exemptions.map Exemption.toJson, (Node.ofJson j).Carries j :=
    List.forall_mem_map.2 fun e _ => e.carries_toJson
  have htable : ∀ t : Table Action, ∀ j ∈ slotUnless t.isEmpty (tableJson t),
      (Node.ofJson j).Carries j := fun t => Node.carries_slotUnless (carries_tableJson t)
  rw [toJson_eq]
  refine Node.carries_written ?_
  simp only [slots, List.forall_mem_cons]
  exact ⟨hdisplay, hexempt, Node.carries_slotUnless (Node.carries_strings _), hscanner,
    htable _, htable _, htable _, htable _, htable _,
    Node.carries_slotUnless (Node.carries_array hexemptions), nofun⟩

/-- **What is absent or empty is left out.** -/
theorem filled_of_mem_slots (c : Configuration) :
    ∀ s ∈ c.slots, ∀ j ∈ s.2, j.IsFilled := by
  have hlist : ∀ {α : Type} (l : List α) (write : α → Json),
      ∀ j ∈ slotUnless l.isEmpty (.array (l.map write)), j.IsFilled := by
    intro α l write j hj
    obtain ⟨hl, rfl⟩ := mem_slotUnless.1 hj
    simpa [Json.IsFilled] using hl
  have htable : ∀ t : Table Action, ∀ j ∈ slotUnless t.isEmpty (tableJson t), j.IsFilled := by
    intro t j hj
    obtain ⟨ht, rfl⟩ := mem_slotUnless.1 hj
    simpa [Json.IsFilled, tableJson, Table.isEmpty] using ht
  have hdisplay : ∀ j ∈ c.displayName.map Json.string, j.IsFilled :=
    Option.forall_mem_map.2 fun s _ => by simp [Json.IsFilled]
  have hscanner : ∀ j ∈ c.scannerUrl.map fun u => Json.object [("url", .string u)], j.IsFilled :=
    Option.forall_mem_map.2 fun u _ => by simp [Json.IsFilled]
  have hexempt : ∀ j ∈ some (Json.bool c.disallowExemptions), j.IsFilled := by
    rintro j ⟨⟩
    simp [Json.IsFilled]
  simp only [slots, List.forall_mem_cons]
  exact ⟨hdisplay, hexempt, hlist _ _, hscanner, htable _, htable _, htable _, htable _, htable _,
    hlist _ _, nofun⟩

/-! ### Loading what was shown -/

theorem read_eq_of_accepted {c : Configuration} {text : String}
    (document : (Yaml.document text).toOption.bind ofNode? = some c)
    (accepted : c.validate = .ok ()) : read text = .ok c := by
  have hfault : c.fault? = none := by
    rw [validate] at accepted
    split at accepted
    · cases accepted
    · assumption
  rw [read, document]
  simp only [hfault]

theorem load_eq_of_read {c : Configuration} {env : Surroundings} {location text : String}
    (named : location ≠ "") (stands : textAt env location = .ok text)
    (reading : read text = .ok c) : load env (some location) = .ok c := by
  have hsome : (some location).filter (fun l => !l.isEmpty) = some location := by
    simp [named]
  rw [load, hsome]
  simp only [stands, reading]
  rfl

/-- **A configuration that is shown can be loaded again.** Its document names fields of a
configuration, none of them twice, and nothing that is absent or empty. The node that is printed
carries this document, and whatever else carries it, in other styles of writing, is read as the same
configuration. So when what is read from a text carries the document, as it does when the text was
printed, then the text is accepted as the same configuration, and so is any location where it
stands. -/
theorem read_of_shown (c : Configuration) (accepted : c.validate = .ok ()) :
    (∃ fields, c.toJson = .object fields ∧ (fields.map Prod.fst).Sublist fieldNames ∧
      ∀ f ∈ fields, f.2.IsFilled) ∧
    (Node.ofJson c.toJson).Carries c.toJson ∧
    ofNode? (Node.ofJson c.toJson) = some c ∧
    (∀ n : Node, n.Carries c.toJson → ofNode? n = some c) ∧
    (∀ env location, load env location = .ok c →
      Command.showConfiguration env location = .printed env.files c.render) ∧
    ∀ (text : String) (n : Node), document text = .ok n → n.Carries c.toJson →
      read text = .ok c ∧
      ∀ (env : Surroundings) (location : String), location ≠ "" →
        textAt env location = .ok text → load env (some location) = .ok c := by
  refine ⟨⟨_, c.toJson_eq, names_written_sublist c.slots, forall_mem_written c.filled_of_mem_slots⟩,
    c.carries_toJson, c.reads _ c.carries_toJson, c.reads, fun env location hload => ?_,
    fun text n hdocument hn => ?_⟩
  · rw [Command.showConfiguration, hload]
  · have hread : read text = .ok c := by
      refine read_eq_of_accepted ?_ accepted
      rw [hdocument]
      exact c.reads n hn
    exact ⟨hread, fun env location hnamed hstands => load_eq_of_read hnamed hstands hread⟩

set_option maxRecDepth 4000 in
/-- Names that look like something else are put between quotes. -/
theorem read_of_shown_quoted :
    let c : Configuration := {
      displayName := some "null"
      namespacesToScan := ["", "123"]
      scannerUrl := some "http://[::1]:8081"
      images := .insert .empty "tagNotSpecified" .warning
      exemptions := [{ controllerNames := ["kube-proxy"], rules := ["hostNetworkSet"] }] }
    c.validate = .ok () ∧ read c.render = .ok c := by
  intro c
  have hvalid : c.validate = .ok () := by decide +kernel
  -- the printer makes a list of characters and the scanner takes one, with a text only in between
  have hrender : c.render =
      String.ofList (Node.blockEntries 0 (Node.ofJsonFields (written c.slots))) := by rfl
  have hdocument : ∃ n, document c.render = .ok n ∧ n.Carries c.toJson := by
    refine Node.exists_document_of_carried ?_
    rw [hrender, document, documents, Token.scan_ofList]
    decide +kernel
  obtain ⟨n, hn, hcarries⟩ := hdocument
  exact ⟨hvalid, ((read_of_shown c hvalid).2.2.2.2.2 c.render n hn hcarries).1⟩

end Configuration

end ClusterAudit
