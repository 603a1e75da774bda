import ClusterAudit.Proofs.Json.Validity
import ClusterAudit.Proofs.Yaml.Reading

/-!
# Readers that understand a schema

`ClusterAudit.Yaml.Node.Carries` is about the documents that the program writes, which hold neither
null nor numbers. A document that someone else wrote may hold anything, and
`ClusterAudit.Yaml.Node.Spells` relates it to the nodes that spell it: every document can be spelled
(`ClusterAudit.Yaml.Node.spells_ofJson`), most of them in many ways.

A reader understands a schema (`ClusterAudit.Yaml.Node.Understands`) when it reads whatever the
schema describes, in any spelling. Nothing is said about the value that it returns, because a schema
knows nothing of values. There is one fact about each reader of `ClusterAudit.Yaml.Node`. For a
record it comes in two steps: the record is taken apart
(`ClusterAudit.Yaml.Node.Spells.fields?`), and then each of its fields is read, or left out where
the schema does not require it.
-/

namespace ClusterAudit

theorem Yaml.Scalar.isNull_of_ofPlain_null {s : String} (h : Yaml.Scalar.ofPlain s = .null) :
    (s.isEmpty || isNull s) = true := by
  by_contra hnull
  rw [ofPlain, if_neg hnull] at h
  split at h
  · cases h
  · dsimp only at h
    split at h
    · cases h
    · split at h
      · cases h
      · split at h <;> cases h

namespace Yaml.Node

/-! ### Ways of spelling a document -/

/-- **A node spells a document.** Texts, truth values, lists and objects are carried, null is one of
the words for it, and a number is written as in the document. -/
inductive Spells : Node → Json → Prop
  /-- Null. -/
  | null {s : String} (word : Scalar.ofPlain s = .null) : Spells (.scalar none .plain s) .null
  /-- A truth value. -/
  | bool {s : String} {b : Bool} (word : Scalar.ofPlain s = .bool b) :
      Spells (.scalar none .plain s) (.bool b)
  /-- An integer. -/
  | int (n : Int) : Spells (.scalar none .plain (toString n)) (.int n)
  /-- Any other number. -/
  | real (x : Binary64) : Spells (.scalar none .plain (Json.realText x)) (.real x)
  /-- A text. -/
  | string {n : Node} {s : String} (text : n.IsText s) : Spells n (.string s)
  /-- A list, item by item. -/
  | array {nodes : List Node} {items : List Json} (each : List.Forall₂ Spells nodes items) :
      Spells (.sequence none nodes) (.array items)
  /-- An object, field by field. -/
  | object {entries : List (Node × Node)} {fields : List (String × Json)}
      (keys : List.Forall₂ (fun e f => IsText f.1 e.1) entries fields)
      (values : List.Forall₂ Spells (entries.map Prod.snd) (fields.map Prod.snd)) :
      Spells (.mapping none entries) (.object fields)

/-- What a node carries it spells. -/
theorem Carries.spells {n : Node} {j : Json} (h : n.Carries j) : n.Spells j :=
  @Carries.rec (fun n j _ => n.Spells j) (fun nodes items _ => List.Forall₂ Spells nodes items)
    (fun text => .string text) (fun word => .bool word) (fun _ each => .array each)
    (fun keys _ values => .object keys values) .nil (fun _ _ first rest => .cons first rest) n j h

mutual

/-- **Every document can be spelled.** -/
theorem spells_ofJson : ∀ j : Json, (ofJson j).Spells j
  | .null => by
    rw [ofJson]
    exact .null (by decide)
  | .bool b => by
    rw [ofJson]
    cases b with
    | false => exact .bool (by decide)
    | true => exact .bool (by decide)
  | .int n => by
    rw [ofJson]
    exact .int n
  | .real x => by
    rw [ofJson]
    exact .real x
  | .string s => by
    rw [ofJson]
    exact .string (isText_forText s)
  | .array items => by
    rw [ofJson]
    exact .array (forall₂_spells_ofJsonItems items)
  | .object fields => by
    rw [ofJson]
    exact .object (forall₂_isText_ofJsonFields fields) (forall₂_spells_ofJsonFields fields)

theorem forall₂_spells_ofJsonItems : ∀ items : List Json,
    List.Forall₂ Spells (ofJsonItems items) items
  | [] => by
    rw [ofJsonItems]
    exact .nil
  | j :: items => by
    rw [ofJsonItems]
    exact .cons (spells_ofJson j) (forall₂_spells_ofJsonItems items)

theorem forall₂_spells_ofJsonFields : ∀ fields : List (String × Json),
    List.Forall₂ Spells ((ofJsonFields fields).map Prod.snd) (fields.map Prod.snd)
  | [] => by
    rw [ofJsonFields]
    exact .nil
  | (_, j) :: fields => by
    rw [ofJsonFields]
    exact .cons (spells_ofJson j) (forall₂_spells_ofJsonFields fields)

theorem forall₂_isText_ofJsonFields : ∀ fields : List (String × Json),
    List.Forall₂ (fun e f => IsText f.1 e.1) (ofJsonFields fields) fields
  | [] => by
    rw [ofJsonFields]
    exact .nil
  | (k, _) :: fields => by
    rw [ofJsonFields]
    exact .cons (isText_forText k) (forall₂_isText_ofJsonFields fields)

end

/-! ### Readers -/

open JsonSchema

variable {α : Type} {read : Node → Option α} {n : Node} {j : Json} {s : JsonSchema} {w : String}

/-- **A reader understands a schema**: it reads every document that the schema describes, in
whatever way it is spelled. -/
def Understands (read : Node → Option α) (s : JsonSchema) : Prop :=
  ∀ (j : Json) (n : Node), s.Describes j → n.Spells j → (read n).isSome = true

theorem Spells.isText (h : n.Spells (.string w)) : n.IsText w := by
  cases h with
  | string text => exact text

theorem understands_text : Understands text? .text := by
  intro j n hdescribes hn
  obtain ⟨w, rfl⟩ := describes_text_iff.1 hdescribes
  rw [hn.isText.text?]
  rfl

theorem understands_flag : Understands bool? .flag := by
  intro j n hdescribes hn
  obtain ⟨b, rfl⟩ := describes_flag_iff.1 hdescribes
  cases hn with
  | bool word =>
    rw [bool?, if_pos (by rfl), Scalar.bool?_of_ofPlain word]
    rfl

theorem Understands.named {name : String} (h : Understands read s) :
    Understands read (.named name s) :=
  fun j n hdescribes hn => h j n (describes_named_iff.1 hdescribes) hn

/-- A node that spells something is left out or is not, and where null stands it is. -/
theorem Spells.isAbsent? (h : n.Spells j) : ∃ b, n.isAbsent? = some b ∧ (j = .null → b = true) := by
  cases h with
  | @null s word => exact ⟨_, rfl, fun _ => Scalar.isNull_of_ofPlain_null word⟩
  | bool word => exact ⟨_, rfl, nofun⟩
  | int => exact ⟨_, rfl, nofun⟩
  | real => exact ⟨_, rfl, nofun⟩
  | string text =>
    cases text with
    | plain => exact ⟨_, rfl, nofun⟩
    | @quoted style quotes =>
      -- a word for null between quotes is text
      cases style with
      | plain => exact absurd rfl quotes
      | _ => exact ⟨_, rfl, nofun⟩
  | array => exact ⟨_, rfl, nofun⟩
  | object => exact ⟨_, rfl, nofun⟩

theorem Understands.orNull (h : Understands read s) :
    Understands (Node.option? read) (.orNull s) := by
  intro j n hdescribes hn
  obtain ⟨b, habsent, hnull⟩ := hn.isAbsent?
  rw [Node.option?, habsent]
  cases b with
  | true => rfl
  | false =>
    -- the node is there, so that the document is not null
    rcases describes_orNull_iff.1 hdescribes with rfl | hdescribes
    · cases hnull rfl
    · rw [Option.isSome_map]
      exact h j n hdescribes hn

theorem understands_textOrNull : Understands (Node.option? text?) .textOrNull :=
  fun j n hdescribes hn =>
    understands_text.orNull j n (describes_textOrNull_iff.1 hdescribes) hn

theorem mapM_isSome {β : Type} {f : β → Option α} {l : List β}
    (h : ∀ b ∈ l, (f b).isSome = true) : (l.mapM f).isSome = true := by
  induction l with
  | nil => rfl
  | cons b l ih =>
    obtain ⟨hb, hl⟩ := List.forall_mem_cons.1 h
    obtain ⟨a, ha⟩ := Option.isSome_iff_exists.1 hb
    obtain ⟨as, has⟩ := Option.isSome_iff_exists.1 (ih hl)
    rw [List.mapM_cons, ha, has]
    rfl

theorem exists_mem_of_forall₂ {α β : Type} {R : α → β → Prop} {l : List α} {m : List β}
    (h : List.Forall₂ R l m) {a : α} (ha : a ∈ l) : ∃ b ∈ m, R a b := by
  induction h with
  | nil => cases ha
  | @cons a' b l m hab _ ih =>
    rcases List.mem_cons.1 ha with rfl | ha
    · exact ⟨b, List.mem_cons_self, hab⟩
    · obtain ⟨b', hb', hab'⟩ := ih ha
      exact ⟨b', List.mem_cons_of_mem _ hb', hab'⟩

theorem Understands.list (h : Understands read s) : Understands (Node.list? read) (.list s) := by
  intro j n hdescribes hn
  obtain ⟨l, rfl, hitems⟩ := describes_list_iff.1 hdescribes
  cases hn with
  | array each =>
    rw [Node.list?]
    refine mapM_isSome fun node hnode => ?_
    obtain ⟨x, hx, hspells⟩ := exists_mem_of_forall₂ each hnode
    exact h x node (hitems x hx) hspells

/-! ### Mappings -/

/-- An object is read as its fields. -/
theorem Spells.entries? {fields : List (String × Json)} (h : n.Spells (.object fields)) :
    ∃ nodes, n.entries? = some nodes ∧
      List.Forall₂ (fun e f => e.1 = f.1 ∧ e.2.Spells f.2) nodes fields := by
  cases h with
  | object keys values => exact entries?_of_keys keys values

/-- A mapping from text is read entry by entry. -/
theorem Understands.mapM_entries (h : Understands read s) (hdescribes : Describes (.dict s) j)
    (hn : n.Spells j) :
    ∃ nodes, n.entries? = some nodes ∧
      (nodes.mapM fun e => (read e.2).map fun a => (e.1, a)).isSome = true := by
  obtain ⟨l, rfl, -, hvalues⟩ := describes_dict_iff.1 hdescribes
  obtain ⟨nodes, hnodes, hspells⟩ := hn.entries?
  refine ⟨nodes, hnodes, mapM_isSome fun e he => ?_⟩
  obtain ⟨f, hf, -, hef⟩ := exists_mem_of_forall₂ hspells he
  rw [Option.isSome_map]
  exact h f.2 e.2 (hvalues f hf) hef

/-- A field that was read, if it stands there, is spelled as a schema describes. -/
def HoldsField (nodes : List (String × Node)) (name : String) (s : JsonSchema) : Prop :=
  ∀ e ∈ nodes.find? fun e => e.1 == name, ∃ j, s.Describes j ∧ e.2.Spells j

variable {nodes : List (String × Node)} {known : List (String × Note × JsonSchema)}
  {required : List String} {name : String}

/-- **A record that a schema describes is taken apart**: its fields are known, none of them stands
there twice, and those that are required are there. -/
theorem Spells.fields? (names : (known.map (·.1)).Nodup)
    (hdescribes : Describes (.record known required) j) (hn : n.Spells j) :
    ∃ nodes, n.fields? (known.map (·.1)) = some nodes ∧
      (∀ f ∈ known, HoldsField nodes f.1 f.2.2) ∧
      ∀ r ∈ required, (nodes.find? fun e => e.1 == r).isSome = true := by
  obtain ⟨l, rfl, hdistinct, hfields, hrequired⟩ := (describes_record_iff names).1 hdescribes
  obtain ⟨nodes, hnodes, hspells⟩ := hn.entries?
  have hnames : nodes.map (·.1) = l.map (·.1) := by
    rw [← List.forall₂_eq_eq_eq, List.forall₂_map_left_iff, List.forall₂_map_right_iff]
    exact hspells.imp fun _ _ hef => hef.1
  refine ⟨nodes, ?_, fun f hf e he => ?_, fun r hr => ?_⟩
  · have hknown : ((nodes.map (·.1)).all (known.map (·.1)).contains &&
        decide (nodes.map (·.1)).Nodup) = true := by
      rw [hnames, Bool.and_eq_true, List.all_eq_true, decide_eq_true_iff]
      refine ⟨fun k hk => ?_, hdistinct⟩
      obtain ⟨g, hg, rfl⟩ := List.mem_map.1 hk
      obtain ⟨f, hf, hname, -⟩ := hfields g hg
      exact List.contains_iff_mem.2 (hname ▸ List.mem_map_of_mem hf)
    rw [Node.fields?, hnodes]
    exact if_pos hknown
  · have hname : e.1 = f.1 := by simpa using List.find?_some he
    obtain ⟨g, hg, heg, hvalue⟩ := exists_mem_of_forall₂ hspells (List.mem_of_find?_eq_some he)
    obtain ⟨f', hf', hname', hdescribed⟩ := hfields g hg
    -- no other field of the schema has the name
    obtain rfl : f' = f :=
      List.inj_on_of_nodup_map names hf' hf (hname'.trans (heg.symm.trans hname))
    exact ⟨g.2, hdescribed, hvalue⟩
  · obtain ⟨e, he, rfl⟩ := List.mem_map.1 (hnames ▸ hrequired r hr)
    exact List.find?_isSome.2 ⟨e, he, by simp⟩

/-- A field that may be left out is read. -/
theorem HoldsField.field? (default : α) (h : HoldsField nodes name s) (hread : Understands read s) :
    ∃ a, Node.field? nodes name default read = some a := by
  rw [Node.field?]
  cases hfind : nodes.find? fun e => e.1 == name with
  | none => exact ⟨default, rfl⟩
  | some e =>
    obtain ⟨j, hdescribes, hspells⟩ := h e hfind
    exact Option.isSome_iff_exists.1 (hread j e.2 hdescribes hspells)

/-- A field that is there is read. -/
theorem HoldsField.required? (h : HoldsField nodes name s) (hread : Understands read s)
    (hthere : (nodes.find? fun e => e.1 == name).isSome = true) :
    ∃ a, Node.required? nodes name read = some a := by
  obtain ⟨e, hfind⟩ := Option.isSome_iff_exists.1 hthere
  obtain ⟨j, hdescribes, hspells⟩ := h e hfind
  rw [Node.required?, hfind]
  exact Option.isSome_iff_exists.1 (hread j e.2 hdescribes hspells)

end Yaml.Node

end ClusterAudit
