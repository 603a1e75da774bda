import ClusterAudit.Yaml.Printer
import ClusterAudit.Yaml.Typed
import Mathlib.Data.List.Forall2
import Mathlib.Data.Option.Basic

/-!
# Reading what was written

A document may be written in many ways: a text stands between quotes or without them, on one line or
on several. `ClusterAudit.Yaml.Node.Carries` relates a node to every document tree that it is a way
of writing, and `ClusterAudit.Yaml.Node.Reads` says of a reader that it gets a value back from a
tree, in whatever way the tree is written. What matters for a text is that it does not become
anything else: without quotes it must not be a word for null, a truth value or a number.

There is one fact about each reader of `ClusterAudit.Yaml.Node` and for each of them that is made of
others it is put together from theirs. A record is written as the list of its fields, of which those
that hold nothing are left out (`ClusterAudit.Yaml.written`). A reader asks for each of them by
name, and finds what was written under it (`ClusterAudit.Yaml.Node.HoldSlots`).
-/

namespace ClusterAudit.Yaml

/-! ### Plain scalars -/

namespace Scalar

variable {s t : String} {b : Bool}

theorem isNull_of_ofPlain (h : ofPlain s ≠ .null) : (s.isEmpty || isNull s) = false := by
  by_contra hnull
  exact h (by rw [ofPlain, if_pos (Bool.not_eq_false _ ▸ hnull)])

theorem bool?_of_ofPlain (h : ofPlain s = .bool b) : bool? s = some b := by
  -- null is tried first, and words for truth values before numbers
  have hnull : ¬ (s.isEmpty || isNull s) = true := by
    rw [isNull_of_ofPlain (by simp [h])]
    exact Bool.false_ne_true
  rw [ofPlain, if_neg hnull] at h
  split at h
  next b' hword =>
    rw [hword, Scalar.bool.inj h]
  next =>
    dsimp only at h
    split at h
    · cases h
    · split at h
      · cases h
      · split at h <;> cases h

/-- A plain scalar that is text is the text that it looks like. -/
theorem eq_of_ofPlain (h : ofPlain s = .text t) : t = s := by
  rw [ofPlain] at h
  split at h
  · cases h
  · split at h
    · cases h
    · dsimp only at h
      split at h
      · cases h
      · split at h
        · exact (Scalar.text.inj h).symm
        · split at h
          · cases h
          · exact (Scalar.text.inj h).symm

end Scalar

/-- The tokens of a text are those of its characters. -/
theorem Token.scan_ofList (cs : List Char) : Token.scan (String.ofList cs) =
    if cs.all isAllowed then Scanner.run (cs.length + 2) { cursor := { rest := cs } }
    else ([], some .controlCharacter) := by
  simp only [Token.scan, String.toList_ofList]

theorem mapM_eq_some_of_forall₂ {α β : Type} {f : α → Option β} {l : List α} {m : List β}
    (h : List.Forall₂ (fun a b => f a = some b) l m) : l.mapM f = some m := by
  induction h with
  | nil => rfl
  | cons hab _ ih =>
    rw [List.mapM_cons, hab, ih]
    rfl

namespace Node

/-! ### Ways of writing a document -/

/-- **A scalar is written as text**: between quotes or after a bar it cannot be anything else, and
without them it is not taken for anything else. -/
inductive IsText (s : String) : Node → Prop
  /-- Without quotes. -/
  | plain (text : Scalar.ofPlain s = .text s) : IsText s (.scalar none .plain s)
  /-- Any other way. -/
  | quoted {style : Style} (quotes : style ≠ .plain) : IsText s (.scalar none style s)

/-- **A node carries a document tree**, in which there are texts, truth values, lists and mappings
from text. There are no tags, and scalars may be written in any style that does not change what they
are. -/
inductive Carries : Node → Json → Prop
  /-- A text. -/
  | string {n : Node} {s : String} (text : n.IsText s) : Carries n (.string s)
  /-- A truth value. -/
  | bool {s : String} {b : Bool} (word : Scalar.ofPlain s = .bool b) :
      Carries (.scalar none .plain s) (.bool b)
  /-- A list, item by item. -/
  | array {nodes : List Node} {items : List Json} (each : List.Forall₂ Carries nodes items) :
      Carries (.sequence none nodes) (.array items)
  /-- A mapping, entry by entry. -/
  | object {entries : List (Node × Node)} {fields : List (String × Json)}
      (keys : List.Forall₂ (fun e f => IsText f.1 e.1) entries fields)
      (values : List.Forall₂ Carries (entries.map Prod.snd) (fields.map Prod.snd)) :
      Carries (.mapping none entries) (.object fields)

/-! ### Telling what is carried -/

theorem isText_scalar_iff {style : Style} {s t : String} :
    IsText s (.scalar none style t) ↔ t = s ∧ (style = .plain → Scalar.ofPlain s = .text s) := by
  constructor
  · rintro (htext | hquotes)
    · exact ⟨rfl, fun _ => htext⟩
    · exact ⟨rfl, fun hplain => absurd hplain hquotes⟩
  · rintro ⟨rfl, h⟩
    by_cases hstyle : style = .plain
    · obtain rfl := hstyle
      exact .plain (h rfl)
    · exact .quoted hstyle

instance (n : Node) (s : String) : Decidable (n.IsText s) :=
  match n with
  | .scalar none _ _ => decidable_of_iff _ isText_scalar_iff.symm
  | .scalar (some _) _ _ | .sequence _ _ | .mapping _ _ => .isFalse nofun

mutual

/-- Whether a node carries a document tree. -/
def carries : Node → Json → Bool
  | n, .string s => decide (n.IsText s)
  | .scalar none .plain t, .bool b => Scalar.ofPlain t = .bool b
  | .sequence none nodes, .array items => carriesItems nodes items
  | .mapping none entries, .object fields => carriesFields entries fields
  | _, _ => false

/-- Whether nodes carry the items of a list one by one. -/
def carriesItems : List Node → List Json → Bool
  | [], [] => true
  | n :: nodes, j :: items => carries n j && carriesItems nodes items
  | _, _ => false

/-- Whether entries carry the fields of an object one by one. -/
def carriesFields : List (Node × Node) → List (String × Json) → Bool
  | [], [] => true
  | (k, v) :: entries, (name, j) :: fields =>
    decide (k.IsText name) && carries v j && carriesFields entries fields
  | _, _ => false

end

mutual

theorem Carries.of_carries : ∀ (n : Node) (j : Json), n.carries j = true → n.Carries j
  | n, .string s, h => .string (by simpa [carries] using h)
  | .scalar none .plain t, .bool b, h => .bool (by simpa [carries] using h)
  | .sequence none nodes, .array items, h => .array (forall₂_of_carriesItems nodes items h)
  | .mapping none entries, .object fields, h =>
    let ⟨hkeys, hvalues⟩ := forall₂_of_carriesFields entries fields h
    .object hkeys hvalues
  | n, .null, h | n, .int _, h | n, .real _, h => by simp [carries] at h

theorem forall₂_of_carriesItems : ∀ (nodes : List Node) (items : List Json),
    carriesItems nodes items = true → List.Forall₂ Carries nodes items
  | [], [], _ => .nil
  | n :: nodes, j :: items, h => by
    rw [carriesItems, Bool.and_eq_true] at h
    exact .cons (Carries.of_carries n j h.1) (forall₂_of_carriesItems nodes items h.2)

theorem forall₂_of_carriesFields : ∀ (entries : List (Node × Node)) (fields : List (String × Json)),
    carriesFields entries fields = true →
      List.Forall₂ (fun e f => IsText f.1 e.1) entries fields ∧
        List.Forall₂ Carries (entries.map Prod.snd) (fields.map Prod.snd)
  | [], [], _ => ⟨.nil, .nil⟩
  | (k, v) :: entries, (name, j) :: fields, h => by
    rw [carriesFields, Bool.and_eq_true, Bool.and_eq_true, decide_eq_true_iff] at h
    obtain ⟨hkeys, hvalues⟩ := forall₂_of_carriesFields entries fields h.2
    exact ⟨.cons h.1.1 hkeys, .cons (Carries.of_carries v j h.1.2) hvalues⟩

end

mutual

theorem Carries.carries : ∀ (n : Node) (j : Json), n.Carries j → n.carries j = true
  | n, .string s, .string h => by simpa [carries] using h
  | .scalar none .plain t, .bool b, .bool h => by simpa [carries] using h
  | .sequence none nodes, .array items, .array h => carriesItems_of_forall₂ nodes items h
  | .mapping none entries, .object fields, .object hkeys hvalues =>
    carriesFields_of_forall₂ entries fields hkeys hvalues

theorem carriesItems_of_forall₂ : ∀ (nodes : List Node) (items : List Json),
    List.Forall₂ Carries nodes items → carriesItems nodes items = true
  | [], [], _ => rfl
  | n :: nodes, j :: items, .cons h hs => by
    rw [carriesItems, Carries.carries n j h, carriesItems_of_forall₂ nodes items hs, Bool.and_self]

theorem carriesFields_of_forall₂ : ∀ (entries : List (Node × Node)) (fields : List (String × Json)),
    List.Forall₂ (fun e f => IsText f.1 e.1) entries fields →
      List.Forall₂ Carries (entries.map Prod.snd) (fields.map Prod.snd) →
        carriesFields entries fields = true
  | [], [], _, _ => rfl
  | (k, v) :: entries, (name, j) :: fields, .cons hk hks, .cons hv hvs => by
    rw [carriesFields, Carries.carries v j hv, carriesFields_of_forall₂ entries fields hks hvs,
      decide_eq_true hk, Bool.and_self, Bool.and_self]

end

instance (n : Node) (j : Json) : Decidable (n.Carries j) :=
  decidable_of_iff (n.carries j = true) ⟨Carries.of_carries n j, Carries.carries n j⟩

theorem exists_document_of_carried {text : String} {j : Json}
    (h : (document text).toOption.any (fun n => decide (n.Carries j)) = true) :
    ∃ n : Node, document text = .ok n ∧ n.Carries j := by
  cases hn : document text with
  | error e => rw [hn] at h; cases h
  | ok n =>
    rw [hn] at h
    exact ⟨n, rfl, of_decide_eq_true h⟩

variable {n : Node} {j : Json} {s : String}

/-! ### Readers -/

theorem IsText.text? (h : n.IsText s) : n.text? = some s := by
  cases h <;> rfl

theorem IsText.word? (h : n.IsText s) : n.word? = some s := by
  cases h <;> rfl

/-- What a node carries is there. -/
theorem Carries.isAbsent? (h : n.Carries j) : n.isAbsent? = some false := by
  cases h with
  | string text =>
    cases text with
    | plain text =>
      rw [Node.isAbsent?, Scalar.isNull_of_ofPlain (by simp [text])]
    | @quoted style quotes =>
      -- in quotes and after bars the words for null are words
      cases style with
      | plain => exact absurd rfl quotes
      | _ => rfl
  | bool word =>
    rw [Node.isAbsent?, Scalar.isNull_of_ofPlain (by simp [word])]
  | array => rfl
  | object => rfl

variable {α : Type} {read : Node → Option α} {write : α → Json} {a : α}

/-- **A reader gets a value back** from a document tree, in whatever way it is written. -/
def Reads (read : Node → Option α) (j : Json) (a : α) : Prop :=
  ∀ n : Node, n.Carries j → read n = some a

theorem reads_text (s : String) : Reads text? (.string s) s := by
  rintro n (⟨htext⟩)
  exact htext.text?

theorem reads_bool (b : Bool) : Reads bool? (.bool b) b := by
  rintro n (_ | hword)
  exact Scalar.bool?_of_ofPlain hword

theorem Reads.option? (h : Reads read j a) : Reads (Node.option? read) j (some a) := by
  intro n hn
  rw [Node.option?, hn.isAbsent?, h n hn]
  rfl

/-- A list is read item by item. -/
theorem Reads.list? (h : ∀ a, Reads read (write a) a) (l : List α) :
    Reads (Node.list? read) (.array (l.map write)) l := by
  rintro n (_ | _ | ⟨heach⟩)
  refine mapM_eq_some_of_forall₂ ?_
  rw [List.forall₂_map_right_iff] at heach
  exact heach.imp fun node a hnode => h a node hnode

theorem reads_strings (l : List String) : Reads (Node.list? Node.text?) (Json.strings l) l :=
  Reads.list? reads_text l

/-! ### Mappings -/

/-- An entry holds a field: it has the same name, and its value is carried. -/
def FieldCarries (e : String × Node) (f : String × Json) : Prop :=
  e.1 = f.1 ∧ e.2.Carries f.2

/-- The entries of a mapping are the fields that it stands for, in the same order. -/
theorem entries?_of_keys {R : Node → Json → Prop} {entries : List (Node × Node)}
    {fields : List (String × Json)}
    (keys : List.Forall₂ (fun e f => IsText f.1 e.1) entries fields)
    (values : List.Forall₂ R (entries.map Prod.snd) (fields.map Prod.snd)) :
    ∃ nodes, (mapping none entries).entries? = some nodes ∧
      List.Forall₂ (fun e f => e.1 = f.1 ∧ R e.2 f.2) nodes fields := by
  rw [Node.entries?]
  induction keys with
  | nil => exact ⟨[], rfl, .nil⟩
  | @cons e f entries fields hkey _ ih =>
    obtain _ | ⟨hvalue, hvalues⟩ := values
    obtain ⟨nodes, hnodes, hholds⟩ := ih hvalues
    refine ⟨(f.1, e.2) :: nodes, ?_, .cons ⟨rfl, hvalue⟩ hholds⟩
    rw [List.mapM_cons, hnodes, hkey.text?]
    rfl

theorem Carries.entries? {fields : List (String × Json)} (h : n.Carries (.object fields)) :
    ∃ nodes, n.entries? = some nodes ∧ List.Forall₂ FieldCarries nodes fields := by
  obtain _ | _ | _ | ⟨hkeys, hvalues⟩ := h
  exact entries?_of_keys hkeys hvalues

/-- A mapping from text is read entry by entry. -/
theorem Carries.mapM_entries {l : List (String × α)} (h : ∀ a, Reads read (write a) a)
    (hn : n.Carries (.object (l.map fun e => (e.1, write e.2)))) :
    ∃ nodes, n.entries? = some nodes ∧
      (nodes.mapM fun e => (read e.2).map fun a => (e.1, a)) = some l := by
  obtain ⟨nodes, hnodes, hcarries⟩ := hn.entries?
  refine ⟨nodes, hnodes, mapM_eq_some_of_forall₂ ?_⟩
  rw [List.forall₂_map_right_iff] at hcarries
  refine hcarries.imp fun e f hef => ?_
  rw [h f.2 e.2 hef.2, hef.1]
  rfl

end Node

/-! ### Records -/

/-- The fields of a record that hold something. -/
def written (slots : List (String × Option Json)) : List (String × Json) :=
  slots.filterMap fun s => s.2.map fun j => (s.1, j)

@[simp] theorem written_nil : written [] = [] := rfl

@[simp] theorem written_cons (name : String) (o : Option Json)
    (slots : List (String × Option Json)) :
    written ((name, o) :: slots) = (o.toList.map fun j => (name, j)) ++ written slots := by
  cases o <;> rfl

/-- The slot of a field that is left out when it is empty. -/
def slotUnless (empty : Bool) (j : Json) : Option Json :=
  if empty then none else some j

theorem mem_slotUnless {empty : Bool} {j j' : Json} :
    j' ∈ slotUnless empty j ↔ empty = false ∧ j' = j := by
  cases empty with
  | false => simp [slotUnless, eq_comm]
  | true => simp [slotUnless]

@[simp] theorem toList_slotUnless (name : String) (empty : Bool) (j : Json) :
    ((slotUnless empty j).toList.map fun j => (name, j)) = if empty then [] else [(name, j)] := by
  cases empty <;> rfl

theorem names_written_sublist (slots : List (String × Option Json)) :
    ((written slots).map Prod.fst).Sublist (slots.map Prod.fst) := by
  induction slots with
  | nil => exact .slnil
  | cons s slots ih =>
    obtain ⟨name, o⟩ := s
    cases o with
    | none => exact ih.cons name
    | some j => exact ih.cons_cons name

/-- What holds of everything in the slots holds of the fields. -/
theorem forall_mem_written {P : Json → Prop} {slots : List (String × Option Json)}
    (h : ∀ s ∈ slots, ∀ j ∈ s.2, P j) : ∀ f ∈ written slots, P f.2 := by
  intro f hf
  obtain ⟨s, hs, hfield⟩ := List.mem_filterMap.1 hf
  obtain ⟨j, hj, rfl⟩ := Option.map_eq_some_iff.1 hfield
  exact h s hs j hj

/-- **Under a name stands what its slot holds**, and nothing when it holds nothing. -/
theorem find?_written {slots : List (String × Option Json)} {name : String} {o : Option Json}
    (names : (slots.map Prod.fst).Nodup) (h : (name, o) ∈ slots) :
    ((written slots).find? fun f => f.1 == name) = o.map fun j => (name, j) := by
  induction slots with
  | nil => cases h
  | cons s slots ih =>
    obtain ⟨hnew, hrest⟩ := List.nodup_cons.1 names
    -- the slot is the first one, and then no other has its name, or the first one has another name
    rcases List.mem_cons.1 h with rfl | h
    · cases o with
      | some j => exact List.find?_cons_of_pos (by simp)
      | none =>
        refine List.find?_eq_none.2 fun f hf hname => hnew ?_
        obtain rfl : f.1 = name := by simpa using hname
        exact (names_written_sublist slots).subset (List.mem_map_of_mem hf)
    · have hne : s.1 ≠ name := fun heq => hnew (heq ▸ List.mem_map_of_mem h)
      rw [← ih hrest h]
      obtain ⟨other, o'⟩ := s
      cases o' with
      | none => rfl
      | some j => exact List.find?_cons_of_neg (by simpa using hne)

namespace Node

variable {n : Node} {α : Type} {read : Node → Option α} {a default : α}
variable {slots : List (String × Option Json)} {nodes : List (String × Node)} {name : String}
  {o : Option Json}

/-- Fields that were read hold what stood in the slots that were written. -/
def HoldSlots (nodes : List (String × Node)) (slots : List (String × Option Json)) : Prop :=
  ∀ name o, (name, o) ∈ slots →
    Option.Rel (fun e j => e.2.Carries j) (nodes.find? fun e => e.1 == name) o

/-- What is found under a name is related as the fields are. -/
theorem rel_find? {R : Node → Json → Prop} {fields : List (String × Json)}
    (h : List.Forall₂ (fun e f => e.1 = f.1 ∧ R e.2 f.2) nodes fields) (name : String) :
    Option.Rel (fun e f => e.1 = f.1 ∧ R e.2 f.2) (nodes.find? fun e => e.1 == name)
      (fields.find? fun f => f.1 == name) := by
  induction h with
  | nil => exact .none
  | @cons e f nodes fields hef _ ih =>
    rw [List.find?_cons, List.find?_cons, hef.1]
    split
    · exact .some hef
    · exact ih

/-- **A record is read back**: none of its fields is unknown or repeated, and each of them holds
what was written. -/
theorem Carries.fields? (names : (slots.map Prod.fst).Nodup)
    (h : n.Carries (.object (written slots))) :
    ∃ nodes, n.fields? (slots.map Prod.fst) = some nodes ∧ HoldSlots nodes slots := by
  obtain ⟨nodes, hnodes, hcarries⟩ := h.entries?
  have hnames : nodes.map Prod.fst = (written slots).map Prod.fst := by
    rw [← List.forall₂_eq_eq_eq, List.forall₂_map_left_iff, List.forall₂_map_right_iff]
    exact hcarries.imp fun _ _ hef => hef.1
  refine ⟨nodes, ?_, fun name o hslot => ?_⟩
  · have hknown : ((nodes.map Prod.fst).all (slots.map Prod.fst).contains &&
        decide (nodes.map Prod.fst).Nodup) = true := by
      have hsub := names_written_sublist slots
      rw [hnames, Bool.and_eq_true, List.all_eq_true, decide_eq_true_iff]
      refine ⟨fun name hname => ?_, hsub.nodup names⟩
      simpa using hsub.subset hname
    rw [Node.fields?, hnodes]
    exact if_pos hknown
  · have hfind := rel_find? hcarries name
    rw [find?_written names hslot] at hfind
    cases o with
    | none =>
      generalize nodes.find? _ = x at hfind
      cases hfind
      exact .none
    | some j =>
      generalize nodes.find? _ = x at hfind
      cases hfind with
      | some hef => exact .some hef.2

/-- A field that may be left out is read back, if its default is what is left out. -/
theorem HoldSlots.field? (h : HoldSlots nodes slots) (slot : (name, o) ∈ slots)
    (absent : o = none → a = default) (there : ∀ j ∈ o, Reads read j a) :
    Node.field? nodes name default read = some a := by
  have hfind := h name o slot
  rw [Node.field?]
  generalize nodes.find? _ = x at hfind
  cases hfind with
  | none => rw [absent rfl]
  | @some e j hcarries => exact there j rfl e.2 hcarries

theorem HoldSlots.field?_option {write : α → Json} {x : Option α} (h : HoldSlots nodes slots)
    (slot : (name, x.map write) ∈ slots) (there : ∀ a, Reads read (write a) a) :
    Node.field? nodes name none (Node.option? read) = some x := by
  refine h.field? slot Option.map_eq_none_iff.1 (Option.forall_mem_map.2 fun a ha => ?_)
  rw [Option.mem_def.1 ha]
  exact (there a).option?

theorem HoldSlots.field?_unless {empty : Bool} {j : Json} (h : HoldSlots nodes slots)
    (slot : (name, slotUnless empty j) ∈ slots) (absent : empty = true → a = default)
    (there : Reads read j a) : Node.field? nodes name default read = some a := by
  refine h.field? slot (fun hnone => absent ?_) fun j' hj' => ?_
  · by_contra hempty
    rw [slotUnless, if_neg hempty] at hnone
    cases hnone
  · exact (mem_slotUnless.1 hj').2 ▸ there

theorem HoldSlots.required? {j : Json} (h : HoldSlots nodes slots) (slot : (name, some j) ∈ slots)
    (there : Reads read j a) : Node.required? nodes name read = some a := by
  have hfind := h name _ slot
  rw [Node.required?]
  generalize nodes.find? _ = x at hfind
  cases hfind with
  | @some e j hcarries => exact there e.2 hcarries

/-! ### Documents of other formats -/

/-- **Text is written so that it reads back as text.** -/
theorem isText_forText (s : String) : IsText s (.scalar none (Style.forText s) s) := by
  rw [Style.forText]
  split
  · exact .quoted (by decide)
  · split
    · exact .quoted (by decide)
    · split
      next t htext =>
        obtain rfl := Scalar.eq_of_ofPlain htext
        exact .plain htext
      next => exact .quoted (by decide)

theorem carries_string (s : String) : (ofJson (.string s)).Carries (.string s) := by
  rw [ofJson]
  exact .string (isText_forText s)

theorem carries_bool (b : Bool) : (ofJson (.bool b)).Carries (.bool b) := by
  rw [ofJson]
  cases b with
  | false => exact .bool (by decide)
  | true => exact .bool (by decide)

theorem carries_array {items : List Json} (h : ∀ j ∈ items, (ofJson j).Carries j) :
    (ofJson (.array items)).Carries (.array items) := by
  rw [ofJson]
  refine .array ?_
  induction items with
  | nil =>
    rw [ofJsonItems]
    exact .nil
  | cons j items ih =>
    obtain ⟨hfirst, hrest⟩ := List.forall_mem_cons.1 h
    rw [ofJsonItems]
    exact .cons hfirst (ih hrest)

theorem carries_strings (l : List String) : (ofJson (Json.strings l)).Carries (Json.strings l) :=
  carries_array (List.forall_mem_map.2 fun s _ => carries_string s)

theorem carries_object {fields : List (String × Json)}
    (h : ∀ f ∈ fields, (ofJson f.2).Carries f.2) :
    (ofJson (.object fields)).Carries (.object fields) := by
  have hfields : List.Forall₂ (fun e f => IsText f.1 e.1 ∧ e.2.Carries f.2) (ofJsonFields fields)
      fields := by
    induction fields with
    | nil =>
      rw [ofJsonFields]
      exact .nil
    | cons f fields ih =>
      obtain ⟨hfirst, hrest⟩ := List.forall_mem_cons.1 h
      rw [ofJsonFields]
      exact .cons ⟨isText_forText f.1, hfirst⟩ (ih hrest)
  rw [ofJson]
  refine .object (hfields.imp fun _ _ hef => hef.1) ?_
  rw [List.forall₂_map_left_iff, List.forall₂_map_right_iff]
  exact hfields.imp fun _ _ hef => hef.2

theorem carries_slotUnless {empty : Bool} {j : Json} (h : (ofJson j).Carries j) :
    ∀ j' ∈ slotUnless empty j, (ofJson j').Carries j' :=
  fun _ hj' => (mem_slotUnless.1 hj').2 ▸ h

theorem carries_written (h : ∀ s ∈ slots, ∀ j ∈ s.2, (ofJson j).Carries j) :
    (ofJson (.object (written slots))).Carries (.object (written slots)) :=
  carries_object (forall_mem_written h)

end Node

end ClusterAudit.Yaml
