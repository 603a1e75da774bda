import ClusterAudit.Proofs.Json.Reading
import ClusterAudit.Proofs.Service.Gathering
import ClusterAudit.Proofs.Vulnerability.Payload

/-!
# Scanner payloads survive the codec

What a scanner sends is a text, and what is read of it depends on the fields of its records alone:
not on their order, not on other fields, whatever these hold, and not on how an empty list is
written. `ClusterAudit.Payload.Alike` is the relation between written documents that these steps
generate, at any depth inside the lists of a record, and texts that spell documents so related are
decoded alike (`ClusterAudit.Payload.Alike.decoded_eq`). What is left out of a document is never
understood, so that neither a number too large for any double nor half of a surrogate pair does any
harm in it.

The other direction is the round trip: the text that is written for a record is decoded to the
record (`ClusterAudit.Payload.decoded_compact`). Both come together in
`ClusterAudit.Payload.survives_codec`.
-/

namespace ClusterAudit

open Json Json.Record

/-! ### Parts of written documents -/

namespace Json.Written

variable {wanted part : Selection} {depth : Nat} {s : List Letter} {k : String}

theorem selectField_of_some {x : Written} (hs : Letter.text? s = some k)
    (hk : wanted.field? k = some part) :
    selectField wanted depth (s, x) = (select part depth x).map fun y => [(k, y)] := by
  rw [selectField, hs]
  simp only [Option.bind_eq_bind, Option.bind_some, hk]

/-- A field that is left out is not understood, but for its name. -/
theorem selectField_of_none {x : Written} (hs : Letter.text? s = some k)
    (hk : wanted.field? k = none) : selectField wanted depth (s, x) = some [] := by
  rw [selectField, hs]
  simp only [Option.bind_eq_bind, Option.bind_some, hk]

theorem selectFields_cons {f : List Letter × Written} {l : List (List Letter × Written)}
    {m : List (String × Json)} :
    selectFields wanted depth (f :: l) = some m ↔
      ∃ first others, selectField wanted depth f = some first ∧
        selectFields wanted depth l = some others ∧ first ++ others = m := by
  simp only [selectFields, Option.bind_eq_bind, Option.bind_eq_some_iff, Option.some.injEq,
    exists_and_left]

/-- Fields in another order are read in another order. -/
theorem selectFields_of_perm {l l' : List (List Letter × Written)} (h : l.Perm l')
    {m : List (String × Json)} (hm : selectFields wanted depth l = some m) :
    ∃ m', selectFields wanted depth l' = some m' ∧ m.Perm m' := by
  induction h generalizing m with
  | nil => exact ⟨m, hm, .refl m⟩
  | cons f _ ih =>
    obtain ⟨first, others, hfirst, hothers, rfl⟩ := selectFields_cons.1 hm
    obtain ⟨others', hothers', hperm⟩ := ih hothers
    exact ⟨_, selectFields_cons.2 ⟨_, _, hfirst, hothers', rfl⟩, hperm.append_left first⟩
  | swap f g l =>
    obtain ⟨second, m', hsecond, hm', rfl⟩ := selectFields_cons.1 hm
    obtain ⟨first, others, hfirst, hothers, rfl⟩ := selectFields_cons.1 hm'
    refine ⟨_, selectFields_cons.2 ⟨_, _, hfirst,
      selectFields_cons.2 ⟨_, _, hsecond, hothers, rfl⟩, rfl⟩, ?_⟩
    rw [← List.append_assoc, ← List.append_assoc]
    exact List.perm_append_comm.append_right others
  | trans _ _ ih ih' =>
    obtain ⟨m', hm', hperm⟩ := ih hm
    obtain ⟨m'', hm'', hperm'⟩ := ih' hm'
    exact ⟨m'', hm'', hperm.trans hperm'⟩

theorem mem_of_selectFields {l : List (List Letter × Written)} {m : List (String × Json)}
    (h : selectFields wanted depth l = some m) {x : Written} {y : Json} (hmem : (s, x) ∈ l)
    (hs : Letter.text? s = some k) (hk : wanted.field? k = some part)
    (hx : select part depth x = some y) : (k, y) ∈ m := by
  induction l generalizing m with
  | nil => cases hmem
  | cons g l ih =>
    obtain ⟨first, others, hfirst, hothers, rfl⟩ := selectFields_cons.1 h
    rcases List.mem_cons.1 hmem with rfl | hmem
    · rw [selectField_of_some hs hk, hx] at hfirst
      obtain rfl := Option.some.inj hfirst
      exact List.mem_cons_self ..
    · exact List.mem_append_right first (ih hothers hmem)

/-- What is read of a field keeps its name. -/
theorem text?_of_mem_selectField {g : List Letter × Written} {m : List (String × Json)}
    (h : selectField wanted depth g = some m) {f : String × Json} (hf : f ∈ m) :
    Letter.text? g.1 = some f.1 := by
  obtain ⟨s, x⟩ := g
  rw [selectField, Option.bind_eq_bind, Option.bind_eq_some_iff] at h
  obtain ⟨k, hk, h⟩ := h
  cases hpart : wanted.field? k with
  | none =>
    rw [hpart] at h
    cases h
    cases hf
  | some part =>
    rw [hpart] at h
    obtain ⟨y, -, rfl⟩ := Option.map_eq_some_iff.1 h
    obtain rfl := List.mem_singleton.1 hf
    exact hk

theorem exists_of_mem_selectFields {l : List (List Letter × Written)} {m : List (String × Json)}
    (h : selectFields wanted depth l = some m) {f : String × Json} (hf : f ∈ m) :
    ∃ g ∈ l, Letter.text? g.1 = some f.1 := by
  induction l generalizing m with
  | nil =>
    obtain rfl := Option.some.inj h
    cases hf
  | cons g l ih =>
    obtain ⟨first, others, hfirst, hothers, rfl⟩ := selectFields_cons.1 h
    rcases List.mem_append.1 hf with hf | hf
    · exact ⟨g, List.mem_cons_self .., text?_of_mem_selectField hfirst hf⟩
    · obtain ⟨g', hg', htext⟩ := ih hothers hf
      exact ⟨g', List.mem_cons_of_mem g hg', htext⟩

theorem selectItems_cons (x : Written) (items : List Written) :
    selectItems wanted depth (x :: items) =
      (select wanted.next.1 depth x).bind fun first =>
        (selectItems wanted.next.2 depth items).map (first :: ·) := by
  rw [selectItems]
  cases select wanted.next.1 depth x with
  | none => rfl
  | some first => cases selectItems wanted.next.2 depth items <;> rfl

theorem selectItems_items (item : Selection) (items : List Written) :
    selectItems (.items item) depth items = items.mapM (select item depth) := by
  induction items with
  | nil => rfl
  | cons x items ih =>
    rw [selectItems, List.mapM_cons, ← ih]
    rfl

/-- One item of a list is read apart from the others. -/
theorem exists_selectItems {known : List (String × Selection)} {other : Option Selection}
    {front : List Written} (hk : known[front.length]? = some (k, part)) (back : List Written) :
    (∀ x, selectItems (.fields known other) depth (front ++ x :: back) = none) ∨
      ∃ before behind : List Json, before.length = front.length ∧
        ∀ x, selectItems (.fields known other) depth (front ++ x :: back) =
          (select part depth x).map fun y => before ++ y :: behind := by
  induction front generalizing known with
  | nil =>
    obtain ⟨f, known, rfl⟩ := List.exists_cons_of_ne_nil (l := known) (by rintro rfl; cases hk)
    obtain rfl := Option.some.inj hk
    simp only [List.nil_append, selectItems_cons, Selection.next]
    cases selectItems (.fields known other) depth back with
    | none =>
      refine .inl fun x => ?_
      cases select part depth x <;> rfl
    | some behind =>
      refine .inr ⟨[], behind, rfl, fun x => ?_⟩
      cases select part depth x <;> rfl
  | cons z front ih =>
    obtain ⟨f, known, rfl⟩ := List.exists_cons_of_ne_nil (l := known) (by rintro rfl; cases hk)
    simp only [List.cons_append, selectItems_cons, Selection.next]
    cases select f.2 depth z with
    | none => exact .inl fun x => rfl
    | some first =>
      rcases ih hk with hnone | ⟨before, behind, hlength, hitems⟩
      · refine .inl fun x => ?_
        rw [hnone, Option.bind_some, Option.map_none]
      · refine .inr ⟨first :: before, behind, congrArg Nat.succ hlength, fun x => ?_⟩
        rw [hitems, Option.bind_some, Option.map_map]
        rfl

end Json.Written

namespace Payload

/-! ### Documents that say the same -/

/-- The parts of a document that are read as a record. -/
def selection : Payload → Selection
  | .scan => ImageScan.selection
  | .target => ScanTarget.selection
  | .vulnerability => Vulnerability.selection
  | .summary => ScanSummary.selection
  | .counter => SeverityCount.selection

/-- The record that a written document is read as; `depth` more levels may be opened. -/
def ofWritten? (p : Payload) (depth : Nat) (x : Written) : Option p.Value :=
  (x.select p.selection depth).bind p.read

/-- How deep the lists and objects of a record are nested. -/
def height : Payload → Nat
  | .counter => 1
  | .vulnerability => 2
  | .summary => 3
  | .target => 4
  | .scan => 6

/-- **Written documents that say the same** about a record. -/
inductive Alike : Payload → Written → Written → Prop
  /-- A document says what it says. -/
  | refl (p : Payload) (x : Written) : Alike p x x
  /-- Both ways. -/
  | symm {p : Payload} {x y : Written} (h : Alike p x y) : Alike p y x
  /-- One after the other. -/
  | trans {p : Payload} {x y z : Written} (h : Alike p x y) (h' : Alike p y z) : Alike p x z
  /-- The fields in another order. -/
  | order {p : Payload} {l l' : List (List Letter × Written)} (h : l.Perm l') :
      Alike p (.object l) (.object l')
  /-- A field that the record does not have, whatever it holds. -/
  | unknown {p : Payload} {s : List Letter} {k : String} (hs : Letter.text? s = some k)
      (hk : k ∉ p.names) (x : Written) (l : List (List Letter × Written)) :
      Alike p (.object l) (.object ((s, x) :: l))
  /-- A list that is missing, null or empty. -/
  | missing {p : Payload} {s : List Letter} {k : String} {c : Content}
      (hs : Letter.text? s = some k) (hk : (k, c) ∈ p.fields) (hc : c.IsList) {x : Written}
      (hx : x = .null ∨ x = .array []) {l : List (List Letter × Written)}
      (hl : ∀ f ∈ l, Letter.text? f.1 ≠ some k) : Alike p (.object l) (.object ((s, x) :: l))
  /-- A record in a list of an object that is said in another way. -/
  | item {p q : Payload} {s : List Letter} {k : String} (hs : Letter.text? s = some k)
      (hk : (k, .records q) ∈ p.fields) {x y : Written} (h : Alike q x y)
      (before behind : List Written) (l : List (List Letter × Written)) :
      Alike p (.object ((s, .array (before ++ x :: behind)) :: l))
        (.object ((s, .array (before ++ y :: behind)) :: l))
  /-- A record in a list that is said in another way, where the values of the fields are given in
  their order. -/
  | place {p q : Payload} {k : String} {front : List Written}
      (hk : p.fields[front.length]? = some (k, .records q)) {x y : Written} (h : Alike q x y)
      (before behind back : List Written) :
      Alike p (.array (front ++ .array (before ++ x :: behind) :: back))
        (.array (front ++ .array (before ++ y :: behind) :: back))

/-! ### Reading a written record -/

variable {p q : Payload} {depth : Nat} {s : List Letter} {k : String}

/-- The parts of a field that are read. -/
def Content.selection : Content → Selection
  | .single => .everything
  | .texts => .everything
  | .records q => .items q.selection

theorem selection_eq (p : Payload) :
    p.selection = .fields (p.fields.map fun f => (f.1, f.2.selection)) none := by
  cases p <;> rfl

theorem nodup_names (p : Payload) : p.names.Nodup := by
  cases p <;> decide

theorem field?_selection {c : Content} (hk : (k, c) ∈ p.fields) :
    p.selection.field? k = some c.selection := by
  have hfind : p.fields.find? (fun f => f.1 == k) = some (k, c) := by
    have hsome : (p.fields.find? fun f => f.1 == k).isSome :=
      List.find?_isSome.2 ⟨(k, c), hk, by simp⟩
    obtain ⟨⟨n, c'⟩, hf⟩ := Option.isSome_iff_exists.1 hsome
    obtain rfl : n = k := by simpa using List.find?_some hf
    rw [hf, content_unique (List.mem_of_find?_eq_some hf) hk]
  rw [selection_eq, Selection.field?, List.find?_map]
  simp only [Function.comp_def, hfind, Option.map_some]

theorem field?_selection_of_unknown (hk : k ∉ p.names) : p.selection.field? k = none := by
  have hfind : p.fields.find? (fun f => f.1 == k) = none := by
    refine List.find?_eq_none.2 fun f hf heq => hk ?_
    obtain rfl : f.1 = k := by simpa using heq
    exact mem_names hf
  rw [selection_eq, Selection.field?, List.find?_map]
  simp only [Function.comp_def, hfind, Option.map_none]

theorem getElem?_selection {i : Nat} {c : Content} (hk : p.fields[i]? = some (k, c)) :
    (p.fields.map fun f => (f.1, f.2.selection))[i]? = some (k, c.selection) := by
  rw [List.getElem?_map, hk, Option.map_some]

theorem height_of_records (hk : (k, .records q) ∈ p.fields) : q.height + 2 ≤ p.height := by
  cases p <;> simp_all [fields, height]

theorem height_of_isList {c : Content} (hk : (k, c) ∈ p.fields) (hc : c.IsList) :
    2 ≤ p.height := by
  have hsingle : c ≠ .single := by
    rintro rfl
    exact hc
  cases p <;> simp_all [fields, height]

theorem one_lt_of_height (h : p.height < depth) : 1 < depth := by
  have hpos : 1 ≤ p.height := by cases p <;> decide
  omega

theorem ofWritten?_object {l : List (List Letter × Written)} (hdepth : 1 < depth) :
    p.ofWritten? depth (.object l) =
      (Written.selectFields p.selection (depth - 1) l).bind fun m => p.read (.object m) := by
  rw [ofWritten?, Written.select, if_neg (by omega), Option.bind_map]
  rfl

theorem ofWritten?_cons {c : Content} {x : Written} (hdepth : 1 < depth)
    (hs : Letter.text? s = some k) (hk : (k, c) ∈ p.fields) (l : List (List Letter × Written)) :
    p.ofWritten? depth (.object ((s, x) :: l)) =
      (Written.selectFields p.selection (depth - 1) l).bind fun m =>
        (x.select c.selection (depth - 1)).bind fun y => p.read (.object ((k, y) :: m)) := by
  rw [ofWritten?_object hdepth, Written.selectFields,
    Written.selectField_of_some hs (field?_selection hk)]
  cases x.select c.selection (depth - 1) with
  | none => cases Written.selectFields p.selection (depth - 1) l <;> rfl
  | some y => cases Written.selectFields p.selection (depth - 1) l <;> rfl

theorem ofWritten?_array {items : List Written} (hdepth : 1 < depth) :
    p.ofWritten? depth (.array items) =
      (Written.selectItems p.selection (depth - 1) items).bind fun l => p.read (.array l) := by
  rw [ofWritten?, Written.select, if_neg (by omega), Option.bind_map]
  rfl

theorem bind_mapM {α β γ : Type} (f : α → Option β) (g : β → Option γ) (l : List α) :
    ((l.mapM f).bind fun m => m.mapM g) = l.mapM fun x => (f x).bind g := by
  induction l with
  | nil => rfl
  | cons x l ih =>
    rw [List.mapM_cons, List.mapM_cons, ← ih]
    cases f x with
    | none => rfl
    | some y =>
      cases l.mapM f with
      | none => cases hy : g y <;> simp [hy]
      | some m => simp

/-- A list of records in a written document is read record by record. -/
theorem bind_select_array {items : List Written} (hdepth : 1 < depth) :
    (((Written.array items).select (.items q.selection) depth).bind fun y =>
      listOr? q.read (some y)) = items.mapM (q.ofWritten? (depth - 1)) := by
  rw [Written.select, if_neg (by omega), Written.selectItems_items, Option.bind_map]
  exact bind_mapM _ _ items

theorem mapM_congr_item {α β : Type} {f : α → Option β} {x y : α} (h : f x = f y)
    (before behind : List α) :
    (before ++ x :: behind).mapM f = (before ++ y :: behind).mapM f := by
  rw [List.mapM_append, List.mapM_append, List.mapM_cons, List.mapM_cons, h]

/-- Where a list of records stands in a document, one of them may be said in another way. -/
theorem bind_read_congr {i : Nat} (hi : p.fields[i]? = some (k, .records q)) {f : Json → Json}
    (hf : VariesAt p.names i f) (hdepth : 1 < depth) {x y : Written}
    (h : q.ofWritten? (depth - 1) x = q.ofWritten? (depth - 1) y) (before behind : List Written) :
    (((Written.array (before ++ x :: behind)).select (.items q.selection) depth).bind fun z =>
        p.read (f z)) =
      ((Written.array (before ++ y :: behind)).select (.items q.selection) depth).bind fun z =>
        p.read (f z) := by
  obtain ⟨F, hF⟩ := exists_reading hi hf
  simp only [hF, ← Option.bind_assoc]
  rw [bind_select_array hdepth, bind_select_array hdepth, mapM_congr_item h]

/-! ### Steps from one document to another -/

theorem ofWritten?_of_perm {l l' : List (List Letter × Written)} (h : l.Perm l')
    (hdepth : p.height < depth) :
    p.ofWritten? depth (.object l) = p.ofWritten? depth (.object l') := by
  rw [ofWritten?_object (one_lt_of_height hdepth), ofWritten?_object (one_lt_of_height hdepth)]
  cases hm : Written.selectFields p.selection (depth - 1) l with
  | none =>
    cases hm' : Written.selectFields p.selection (depth - 1) l' with
    | none => rfl
    | some m' =>
      obtain ⟨m, hm₂, -⟩ := Written.selectFields_of_perm h.symm hm'
      rw [hm] at hm₂
      cases hm₂
  | some m =>
    obtain ⟨m', hm', hperm⟩ := Written.selectFields_of_perm h hm
    rw [hm']
    exact read_of_perm hperm

theorem ofWritten?_of_unknown (hs : Letter.text? s = some k) (hk : k ∉ p.names)
    (hdepth : p.height < depth) (x : Written) (l : List (List Letter × Written)) :
    p.ofWritten? depth (.object l) = p.ofWritten? depth (.object ((s, x) :: l)) := by
  rw [ofWritten?_object (one_lt_of_height hdepth), ofWritten?_object (one_lt_of_height hdepth),
    Written.selectFields, Written.selectField_of_none hs (field?_selection_of_unknown hk)]
  cases Written.selectFields p.selection (depth - 1) l <;> rfl

theorem ofWritten?_of_missing {c : Content} (hs : Letter.text? s = some k)
    (hk : (k, c) ∈ p.fields) (hc : c.IsList) (hdepth : p.height < depth) {x : Written}
    (hx : x = .null ∨ x = .array []) {l : List (List Letter × Written)}
    (hl : ∀ f ∈ l, Letter.text? f.1 ≠ some k) :
    p.ofWritten? depth (.object l) = p.ofWritten? depth (.object ((s, x) :: l)) := by
  have hheight := height_of_isList hk hc
  obtain ⟨y, hy, hselect⟩ : ∃ y : Json, (y = .null ∨ y = .array []) ∧
      x.select c.selection (depth - 1) = some y := by
    rcases hx with rfl | rfl
    · exact ⟨_, .inl rfl, rfl⟩
    · refine ⟨_, .inr rfl, ?_⟩
      rw [Written.select, if_neg (by omega)]
      rfl
  rw [ofWritten?_object (one_lt_of_height hdepth),
    ofWritten?_cons (one_lt_of_height hdepth) hs hk, hselect]
  refine Option.bind_congr fun m hm => read_of_missing hk hc hy fun f hf heq => ?_
  obtain ⟨g, hg, htext⟩ := Written.exists_of_mem_selectFields hm hf
  exact hl g hg (htext.trans (congrArg some heq))

theorem ofWritten?_of_item (hs : Letter.text? s = some k) (hk : (k, .records q) ∈ p.fields)
    (hdepth : p.height < depth) {x y : Written}
    (h : q.ofWritten? (depth - 1 - 1) x = q.ofWritten? (depth - 1 - 1) y)
    (before behind : List Written) (l : List (List Letter × Written)) :
    p.ofWritten? depth (.object ((s, .array (before ++ x :: behind)) :: l)) =
      p.ofWritten? depth (.object ((s, .array (before ++ y :: behind)) :: l)) := by
  have hheight := height_of_records hk
  obtain ⟨i, hi⟩ := List.mem_iff_getElem?.1 hk
  have hname : p.names[i]? = some k := by rw [names, List.getElem?_map, hi, Option.map_some]
  rw [ofWritten?_cons (one_lt_of_height hdepth) hs hk,
    ofWritten?_cons (one_lt_of_height hdepth) hs hk]
  refine Option.bind_congr fun m _ => ?_
  exact bind_read_congr hi (variesAt_object (nodup_names p) hname m) (by omega) h before behind

theorem ofWritten?_of_place {front : List Written}
    (hk : p.fields[front.length]? = some (k, .records q)) (hdepth : p.height < depth)
    {x y : Written} (h : q.ofWritten? (depth - 1 - 1) x = q.ofWritten? (depth - 1 - 1) y)
    (before behind back : List Written) :
    p.ofWritten? depth (.array (front ++ .array (before ++ x :: behind) :: back)) =
      p.ofWritten? depth (.array (front ++ .array (before ++ y :: behind) :: back)) := by
  have hheight := height_of_records (List.mem_of_getElem? hk)
  rw [ofWritten?_array (one_lt_of_height hdepth), ofWritten?_array (one_lt_of_height hdepth),
    selection_eq]
  obtain hnone | ⟨first, last, hlength, hitems⟩ :=
    Written.exists_selectItems (getElem?_selection hk) back
  · rw [hnone, hnone]
  · rw [hitems, hitems, Option.bind_map, Option.bind_map]
    rw [← hlength] at hk
    exact bind_read_congr hk (variesAt_array p.names first last) (by omega) h before behind

/-- **Documents that say the same are read as the same record**, where the depth that is left
exceeds that of the record. -/
theorem Alike.ofWritten?_eq {x y : Written} (h : Alike p x y) :
    ∀ depth, p.height < depth → p.ofWritten? depth x = p.ofWritten? depth y := by
  -- a record in a list is two levels further down, and needs as many levels less
  induction h with
  | refl p x => exact fun _ _ => rfl
  | symm _ ih => exact fun depth hdepth => (ih depth hdepth).symm
  | trans _ _ ih ih' => exact fun depth hdepth => (ih depth hdepth).trans (ih' depth hdepth)
  | order h => exact fun _ hdepth => ofWritten?_of_perm h hdepth
  | unknown hs hk x l => exact fun _ hdepth => ofWritten?_of_unknown hs hk hdepth x l
  | missing hs hk hc hx hl => exact fun _ hdepth => ofWritten?_of_missing hs hk hc hdepth hx hl
  | item hs hk _ before behind l ih =>
    intro depth hdepth
    have hheight := height_of_records hk
    exact ofWritten?_of_item hs hk hdepth (ih _ (by omega)) before behind l
  | place hk _ before behind back ih =>
    intro depth hdepth
    have hheight := height_of_records (List.mem_of_getElem? hk)
    exact ofWritten?_of_place hk hdepth (ih _ (by omega)) before behind back

/-! ### What is written is read -/

theorem isReadable_string {wanted : Option Selection} {n : Nat} (t : String) :
    ∀ part ∈ wanted, IsReadable part n (.string t) :=
  fun _ _ => .string t

/-- A list of records is readable if the records are. -/
theorem isReadable_records {n : Nat} {l : List q.Value}
    (h : ∀ v, IsReadable q.selection n (q.write v)) :
    IsReadable (.items q.selection) (n + 1) (.array (l.map q.write)) := by
  refine .array rfl fun x hx => ?_
  obtain ⟨v, -, rfl⟩ := List.mem_map.1 hx
  exact h v

theorem isReadable_counter (c : SeverityCount) :
    IsReadable SeverityCount.selection 1 c.toJson := by
  refine .object ?_ ?_
  · simp only [List.forall_mem_cons]
    exact ⟨rfl, rfl, by simp⟩
  · simp only [List.forall_mem_cons]
    refine ⟨isReadable_string _, fun _ _ => .int ?_ ?_, by simp⟩
    · exact Int.le_trans (by decide) (Int.natCast_nonneg _)
    · exact Int.ofNat_lt.2 (Nat.lt_trans c.count.toNat_lt (by decide))

theorem isReadable_vulnerability (v : Vulnerability) :
    IsReadable Vulnerability.selection 2 v.toJson := by
  refine .object ?_ ?_
  · simp only [List.forall_mem_cons]
    exact ⟨rfl, rfl, rfl, rfl, rfl, rfl, rfl, rfl, by simp⟩
  · simp only [List.forall_mem_cons]
    refine ⟨isReadable_string _, isReadable_string _, isReadable_string _, isReadable_string _,
      isReadable_string _, isReadable_string _, isReadable_string _, ?_, by simp⟩
    rintro _ ⟨⟩
    refine .array rfl fun x hx => ?_
    obtain ⟨r, -, rfl⟩ := List.mem_map.1 hx
    exact .string r

theorem isReadable_target (t : ScanTarget) : IsReadable ScanTarget.selection 4 t.toJson := by
  refine .object ?_ ?_
  · simp only [List.forall_mem_cons]
    exact ⟨rfl, rfl, by simp⟩
  · simp only [List.forall_mem_cons]
    refine ⟨isReadable_string _, ?_, by simp⟩
    rintro _ ⟨⟩
    exact @isReadable_records .vulnerability 2 _ isReadable_vulnerability

theorem isReadable_scan (s : ImageScan) : IsReadable ImageScan.selection 6 s.toJson := by
  refine .object ?_ ?_
  · simp only [List.forall_mem_cons]
    exact ⟨rfl, rfl, rfl, rfl, by simp⟩
  · simp only [List.forall_mem_cons]
    refine ⟨isReadable_string _, isReadable_string _, isReadable_string _, ?_, by simp⟩
    rintro _ ⟨⟩
    exact @isReadable_records .target 4 _ isReadable_target

theorem isReadable_summary (s : ScanSummary) : IsReadable ScanSummary.selection 3 s.toJson := by
  refine .object ?_ ?_
  · simp only [List.forall_mem_cons]
    exact ⟨rfl, rfl, rfl, rfl, by simp⟩
  · simp only [List.forall_mem_cons]
    refine ⟨isReadable_string _, isReadable_string _, isReadable_string _, ?_, by simp⟩
    rintro _ ⟨⟩
    exact @isReadable_records .counter 1 _ isReadable_counter

theorem isReadable_write (p : Payload) (v : p.Value) :
    IsReadable p.selection p.height (p.write v) := by
  cases p with
  | scan => exact isReadable_scan v
  | target => exact isReadable_target v
  | vulnerability => exact isReadable_vulnerability v
  | summary => exact isReadable_summary v
  | counter => exact isReadable_counter v

/-! ### Payloads as text -/

/-- **A record survives its text.** -/
theorem decoded_compact (p : Payload) (v : p.Value) :
    Scanner.decoded p.selection p.read (.ok (p.write v).compact) = .ok v := by
  have hdepth : p.height < depthBound := by cases p <;> decide
  exact Scanner.decoded_eq_ok.2
    ⟨_, _, rfl, select?_compact (isReadable_write p v) hdepth, read_write p v⟩

/-- The list of summaries that a scanner sends survives its text. -/
theorem decoded_compact_summaries (l : List ScanSummary) :
    Scanner.decoded Scanner.listSelection Scanner.summaries?
      (.ok (Json.array (l.map ScanSummary.toJson)).compact) = .ok l := by
  have hreadable : IsReadable Scanner.listSelection 4 (.array (l.map ScanSummary.toJson)) :=
    @isReadable_records .summary 3 l isReadable_summary
  have hread : Scanner.summaries? (.array (l.map ScanSummary.toJson)) = some l :=
    listOr?_map fun s _ => read_write_summary s
  exact Scanner.decoded_eq_ok.2 ⟨_, _, rfl, select?_compact hreadable (by decide), hread⟩

/-- What a text is decoded to is settled by the written document that it spells. -/
theorem decoded_of_spells {α : Type} {wanted : Selection} {read : Json → Option α} {x : Written}
    {body : String} (h : x.Spells body.toList) :
    Scanner.decoded wanted read (.ok body) =
      match (x.select wanted depthBound).bind read with
      | some a => .ok a
      | none => .error (.exchange .undecodable) := by
  rw [← select?_of_spells h]
  rfl

/-- **Texts of documents that say the same are decoded alike.** -/
theorem Alike.decoded_eq {x y : Written} (h : Alike p x y) {s t : String}
    (hs : x.Spells s.toList) (ht : y.Spells t.toList) :
    Scanner.decoded p.selection p.read (.ok s) = Scanner.decoded p.selection p.read (.ok t) := by
  have hdepth : p.height < depthBound := by cases p <;> decide
  have hsame := h.ofWritten?_eq depthBound hdepth
  rw [ofWritten?, ofWritten?] at hsame
  rw [decoded_of_spells hs, decoded_of_spells ht, hsame]

theorem decoded_summaries_eq {xs ys : List Written} (h : List.Forall₂ (Alike .summary) xs ys)
    {s t : String} (hs : (Written.array xs).Spells s.toList)
    (ht : (Written.array ys).Spells t.toList) :
    Scanner.decoded Scanner.listSelection Scanner.summaries? (.ok s) =
      Scanner.decoded Scanner.listSelection Scanner.summaries? (.ok t) := by
  have hread (l : List Written) :
      ((Written.array l).select Scanner.listSelection depthBound).bind Scanner.summaries? =
        l.mapM (Payload.summary.ofWritten? (depthBound - 1)) := by
    rw [← bind_select_array (by decide)]
    refine Option.bind_congr fun z hz => ?_
    obtain ⟨m, -, rfl⟩ := Option.map_eq_some_iff.1 hz
    rfl
  have hsame : xs.mapM (Payload.summary.ofWritten? (depthBound - 1)) =
      ys.mapM (Payload.summary.ofWritten? (depthBound - 1)) := by
    clear hs ht
    induction h with
    | nil => rfl
    | cons hxy _ ih =>
      rw [List.mapM_cons, List.mapM_cons, hxy.ofWritten?_eq _ (by decide), ih]
  rw [decoded_of_spells hs, decoded_of_spells ht, hread, hread, hsame]

/-- What is decoded has the form of a document. -/
theorem exists_spells_of_decoded {α : Type} {wanted : Selection} {read : Json → Option α}
    {body : String} {a : α} (h : Scanner.decoded wanted read (.ok body) = .ok a) :
    ∃ x : Written, x.Spells body.toList := by
  obtain ⟨_, _, ⟨⟩, hselect, -⟩ := Scanner.decoded_eq_ok.1 h
  obtain ⟨x, hx, -⟩ := Option.bind_eq_some_iff.1 hselect
  exact ⟨x, Written.ofText?_eq_some_iff.1 hx⟩

/-! ### The status of a scan -/

theorem status_of_scan {x : Json} {w : String} {s : ImageScan}
    (hw : x.field? "scanResult" = some (.string w)) (h : ImageScan.ofJson? x = some s) :
    s.status = ScanStatus.ofLabel w := by
  rw [ImageScan.ofJson?, Option.bind_eq_bind, Option.bind_eq_some_iff] at h
  obtain ⟨slots, hslots, h⟩ := h
  rw [slots?_of_field? hw hslots] at h
  simp only [List.map_cons, List.map_nil, hw, ScanStatus.ofSlot?, Option.bind_eq_bind,
    Option.bind_some, Option.bind_eq_some_iff, Option.some.injEq] at h
  obtain ⟨_, _, _, _, _, _, rfl⟩ := h
  rfl

theorem status_of_summary {x : Json} {w : String} {s : ScanSummary}
    (hw : x.field? "scanResult" = some (.string w)) (h : ScanSummary.ofJson? x = some s) :
    s.status = ScanStatus.ofLabel w := by
  rw [ScanSummary.ofJson?, Option.bind_eq_bind, Option.bind_eq_some_iff] at h
  obtain ⟨slots, hslots, h⟩ := h
  rw [slots?_of_field? hw hslots] at h
  simp only [List.map_cons, List.map_nil, hw, ScanStatus.ofSlot?, Option.bind_eq_bind,
    Option.bind_some, Option.bind_eq_some_iff, Option.some.injEq] at h
  obtain ⟨_, _, _, _, _, _, rfl⟩ := h
  rfl

theorem ofLabel_eq_noData {w : String} (h : w ≠ "Succeeded") (h' : w ≠ "Failed") :
    ScanStatus.ofLabel w = .noData := by
  unfold ScanStatus.ofLabel
  split
  · contradiction
  · contradiction
  · rfl

/-- The text of a field is what stands under its name. -/
theorem field?_of_decoded {l : List (List Letter × Written)} {body : String} {v : p.Value}
    (hbody : (Written.object l).Spells body.toList)
    (hv : Scanner.decoded p.selection p.read (.ok body) = .ok v) {w : List Letter} {t : String}
    (hmem : (s, .string w) ∈ l) (hs : Letter.text? s = some k) (hk : (k, .single) ∈ p.fields)
    (hw : Letter.text? w = some t) :
    ∃ x, p.read x = some v ∧ x.field? k = some (.string t) := by
  obtain ⟨_, x, ⟨⟩, hselect, hread⟩ := Scanner.decoded_eq_ok.1 hv
  rw [select?_of_spells hbody, Written.select, if_neg (by decide),
    Option.map_eq_some_iff] at hselect
  obtain ⟨m, hm, rfl⟩ := hselect
  have hmem : (k, .string t) ∈ m := Written.mem_of_selectFields hm hmem hs (field?_selection hk)
    (by rw [Content.selection, Written.select, hw, Option.map_some])
  have hdistinct : isDistinct p.names m = true := by
    by_contra hrepeated
    rw [read_of_repeated (by simpa using hrepeated)] at hread
    cases hread
  have hone := isDistinct_iff.1 hdistinct k (mem_names hk)
  have hgiven : (k, .string t) ∈ given k m := List.mem_filter.2 ⟨hmem, by simp⟩
  obtain ⟨f, hf⟩ := List.length_eq_one_iff.1
    (Nat.le_antisymm hone (List.length_pos_of_mem hgiven))
  rw [hf, List.mem_singleton] at hgiven
  refine ⟨_, hread, ?_⟩
  rw [field?_object, hf, ← hgiven]
  rfl

/-- **Payloads survive the codec.** Every record, and so every scan and every summary, is read back
from its text, and so is the list of summaries that a scanner sends. Texts that spell documents
which say the same are decoded alike: unknown fields, whatever they hold, the order of fields and
whether an empty list is left out, null or written make no difference, at any depth. Every text
that is accepted is spelled by such a document, and what it is read as is written and read again
without a change. A word that is none of the two for a finished scan is read as the status without
a result, and it is the word of this status that is written the next time. -/
theorem survives_codec :
    (∀ (p : Payload) (v : p.Value),
      Scanner.decoded p.selection p.read (.ok (p.write v).compact) = .ok v) ∧
    (∀ l : List ScanSummary, Scanner.decoded Scanner.listSelection Scanner.summaries?
      (.ok (Json.array (l.map ScanSummary.toJson)).compact) = .ok l) ∧
    (∀ (p : Payload) (x y : Written) (s t : String), Alike p x y → x.Spells s.toList →
      y.Spells t.toList →
      Scanner.decoded p.selection p.read (.ok s) = Scanner.decoded p.selection p.read (.ok t)) ∧
    (∀ (xs ys : List Written) (s t : String), List.Forall₂ (Alike .summary) xs ys →
      (Written.array xs).Spells s.toList → (Written.array ys).Spells t.toList →
      Scanner.decoded Scanner.listSelection Scanner.summaries? (.ok s) =
        Scanner.decoded Scanner.listSelection Scanner.summaries? (.ok t)) ∧
    (∀ (p : Payload) (body : String) (v : p.Value),
      Scanner.decoded p.selection p.read (.ok body) = .ok v →
      (∃ x : Written, x.Spells body.toList) ∧
      Scanner.decoded p.selection p.read (.ok (p.write v).compact) = .ok v) ∧
    (∀ (l : List (List Letter × Written)) (body : String) (s w : List Letter) (word : String),
      (Written.object l).Spells body.toList → (s, .string w) ∈ l →
      Letter.text? s = some "scanResult" → Letter.text? w = some word →
      word ≠ "Succeeded" → word ≠ "Failed" →
      (∀ v, Scanner.decoded ImageScan.selection ImageScan.ofJson? (.ok body) = .ok v →
        v.status = .noData ∧ v.toJson.field? "scanResult" = some (.string "NoData")) ∧
      (∀ v, Scanner.decoded ScanSummary.selection ScanSummary.ofJson? (.ok body) = .ok v →
        v.status = .noData ∧ v.toJson.field? "scanResult" = some (.string "NoData"))) := by
  refine ⟨decoded_compact, decoded_compact_summaries, fun _ _ _ _ _ h hs ht => h.decoded_eq hs ht,
    fun _ _ _ _ h hs ht => decoded_summaries_eq h hs ht,
    fun p _ v hv => ⟨exists_spells_of_decoded hv, decoded_compact p v⟩,
    fun l body s w word hbody hmem hs hw hsucceeded hfailed => ?_⟩
  have hlabel := ofLabel_eq_noData hsucceeded hfailed
  refine ⟨fun v hv => ?_, fun v hv => ?_⟩
  · obtain ⟨x, hread, hword⟩ := @field?_of_decoded .scan _ _ _ _ _ hbody hv _ _ hmem hs
      (.tail _ (.head _)) hw
    have hstatus : v.status = .noData := (status_of_scan hword hread).trans hlabel
    refine ⟨hstatus, ?_⟩
    rw [ImageScan.toJson, hstatus]
    rfl
  · obtain ⟨x, hread, hword⟩ := @field?_of_decoded .summary _ _ _ _ _ hbody hv _ _ hmem hs
      (.tail _ (.head _)) hw
    have hstatus : v.status = .noData := (status_of_summary hword hread).trans hlabel
    refine ⟨hstatus, ?_⟩
    rw [ScanSummary.toJson, hstatus]
    rfl

/-- The letters of a text that is written as it is. -/
def plain (t : String) : List Letter :=
  t.toList.map .char

set_option maxRecDepth 4000 in
/-- A scan that waits in a queue, sent with a place in the queue that is too large for any double
and a null list, and a list of summaries with half of a surrogate pair beside one. -/
theorem survives_codec_queued :
    Scanner.decoded ImageScan.selection ImageScan.ofJson?
        (.ok ("\x7b\x22position\x22: 1e400, \x22scanResult\x22: \x22Queued\x22, " ++
          "\x22targets\x22: null, \x22image\x22: \x22nginx\x22\x7d")) =
      Scanner.decoded ImageScan.selection ImageScan.ofJson?
        (.ok "\x7b\x22image\x22:\x22nginx\x22,\x22scanResult\x22:\x22Queued\x22\x7d") ∧
    Scanner.decoded ImageScan.selection ImageScan.ofJson?
        (.ok "\x7b\x22image\x22:\x22nginx\x22,\x22scanResult\x22:\x22Queued\x22\x7d") =
      .ok { image := "nginx" } ∧
    Scanner.decoded ImageScan.selection ImageScan.ofJson?
      (.ok (ImageScan.toJson { image := "nginx" }).compact) = .ok { image := "nginx" } ∧
    Scanner.decoded Scanner.listSelection Scanner.summaries?
        (.ok "[\x7b\x22note\x22:\x22\\ud800\x22,\x22image\x22:\x22nginx\x22\x7d]") =
      Scanner.decoded Scanner.listSelection Scanner.summaries?
        (.ok "[\x7b\x22image\x22:\x22nginx\x22\x7d]") ∧
    (ImageScan.toJson { image := "nginx" }).field? "scanResult" = some (.string "NoData") := by
  have horder : [(plain "scanResult", Written.string (plain "Queued")), (plain "targets", .null),
      (plain "image", .string (plain "nginx"))].Perm [(plain "targets", .null),
        (plain "image", .string (plain "nginx")),
        (plain "scanResult", .string (plain "Queued"))] :=
    .trans (.swap _ _ _) (.cons _ (.swap _ _ _))
  have halike : Alike .scan
      (.object [(plain "position", .number ⟨false, ['1'], none, some 400⟩),
        (plain "scanResult", .string (plain "Queued")), (plain "targets", .null),
        (plain "image", .string (plain "nginx"))])
      (.object [(plain "image", .string (plain "nginx")),
        (plain "scanResult", .string (plain "Queued"))]) :=
    .trans (.symm (.unknown (k := "position") rfl (by decide) _ _)) <|
      .trans (.order horder) <|
        .symm (.missing (k := "targets") (c := .records .target) rfl
          (.tail _ (.tail _ (.tail _ (.head _)))) trivial (.inl rfl) (by decide))
  have hlist : List.Forall₂ (Alike .summary)
      [.object [(plain "note", .string [.unit 0xD800]), (plain "image", .string (plain "nginx"))]]
      [.object [(plain "image", .string (plain "nginx"))]] :=
    .cons (.symm (.unknown (k := "note") rfl (by decide) _ _)) .nil
  have hread : (select? ImageScan.selection
      "\x7b\x22image\x22:\x22nginx\x22,\x22scanResult\x22:\x22Queued\x22\x7d").bind
        ImageScan.ofJson? = some { image := "nginx" } := by
    decide +kernel
  obtain ⟨x, hselect, hfound⟩ := Option.bind_eq_some_iff.1 hread
  have haccepted := Scanner.decoded_eq_ok.2 ⟨_, x, rfl, hselect, hfound⟩
  exact ⟨survives_codec.2.2.1 .scan _ _ _ _ halike (Written.ofText?_eq_some_iff.1 rfl)
      (Written.ofText?_eq_some_iff.1 rfl), haccepted,
    (survives_codec.2.2.2.2.1 .scan _ _ haccepted).2,
    survives_codec.2.2.2.1 _ _ _ _ hlist (Written.ofText?_eq_some_iff.1 rfl)
      (Written.ofText?_eq_some_iff.1 rfl),
    ((survives_codec.2.2.2.2.2 _ _ (plain "scanResult") (plain "Queued") "Queued"
      (Written.ofText?_eq_some_iff.1 rfl) (.tail _ (.head _)) rfl rfl (by decide)
      (by decide)).1 _ haccepted).2⟩

end Payload

end ClusterAudit
