import ClusterAudit.Proofs.Json.Fields
import ClusterAudit.Vulnerability.Summary
import Mathlib.Data.List.Nodup

/-!
# The records of scanner payloads

A payload is a scan or a summary, and inside them are targets, vulnerabilities and counters. Each
of these records is written as an object and read from one, and `ClusterAudit.Payload` names the
five of them so that a law of the codec is said once.

* What is written is read back (`ClusterAudit.Payload.read_write`).
* The order of the fields does not count, and a list that is missing is as good as null and as good
  as empty (`ClusterAudit.Payload.read_of_perm`, `ClusterAudit.Payload.read_of_missing`). Both rest
  on the same account of an object: for every name, the list of the fields that are called so
  (`ClusterAudit.Json.given`). A record is read only where each of its names has at most one of
  them.
* A list of records is read record by record, wherever it stands
  (`ClusterAudit.Payload.exists_reading`).
-/

namespace ClusterAudit

open Json

/-! ### Taking an object apart -/

namespace Json.Record

variable {l : List (String × Json)}

theorem isDistinct_iff {names : List String} :
    isDistinct names l = true ↔ ∀ k ∈ names, (given k l).length ≤ 1 := by
  simp [isDistinct, given]

/-- An object whose fields have the names of a record, each once and in their order, is taken apart
into its values. -/
theorem slots?_of_names {names : List String} (h : l.map (·.1) = names) (hnodup : names.Nodup) :
    slots? names (.object l) = some (l.map fun f => some f.2) := by
  subst h
  have hdistinct : isDistinct (l.map (·.1)) l = true := isDistinct_iff.2 fun k hk => by
    obtain ⟨f, hf, rfl⟩ := List.mem_map.1 hk
    exact Nat.le_of_eq (congrArg List.length (given_of_mem hnodup hf))
  rw [slots?, if_pos hdistinct, List.map_map]
  refine congrArg some (List.map_congr_left fun f hf => ?_)
  rw [Function.comp_apply, field?_object, given_of_mem hnodup hf]
  rfl

theorem slots?_object {names : List String} (h : isDistinct names l = true) :
    slots? names (.object l) = some (names.map fun n => (Json.object l).field? n) :=
  if_pos h

theorem slots?_of_field? {names : List String} {x v : Json} {k : String} {slots : List Slot}
    (hk : x.field? k = some v) (h : slots? names x = some slots) :
    slots = names.map fun n => x.field? n := by
  cases x with
  | object l =>
    rw [slots?, Option.ite_none_right_eq_some] at h
    exact (Option.some.inj h.2).symm
  | _ => cases hk

/-! ### Lists and counts -/

theorem listOr?_map {α : Type} {item : Json → Option α} {write : α → Json} {l : List α}
    (h : ∀ a ∈ l, item (write a) = some a) :
    listOr? item (some (.array (l.map write))) = some l := by
  change (l.map write).mapM item = some l
  induction l with
  | nil => rfl
  | cons a l ih =>
    obtain ⟨ha, hl⟩ := List.forall_mem_cons.1 h
    rw [List.map_cons, List.mapM_cons, ha, ih hl]
    rfl

theorem count?_count (n : UInt32) : count? (some (Json.count n)) = some n := by
  have hrange : (0 : Int) ≤ n.toNat ∧ (n.toNat : Int) < UInt32.size :=
    ⟨Int.natCast_nonneg _, Int.ofNat_lt.2 n.toNat_lt⟩
  rw [count?, Json.count, asCount?, if_pos hrange]
  simp

end Json.Record

open Json.Record

/-! ### The records of a payload -/

/-- The kinds of records that payloads are made of. -/
inductive Payload where
  /-- The scan of an image. -/
  | scan
  /-- A target inside an image. -/
  | target
  /-- A vulnerability of a target. -/
  | vulnerability
  /-- The summary of a scan. -/
  | summary
  /-- A counter of a summary. -/
  | counter

namespace Payload

/-- What a field of a record holds. -/
inductive Content where
  /-- A text, a status or a count. -/
  | single
  /-- A list of texts. -/
  | texts
  /-- A list of records. -/
  | records (item : Payload)

/-- The fields of a record and what they hold. -/
def fields : Payload → List (String × Content)
  | .scan =>
    [("image", .single), ("scanResult", .single), ("description", .single),
      ("targets", .records .target)]
  | .target => [("Target", .single), ("Vulnerabilities", .records .vulnerability)]
  | .vulnerability =>
    [("VulnerabilityID", .single), ("PkgName", .single), ("InstalledVersion", .single),
      ("FixedVersion", .single), ("Title", .single), ("Description", .single),
      ("Severity", .single), ("References", .texts)]
  | .summary =>
    [("image", .single), ("scanResult", .single), ("description", .single),
      ("counters", .records .counter)]
  | .counter => [("severity", .single), ("count", .single)]

/-- The names of the fields. -/
def names (p : Payload) : List String :=
  p.fields.map (·.1)

/-- What is read as a record. -/
abbrev Value : Payload → Type
  | .scan => ImageScan
  | .target => ScanTarget
  | .vulnerability => Vulnerability
  | .summary => ScanSummary
  | .counter => SeverityCount

/-- Read a record. -/
def read : (p : Payload) → Json → Option p.Value
  | .scan => ImageScan.ofJson?
  | .target => ScanTarget.ofJson?
  | .vulnerability => Vulnerability.ofJson?
  | .summary => ScanSummary.ofJson?
  | .counter => SeverityCount.ofJson?

/-- A record in JSON. -/
def write : (p : Payload) → p.Value → Json
  | .scan => ImageScan.toJson
  | .target => ScanTarget.toJson
  | .vulnerability => Vulnerability.toJson
  | .summary => ScanSummary.toJson
  | .counter => SeverityCount.toJson

/-- Whether a field has lists. -/
def Content.IsList : Content → Prop
  | .single => False
  | .texts => True
  | .records _ => True

/-! ### What is read of an object -/

variable {p : Payload} {l l' : List (String × Json)}

/-- Whether two values of a field say the same. -/
def Content.Agree : Content → Slot → Slot → Prop
  | .single, a, b => a = b
  | .texts, a, b => listOr? asString? a = listOr? asString? b
  | .records q, a, b => listOr? q.read a = listOr? q.read b

theorem Content.Agree.of_eq {c : Content} {a b : Slot} (h : a = b) : c.Agree a b := by
  subst h
  cases c <;> rfl

theorem read_of_slots_none {x : Json} (h : slots? p.names x = none) : p.read x = none := by
  cases p <;> exact congrArg (Option.bind · _) h

theorem read_of_repeated (h : isDistinct p.names l = false) : p.read (.object l) = none := by
  refine read_of_slots_none ?_
  rw [slots?, h]
  rfl

/-- What is read of an object is settled by the values of the fields. -/
theorem read_congr (hdistinct : isDistinct p.names l = isDistinct p.names l')
    (each : isDistinct p.names l = true →
      ∀ f ∈ p.fields, f.2.Agree ((Json.object l).field? f.1) ((Json.object l').field? f.1)) :
    p.read (.object l) = p.read (.object l') := by
  cases h : isDistinct p.names l with
  | false => rw [read_of_repeated h, read_of_repeated (hdistinct.symm.trans h)]
  | true =>
    have h' := hdistinct.symm.trans h
    specialize each h
    cases p with
    | scan =>
      obtain ⟨himage, hstatus, hdescription, htargets, -⟩ := by
        simpa only [fields, List.forall_mem_cons, Content.Agree, read] using each
      change isDistinct ["image", "scanResult", "description", "targets"] _ = true at h h'
      simp only [read, ImageScan.ofJson?, slots?_object h, slots?_object h', List.map_cons,
        List.map_nil, Option.bind_eq_bind, Option.bind_some, himage, hstatus, hdescription,
        htargets]
    | target =>
      obtain ⟨hname, hvulnerabilities, -⟩ := by
        simpa only [fields, List.forall_mem_cons, Content.Agree, read] using each
      change isDistinct ["Target", "Vulnerabilities"] _ = true at h h'
      simp only [read, ScanTarget.ofJson?, slots?_object h, slots?_object h', List.map_cons,
        List.map_nil, Option.bind_eq_bind, Option.bind_some, hname, hvulnerabilities]
    | vulnerability =>
      obtain ⟨hidentifier, hpackage, hinstalled, hfixed, htitle, hdescription, hseverity,
          hreferences, -⟩ := by
        simpa only [fields, List.forall_mem_cons, Content.Agree] using each
      change isDistinct ["VulnerabilityID", "PkgName", "InstalledVersion", "FixedVersion", "Title",
        "Description", "Severity", "References"] _ = true at h h'
      simp only [read, Vulnerability.ofJson?, Vulnerability.fieldNames, slots?_object h,
        slots?_object h', List.map_cons, List.map_nil, Option.bind_eq_bind, Option.bind_some,
        hidentifier, hpackage, hinstalled, hfixed, htitle, hdescription, hseverity, hreferences]
    | summary =>
      obtain ⟨himage, hstatus, hdescription, hcounters, -⟩ := by
        simpa only [fields, List.forall_mem_cons, Content.Agree, read] using each
      change isDistinct ["image", "scanResult", "description", "counters"] _ = true at h h'
      simp only [read, ScanSummary.ofJson?, slots?_object h, slots?_object h', List.map_cons,
        List.map_nil, Option.bind_eq_bind, Option.bind_some, himage, hstatus, hdescription,
        hcounters]
    | counter =>
      obtain ⟨hseverity, hcount, -⟩ := by
        simpa only [fields, List.forall_mem_cons, Content.Agree] using each
      change isDistinct ["severity", "count"] _ = true at h h'
      simp only [read, SeverityCount.ofJson?, slots?_object h, slots?_object h', List.map_cons,
        List.map_nil, Option.bind_eq_bind, Option.bind_some, hseverity, hcount]

/-- A name belongs to one field of a record. -/
theorem content_unique {k : String} {c c' : Content} (h : (k, c) ∈ p.fields)
    (h' : (k, c') ∈ p.fields) : c = c' := by
  have hnodup : p.names.Nodup := by cases p <;> decide
  exact congrArg Prod.snd (List.inj_on_of_nodup_map hnodup h h' rfl)

theorem mem_names {f : String × Content} (h : f ∈ p.fields) : f.1 ∈ p.names :=
  List.mem_map_of_mem h

/-- Objects whose fields of each name agree, in number and in value, are read alike. -/
theorem read_congr_given
    (hlength : ∀ k ∈ p.names, (given k l).length ≤ 1 ↔ (given k l').length ≤ 1)
    (each : ∀ f ∈ p.fields, (given f.1 l).length ≤ 1 →
      f.2.Agree ((given f.1 l).getLast?.map (·.2)) ((given f.1 l').getLast?.map (·.2))) :
    p.read (.object l) = p.read (.object l') := by
  refine read_congr ?_ fun hdistinct f hf => ?_
  · rw [Bool.eq_iff_iff, isDistinct_iff, isDistinct_iff]
    exact forall₂_congr hlength
  · rw [field?_object, field?_object]
    exact each f hf (isDistinct_iff.1 hdistinct _ (mem_names hf))

/-- Objects that differ in one of the fields are read alike if they agree in it. -/
theorem read_congr_field {k : String} {c : Content} (hk : (k, c) ∈ p.fields)
    (others : ∀ n, k ≠ n → given n l = given n l')
    (hlength : (given k l).length ≤ 1 ↔ (given k l').length ≤ 1)
    (hagree : (given k l).length ≤ 1 →
      c.Agree ((given k l).getLast?.map (·.2)) ((given k l').getLast?.map (·.2))) :
    p.read (.object l) = p.read (.object l') := by
  refine read_congr_given (fun n _ => ?_) fun f hf hle => ?_
  · by_cases hn : k = n
    · exact hn ▸ hlength
    · rw [others n hn]
  · by_cases hn : k = f.1
    · obtain ⟨n, c'⟩ := f
      obtain rfl : k = n := hn
      obtain rfl := content_unique hk hf
      exact hagree hle
    · rw [others f.1 hn]
      exact .of_eq rfl

/-- The order of the fields does not count. -/
theorem read_of_perm (h : l.Perm l') : p.read (.object l) = p.read (.object l') := by
  refine read_congr_given (fun k _ => ?_) fun f _ hf => ?_
  · rw [(perm_given k h).length_eq]
  · rw [given_eq_of_perm h hf]
    exact .of_eq rfl

/-- A list that is missing is as good as null and as good as empty. -/
theorem read_of_missing {k : String} {c : Content} (hk : (k, c) ∈ p.fields) (hc : c.IsList)
    {x : Json} (hx : x = .null ∨ x = .array []) (hl : ∀ f ∈ l, f.1 ≠ k) :
    p.read (.object l) = p.read (.object ((k, x) :: l)) := by
  have hnone : given k l = [] := given_eq_nil hl
  refine read_congr_field hk (fun n hn => (given_cons_of_ne hn).symm) ?_ fun _ => ?_
  · rw [given_cons_self, hnone]
    simp
  · rw [given_cons_self, hnone]
    cases c with
    | single => exact hc.elim
    | texts => rcases hx with rfl | rfl <;> rfl
    | records q => rcases hx with rfl | rfl <;> rfl

/-! ### Lists of records -/

/-- Documents in which one value stands at the place `i` of a record, with the same values around
it. -/
def VariesAt (names : List String) (i : Nat) (f : Json → Json) : Prop :=
  (∀ y, slots? names (f y) = none) ∨
    ∃ slots : List Slot, slots.length = names.length ∧
      ∀ y, slots? names (f y) = some (slots.set i (some y))

theorem variesAt_object {names : List String} {i : Nat} {k : String} (hnodup : names.Nodup)
    (hi : names[i]? = some k) (l : List (String × Json)) :
    VariesAt names i fun y => .object ((k, y) :: l) := by
  have hlength (y : Json) (n : String) :
      (given n ((k, y) :: l)).length = (given n ((k, .null) :: l)).length := by
    by_cases hn : k = n
    · subst hn
      rw [given_cons_self, given_cons_self]
      rfl
    · rw [given_cons_of_ne hn, given_cons_of_ne hn]
  have hsame (y : Json) : isDistinct names ((k, y) :: l) = isDistinct names ((k, .null) :: l) := by
    rw [Bool.eq_iff_iff, isDistinct_iff, isDistinct_iff]
    simp only [hlength y]
  cases hdistinct : isDistinct names ((k, .null) :: l) with
  | false =>
    refine .inl fun y => ?_
    rw [slots?, hsame, hdistinct]
    rfl
  | true =>
    have hnone : given k l = [] := by
      have hle := isDistinct_iff.1 hdistinct k (List.mem_of_getElem? hi)
      rw [given_cons_self] at hle
      exact List.length_eq_zero_iff.1 (by simpa using hle)
    refine .inr ⟨names.map fun n => (Json.object l).field? n, by simp, fun y => ?_⟩
    rw [slots?_object ((hsame y).trans hdistinct)]
    refine congrArg some (List.ext_getElem? fun j => ?_)
    rw [List.getElem?_map, List.getElem?_set]
    by_cases hj : i = j
    · subst hj
      obtain ⟨hlt, -⟩ := List.getElem?_eq_some_iff.1 hi
      rw [if_pos rfl, if_pos (by simpa using hlt), hi, Option.map_some, field?_object,
        given_cons_self, hnone]
      rfl
    · rw [if_neg hj, List.getElem?_map]
      cases hn : names[j]? with
      | none => rfl
      | some n =>
        have hne : k ≠ n := by
          rintro rfl
          exact hj ((List.getElem?_inj (List.getElem?_eq_some_iff.1 hi).1 hnodup).1
            (hi.trans hn.symm))
        rw [Option.map_some, Option.map_some, field?_object, given_cons_of_ne hne, field?_object]

theorem variesAt_array (names : List String) (before behind : List Json) :
    VariesAt names before.length fun y => .array (before ++ y :: behind) := by
  by_cases hlong : before.length + (behind.length + 1) ≤ names.length
  · refine .inr ⟨(before ++ .null :: behind).map some ++
      List.replicate (names.length - (before.length + (behind.length + 1))) none, ?_, fun y => ?_⟩
    · simp only [List.length_append, List.length_map, List.length_cons, List.length_replicate]
      omega
    · rw [slots?, if_pos (by simpa using hlong)]
      simp
  · refine .inl fun y => ?_
    rw [slots?, if_neg (by simpa using hlong)]

/-- **A list of records is read record by record**: what is read of a document in which it varies
comes from what is read of the list, and from nothing else of it. -/
theorem exists_reading {q : Payload} {i : Nat} {k : String}
    (hi : p.fields[i]? = some (k, .records q)) {f : Json → Json} (hf : VariesAt p.names i f) :
    ∃ F : List q.Value → Option p.Value, ∀ y, p.read (f y) = (listOr? q.read (some y)).bind F := by
  obtain hnone | ⟨slots, hlength, hslots⟩ := hf
  · refine ⟨fun _ => none, fun y => ?_⟩
    rw [read_of_slots_none (hnone y)]
    cases listOr? q.read (some y) <;> rfl
  · cases p with
    | scan =>
      obtain ⟨rfl, rfl⟩ : i = 3 ∧ q = .target := by
        rcases i with _ | _ | _ | _ | i <;> simp_all [fields]
      match slots, hlength with
      | [image, status, description, _], _ =>
        refine ⟨fun targets => do
          let image ← text? image
          let status ← ScanStatus.ofSlot? status
          let description ← textOr? description
          some { image, status, description, targets }, fun y => ?_⟩
        have hx : slots? ["image", "scanResult", "description", "targets"] (f y) =
            some [image, status, description, some y] := hslots y
        simp only [read, ImageScan.ofJson?, hx, Option.bind_eq_bind, Option.bind_some]
        cases listOr? ScanTarget.ofJson? (some y) with
        | none => simp
        | some targets => rfl
    | target =>
      obtain ⟨rfl, rfl⟩ : i = 1 ∧ q = .vulnerability := by
        rcases i with _ | _ | i <;> simp_all [fields]
      match slots, hlength with
      | [name, _], _ =>
        refine ⟨fun vulnerabilities => do
          let name ← textOr? name
          some { name, vulnerabilities }, fun y => ?_⟩
        have hx : slots? ["Target", "Vulnerabilities"] (f y) = some [name, some y] := hslots y
        simp only [read, ScanTarget.ofJson?, hx, Option.bind_eq_bind, Option.bind_some]
        cases listOr? Vulnerability.ofJson? (some y) with
        | none => simp
        | some vulnerabilities => rfl
    | summary =>
      obtain ⟨rfl, rfl⟩ : i = 3 ∧ q = .counter := by
        rcases i with _ | _ | _ | _ | i <;> simp_all [fields]
      match slots, hlength with
      | [image, status, description, _], _ =>
        refine ⟨fun counters => do
          let image ← text? image
          let status ← ScanStatus.ofSlot? status
          let description ← textOr? description
          some { image, status, description, counters }, fun y => ?_⟩
        have hx : slots? ["image", "scanResult", "description", "counters"] (f y) =
            some [image, status, description, some y] := hslots y
        simp only [read, ScanSummary.ofJson?, hx, Option.bind_eq_bind, Option.bind_some]
        cases listOr? SeverityCount.ofJson? (some y) with
        | none => simp
        | some counters => rfl
    | vulnerability => rcases i with _ | _ | _ | _ | _ | _ | _ | _ | i <;> simp_all [fields]
    | counter => rcases i with _ | _ | i <;> simp_all [fields]

/-! ### What is written is read -/

theorem ofSlot?_toJson (s : ScanStatus) : ScanStatus.ofSlot? (some s.toJson) = some s := by
  cases s <;> rfl

/-- The slot of the count is a variable here: its own term would be evaluated, and its range
compared by counting up to it. -/
theorem ofJson?_counter {x : Json} {severity : String} {slot : Slot} {n : UInt32}
    (h : slots? ["severity", "count"] x = some [some (.string severity), slot])
    (hcount : count? slot = some n) : SeverityCount.ofJson? x = some ⟨severity, n⟩ := by
  rw [SeverityCount.ofJson?, h]
  simp only [Option.bind_eq_bind, Option.bind_some, text?, hcount]

theorem read_write_counter (c : SeverityCount) : SeverityCount.ofJson? c.toJson = some c := by
  have hslots : slots? ["severity", "count"] c.toJson =
      some [some (.string c.severity), some (.count c.count)] :=
    slots?_of_names rfl (by decide)
  exact ofJson?_counter hslots (count?_count c.count)

theorem read_write_vulnerability (v : Vulnerability) :
    Vulnerability.ofJson? v.toJson = some v := by
  have hslots : slots? Vulnerability.fieldNames v.toJson =
      some [some (.string v.identifier), some (.string v.package),
        some (.string v.installedVersion), some (.string v.fixedVersion), some (.string v.title),
        some (.string v.description), some (.string v.severity),
        some (Json.strings v.references)] :=
    slots?_of_names rfl (by decide)
  have hreferences : listOr? asString? (some (Json.strings v.references)) = some v.references :=
    listOr?_map fun _ _ => rfl
  rw [Vulnerability.ofJson?, hslots]
  simp only [Option.bind_eq_bind, Option.bind_some, textOr?, hreferences]

theorem read_write_target (t : ScanTarget) : ScanTarget.ofJson? t.toJson = some t := by
  have hslots : slots? ["Target", "Vulnerabilities"] t.toJson =
      some [some (.string t.name), some (.array (t.vulnerabilities.map Vulnerability.toJson))] :=
    slots?_of_names rfl (by decide)
  rw [ScanTarget.ofJson?, hslots]
  simp only [Option.bind_eq_bind, Option.bind_some, textOr?,
    listOr?_map fun v _ => read_write_vulnerability v]

theorem read_write_scan (s : ImageScan) : ImageScan.ofJson? s.toJson = some s := by
  have hslots : slots? ["image", "scanResult", "description", "targets"] s.toJson =
      some [some (.string s.image), some s.status.toJson, some (.string s.description),
        some (.array (s.targets.map ScanTarget.toJson))] :=
    slots?_of_names rfl (by decide)
  rw [ImageScan.ofJson?, hslots]
  simp only [Option.bind_eq_bind, Option.bind_some, text?, textOr?, ofSlot?_toJson,
    listOr?_map fun t _ => read_write_target t]

theorem read_write_summary (s : ScanSummary) : ScanSummary.ofJson? s.toJson = some s := by
  have hslots : slots? ["image", "scanResult", "description", "counters"] s.toJson =
      some [some (.string s.image), some s.status.toJson, some (.string s.description),
        some (.array (s.counters.map SeverityCount.toJson))] :=
    slots?_of_names rfl (by decide)
  rw [ScanSummary.ofJson?, hslots]
  simp only [Option.bind_eq_bind, Option.bind_some, text?, textOr?, ofSlot?_toJson,
    listOr?_map fun c _ => read_write_counter c]

/-- **A record is read back** from what is written for it. -/
theorem read_write (p : Payload) (v : p.Value) : p.read (p.write v) = some v := by
  cases p with
  | scan => exact read_write_scan v
  | target => exact read_write_target v
  | vulnerability => exact read_write_vulnerability v
  | summary => exact read_write_summary v
  | counter => exact read_write_counter v

end Payload

end ClusterAudit
