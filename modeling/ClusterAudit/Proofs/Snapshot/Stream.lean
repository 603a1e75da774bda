import ClusterAudit.Proofs.Snapshot.Listing

/-!
# Streams of documents

A manifest is a stream of documents. Each of them is a value or is not well formed, and the objects
among them are added to a snapshot one after another.

`ClusterAudit.Snapshot.addDocuments` is this walk. It stops at the first document that fails, and
what a document does on the way depends on nothing but the document itself: it fails, it brings an
object of the kind that it names, or it is passed over. So the walk adds what the documents in front
of the first failing one bring, in their order (`ClusterAudit.Snapshot.fst_addDocuments`), and it
comes to its end when none fails (`ClusterAudit.Snapshot.snd_addDocuments`). Everything else is read
off these two.

Reading a text is walking through its stream (`ClusterAudit.Snapshot.addManifest_eq`): its documents
up to the first one that is not well formed, and this one.
-/

namespace ClusterAudit

open Yaml (Value)

/-! ### Kinds of documents -/

/-- The name of a kind in manifests. -/
def ObjectKind.name : ObjectKind → String
  | .workload kind => kind.name
  | .namespaceObject => "Namespace"
  | .node => "Node"
  | .pod => "Pod"

/-- **Nine names are names of kinds**, each of one kind. -/
theorem ObjectKind.ofName?_eq_some {name : String} {kind : ObjectKind} :
    ofName? name = some kind ↔ kind.name = name := by
  constructor
  · intro h
    unfold ofName? at h
    split at h
    · obtain rfl := Option.some.inj h
      rfl
    · obtain rfl := Option.some.inj h
      rfl
    · obtain rfl := Option.some.inj h
      rfl
    -- every other kind is one of a controller and is found by its name
    · obtain ⟨k, hk, rfl⟩ := Option.map_eq_some_iff.1 h
      have hname := List.find?_some hk
      exact eq_of_beq hname
  · rintro rfl
    cases kind with
    | workload k => cases k <;> rfl
    | _ => rfl

namespace Manifest

/-- **A value is of a kind**: it is a mapping, and under its key `kind` stands the name of the kind.
Tags around the two do not count. -/
def HasKind (v : Value) (kind : ObjectKind) : Prop :=
  ∃ entries x, v.untagged = .dict entries ∧
    Value.findEntry (Value.same (.text "kind")) entries = some x ∧ x.untagged = .text kind.name

theorem kindOf?_eq_some {v : Value} {kind : ObjectKind} :
    kindOf? v = some kind ↔ HasKind v kind := by
  have htext : ∀ x : Value, (x.asText?).bind ObjectKind.ofName? = some kind ↔
      x.untagged = .text kind.name := by
    intro x
    rw [Value.asText?]
    split
    next s hs => rw [hs, Option.bind_some, ObjectKind.ofName?_eq_some, Value.text.injEq, eq_comm]
    next hno => simpa using fun hs => hno kind.name hs
  rw [kindOf?, Option.bind_assoc, Option.bind_eq_some_iff, HasKind]
  constructor
  · rintro ⟨x, hx, hkind⟩
    rw [Value.entry?] at hx
    split at hx
    next entries hentries => exact ⟨entries, x, hentries, hx, (htext x).1 hkind⟩
    next => cases hx
  · rintro ⟨entries, x, hentries, hx, hkind⟩
    refine ⟨x, ?_, (htext x).2 hkind⟩
    rw [Value.entry?, hentries]
    exact hx

instance (v : Value) (kind : ObjectKind) : Decidable (HasKind v kind) :=
  decidable_of_iff (kindOf? v = some kind) kindOf?_eq_some

theorem HasKind.unique {v : Value} {kind kind' : ObjectKind} (h : HasKind v kind)
    (h' : HasKind v kind') : kind = kind' := by
  rw [← kindOf?_eq_some] at h h'
  exact Option.some.inj (h.symm.trans h')

/-- A value of a kind is read as an object of this kind, if it has the shape of one. -/
theorem read_of_hasKind {v : Value} {kind : ObjectKind} (h : HasKind v kind) :
    read v = (Kubernetes.object? true kind v).elim .wrongShape .object := by
  simp only [read, kindOf?_eq_some.2 h]
  cases Kubernetes.object? true kind v with
  | none => rfl
  | some o => rfl

/-- A value of no kind is not looked at. -/
theorem read_of_no_kind {v : Value} (h : ∀ kind, ¬ HasKind v kind) : read v = .skipped := by
  have hnone : kindOf? v = none := by
    cases hkind : kindOf? v with
    | none => rfl
    | some kind => exact absurd (kindOf?_eq_some.1 hkind) (h kind)
  rw [read, hnone]

/-! ### Documents -/

/-- A document of a stream: its value, or what keeps it from being well formed. -/
abbrev Document := Except Yaml.Fault Value

/-- The documents of a text up to the first that is not well formed, and this one. -/
def documents (text : String) : List Document :=
  (Yaml.values text).1.map .ok ++ (Yaml.values text).2.toList.map .error

namespace Document

/-- A document is of a kind. -/
def IsOf (kind : ObjectKind) : Document → Prop
  | .error _ => False
  | .ok v => HasKind v kind

instance (kind : ObjectKind) (d : Document) : Decidable (IsOf kind d) :=
  match d with
  | .error _ => inferInstanceAs (Decidable False)
  | .ok v => inferInstanceAs (Decidable (HasKind v kind))

/-- The object of a kind that a document decodes to, if it is of this kind. -/
def decode? (kind : ObjectKind) : Document → Option ClusterObject
  | .error _ => none
  | .ok v => if HasKind v kind then Kubernetes.object? true kind v else none

/-- **A document fails**: it is not well formed, or it is of one of the kinds and does not decode as
an object of this kind. -/
inductive Fails : Document → Prop
  /-- The document is not well formed. -/
  | malformed (e : Yaml.Fault) : Fails (.error e)
  /-- The document is of a kind and does not have its shape. -/
  | wrongShape (v : Value) (kind : ObjectKind) (hkind : HasKind v kind)
    (h : Kubernetes.object? true kind v = none) : Fails (.ok v)

/-- **A document is passed over**: it is null, or no mapping, or of none of the kinds. -/
inductive IsPassedOver : Document → Prop
  /-- The document is null. -/
  | null (v : Value) (h : v.untagged = .null) : IsPassedOver (.ok v)
  /-- The document is no mapping. -/
  | noMapping (v : Value) (h : ∀ entries, v.untagged ≠ .dict entries) : IsPassedOver (.ok v)
  /-- The document is of another kind. -/
  | otherKind (v : Value) (h : ∀ kind, ¬ HasKind v kind) : IsPassedOver (.ok v)

/-- The object that a document brings, whatever its kind. -/
def object? : Document → Option ClusterObject
  | .error _ => none
  | .ok v =>
    match read v with
    | .object o => some o
    | _ => none

variable {d : Document}

theorem fails_ok_iff {v : Value} : Fails (.ok v) ↔ read v = .wrongShape := by
  constructor
  · rintro ⟨⟩
    case wrongShape kind hkind hnone => rw [read_of_hasKind hkind, hnone, Option.elim_none]
  · intro h
    rw [read] at h
    split at h
    next => cases h
    next kind hkind =>
      split at h
      next => cases h
      next hnone => exact .wrongShape v kind (kindOf?_eq_some.1 hkind) hnone

instance (d : Document) : Decidable d.Fails :=
  match d with
  | .error e => isTrue (.malformed e)
  | .ok _ => decidable_of_iff _ fails_ok_iff.symm

theorem IsPassedOver.no_kind (h : d.IsPassedOver) (kind : ObjectKind) : ¬ IsOf kind d := by
  cases h with
  | null v h =>
    rintro ⟨entries, x, hentries, -⟩
    rw [h] at hentries
    cases hentries
  | noMapping v h =>
    rintro ⟨entries, x, hentries, -⟩
    exact h entries hentries
  | otherKind v h => exact h kind

/-- **What is passed over does not fail and brings nothing.** -/
theorem IsPassedOver.not_fails (h : d.IsPassedOver) : ¬ d.Fails := by
  intro hfails
  cases hfails with
  | malformed e => cases h
  | wrongShape v kind hkind => exact h.no_kind kind hkind

theorem IsPassedOver.object?_eq_none (h : d.IsPassedOver) : d.object? = none := by
  cases d with
  | error e => rfl
  | ok v => rw [object?, read_of_no_kind h.no_kind]

/-- **Of one kind a document brings what it decodes to.** -/
theorem filter_object? (d : Document) (kind : ObjectKind) :
    d.object?.filter (fun o => o.kind = kind) = d.decode? kind := by
  cases d with
  | error e => rfl
  | ok v =>
    rw [object?, decode?]
    by_cases hkind : ∃ k, HasKind v k
    · obtain ⟨k, hk⟩ := hkind
      rw [read_of_hasKind hk]
      by_cases hsame : k = kind
      · subst hsame
        rw [if_pos hk]
        cases ho : Kubernetes.object? true k v with
        | none => rfl
        | some o => simp [Option.filter, ClusterSource.kind_of_object? ho]
      · rw [if_neg fun h => hsame (hk.unique h)]
        cases ho : Kubernetes.object? true k v with
        | none => rfl
        | some o => simp [Option.filter, ClusterSource.kind_of_object? ho, hsame]
    · have hnone : ∀ k, ¬ HasKind v k := fun k hk => hkind ⟨k, hk⟩
      rw [read_of_no_kind hnone, if_neg (hnone kind)]
      rfl

theorem decode?_of_not_isOf {kind : ObjectKind} (h : ¬ IsOf kind d) : d.decode? kind = none := by
  cases d with
  | error e => rfl
  | ok v => exact if_neg h

/-- Only the documents of a kind matter to what is decoded as of this kind. -/
theorem filterMap_decode? (l : List Document) (kind : ObjectKind) :
    l.filterMap (decode? kind) = (l.filter (IsOf kind)).filterMap (decode? kind) := by
  induction l with
  | nil => rfl
  | cons d l ih =>
    by_cases hkind : IsOf kind d
    · simp only [List.filter_cons, hkind, decide_true, if_true, List.filterMap_cons, ih]
    · rw [List.filterMap_cons_none (decode?_of_not_isOf hkind), ih]
      simp only [List.filter_cons, hkind, decide_false, Bool.false_eq_true, if_false]

end Document

end Manifest

/-! ### The walk through a stream -/

namespace Snapshot

open Manifest

/-- The snapshot with what a document brings, unless the document fails. -/
def addDocument (s : Snapshot) : Document → Option Snapshot
  | .error _ => none
  | .ok v =>
    match read v with
    | .object o => some (s.add o)
    | .skipped => some s
    | .wrongShape => none

/-- **Add documents one after another** up to the first that fails, and say whether there is
none. -/
def addDocuments (s : Snapshot) : List Document → Snapshot × Bool
  | [] => (s, true)
  | d :: l =>
    match s.addDocument d with
    | some t => t.addDocuments l
    | none => (s, false)

variable (s : Snapshot)

theorem addDocument_of_fails {d : Document} (h : d.Fails) : s.addDocument d = none := by
  cases h with
  | malformed e => rfl
  | wrongShape v kind hkind hnone =>
    rw [addDocument, Document.fails_ok_iff.1 (.wrongShape v kind hkind hnone)]

theorem addDocument_of_not_fails {d : Document} (h : ¬ d.Fails) :
    s.addDocument d = some (s.addAll d.object?.toList) := by
  cases d with
  | error e => exact absurd (.malformed e) h
  | ok v =>
    rw [addDocument, Document.object?]
    cases hread : read v with
    | object o => rfl
    | skipped => rfl
    | wrongShape => exact absurd (Document.fails_ok_iff.2 hread) h

theorem addDocuments_cons_of_fails {d : Document} (h : d.Fails) (l : List Document) :
    s.addDocuments (d :: l) = (s, false) := by
  rw [addDocuments, addDocument_of_fails s h]

theorem addDocuments_cons_of_not_fails {d : Document} (h : ¬ d.Fails) (l : List Document) :
    s.addDocuments (d :: l) = (s.addAll d.object?.toList).addDocuments l := by
  rw [addDocuments, addDocument_of_not_fails s h]

theorem addAll_append (l m : List ClusterObject) : s.addAll (l ++ m) = (s.addAll l).addAll m :=
  List.foldl_append

/-- The documents in front of the first one that fails. -/
def loaded (l : List Document) : List Document :=
  l.takeWhile fun d => ¬ d.Fails

theorem loaded_cons_of_fails {d : Document} (h : d.Fails) (l : List Document) :
    loaded (d :: l) = [] :=
  List.takeWhile_cons_of_neg (by simpa using h)

theorem loaded_cons_of_not_fails {d : Document} (h : ¬ d.Fails) (l : List Document) :
    loaded (d :: l) = d :: loaded l :=
  List.takeWhile_cons_of_pos (decide_eq_true h)

theorem loaded_append {l : List Document} (h : ∀ d ∈ l, ¬ d.Fails) (m : List Document) :
    loaded (l ++ m) = l ++ loaded m :=
  List.takeWhile_append_of_pos fun d hd => decide_eq_true (h d hd)

theorem loaded_of_forall {l : List Document} (h : ∀ d ∈ l, ¬ d.Fails) : loaded l = l := by
  have happend := loaded_append h []
  rw [List.append_nil] at happend
  rw [happend]
  exact List.append_nil l

/-- **What a walk adds** is what the documents in front of the first failing one bring. -/
theorem fst_addDocuments (l : List Document) :
    (s.addDocuments l).1 = s.addAll ((loaded l).filterMap Document.object?) := by
  -- the snapshot grows on the way, so this goes for all snapshots at once
  induction l generalizing s with
  | nil => rfl
  | cons d l ih =>
    by_cases hfails : d.Fails
    · rw [addDocuments_cons_of_fails s hfails, loaded_cons_of_fails hfails]
      rfl
    · rw [addDocuments_cons_of_not_fails s hfails, ih, loaded_cons_of_not_fails hfails,
        ← addAll_append, List.filterMap_cons]
      cases d.object? with
      | none => rfl
      | some o => rfl

/-- **A walk comes to its end** when no document fails. -/
theorem snd_addDocuments (l : List Document) :
    (s.addDocuments l).2 = true ↔ ∀ d ∈ l, ¬ d.Fails := by
  induction l generalizing s with
  | nil => simp [addDocuments]
  | cons d l ih =>
    by_cases hfails : d.Fails
    · rw [addDocuments_cons_of_fails s hfails]
      simp [hfails]
    · rw [addDocuments_cons_of_not_fails s hfails, ih, List.forall_mem_cons]
      exact (and_iff_right hfails).symm

/-- Of each kind a walk adds what the documents of this kind decode to. -/
theorem listOf_addDocuments (l : List Document) (kind : ObjectKind) :
    (s.addDocuments l).1.listOf kind =
      s.listOf kind ++ (loaded l).filterMap (Document.decode? kind) := by
  rw [fst_addDocuments, listOf_addAll, List.filter_filterMap]
  simp only [Document.filter_object?]

theorem origin_addDocuments (l : List Document) : (s.addDocuments l).1.origin = s.origin := by
  rw [fst_addDocuments, origin_addAll]

theorem snd_addDocuments_eq_false {l : List Document} :
    (s.addDocuments l).2 = false ↔ ∃ d ∈ l, d.Fails := by
  rw [← Bool.not_eq_true, snd_addDocuments]
  push Not
  rfl

/-- **Streams are walked through one after another**: the second one only if nothing fails in the
first. -/
theorem addDocuments_append (l m : List Document) :
    s.addDocuments (l ++ m) =
      if (s.addDocuments l).2 then (s.addDocuments l).1.addDocuments m else s.addDocuments l := by
  induction l generalizing s with
  | nil => rfl
  | cons d l ih =>
    by_cases hfails : d.Fails
    · rw [List.cons_append, addDocuments_cons_of_fails s hfails,
        addDocuments_cons_of_fails s hfails]
      rfl
    · rw [List.cons_append, addDocuments_cons_of_not_fails s hfails,
        addDocuments_cons_of_not_fails s hfails, ih]

/-- **The first document that fails adds nothing**, and what was added before it stays. -/
theorem addDocuments_of_first_fails {before : List Document} {d : Document}
    (hbefore : ∀ e ∈ before, ¬ e.Fails) (h : d.Fails) (after : List Document) :
    s.addDocuments (before ++ d :: after) = ((s.addDocuments before).1, false) := by
  rw [addDocuments_append, if_pos ((snd_addDocuments s before).2 hbefore),
    addDocuments_cons_of_fails _ h]

/-- **A document that is passed over might as well not be there.** -/
theorem addDocuments_of_isPassedOver {d : Document} (h : d.IsPassedOver)
    (before after : List Document) :
    s.addDocuments (before ++ d :: after) = s.addDocuments (before ++ after) := by
  -- wherever the walk has come to, the document adds nothing there
  have hsame : ∀ t : Snapshot, t.addDocuments (d :: after) = t.addDocuments after := by
    intro t
    rw [addDocuments_cons_of_not_fails t h.not_fails, h.object?_eq_none]
    rfl
  rw [addDocuments_append, addDocuments_append, hsame]

/-- **Only the documents of each kind matter**, when none fails: in which order documents of
different kinds stand does not. -/
theorem addDocuments_eq_of_filter_eq {l m : List Document} (hl : ∀ d ∈ l, ¬ d.Fails)
    (hm : ∀ d ∈ m, ¬ d.Fails)
    (h : ∀ kind, l.filter (Document.IsOf kind) = m.filter (Document.IsOf kind)) :
    s.addDocuments l = s.addDocuments m := by
  have hsnapshot : (s.addDocuments l).1 = (s.addDocuments m).1 := by
    -- a list grows by documents of its kind, and of these both streams have the same
    refine eq_of_listOf_eq ?_ fun kind => ?_
    · rw [origin_addDocuments, origin_addDocuments]
    · rw [listOf_addDocuments, listOf_addDocuments, loaded_of_forall hl, loaded_of_forall hm,
        Document.filterMap_decode?, h kind, ← Document.filterMap_decode?]
  have hend : (s.addDocuments l).2 = (s.addDocuments m).2 := by
    rw [(snd_addDocuments s l).2 hl, (snd_addDocuments s m).2 hm]
  exact Prod.ext hsnapshot hend

/-! ### Texts -/

/-- The objects of values are what their documents bring, up to the first that fails. -/
theorem addDocuments_values (values : List Value) :
    s.addDocuments (values.map .ok) = (s.addAll (objects values).1, (objects values).2) := by
  induction values generalizing s with
  | nil => rfl
  | cons v values ih =>
    rw [List.map_cons, addDocuments, addDocument, objects]
    cases read v with
    | object o => exact ih (s.add o)
    | skipped => exact ih s
    | wrongShape => rfl

/-- **Reading a text is walking through its stream.** -/
theorem addManifest_eq (text : String) :
    s.addManifest text = s.addDocuments (documents text) := by
  rw [documents, addDocuments_append, addDocuments_values, addManifest, objectsOf]
  cases hfault : (Yaml.values text).2 with
  | none => cases hfine : (objects (Yaml.values text).1).2 <;> simp [hfine, hfault, addDocuments]
  | some e =>
    cases hfine : (objects (Yaml.values text).1).2 <;>
      simp [hfine, hfault, addDocuments, addDocument]

/-- **A manifest adds the objects of its documents**, whatever snapshot they are added to. Each of
the nine lists is extended by what the documents of its kind decode to, in their order, among those
in front of the first one that fails; nothing else changes. The walk fails exactly when a document
does, which then adds nothing itself, while what was added before stays. A document that is null, no
mapping or of another kind neither fails nor changes anything. So streams that load and have the
same documents of each kind make the same snapshot, and a stream that is put together of two is the
one added after the other. The manifest of a text is the stream of its documents. -/
theorem addDocuments_exact (s : Snapshot) (l : List Document) :
    (∀ kind, (s.addDocuments l).1.listOf kind =
      s.listOf kind ++ (loaded l).filterMap (Document.decode? kind)) ∧
    (s.addDocuments l).1.origin = s.origin ∧
    ((s.addDocuments l).2 = false ↔ ∃ d ∈ l, d.Fails) ∧
    (∀ before d after, l = before ++ d :: after → (∀ e ∈ before, ¬ e.Fails) → d.Fails →
      s.addDocuments l = ((s.addDocuments before).1, false)) ∧
    (∀ before d after, l = before ++ d :: after → d.IsPassedOver →
      ¬ d.Fails ∧ s.addDocuments l = s.addDocuments (before ++ after)) ∧
    (∀ m, (∀ d ∈ l, ¬ d.Fails) → (∀ d ∈ m, ¬ d.Fails) →
      (∀ kind, l.filter (Document.IsOf kind) = m.filter (Document.IsOf kind)) →
      s.addDocuments l = s.addDocuments m) ∧
    (∀ m, s.addDocuments (l ++ m) =
      if (s.addDocuments l).2 then (s.addDocuments l).1.addDocuments m else s.addDocuments l) ∧
    ∀ text, documents text = l → s.addManifest text = s.addDocuments l := by
  refine ⟨listOf_addDocuments s l, origin_addDocuments s l, snd_addDocuments_eq_false s, ?_, ?_, ?_,
    addDocuments_append s l, ?_⟩
  · rintro before d after rfl hbefore hfails
    exact addDocuments_of_first_fails s hbefore hfails after
  · rintro before d after rfl hpassed
    exact ⟨hpassed.not_fails, addDocuments_of_isPassedOver s hpassed before after⟩
  · intro m hl hm hsame
    exact addDocuments_eq_of_filter_eq s hl hm hsame
  · rintro text rfl
    exact addManifest_eq s text

/-- A document with metadata, whatever they are. -/
def documentOf (kind : String) (metadata : Value) : Document :=
  .ok (.dict [(.text "kind", .text kind), (.text "metadata", metadata)])

/-- A namespace, a pod and a namespace whose metadata are a text: the third of them fails and leaves
the first two. The two may stand in any order and with a null document between them. -/
theorem addDocuments_exact_three :
    let space := documentOf "Namespace" (.dict [(.text "name", .text "apps")])
    let pod := documentOf "Pod" (.dict [(.text "name", .text "web")])
    let broken := documentOf "Namespace" (.text "apps")
    let loaded : Snapshot := { namespaces := [{ name := some "apps" }],
                               pods := [{ metadata := { name := some "web" } }] }
    ((∀ d ∈ [space, pod], ¬ d.Fails) ∧ broken.Fails ∧
      ({} : Snapshot).addDocuments [space, pod, broken, pod] = (loaded, false)) ∧
    (Document.IsPassedOver (.ok .null) ∧
      ({} : Snapshot).addDocuments [pod, .ok .null, space] = (loaded, true)) ∧
    ({} : Snapshot).addManifest "kind: Pod\n" =
      ({} : Snapshot).addDocuments (documents "kind: Pod\n") := by
  intro space pod broken loaded
  have hfine : ∀ d ∈ [space, pod], ¬ d.Fails := by decide +kernel
  have hfine' : ∀ d ∈ [pod, space], ¬ d.Fails := by decide +kernel
  have hbroken : broken.Fails := by decide +kernel
  have hnull : Document.IsPassedOver (.ok .null) := .null .null rfl
  have hloaded : ({} : Snapshot).addDocuments [space, pod] = (loaded, true) := by decide +kernel
  have hsame : ∀ kind, [pod, space].filter (Document.IsOf kind)
      = [space, pod].filter (Document.IsOf kind) := by
    intro kind
    rcases kind with k | _ | _ | _
    · cases k <;> rfl
    all_goals rfl
  obtain ⟨-, -, -, hfirst, -, -, -, -⟩ := addDocuments_exact {} [space, pod, broken, pod]
  obtain ⟨-, -, -, -, hpassed, -, -, -⟩ := addDocuments_exact {} [pod, .ok .null, space]
  obtain ⟨-, -, -, -, -, horder, -, -⟩ := addDocuments_exact {} [pod, space]
  obtain ⟨-, -, -, -, -, -, -, htext⟩ := addDocuments_exact {} (documents "kind: Pod\n")
  refine ⟨⟨hfine, hbroken, ?_⟩, ⟨hnull, ?_⟩, htext _ rfl⟩
  · rw [hfirst [space, pod] broken [pod] rfl hfine hbroken, hloaded]
  · rw [(hpassed [pod] (.ok .null) [space] rfl hnull).2]
    exact (horder [space, pod] hfine' hfine hsame).trans hloaded

end Snapshot

end ClusterAudit
