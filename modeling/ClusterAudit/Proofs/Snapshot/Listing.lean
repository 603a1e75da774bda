import ClusterAudit.Snapshot.Cluster
import ClusterAudit.Snapshot.Directory
import Mathlib.Data.List.Basic

/-!
# When there is a snapshot and what it holds

A server is asked for its version and for nine lists. `ClusterAudit.Snapshot.IsListing` says what it
means that a snapshot holds what the server lists, kind by kind, and
`ClusterAudit.Snapshot.ofServer_eq_ok` that a snapshot is made exactly then: every one of the
ten requests has to be answered by a document that can be read, and nothing else is asked for.

The lists are put together to one list of objects before they are sorted into the snapshot by
`ClusterAudit.Snapshot.addAll`. No object gets into the list of another kind on this way, because
the reader of a list makes only objects of the kind that was asked for
(`ClusterAudit.ClusterSource.kind_of_lists`).

A snapshot of files is there exactly when each of the files is a manifest
(`ClusterAudit.Snapshot.exists_ofPath`).
-/

namespace ClusterAudit

/-! ### Requests that may fail -/

section Faults

variable {α β ε : Type}

theorem bind_eq_ok {x : Except ε α} {f : α → Except ε β} {b : β} :
    x.bind f = .ok b ↔ ∃ a, x = .ok a ∧ f a = .ok b := by
  cases x <;> simp [Except.bind]

theorem map_eq_ok {x : Except ε α} {f : α → β} {b : β} :
    x.map f = .ok b ↔ ∃ a, x = .ok a ∧ f a = b := by
  cases x <;> simp [Except.map]

theorem mapError_eq_ok {x : Except ε α} {f : ε → β} {a : α} : x.mapError f = .ok a ↔ x = .ok a := by
  cases x <;> simp [Except.mapError]

variable {f : α → Except ε β} {l : List α}

theorem mapM_eq_ok_of_forall {g : α → β} (h : ∀ a ∈ l, f a = .ok (g a)) :
    l.mapM f = .ok (l.map g) := by
  induction l with
  | nil => rfl
  | cons a l ih =>
    rw [List.mapM_cons, h a List.mem_cons_self, ih fun b hb => h b (List.mem_cons_of_mem _ hb)]
    rfl

/-- A walk over a list that brings a result has brought one at each place. -/
theorem exists_eq_ok_of_mapM {ys : List β} (h : l.mapM f = .ok ys) :
    ∀ a ∈ l, ∃ y, f a = .ok y := by
  induction l generalizing ys with
  | nil => exact fun a ha => absurd ha List.not_mem_nil
  | cons a l ih =>
    rw [List.mapM_cons] at h
    obtain ⟨y, hhead, h⟩ := bind_eq_ok.1 h
    obtain ⟨ys', htail, -⟩ := bind_eq_ok.1 h
    intro b hb
    rcases List.mem_cons.1 hb with rfl | hb
    · exact ⟨y, hhead⟩
    · exact ih htail b hb

theorem forall_of_mapM_eq_some {read : α → Option β} {P : β → Prop} {ys : List β}
    (h : l.mapM read = some ys) (hread : ∀ a b, read a = some b → P b) : ∀ b ∈ ys, P b := by
  induction l generalizing ys with
  | nil =>
    cases h
    exact fun b hb => absurd hb List.not_mem_nil
  | cons a l ih =>
    rw [List.mapM_cons] at h
    obtain ⟨y, hhead, h⟩ := Option.bind_eq_some_iff.1 h
    obtain ⟨ys', htail, h⟩ := Option.bind_eq_some_iff.1 h
    cases h
    exact List.forall_mem_cons.2 ⟨hread a y hhead, ih htail⟩

/-- A walk in which each step fails or not whatever was before comes to its end when no step
fails. -/
theorem exists_foldlM_eq_ok {step : β → α → Except ε β} {P : α → Prop}
    (hstep : ∀ b a, (∃ b', step b a = .ok b') ↔ P a) (b : β) :
    (∃ b', l.foldlM step b = .ok b') ↔ ∀ a ∈ l, P a := by
  induction l generalizing b with
  | nil => exact ⟨fun _ => List.forall_mem_nil _, fun _ => ⟨b, rfl⟩⟩
  | cons a l ih =>
    rw [List.forall_mem_cons, ← hstep b a, List.foldlM_cons]
    constructor
    · rintro ⟨b', h⟩
      obtain ⟨b'', hfirst, hrest⟩ := bind_eq_ok.1 h
      exact ⟨⟨b'', hfirst⟩, (ih b'').1 ⟨b', hrest⟩⟩
    · rintro ⟨⟨b'', hfirst⟩, hrest⟩
      obtain ⟨b', hb'⟩ := (ih b'').2 hrest
      exact ⟨b', bind_eq_ok.2 ⟨b'', hfirst, hb'⟩⟩

end Faults

/-! ### Objects and their kinds -/

/-- The kind of an object. -/
def ClusterObject.kind : ClusterObject → ObjectKind
  | .workload k _ => .workload k
  | .namespaceObject _ => .namespaceObject
  | .node _ => .node
  | .pod _ => .pod

namespace Snapshot

/-- The objects of a kind in a snapshot. -/
def listOf (s : Snapshot) : ObjectKind → List ClusterObject
  | .workload k => (s.workloads k).map (.workload k)
  | .namespaceObject => s.namespaces.map .namespaceObject
  | .node => s.nodes.map .node
  | .pod => s.pods.map .pod

/-- Adding an object changes the list of its kind and no other. -/
theorem listOf_add (s : Snapshot) (o : ClusterObject) (kind : ObjectKind) :
    (s.add o).listOf kind = s.listOf kind ++ if o.kind = kind then [o] else [] := by
  cases o with
  | workload k w =>
    cases kind with
    | workload j =>
      by_cases hkind : j = k
      · subst hkind
        cases j <;> simp [add, listOf, workloads, withWorkloads, ClusterObject.kind]
      · cases j <;> simp_all [add, listOf, workloads, withWorkloads, ClusterObject.kind, eq_comm]
    | _ => simp [add, listOf, withWorkloads, ClusterObject.kind]
  | _ => cases kind <;> simp [add, listOf, workloads, ClusterObject.kind]

theorem listOf_addAll (s : Snapshot) (l : List ClusterObject) (kind : ObjectKind) :
    (s.addAll l).listOf kind = s.listOf kind ++ l.filter fun o => o.kind = kind := by
  induction l generalizing s with
  | nil => simp [addAll]
  | cons o l ih =>
    have hstep : (s.addAll (o :: l)).listOf kind = ((s.add o).addAll l).listOf kind := rfl
    rw [hstep, ih, listOf_add, List.append_assoc, List.filter_cons]
    by_cases hkind : o.kind = kind <;> simp [hkind]

/-- What a snapshot says about itself. -/
def origin (s : Snapshot) : String × String × SourceType :=
  (s.serverVersion, s.sourceName, s.sourceType)

theorem origin_addAll (s : Snapshot) (l : List ClusterObject) : (s.addAll l).origin = s.origin := by
  induction l generalizing s with
  | nil => rfl
  | cons o l ih => exact (ih (s.add o)).trans (by cases o <;> rfl)

/-- A snapshot is what it says about itself and its lists. -/
theorem eq_of_listOf_eq {s t : Snapshot} (horigin : s.origin = t.origin)
    (hlists : ∀ kind, s.listOf kind = t.listOf kind) : s = t := by
  have hworkloads : ∀ k, s.workloads k = t.workloads k := fun k =>
    List.map_injective_iff.2 (fun _ _ h => (ClusterObject.workload.inj h).2) (hlists (.workload k))
  have hnamespaces : s.namespaces = t.namespaces :=
    List.map_injective_iff.2 (fun _ _ => ClusterObject.namespaceObject.inj)
      (hlists .namespaceObject)
  have hnodes : s.nodes = t.nodes :=
    List.map_injective_iff.2 (fun _ _ => ClusterObject.node.inj) (hlists .node)
  have hpods : s.pods = t.pods :=
    List.map_injective_iff.2 (fun _ _ => ClusterObject.pod.inj) (hlists .pod)
  obtain ⟨hversion, hname, htype⟩ := by simpa only [origin, Prod.mk.injEq] using horigin
  cases s
  cases t
  simp only [mk.injEq]
  exact ⟨hversion, hname, htype, hnodes, hworkloads .deployment, hworkloads .statefulSet,
    hworkloads .daemonSet, hworkloads .job, hworkloads .cronJob,
    hworkloads .replicationController, hnamespaces, hpods⟩

end Snapshot

/-! ### Answers of a server -/

namespace ClusterSource

variable {ask : String → Except ApiFault Reply}

theorem mem_kinds (kind : ObjectKind) : kind ∈ kinds := by
  cases kind with
  | workload k => cases k <;> decide
  | _ => decide

/-- A server answers at a path: with a status that is no failure and a document of which this is
read. -/
def Answers {α : Type} (ask : String → Except ApiFault Reply) (path : String)
    (wanted : Json.Selection) (read : Json → Option α) (a : α) : Prop :=
  ∃ status body x, ask path = .ok (.response status body) ∧ isFailure status = false ∧
    Json.select? wanted body = some x ∧ read x = some a

/-- The version that a server answers with. -/
def GivesVersion (ask : String → Except ApiFault Reply) (version : String) : Prop :=
  Answers ask versionPath (Kubernetes.selectionOf versionShape) version? version

/-- The objects of a kind that a server answers with. -/
def Lists (ask : String → Except ApiFault Reply) (kind : ObjectKind) (l : List ClusterObject) :
    Prop :=
  Answers ask (listPath kind) (listSelection kind) (items? kind) l

theorem decoded_eq_ok {α : Type} {wanted : Json.Selection} {read : Json → Option α} {reply : Reply}
    {a : α} :
    decoded wanted read reply = .ok a ↔
      ∃ status body x, reply = .response status body ∧ isFailure status = false ∧
        Json.select? wanted body = some x ∧ read x = some a := by
  cases reply with
  | unreachable => simp [decoded, document]
  | response status body =>
    cases hstatus : isFailure status with
    | true => simp_all [decoded, document]
    | false =>
      cases hselect : Json.select? wanted body with
      | none => simp_all [decoded, document]
      | some x => cases hread : read x <;> simp_all [decoded, document]

theorem bind_decoded_eq_ok {α : Type} {path : String} {wanted : Json.Selection}
    {read : Json → Option α} {a : α} :
    (ask path).bind (decoded wanted read) = .ok a ↔ Answers ask path wanted read a := by
  simp only [bind_eq_ok, decoded_eq_ok, Answers]
  constructor
  · rintro ⟨reply, hask, status, body, x, rfl, h⟩
    exact ⟨status, body, x, hask, h⟩
  · rintro ⟨status, body, x, hask, h⟩
    exact ⟨_, hask, status, body, x, rfl, h⟩

theorem versionOf_eq_ok {version : String} :
    versionOf ask = .ok version ↔ GivesVersion ask version :=
  bind_decoded_eq_ok

theorem objectsOf_eq_ok {kind : ObjectKind} {l : List ClusterObject} :
    objectsOf ask kind = .ok l ↔ Lists ask kind l :=
  bind_decoded_eq_ok

theorem kind_of_object? {lenient : Bool} {kind : ObjectKind} {v : Yaml.Value} {o : ClusterObject}
    (h : Kubernetes.object? lenient kind v = some o) : o.kind = kind := by
  rw [Kubernetes.object?] at h
  split at h
  · rw [← Option.some.inj h]
    cases kind <;> rfl
  · cases h

theorem kind_of_items? {kind : ObjectKind} {x : Json} {l : List ClusterObject}
    (h : items? kind x = some l) : ∀ o ∈ l, o.kind = kind := by
  obtain ⟨fields, -, h⟩ := Option.bind_eq_some_iff.1 h
  split at h
  · split at h
    · simp only at h
      split at h
      -- no items at all are read as no objects
      · exact forall_of_mapM_eq_some h fun _ _ => kind_of_object?
      · obtain ⟨items, -, h⟩ := Option.bind_eq_some_iff.1 h
        exact forall_of_mapM_eq_some h fun _ _ => kind_of_object?
    · cases h
  · cases h

/-- **A list holds objects of the kind that was asked for.** -/
theorem kind_of_lists {kind : ObjectKind} {l : List ClusterObject} (h : Lists ask kind l) :
    ∀ o ∈ l, o.kind = kind := by
  obtain ⟨-, -, x, -, -, -, hread⟩ := h
  exact kind_of_items? hread

end ClusterSource

/-! ### Snapshots of servers -/

namespace Snapshot

open ClusterSource

variable {ask : String → Except ApiFault Reply} {sourceName version : String}
  {lists : ObjectKind → List ClusterObject} {s : Snapshot}

/-- The snapshot of these lists. -/
def ofLists (sourceName version : String) (lists : ObjectKind → List ClusterObject) : Snapshot :=
  ({ serverVersion := version, sourceName, sourceType := .cluster } : Snapshot).addAll
    (kinds.flatMap lists)

theorem origin_ofLists :
    (ofLists sourceName version lists).origin = (version, sourceName, .cluster) :=
  origin_addAll _ _

/-- **Each list stays as it is** when every object in it is of its kind. -/
theorem listOf_ofLists (h : ∀ kind, ∀ o ∈ lists kind, o.kind = kind) (kind : ObjectKind) :
    (ofLists sourceName version lists).listOf kind = lists kind := by
  have hfilter : ∀ k, (lists k).filter (fun o => o.kind = kind)
      = if k = kind then lists k else [] := by
    intro k
    split
    next hk => exact List.filter_eq_self.2 fun o ho => by simp [h k o ho, hk]
    next hk => exact List.filter_eq_nil_iff.2 fun o ho => by simp [h k o ho, hk]
  have hempty :
      listOf { serverVersion := version, sourceName, sourceType := .cluster } kind = [] := by
    cases kind with
    | workload k => cases k <;> rfl
    | _ => rfl
  rw [ofLists, listOf_addAll, hempty, List.nil_append, List.filter_flatMap]
  simp only [hfilter]
  -- of all lists that are put together one is of the kind, because no kind is asked for twice
  cases kind with
  | workload k => cases k <;> simp [kinds, WorkloadKind.all]
  | _ => simp [kinds, WorkloadKind.all]

/-- A snapshot holds what a server lists: its version and, kind by kind, its objects. -/
structure IsListing (ask : String → Except ApiFault Reply) (sourceName : String) (s : Snapshot) :
    Prop where
  /-- It is a snapshot of this server. -/
  origin : s.sourceName = sourceName ∧ s.sourceType = .cluster
  /-- The version is the one that the server gives. -/
  version : GivesVersion ask s.serverVersion
  /-- The lists are those of the server. -/
  lists : ∀ kind, Lists ask kind (s.listOf kind)

/-- A snapshot is made of the lists that came, whatever order they came in. -/
theorem ofServer_eq_ok_iff_ofLists :
    ofServer ask sourceName = .ok s ↔
      ∃ version lists, versionOf ask = .ok version ∧
        (∀ kind, objectsOf ask kind = .ok (lists kind)) ∧
        ofLists sourceName version lists = s := by
  constructor
  · intro h
    obtain ⟨version, hversion, h⟩ := bind_eq_ok.1 h
    obtain ⟨ls, hls, h⟩ := bind_eq_ok.1 h
    choose lists hlists using fun kind => exists_eq_ok_of_mapM hls kind (mem_kinds kind)
    -- the lists came in the order of their kinds, so each is the one of its kind
    have hmap : ls = kinds.map lists :=
      Except.ok.inj (hls.symm.trans (mapM_eq_ok_of_forall fun kind _ => hlists kind))
    refine ⟨version, lists, hversion, hlists, ?_⟩
    rw [ofLists, List.flatMap_def, ← hmap]
    exact Except.ok.inj h
  · rintro ⟨version, lists, hversion, hlists, rfl⟩
    refine bind_eq_ok.2 ⟨version, hversion, bind_eq_ok.2 ⟨kinds.map lists, ?_, ?_⟩⟩
    · exact mapM_eq_ok_of_forall fun kind _ => hlists kind
    · rw [← List.flatMap_def]
      rfl

/-- **There is a snapshot of a server exactly when all ten requests are answered**, and it holds
exactly what was listed. -/
theorem ofServer_eq_ok : ofServer ask sourceName = .ok s ↔ s.IsListing ask sourceName := by
  rw [ofServer_eq_ok_iff_ofLists]
  constructor
  · rintro ⟨version, lists, hversion, hlists, rfl⟩
    have horigin : (ofLists sourceName version lists).origin = _ := origin_ofLists
    obtain ⟨hserver, hname, htype⟩ := by simpa only [Snapshot.origin, Prod.mk.injEq] using horigin
    refine ⟨⟨hname, htype⟩, ?_, fun kind => ?_⟩
    · rw [hserver]
      exact versionOf_eq_ok.1 hversion
    · rw [listOf_ofLists fun k => kind_of_lists (objectsOf_eq_ok.1 (hlists k))]
      exact objectsOf_eq_ok.1 (hlists kind)
  · intro h
    refine ⟨s.serverVersion, s.listOf, versionOf_eq_ok.2 h.version,
      fun kind => objectsOf_eq_ok.2 (h.lists kind), eq_of_listOf_eq ?_ fun kind => ?_⟩
    · rw [origin_ofLists]
      simp only [Snapshot.origin, h.origin]
    · exact listOf_ofLists (fun k => kind_of_lists (h.lists k)) kind

/-- Nothing but the answers is needed for a snapshot that holds what they list. -/
theorem exists_isListing :
    (∃ s : Snapshot, s.IsListing ask sourceName) ↔
      (∃ version, GivesVersion ask version) ∧ ∀ kind, ∃ l, Lists ask kind l := by
  constructor
  · rintro ⟨s, h⟩
    exact ⟨⟨_, h.version⟩, fun kind => ⟨_, h.lists kind⟩⟩
  · rintro ⟨⟨version, hversion⟩, hlists⟩
    choose lists hlists using hlists
    exact ⟨ofLists sourceName version lists, ofServer_eq_ok.1 (ofServer_eq_ok_iff_ofLists.2
      ⟨version, lists, versionOf_eq_ok.2 hversion, fun kind => objectsOf_eq_ok.2 (hlists kind),
        rfl⟩)⟩

/-! ### Snapshots of files -/

/-- A file is a manifest: it can be read as text, and the text has no fault. -/
def IsManifest (t : FileTree) (file : String) : Prop :=
  ∃ text, t.readText file = .ok text ∧ (Manifest.objectsOf text).2 = true

theorem exists_addFile (t : FileTree) (s : Snapshot) (file : String) :
    (∃ s', addFile t s file = .ok s') ↔ IsManifest t file := by
  rw [IsManifest]
  cases htext : t.readText file with
  | error e => simp [addFile, htext]
  | ok text =>
    cases hfine : (Manifest.objectsOf text).2 <;> simp [addFile, addManifest, htext, hfine]

/-- **There is a snapshot of a path exactly when all its files are manifests.** -/
theorem exists_ofPath {t : FileTree} {path : String} :
    (∃ s, ofPath t path = .ok s) ↔ ∀ file ∈ manifestPaths t path, IsManifest t file :=
  exists_foldlM_eq_ok (exists_addFile t) _

end Snapshot

end ClusterAudit
