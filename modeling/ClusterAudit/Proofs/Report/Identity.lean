import ClusterAudit.Proofs.Report.Independence
import ClusterAudit.Proofs.Report.Namespaces

/-!
# What tells the checks of a report apart

Whoever compares two reports, or looks up what became of a finding, has two texts to go by: the name
of a check and the path of what it is about. This file shows that the two together belong to one
check, and the path to one place, in every snapshot whose names a cluster would accept
(`ClusterAudit.Snapshot.IsAddressable`).

There are three things to tell apart.

* **Places by their paths.** A path is cut at its slashes, so names without slashes can be read back
  from it; what follows the name of the controller is the pod or a container, and a container may
  even have a slash in its name, because nothing follows it
  (`ClusterAudit.Controller.path_append_inj`).
* **Rules at a place by their names**, since no name occurs twice in the catalogue and every rule of
  it is asked once.
* **Images from rules**, since their checks are named with another word in front, whatever the image
  is called.
-/

namespace ClusterAudit

/-! ### Reading a path back -/

namespace WorkloadKind

theorem pathSegment_injective {j k : WorkloadKind} (h : j.pathSegment = k.pathSegment) : j = k := by
  revert h
  cases j <;> cases k <;> decide

theorem slash_notMem_pathSegment (k : WorkloadKind) : '/' ∉ k.pathSegment.toList := by
  cases k <;> decide

end WorkloadKind

namespace Controller

/-- What controllers are told apart by: their kind, the namespace they live in and their name. -/
def key (k : Controller) : WorkloadKind × String × String :=
  (k.kind, k.namespaceName, k.name)

/-- Neither the namespace nor the name has a slash in it. -/
def HasPlainNames (k : Controller) : Prop :=
  '/' ∉ k.namespaceName.toList ∧ '/' ∉ k.name.toList

instance (k : Controller) : Decidable k.HasPlainNames :=
  inferInstanceAs (Decidable (_ ∧ _))

/-- **A path tells the controller and what follows it.** -/
theorem path_append_inj {k k' : Controller} (hk : k.HasPlainNames) (hk' : k'.HasPlainNames)
    {tail tail' : String} (h : k.path ++ "/" ++ tail = k'.path ++ "/" ++ tail') :
    k.key = k'.key ∧ tail = tail' := by
  have hlist : ∀ (j : Controller) (t : String), (j.path ++ "/" ++ t).toList =
      '/' :: 'n' :: 's' :: '/' :: (j.namespaceName.toList ++
        '/' :: (j.kind.pathSegment.toList ++ '/' :: (j.name.toList ++ '/' :: t.toList))) := by
    intro j t
    simp [path]
  have hcut := congrArg String.toList h
  simp only [hlist, List.cons.injEq, true_and] at hcut
  -- the path is read from its front, slash by slash
  obtain ⟨hns, hcut⟩ := Text.append_cons_inj hk.1 hk'.1 hcut
  obtain ⟨hkind, hcut⟩ := Text.append_cons_inj k.kind.slash_notMem_pathSegment
    k'.kind.slash_notMem_pathSegment hcut
  obtain ⟨hname, htail⟩ := Text.append_cons_inj hk.2 hk'.2 hcut
  have hkinds : k.kind = k'.kind :=
    WorkloadKind.pathSegment_injective (String.toList_injective hkind)
  refine ⟨?_, String.toList_injective htail⟩
  rw [key, key, hkinds, String.toList_injective hns, String.toList_injective hname]

end Controller

/-! ### Places of controllers -/

/-- What a path says of a controller behind its name. -/
def Scope.tail : Scope → String
  | .pod => "pods"
  | .container c _ => "containers/" ++ c.name

namespace Controller

/-- What of a controller checks may be about: its pod and then its containers; nothing without
settings of pods. -/
def scopes (k : Controller) : List Scope :=
  match k.podSpec with
  | none => []
  | some spec =>
    .pod :: (spec.initContainers.map fun c => .container c true)
      ++ spec.containers.map fun c => .container c false

/-- The places of a controller. -/
def places (k : Controller) : List Place :=
  match k.podSpec with
  | none => []
  | some spec => k.scopes.map fun scope => ⟨k.kind, k.namespaceName, k.name, spec, scope⟩

theorem resource_of_mem_places {k : Controller} {p : Place} (h : p ∈ k.places) :
    p.resource = k.path ++ "/" ++ p.scope.tail := by
  rw [places] at h
  split at h
  · cases h
  · obtain ⟨scope, -, rfl⟩ := List.mem_map.1 h
    refine String.toList_injective ?_
    cases scope with
    | pod => simp [Place.resource, Scope.tail, path]
    | container c isInit => simp [Place.resource, Scope.tail, path]

theorem map_scope_places (k : Controller) : k.places.map Place.scope = k.scopes := by
  cases h : k.podSpec with
  | none => simp [places, scopes, h]
  | some spec => simp [places, h, Function.comp_def]

theorem nodup_map_tail_scopes {k : Controller} (h : (k.containers.map Container.name).Nodup) :
    (k.scopes.map Scope.tail).Nodup := by
  cases hspec : k.podSpec with
  | none => simp [scopes, hspec]
  | some spec =>
    have htails : k.scopes.map Scope.tail =
        "pods" :: (k.containers.map Container.name).map ("containers/" ++ ·) := by
      simp [scopes, containers, hspec, PodSpec.allContainers, Scope.tail, Function.comp_def]
    rw [htails, List.nodup_cons]
    constructor
    -- the pod is told from every container by the first letter
    · intro hmem
      obtain ⟨name, -, heq⟩ := List.mem_map.1 hmem
      have hfirst := congrArg (fun t => t.toList.head?) heq
      simp at hfirst
    · exact h.map fun name name' heq => (String.append_right_inj _).1 heq

/-- **A controller has one path for each of its places**, if its containers have names of their
own. -/
theorem nodup_resource_places {k : Controller} (h : (k.containers.map Container.name).Nodup) :
    (k.places.map Place.resource).Nodup := by
  have hpaths : k.places.map Place.resource =
      (k.scopes.map Scope.tail).map (k.path ++ "/" ++ ·) := by
    rw [← map_scope_places, List.map_map, List.map_map]
    exact List.map_congr_left fun p hp => resource_of_mem_places hp
  rw [hpaths]
  exact (nodup_map_tail_scopes h).map fun t t' heq => (String.append_right_inj _).1 heq

end Controller

/-! ### Places of snapshots -/

namespace Snapshot

/-- **The places of a snapshot are those of its controllers.** -/
theorem places_eq_flatMap (s : Snapshot) : s.places = s.controllers.flatMap Controller.places := by
  have hone : ∀ (kind : WorkloadKind) (w : Workload),
      w.places kind = (Controller.ofWorkload kind w).places := by
    intro kind w
    cases hw : w.podSpec with
    | none => simp [Workload.places, Controller.places, Controller.ofWorkload, hw]
    | some spec =>
      simp [Workload.places, Controller.places, Controller.scopes, Controller.ofWorkload,
        Workload.place, hw, Function.comp_def]
  rw [flatMap_controllers, places]
  simp only [← hone]

/-- **The names of a snapshot are such as a cluster accepts**: no slash in those of namespaces and
controllers, controllers that are told apart by kind, namespace and name, and containers that are
told apart by name within their pod, those that run first and the others together. -/
structure IsAddressable (s : Snapshot) : Prop where
  /-- No name has a slash in it. -/
  plain : ∀ k ∈ s.controllers, k.HasPlainNames
  /-- No two controllers share their kind, namespace and name. -/
  controllers : (s.controllers.map Controller.key).Nodup
  /-- No two containers of a controller share their name. -/
  containers : ∀ k ∈ s.controllers, (k.containers.map Container.name).Nodup

/-- **Every place has a path of its own.** -/
theorem IsAddressable.nodup_resource {s : Snapshot} (h : s.IsAddressable) :
    (s.places.map Place.resource).Nodup := by
  rw [places_eq_flatMap, List.map_flatMap, List.nodup_flatMap]
  refine ⟨fun k hk => Controller.nodup_resource_places (h.containers k hk), ?_⟩
  refine (List.pairwise_map.1 h.controllers).imp_of_mem fun {k k'} hk hk' hne => ?_
  intro resource hr hr'
  obtain ⟨p, hp, rfl⟩ := List.mem_map.1 hr
  obtain ⟨p', hp', heq⟩ := List.mem_map.1 hr'
  rw [Controller.resource_of_mem_places hp, Controller.resource_of_mem_places hp'] at heq
  exact hne (Controller.path_append_inj (h.plain k hk) (h.plain k' hk') heq.symm).1

end Snapshot

/-! ### Checks -/

namespace Check

/-- What checks are told apart by: their name and their path. -/
def key (d : Check) : String × String :=
  (d.id, d.resource)

end Check

namespace Audit

variable {c : Configuration} {s : Snapshot} {scans : Option (Table ScanSummary)}

/-- At a place every rule makes one check at most, and its name is not that of another. -/
theorem nodup_id_expected (c : Configuration) (p : Place) :
    ((Rule.all.filterMap (c.expected? p)).map Check.id).Nodup := by
  exact nodup_ruleName_all.sublist
    (sublist_map_filterMap (fun _ _ hd => (eq_of_expected? hd).1) Rule.all)

theorem nodup_key_ruleChecks (h : (s.places.map Place.resource).Nodup) (c : Configuration) :
    ((s.controllers.flatMap (ruleChecks c)).map Check.key).Nodup := by
  rw [flatMap_ruleChecks, List.map_flatMap, List.nodup_flatMap]
  constructor
  · intro p hp
    refine List.Nodup.of_map Prod.fst ?_
    rw [List.map_map]
    exact nodup_id_expected c p
  · refine (List.pairwise_map.1 h).imp fun {p p'} hne => ?_
    intro key hkey hkey'
    obtain ⟨d, hd, rfl⟩ := List.mem_map.1 hkey
    obtain ⟨d', hd', heq⟩ := List.mem_map.1 hkey'
    obtain ⟨r, -, hd⟩ := List.mem_filterMap.1 hd
    obtain ⟨r', -, hd'⟩ := List.mem_filterMap.1 hd'
    refine hne ?_
    rw [← (eq_of_expected? hd).2, ← (eq_of_expected? hd').2]
    exact (congrArg Prod.snd heq).symm

theorem nodup_key_imageChecks (h : (s.places.map Place.resource).Nodup)
    (scans : Option (Table ScanSummary)) :
    ((s.controllers.flatMap (imageChecks scans)).map Check.key).Nodup := by
  cases scans with
  | none =>
    rw [flatMap_imageChecks_none]
    exact .nil
  | some t =>
    have hpaths : ((s.places.filterMap (Place.imageCheck? t)).map Check.resource).Nodup :=
      h.sublist (sublist_map_filterMap (fun _ _ hd => (eq_of_imageCheck? hd).2) s.places)
    rw [flatMap_imageChecks]
    refine List.Nodup.of_map Prod.snd ?_
    rw [List.map_map]
    exact hpaths

/-- The checks of rules and those of images have no name in common. -/
theorem disjoint_key (c : Configuration) (s : Snapshot) (scans : Option (Table ScanSummary)) :
    List.Disjoint ((s.controllers.flatMap (ruleChecks c)).map Check.key)
      ((s.controllers.flatMap (imageChecks scans)).map Check.key) := by
  intro key hkey hkey'
  rw [← map_check_placedRuleChecks, List.map_map] at hkey
  rw [← map_check_placedImageChecks, List.map_map] at hkey'
  obtain ⟨e, he, rfl⟩ := List.mem_map.1 hkey
  obtain ⟨e', he', heq⟩ := List.mem_map.1 hkey'
  obtain ⟨-, r, -, -, hd⟩ := mem_placedRuleChecks.1 he
  obtain ⟨-, -, t, -, hd'⟩ := mem_placedImageChecks.1 he'
  obtain ⟨⟨image, himage⟩, -⟩ := eq_of_imageCheck? hd'
  have hid : e'.check.id = e.check.id := congrArg Prod.fst heq
  rw [himage, (eq_of_expected? hd).1] at hid
  exact ruleName_ne_imageName r.id image hid.symm

/-- **Name and path belong to one check, and a path to one place.** In a snapshot whose names a
cluster would accept no two checks of a report have the same name and the same path, and checks with
the same path are about the same place: the pod of one controller or one of its containers. -/
theorem checks_report_identified (h : s.IsAddressable) :
    ((report c s scans).checks.map fun d => (d.id, d.resource)).Nodup ∧
    (report c s scans).checks = (placedChecks c s scans).map PlacedCheck.check ∧
    (∀ e ∈ placedChecks c s scans,
      ∃ k ∈ s.controllers, e.place ∈ k.places ∧ e.check.resource = e.place.resource) ∧
    ∀ e ∈ placedChecks c s scans, ∀ e' ∈ placedChecks c s scans,
      e.check.resource = e'.check.resource → e.place = e'.place := by
  have hplaces := h.nodup_resource
  refine ⟨?_, (map_check_placedChecks c s scans).symm, fun e he => ?_, fun e he e' he' heq => ?_⟩
  · have hkeys : ((report c s scans).checks.map Check.key).Nodup := by
      rw [checks_report_eq, List.map_append]
      exact (nodup_key_ruleChecks hplaces c).append (nodup_key_imageChecks hplaces scans)
        (disjoint_key c s scans)
    exact hkeys
  · obtain ⟨hplace, hresource⟩ := resource_of_mem_placedChecks he
    rw [Snapshot.places_eq_flatMap, List.mem_flatMap] at hplace
    obtain ⟨k, hk, hplace⟩ := hplace
    exact ⟨k, hk, hplace, hresource⟩
  · obtain ⟨hplace, hresource⟩ := resource_of_mem_placedChecks he
    obtain ⟨hplace', hresource'⟩ := resource_of_mem_placedChecks he'
    rw [hresource, hresource'] at heq
    exact List.inj_on_of_nodup_map hplaces hplace hplace' heq

/-- Controllers of one name in two namespaces and of two kinds, each with a container called so too:
the checks are still told apart. -/
theorem checks_report_identified_web :
    let c : Configuration := {
      security := (Table.insert .empty "hostIPCSet" .error).insert "runAsPrivileged" .error }
    let pod : PodSpec := {
      initContainers := [{ name := "pods", image := some "busybox" }]
      containers := [{ name := "web", image := some "busybox" }] }
    let s : Snapshot := {
      deployments := [⟨{ name := some "web" }, some pod⟩,
        ⟨{ name := some "web", namespaceName := some "shop" }, some pod⟩]
      jobs := [⟨{ name := some "web", namespaceName := some "shop" }, some pod⟩] }
    s.IsAddressable ∧ (report c s (some .empty)).checks.length = 15 ∧
    ((report c s (some .empty)).checks.map fun d => (d.id, d.resource)).Nodup := by
  intro c pod s
  have h : s.IsAddressable := ⟨by decide, by decide, by decide⟩
  exact ⟨h, by decide, (checks_report_identified h).1⟩

end Audit

end ClusterAudit
