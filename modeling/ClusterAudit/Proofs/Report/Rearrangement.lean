import ClusterAudit.Proofs.Report.Derived
import ClusterAudit.Proofs.Report.Identity

/-!
# The same objects in another order

A cluster lists its objects in no particular order, and neither does a pod its containers. This file
says what a report makes of that: the order of its checks, and of the names in its summaries, and
nothing else.

Two snapshots are the same up to order if every list of the one is a list of the other with its
objects in another order, and the containers of each in another order
(`ClusterAudit.Snapshot.Rearranges`). What a rule says at a place depends on the settings of the
pod, among which its containers are, so it has to be seen that no rule looks at them
(`ClusterAudit.Rule.ignoresOrder_of_mem_all`). Then the places of both snapshots are the same up to
order, with the same checks at each, and a report of the same checks is the same up to order
(`ClusterAudit.Report.SameUpToOrder`), since what is derived from checks counts them.
-/

namespace ClusterAudit

/-! ### Lists up to order -/

/-- A list is another one after its members were changed in a certain way and then put in another
order. -/
def Rearranged {α : Type} (change : α → α → Prop) (l l' : List α) : Prop :=
  ∃ m, List.Forall₂ change l m ∧ m.Perm l'

namespace Rearranged

variable {α β : Type} {change : α → α → Prop} {l l' : List α}

theorem length_eq (h : Rearranged change l l') : l.length = l'.length := by
  obtain ⟨m, hchange, hperm⟩ := h
  exact hchange.length_eq.trans hperm.length_eq

/-- **What is made of the members is the same up to order**, if it is so for a member that is
changed. -/
theorem flatMap_perm (h : Rearranged change l l') {f : α → List β}
    (hf : ∀ a b, change a b → (f a).Perm (f b)) : (l.flatMap f).Perm (l'.flatMap f) := by
  obtain ⟨m, hchange, hperm⟩ := h
  refine List.Perm.trans ?_ (hperm.flatMap_right f)
  clear hperm
  induction hchange with
  | nil => exact .nil
  | cons hab _ ih => exact (hf _ _ hab).append ih

end Rearranged

/-! ### Snapshots up to order -/

/-- The settings of a pod with its containers in another order, those that run first and the others
each among themselves. -/
structure PodSpec.Rearranges (p p' : PodSpec) : Prop where
  /-- The containers that run first. -/
  initContainers : p.initContainers.Perm p'.initContainers
  /-- The others. -/
  containers : p.containers.Perm p'.containers
  /-- Nothing else is different. -/
  rest : p' = { p with initContainers := p'.initContainers, containers := p'.containers }

/-- An object that makes pods, with their containers in another order. -/
structure Workload.Rearranges (w w' : Workload) : Prop where
  /-- Its names and labels are the same. -/
  metadata : w.metadata = w'.metadata
  /-- The containers are in another order, if it makes pods at all. -/
  podSpec : Option.Rel PodSpec.Rearranges w.podSpec w'.podSpec

/-- A pod with its containers in another order. -/
structure Pod.Rearranges (p p' : Pod) : Prop where
  /-- Its names and labels are the same. -/
  metadata : p.metadata = p'.metadata
  /-- The containers are in another order. -/
  spec : Option.Rel PodSpec.Rearranges p.spec p'.spec

/-- **A snapshot with its objects in another order**, list by list, and the containers of each in
another order. -/
structure Snapshot.Rearranges (s s' : Snapshot) : Prop where
  /-- The controllers of each kind. -/
  workloads : ∀ kind, Rearranged Workload.Rearranges (s.workloads kind) (s'.workloads kind)
  /-- The machines. -/
  nodes : s.nodes.Perm s'.nodes
  /-- The namespaces. -/
  namespaces : s.namespaces.Perm s'.namespaces
  /-- The pods. -/
  pods : Rearranged Pod.Rearranges s.pods s'.pods
  /-- It is of the same source. -/
  sourceName : s.sourceName = s'.sourceName
  /-- The source is of the same type. -/
  sourceType : s.sourceType = s'.sourceType
  /-- The version is the same. -/
  serverVersion : s.serverVersion = s'.serverVersion

/-! ### Rules do not look at the order -/

namespace Rule

/-- A rule says the same about a place whatever containers the pod has. -/
def IgnoresOrder (r : Rule) : Prop :=
  ∀ (p : Place) (init containers : List Container),
    r.holdsAt { p with spec := { p.spec with initContainers := init, containers := containers } } =
      r.holdsAt p

/-- **No rule of the catalogue looks at the containers of a pod** beside the one it is about. -/
theorem ignoresOrder_of_mem_all {r : Rule} (hr : r ∈ all) : r.IgnoresOrder := by
  have hall : ∀ r ∈ all, r.IgnoresOrder := by
    simp only [all, podRules, accessRules, resourceRules, operationRules, List.cons_append,
      List.nil_append, List.forall_mem_cons]
    refine ⟨?_, ?_, ?_, ?_, ?_, ?_, ?_, ?_, ?_, ?_, ?_, ?_, ?_, ?_, ?_, ?_, ?_⟩
    case refine_17 => exact fun r hr => absurd hr List.not_mem_nil
    all_goals
      rintro ⟨kind, namespaceName, controller, spec, scope⟩ init containers
      cases scope <;> rfl
  exact hall r hr

end Rule

namespace Place

variable {p p' : Place}

/-- A place of a pod whose containers are in another order. -/
structure Rearranges (p p' : Place) : Prop where
  /-- The settings of the pod are the same up to order. -/
  spec : p.spec.Rearranges p'.spec
  /-- All else is the same. -/
  rest : p' = { p with spec := p'.spec }

theorem Rearranges.holdsAt_eq (h : p.Rearranges p') {r : Rule} (hr : r ∈ Rule.all) :
    r.holdsAt p' = r.holdsAt p := by
  have hplace : p' = { p with spec := { p.spec with
      initContainers := p'.spec.initContainers, containers := p'.spec.containers } } := by
    rw [← h.spec.rest]
    exact h.rest
  rw [hplace]
  exact Rule.ignoresOrder_of_mem_all hr p _ _

/-- At a place whose pod has its containers in another order every rule makes the same check. -/
theorem Rearranges.expected?_eq (h : p.Rearranges p') (c : Configuration) {r : Rule}
    (hr : r ∈ Rule.all) : c.expected? p' r = c.expected? p r := by
  have hcheck : ∀ a, p'.ruleCheck r a = p.ruleCheck r a := fun a => by
    rw [ruleCheck, ruleCheck, h.holdsAt_eq hr, h.rest]
    rfl
  have hcontributes : ∀ a, c.Contributes p' r a ↔ c.Contributes p r a := fun a => by
    rw [h.rest]
    constructor
    · rintro ⟨hconfigured, hactive, hexempt, hconcerns⟩
      exact ⟨hconfigured, hactive, hexempt, hconcerns⟩
    · rintro ⟨hconfigured, hactive, hexempt, hconcerns⟩
      exact ⟨hconfigured, hactive, hexempt, hconcerns⟩
  rw [Configuration.expected?, Configuration.expected?]
  simp only [hcheck, hcontributes]

/-- The check of an image does not depend on the settings of the pod at all. -/
theorem Rearranges.imageCheck?_eq (h : p.Rearranges p') (t : Table ScanSummary) :
    p'.imageCheck? t = p.imageCheck? t := by
  rw [h.rest]
  rfl

end Place

/-! ### Places up to order -/

/-- A controller whose pods have their containers in another order. -/
structure Controller.Rearranges (k k' : Controller) : Prop where
  /-- The containers are in another order, if it makes pods at all. -/
  podSpec : Option.Rel PodSpec.Rearranges k.podSpec k'.podSpec
  /-- All else is the same. -/
  rest : k' = { k with podSpec := k'.podSpec }

theorem Workload.Rearranges.controller {w w' : Workload} (h : w.Rearranges w')
    (kind : WorkloadKind) :
    (Controller.ofWorkload kind w).Rearranges (Controller.ofWorkload kind w') where
  podSpec := h.podSpec
  rest := by
    rw [Controller.ofWorkload, Controller.ofWorkload, h.metadata]

variable {β : Type} {g : Place → List β}

/-- **What is made of the places of a controller is the same up to order.** -/
theorem Controller.Rearranges.flatMap_places {k k' : Controller} (h : k.Rearranges k')
    (hg : ∀ p p' : Place, p.Rearranges p' → g p' = g p) :
    (k.places.flatMap g).Perm (k'.places.flatMap g) := by
  obtain ⟨hspec, hrest⟩ := h
  obtain ⟨kind, namespaceName, name, podSpec⟩ := k
  obtain ⟨kind', namespaceName', name', podSpec'⟩ := k'
  simp only [Controller.mk.injEq, and_true] at hrest
  obtain ⟨rfl, rfl, rfl⟩ := hrest
  cases hspec with
  | none => exact .nil
  | some hsome =>
    rename_i spec spec'
    have hscopes : (Controller.scopes ⟨kind', namespaceName', name', some spec⟩).Perm
        (Controller.scopes ⟨kind', namespaceName', name', some spec'⟩) :=
      (((hsome.initContainers.map _).cons _).append (hsome.containers.map _))
    have hsame : ∀ scope, g ⟨kind', namespaceName', name', spec', scope⟩ =
        g ⟨kind', namespaceName', name', spec, scope⟩ := fun scope => hg _ _ ⟨hsome, rfl⟩
    simp only [Controller.places, List.flatMap_map, hsame]
    exact hscopes.flatMap_right _

/-- **What is made of the places of a snapshot is the same up to order.** -/
theorem Snapshot.Rearranges.flatMap_places {s s' : Snapshot} (h : s.Rearranges s')
    (hg : ∀ p p' : Place, p.Rearranges p' → g p' = g p) :
    (s.places.flatMap g).Perm (s'.places.flatMap g) := by
  rw [places_eq_flatMap, places_eq_flatMap, List.flatMap_assoc, List.flatMap_assoc, controllers,
    controllers, List.flatMap_assoc, List.flatMap_assoc]
  -- kind after kind, and within a kind object after object
  refine List.Perm.flatMap_left _ fun kind _ => ?_
  rw [List.flatMap_map, List.flatMap_map]
  exact (h.workloads kind).flatMap_perm fun w w' hw => (hw.controller kind).flatMap_places hg

/-! ### Reports up to order -/

/-- **Two reports are the same up to order**: they hold the same checks, as often, and all that is
derived is the same, but for the order of the summaries. -/
structure Report.SameUpToOrder (r r' : Report) : Prop where
  /-- The checks are in another order. -/
  checks : r.checks.Perm r'.checks
  /-- The counts of all checks are the same. -/
  overallSummary : r.overallSummary = r'.overallSummary
  /-- What is said about the cluster is the same, its score and its grade included. -/
  cluster : r.cluster = r'.cluster
  /-- The summaries of groups are in another order. -/
  groupSummary : r.groupSummary.Perm r'.groupSummary
  /-- The summaries of namespaces are in another order. -/
  namespaceSummary : r.namespaceSummary.Perm r'.namespaceSummary
  /-- A group has the same summary in both, or in none. -/
  groupOf : ∀ name, r.groupSummary.find? (fun e => e.name = name) =
    r'.groupSummary.find? fun e => e.name = name
  /-- A namespace has the same summary in both, or in none. -/
  namespaceOf : ∀ name, r.namespaceSummary.find? (fun e => e.name = name) =
    r'.namespaceSummary.find? fun e => e.name = name

namespace Audit

variable {s s' : Snapshot}

theorem checks_report_of_rearranges (h : s.Rearranges s') (c : Configuration)
    (scans : Option (Table ScanSummary)) :
    (report c s scans).checks.Perm (report c s' scans).checks := by
  have hrules : (s.controllers.flatMap (ruleChecks c)).Perm
      (s'.controllers.flatMap (ruleChecks c)) := by
    rw [flatMap_ruleChecks, flatMap_ruleChecks]
    exact h.flatMap_places fun p p' hp =>
      List.filterMap_congr fun r hr => hp.expected?_eq c hr
  have himages : (s.controllers.flatMap (imageChecks scans)).Perm
      (s'.controllers.flatMap (imageChecks scans)) := by
    cases scans with
    | none => rw [flatMap_imageChecks_none, flatMap_imageChecks_none]
    | some t =>
      rw [flatMap_imageChecks, flatMap_imageChecks, List.filterMap_eq_flatMap_toList,
        List.filterMap_eq_flatMap_toList]
      exact h.flatMap_places fun p p' hp => congrArg Option.toList (hp.imageCheck?_eq t)
  rw [checks_report_eq, checks_report_eq]
  exact hrules.append himages

/-- **The order of objects does not matter.** A snapshot whose objects are in another order in each
list, and the containers in another order in each pod, has the same report up to order. -/
theorem report_of_rearranges (h : s.Rearranges s') (c : Configuration)
    (scans : Option (Table ScanSummary)) :
    (report c s scans).SameUpToOrder (report c s' scans) := by
  have hchecks := checks_report_of_rearranges h c scans
  have hverdicts := Tally.ofVerdicts_perm (hchecks.map Check.verdict)
  have hread : (Report.ofSnapshot s c.displayName).cluster =
      (Report.ofSnapshot s' c.displayName).cluster := by
    simp only [Report.ofSnapshot, h.sourceName, h.serverVersion, h.nodes.length_eq,
      h.namespaces.length_eq, h.pods.length_eq]
  have hscore : (report c s scans).cluster.score = (report c s' scans).cluster.score := by
    rw [score_report_eq, score_report_eq, hverdicts]
  constructor
  case checks => exact hchecks
  case overallSummary =>
    rw [overallSummary_report_eq, overallSummary_report_eq, hverdicts]
  case cluster =>
    rw [cluster_report_eq c s, cluster_report_eq c s', hread, grade_report_eq, grade_report_eq,
      hscore]
  case groupSummary =>
    rw [groupSummary_report_eq, groupSummary_report_eq]
    exact ResultSummary.byKey_perm _ hchecks
  case namespaceSummary =>
    rw [namespaceSummary_report_eq, namespaceSummary_report_eq]
    exact ResultSummary.byKey_perm _ hchecks
  case groupOf =>
    rw [groupSummary_report_eq, groupSummary_report_eq]
    exact ResultSummary.find?_byKey_of_perm _ hchecks
  case namespaceOf =>
    rw [namespaceSummary_report_eq, namespaceSummary_report_eq]
    exact ResultSummary.find?_byKey_of_perm _ hchecks

/-- Two deployments change places, and the containers of one of them do: the summaries of the
namespaces change places as well. -/
theorem report_of_rearranges_swapped :
    let c : Configuration := { images := .insert .empty "tagNotSpecified" .error }
    let app : Container := { name := "app", image := some "nginx" }
    let proxy : Container := { name := "proxy", image := some "envoy:1.30" }
    let shop (l : List Container) : Workload :=
      ⟨{ name := some "web", namespaceName := some "shop" }, some { containers := l }⟩
    let lab : Workload :=
      ⟨{ name := some "web", namespaceName := some "lab" }, some { containers := [proxy] }⟩
    let s : Snapshot := { deployments := [shop [app, proxy], lab] }
    let s' : Snapshot := { deployments := [lab, shop [proxy, app]] }
    s.Rearranges s' ∧ (report c s none).SameUpToOrder (report c s' none) ∧
    ((report c s none).namespaceSummary.map ResultSummary.name) = ["shop", "lab"] ∧
    ((report c s' none).namespaceSummary.map ResultSummary.name) = ["lab", "shop"] := by
  intro c app proxy shop lab s s'
  have hshop : (shop [app, proxy]).Rearranges (shop [proxy, app]) :=
    ⟨rfl, .some ⟨.nil, .swap proxy app [], rfl⟩⟩
  have hlab : lab.Rearranges lab := ⟨rfl, .some ⟨.nil, .refl _, rfl⟩⟩
  have h : s.Rearranges s' := by
    refine ⟨fun kind => ?_, .nil, .nil, ⟨[], .nil, .nil⟩, rfl, rfl, rfl⟩
    cases kind with
    | deployment => exact ⟨_, .cons hshop (.cons hlab .nil), .swap _ _ []⟩
    | _ => exact ⟨[], .nil, .nil⟩
  exact ⟨h, report_of_rearranges h c none, by decide, by decide⟩

end Audit

end ClusterAudit
