import ClusterAudit.Proofs.Report.Origin
import Mathlib.Data.List.Basic

/-!
# Which checks a report holds

A report comes out of several walks: rules are made active, controllers are listed in one form,
their pods are evaluated, findings become checks, and images are looked up in a walk of their own.
This file describes the checks of a report without any of these walks, and shows that it is the
same list.

The description knows **places**. A place is the pod of a controller or one of its containers, and
`ClusterAudit.Snapshot.places` lists them all, kind after kind, the pod of a controller in front of
its containers and the containers that run first in front of the others. At a place a rule
contributes or it does not (`ClusterAudit.Configuration.Contributes`), and a rule that contributes
makes one check. So the checks are those of place after place, and at every place those of rule
after rule; behind them stand the checks of images, place after place again
(`ClusterAudit.Audit.expectedChecks`).

Rules and places meet in `ClusterAudit.Rule.Concerns`: rules about pods concern pods, the others
concern containers, and those about containers that keep running neither concern a container that
runs first nor one of a job, on a schedule or not.
-/

namespace ClusterAudit

/-! ### Places -/

/-- What of a controller a check is about. -/
inductive Scope where
  /-- Its pod as a whole. -/
  | pod
  /-- A container, which runs before the others or not. -/
  | container (c : Container) (isInit : Bool)

/-- A place that checks are about. -/
structure Place where
  /-- The kind of the controller. -/
  kind : WorkloadKind
  /-- The namespace that the controller lives in. -/
  namespaceName : String
  /-- The name of the controller. -/
  controller : String
  /-- The settings of its pods. -/
  spec : PodSpec
  /-- What of it the place is. -/
  scope : Scope

namespace Place

/-- The name of the container at a place. -/
def containerName? (p : Place) : Option String :=
  match p.scope with
  | .pod => none
  | .container c _ => some c.name

/-- The path of a place. -/
def resource (p : Place) : String :=
  "/ns/" ++ p.namespaceName ++ "/" ++ p.kind.pathSegment ++ "/" ++ p.controller ++
    match p.scope with
    | .pod => "/pods"
    | .container c _ => "/containers/" ++ c.name

end Place

namespace Workload

/-- A place of an object that makes pods with these settings. -/
def place (kind : WorkloadKind) (w : Workload) (spec : PodSpec) (scope : Scope) : Place where
  kind := kind
  namespaceName := w.metadata.effectiveNamespace
  controller := w.metadata.displayName
  spec := spec
  scope := scope

/-- **The places of an object that makes pods**: none without settings of pods, and otherwise its
pod, the containers that run first and the others. -/
def places (kind : WorkloadKind) (w : Workload) : List Place :=
  match w.podSpec with
  | none => []
  | some spec =>
    w.place kind spec .pod
      :: (spec.initContainers.map fun c => w.place kind spec (.container c true))
        ++ spec.containers.map fun c => w.place kind spec (.container c false)

end Workload

/-- **The places of a snapshot**, kind after kind and in the order of the lists. -/
def Snapshot.places (s : Snapshot) : List Place :=
  s.deployments.flatMap (Workload.places .deployment)
    ++ s.statefulSets.flatMap (Workload.places .statefulSet)
    ++ s.daemonSets.flatMap (Workload.places .daemonSet)
    ++ s.jobs.flatMap (Workload.places .job)
    ++ s.cronJobs.flatMap (Workload.places .cronJob)
    ++ s.replicationControllers.flatMap (Workload.places .replicationController)

/-! ### Rules at places -/

namespace Rule

/-- Whether a rule is about a place. -/
def Concerns (r : Rule) (p : Place) : Prop :=
  match p.scope with
  | .pod => r.isPodRule = true
  | .container _ isInit => r.isPodRule = false ∧
      (r.isLongRunning = true → isInit = false ∧ p.kind ≠ .job ∧ p.kind ≠ .cronJob)

instance (r : Rule) (p : Place) : Decidable (r.Concerns p) :=
  match p with
  | ⟨_, _, _, _, .pod⟩ => inferInstanceAs (Decidable (_ = true))
  | ⟨_, _, _, _, .container _ _⟩ => inferInstanceAs (Decidable (_ ∧ (_ → _)))

/-- Whether a place passes a rule. -/
def holdsAt (r : Rule) (p : Place) : Bool :=
  match r.test, p.scope with
  | .pod passes, .pod => passes p.spec
  | .container passes, .container c isInit => passes ⟨c, p.spec, p.kind, isInit⟩
  | .longRunning passes, .container c isInit => passes ⟨c, p.spec, p.kind, isInit⟩
  | _, _ => false

end Rule

namespace Configuration

/-- **A rule contributes at a place** with an action: this is the action configured for it in its
own group and not to ignore it, no exemption covers it there, unless exemptions do not count, and
it is about the place. -/
structure Contributes (c : Configuration) (p : Place) (r : Rule) (a : Action) : Prop where
  /-- The action stands in the table of the rule's group. -/
  configured : (c.rules r.group).get? r.id = some a
  /-- The rule is not ignored. -/
  active : a ≠ .ignore
  /-- The rule is not exempt. -/
  notExempt : c.disallowExemptions = true ∨
    ∀ e ∈ c.exemptions, e.covers r.id p.controller p.containerName? = false
  /-- The rule is about the place. -/
  concerns : r.Concerns p

instance (c : Configuration) (p : Place) (r : Rule) (a : Action) : Decidable (c.Contributes p r a) :=
  decidable_of_iff
    ((c.rules r.group).get? r.id = some a ∧ a ≠ .ignore ∧
      (c.disallowExemptions = true ∨
        ∀ e ∈ c.exemptions, e.covers r.id p.controller p.containerName? = false) ∧
      r.Concerns p)
    ⟨fun ⟨h1, h2, h3, h4⟩ => ⟨h1, h2, h3, h4⟩, fun ⟨h1, h2, h3, h4⟩ => ⟨h1, h2, h3, h4⟩⟩

end Configuration

namespace Place

/-- The check of a rule at a place: it succeeds when the rule holds there, and is otherwise what the
action of the rule says. -/
def ruleCheck (p : Place) (r : Rule) (a : Action) : Check where
  id := "polaris." ++ r.id
  group := "polaris." ++ r.group.category
  category := p.kind.pathSegment
  resource := p.resource
  verdict :=
    if r.holdsAt p then .success
    else if a = .error then .error
    else .warning

/-- The check of the image at a place: a container that names one. -/
def imageCheck? (scans : Table ScanSummary) (p : Place) : Option Check :=
  match p.scope with
  | .pod => none
  | .container c _ =>
    match c.image with
    | none => none
    | some image =>
      if image = "" then none
      else some {
        id := "image-scan." ++ image
        group := "image-scan"
        category := p.kind.pathSegment
        resource := p.resource
        verdict := ((scans.get? image).map ScanSummary.verdict).getD .noData }

end Place

/-- The check of a rule at a place, if the rule contributes there. -/
def Configuration.expected? (c : Configuration) (p : Place) (r : Rule) : Option Check :=
  match (c.rules r.group).get? r.id with
  | none => none
  | some a => if c.Contributes p r a then some (p.ruleCheck r a) else none

/-- **The checks that a report should hold**: of place after place those of rule after rule, and
behind them, if there are scans, those of the images. -/
def Audit.expectedChecks (c : Configuration) (s : Snapshot)
    (scans : Option (Table ScanSummary)) : List Check :=
  (s.places.flatMap fun p => Rule.all.filterMap (c.expected? p))
    ++ match scans with
      | none => []
      | some t => s.places.filterMap (Place.imageCheck? t)

/-! ### One place -/

/-- What rules are asked about at a place. -/
def Place.subject (p : Place) : RuleSubject :=
  match p.scope with
  | .pod => .pod p.spec
  | .container c isInit => .container ⟨c, p.spec, p.kind, isInit⟩

/-- **A rule answers at the places it concerns** and at no others. -/
theorem Rule.answer?_subject (r : Rule) (p : Place) :
    r.answer? p.subject = if r.Concerns p then some (r.holdsAt p) else none := by
  obtain ⟨kind, namespaceName, controller, spec, scope⟩ := p
  cases scope with
  | pod =>
    cases ht : r.test <;> simp [answer?, Place.subject, Concerns, isPodRule, holdsAt, ht]
  | container c isInit =>
    cases ht : r.test with
    | pod passes => simp [answer?, Place.subject, Concerns, isPodRule, ht]
    | container passes =>
      simp [answer?, Place.subject, Concerns, isPodRule, isLongRunning, holdsAt, ht]
    | longRunning passes =>
      have hkeeps : ContainerSite.keepsRunning ⟨c, spec, kind, isInit⟩ = true ↔
          isInit = false ∧ kind ≠ .job ∧ kind ≠ .cronJob := by
        cases kind <;> simp [ContainerSite.keepsRunning, WorkloadKind.runsToCompletion]
      simp [answer?, Place.subject, Concerns, isPodRule, isLongRunning, holdsAt, ht, hkeeps]

/-- The check of what an active rule finds is the check of the rule at the place. -/
theorem Place.ofFinding_ofAnswer (p : Place) (r : Rule) (a : Action) :
    Check.ofFinding p.kind p.resource (Finding.ofAnswer ⟨r, a⟩ (r.holdsAt p)) = p.ruleCheck r a := by
  rw [Check.ofFinding, ruleCheck]
  cases r.holdsAt p with
  | true => rfl
  | false => cases a <;> rfl

namespace Configuration

/-- At a place, to ask an active rule that is not exempt is to look for a contribution. -/
theorem expected?_eq (c : Configuration) (p : Place) (r : Rule) :
    c.expected? p r = (c.activate? r).bind fun a =>
      if c.applies a p.controller p.containerName? then
        (a.rule.answer? p.subject).map fun passed =>
          Check.ofFinding p.kind p.resource (Finding.ofAnswer a passed)
      else none := by
  have hexempt : c.isExempt r.id p.controller p.containerName? = false ↔
      c.disallowExemptions = true ∨
        ∀ e ∈ c.exemptions, e.covers r.id p.controller p.containerName? = false := by
    cases hd : c.disallowExemptions <;> simp [isExempt, hd]
  rw [expected?, activate?, action?]
  cases ha : (c.rules r.group).get? r.id with
  | none => rfl
  | some a =>
    by_cases hactive : a = .ignore
    · have hnot : ¬ c.Contributes p r a := fun h => h.active hactive
      rw [hactive] at hnot ⊢
      simp [Action.isActive, hnot]
    · have hisActive : a.isActive = true := by
        cases a with
        | ignore => exact absurd rfl hactive
        | warning => rfl
        | error => rfl
      simp only [hisActive, ↓reduceIte, Option.bind_some, applies, Rule.answer?_subject]
      by_cases happlies : c.isExempt r.id p.controller p.containerName? = false
      · by_cases hconcerns : r.Concerns p
        · have hall : c.Contributes p r a := ⟨ha, hactive, hexempt.1 happlies, hconcerns⟩
          simp [hall, happlies, hconcerns, Place.ofFinding_ofAnswer]
        · have hnot : ¬ c.Contributes p r a := fun h => hconcerns h.concerns
          simp [hnot, hconcerns]
      · have hnot : ¬ c.Contributes p r a := fun h => happlies (hexempt.2 h.notExempt)
        simp [hnot, happlies]

/-- **What is found at a place**, once it is known that only rules of a certain scope concern it. -/
theorem map_ofFinding_findings (c : Configuration) (p : Place) (scope : Rule → Bool)
    (hscope : ∀ r : Rule, r.Concerns p → scope r = true) :
    (c.findings (c.activeRules.filter fun a => scope a.rule) p.subject p.controller
        p.containerName?).map (Check.ofFinding p.kind p.resource)
      = Rule.all.filterMap (c.expected? p) := by
  rw [findings, activeRules, List.filter_filterMap, List.filter_filterMap, List.filterMap_filterMap,
    List.map_filterMap]
  refine List.filterMap_congr fun r _ => ?_
  rw [expected?_eq]
  cases hr : c.activate? r with
  | none => rfl
  | some a =>
    rw [Option.bind_some]
    cases hs : scope a.rule with
    | true =>
      by_cases happlies : c.applies a p.controller p.containerName? = true <;>
        simp [Option.filter_some, hs, happlies, Function.comp_def]
    | false =>
      -- a rule of the wrong scope has no answer here, so it does not matter that it is left out
      have hnot : ¬ a.rule.Concerns p := fun h => by simp [hscope a.rule h] at hs
      simp [Option.filter_some, hs, Rule.answer?_subject, hnot]

end Configuration

/-! ### One controller -/

namespace Workload

theorem places_eq_nil {kind : WorkloadKind} {w : Workload} (h : w.podSpec = none) :
    w.places kind = [] := by
  rw [places, h]

/-- Behind the pod stand the containers, each with everything around it. -/
theorem places_eq_cons {kind : WorkloadKind} {w : Workload} {spec : PodSpec}
    (h : w.podSpec = some spec) :
    w.places kind = w.place kind spec .pod :: (spec.sites kind).map fun site =>
      w.place kind spec (.container site.container site.isInit) := by
  simp [places, h, PodSpec.sites, Function.comp_def]

theorem resource_container (kind : WorkloadKind) (w : Workload) (spec : PodSpec)
    (c : Container) (isInit : Bool) :
    (w.place kind spec (.container c isInit)).resource
      = (Controller.ofWorkload kind w).containerPath c.name :=
  String.append_assoc.symm

theorem subject_container {kind : WorkloadKind} {spec : PodSpec} {site : ContainerSite}
    (h : site ∈ spec.sites kind) (w : Workload) :
    (w.place kind spec (.container site.container site.isInit)).subject = .container site := by
  rcases List.mem_append.1 h with h | h
  · obtain ⟨c, -, rfl⟩ := List.mem_map.1 h
    rfl
  · obtain ⟨c, -, rfl⟩ := List.mem_map.1 h
    rfl

end Workload

/-- **The checks of a controller are those of its places.** -/
theorem Check.ofResult_evaluateController (c : Configuration) (kind : WorkloadKind) (w : Workload) :
    ofResult (c.evaluateController (.ofWorkload kind w))
      = (w.places kind).flatMap fun p => Rule.all.filterMap (c.expected? p) := by
  cases hw : w.podSpec with
  | none =>
    have hspec : (Controller.ofWorkload kind w).podSpec = none := hw
    rw [Workload.places_eq_nil hw, Configuration.evaluateController, hspec]
    rfl
  | some spec =>
    have hspec : (Controller.ofWorkload kind w).podSpec = some spec := hw
    have hpod := c.map_ofFinding_findings (w.place kind spec .pod) Rule.isPodRule fun r h => h
    have hcontainer : ∀ site ∈ spec.sites kind,
        (c.evaluateContainer w.metadata.displayName site).findings.map
            (ofFinding kind ((Controller.ofWorkload kind w).containerPath site.container.name))
          = Rule.all.filterMap
              (c.expected? (w.place kind spec (.container site.container site.isInit))) := by
      intro site hsite
      rw [← Workload.resource_container kind w spec site.container site.isInit,
        ← c.map_ofFinding_findings _ (fun r => !r.isPodRule) fun r h => by simp [h.1],
        Workload.subject_container hsite]
      rfl
    rw [Workload.places_eq_cons hw, List.flatMap_cons, List.flatMap_map, ← hpod,
      ← List.flatMap_congr hcontainer, Configuration.evaluateController, hspec]
    simp only [ofResult, Configuration.evaluatePod, List.flatMap_map]
    rfl

/-- The checks of the images of a controller are those of its places. -/
theorem Check.ofImages_ofWorkload (scans : Table ScanSummary) (kind : WorkloadKind) (w : Workload) :
    ofImages scans (.ofWorkload kind w) = (w.places kind).filterMap (Place.imageCheck? scans) := by
  have hone : ∀ (spec : PodSpec) (c : Container) (isInit : Bool),
      (c.image?.map (ofImage scans (.ofWorkload kind w) c))
        = Place.imageCheck? scans (w.place kind spec (.container c isInit)) := by
    intro spec c isInit
    have hscope : (w.place kind spec (.container c isInit)).scope = .container c isInit := rfl
    simp only [Container.image?, Place.imageCheck?, hscope, Workload.resource_container]
    cases hi : c.image with
    | none => rfl
    | some image =>
      by_cases hempty : image = ""
      · simp [hempty]
      · have hverdict : (ofImage scans (.ofWorkload kind w) c image).verdict
            = ((scans.get? image).map ScanSummary.verdict).getD .noData := by
          rw [ofImage]
          cases scans.get? image <;> rfl
        have hnonempty : (!image.isEmpty) = true := by simp [hempty]
        simp only [Option.filter_some, hnonempty, hempty, ↓reduceIte, ← hverdict]
        rfl
  cases hw : w.podSpec with
  | none =>
    have hcontainers : (Controller.ofWorkload kind w).containers = [] := by
      simp [Controller.containers, Controller.ofWorkload, hw]
    rw [ofImages, hcontainers, Workload.places_eq_nil hw]
    rfl
  | some spec =>
    have hcontainers : (Controller.ofWorkload kind w).containers
        = spec.initContainers ++ spec.containers := by
      simp [Controller.containers, Controller.ofWorkload, hw, PodSpec.allContainers]
    have hpod : Place.imageCheck? scans (w.place kind spec .pod) = none := rfl
    rw [ofImages, hcontainers, Workload.places, hw]
    simp only [List.filterMap_cons, hpod, List.cons_append, List.filterMap_append,
      List.filterMap_map, Function.comp_def, ← hone]

/-! ### The whole report -/

theorem Snapshot.flatMap_controllers {α : Type} (s : Snapshot) (f : Controller → List α) :
    s.controllers.flatMap f =
      s.deployments.flatMap (fun w => f (.ofWorkload .deployment w))
        ++ s.statefulSets.flatMap (fun w => f (.ofWorkload .statefulSet w))
        ++ s.daemonSets.flatMap (fun w => f (.ofWorkload .daemonSet w))
        ++ s.jobs.flatMap (fun w => f (.ofWorkload .job w))
        ++ s.cronJobs.flatMap (fun w => f (.ofWorkload .cronJob w))
        ++ s.replicationControllers.flatMap
            (fun w => f (.ofWorkload .replicationController w)) := by
  simp [Snapshot.controllers, WorkloadKind.all, Snapshot.workloads, List.flatMap_append,
    List.flatMap_map]

theorem Audit.flatMap_ruleChecks (c : Configuration) (s : Snapshot) :
    s.controllers.flatMap (ruleChecks c) =
      s.places.flatMap fun p => Rule.all.filterMap (c.expected? p) := by
  rw [Snapshot.flatMap_controllers, Snapshot.places]
  simp only [ruleChecks, Check.ofResult_evaluateController, List.flatMap_append, List.flatMap_assoc]

theorem Audit.flatMap_imageChecks (s : Snapshot) (t : Table ScanSummary) :
    s.controllers.flatMap (imageChecks (some t)) = s.places.filterMap (Place.imageCheck? t) := by
  rw [Snapshot.flatMap_controllers, Snapshot.places]
  simp only [imageChecks, Check.ofImages_ofWorkload, List.filterMap_append, List.filterMap_flatMap]

/-- **The checks of a report are exactly those it should hold**, in the same order. -/
theorem Audit.checks_report (c : Configuration) (s : Snapshot)
    (scans : Option (Table ScanSummary)) :
    (report c s scans).checks = expectedChecks c s scans := by
  rw [checks_report_eq, flatMap_ruleChecks]
  cases scans with
  | none =>
    have hnone : s.controllers.flatMap (imageChecks none) = [] :=
      List.flatMap_eq_nil_iff.2 fun _ _ => rfl
    rw [hnone, expectedChecks]
  | some t => rw [flatMap_imageChecks, expectedChecks]

end ClusterAudit
