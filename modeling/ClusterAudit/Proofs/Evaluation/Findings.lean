import ClusterAudit.Proofs.Configuration.Active
import ClusterAudit.Proofs.Report.Independence

/-!
# Which rules an evaluation reports

Whether a rule counts for a container is decided in two ways. A configuration can be asked for one
rule and one container at a time (`ClusterAudit.Configuration.isActive`); an evaluation makes rules
active once, divides them into those about pods and the others, and leaves out at every container
those that are exempt there. This file shows that the second way comes to the same as the first: the
findings about a pod or a container name those rules that are about it and for which the
configuration says yes, each of them once.

A finding keeps the name of its rule, and so does the check that is made of it, so the findings that
bear a name are counted where the checks are (`ClusterAudit.Configuration.countP_findings`).
-/

namespace ClusterAudit

namespace Rule

/-- **Whether a rule applies to a container**: it is not about pods, and if it is only about
containers that keep running, then the container neither runs first nor belongs to a job, on a
schedule or not. -/
def AppliesTo (r : Rule) (s : ContainerSite) : Prop :=
  r.isPodRule = false ∧
    (r.isLongRunning = true → s.isInit = false ∧ s.kind ≠ .job ∧ s.kind ≠ .cronJob)

instance (r : Rule) (s : ContainerSite) : Decidable (r.AppliesTo s) :=
  inferInstanceAs (Decidable (_ ∧ (_ → _)))

/-- **Findings report a rule in one case**: in this case and in no other there is one that bears the
name of the rule, and then there is no second one. -/
structure ReportedIff (r : Rule) (l : List Finding) (p : Prop) : Prop where
  /-- There is a finding about the rule in this case and in no other. -/
  iff : (∃ f ∈ l, f.id = r.id) ↔ p
  /-- There is no second one. -/
  once : p → l.countP (fun f => f.id = r.id) = 1

theorem ReportedIff.of_countP {r : Rule} {l : List Finding} {α : Type} {o : Option α} {p : Prop}
    (hcount : l.countP (fun f => f.id = r.id) = o.toList.length) (hp : o.isSome = true ↔ p) :
    r.ReportedIff l p where
  iff := by
    have hpos : (∃ f ∈ l, f.id = r.id) ↔ 0 < l.countP fun f => f.id = r.id := by
      simp [List.countP_pos_iff]
    rw [hpos, hcount, ← hp]
    cases o <;> simp
  once := by
    rw [hcount, ← hp]
    cases o <;> simp

end Rule

namespace Configuration

variable {r : Rule}

/-- **At a place a check of a rule is expected** where the configuration says that the rule counts
and the rule is about the place. -/
theorem isSome_expected?_iff (c : Configuration) (p : Place) (r : Rule) :
    (c.expected? p r).isSome = true ↔
      c.isActive r.group r.id p.controller p.containerName? = true ∧ r.Concerns p := by
  rw [expected?_eq, isActive_eq]
  cases hr : c.activate? r with
  | none => simp
  | some a =>
    obtain ⟨rfl, -⟩ := activate?_eq_some.1 hr
    by_cases happlies : c.applies a p.controller p.containerName? = true
    · by_cases hconcerns : a.rule.Concerns p <;> simp [happlies, Rule.answer?_subject, hconcerns]
    · simp [happlies]

/-- Findings that bear the name of a rule are as many as checks of it are expected. -/
theorem countP_findings (hr : r ∈ Rule.all) (c : Configuration) (p : Place) (scope : Rule → Bool)
    (hscope : ∀ r : Rule, r.Concerns p → scope r = true) :
    (c.findings (c.activeRules.filter fun a => scope a.rule) p.subject p.controller
        p.containerName?).countP (fun f => f.id = r.id) = (c.expected? p r).toList.length := by
  rw [← Audit.filter_expected hr, ← c.map_ofFinding_findings p scope hscope,
    ← List.countP_eq_length_filter, List.countP_map]
  refine List.countP_congr fun f _ => ?_
  simp [Check.ofFinding, Check.policyMark]

theorem reportedIff_findings (hr : r ∈ Rule.all) (c : Configuration) (p : Place)
    (scope : Rule → Bool) (hscope : ∀ r : Rule, r.Concerns p → scope r = true) :
    r.ReportedIff
      (c.findings (c.activeRules.filter fun a => scope a.rule) p.subject p.controller
        p.containerName?)
      (c.isActive r.group r.id p.controller p.containerName? = true ∧ r.Concerns p) :=
  .of_countP (countP_findings hr c p scope hscope) (isSome_expected?_iff c p r)

/-- In which namespace a container runs makes no difference to what is found about it. -/
theorem reportedIff_evaluateContainer (hr : r ∈ Rule.all) (c : Configuration) (controller : String)
    (site : ContainerSite) :
    r.ReportedIff (c.evaluateContainer controller site).findings
      (c.isActive r.group r.id controller (some site.container.name) = true ∧ r.AppliesTo site) :=
  reportedIff_findings hr c
    ⟨site.kind, "", controller, site.pod, .container site.container site.isInit⟩
    (fun r => !r.isPodRule) fun r h => by simp [h.1]

/-- **An evaluation reports what the configuration says counts.** A configuration says of a rule
that it counts for a container of a controller, or for its pod, exactly when the rule is among the
active ones and not exempt there. The findings about a pod name the rules about pods for which this
is so, and those about each of its containers the rules that apply to the container and for which
this is so; every one of them is named once. -/
theorem reported_evaluatePod (hr : r ∈ Rule.all) (c : Configuration) (controller : String) :
    (∀ container, c.isActive r.group r.id controller container = true ↔
      ∃ a ∈ c.activeRules, a.rule = r ∧ c.applies a controller container = true) ∧
    ∀ (kind : WorkloadKind) (spec : PodSpec),
      r.ReportedIff (c.evaluatePod kind controller spec).findings
        (c.isActive r.group r.id controller none = true ∧ r.isPodRule = true) ∧
      List.Forall₂
        (fun site result => result.name = site.container.name ∧ result.isInit = site.isInit ∧
          r.ReportedIff result.findings
            (c.isActive r.group r.id controller (some site.container.name) = true ∧
              r.AppliesTo site))
        (spec.sites kind) (c.evaluatePod kind controller spec).containers := by
  refine ⟨isActive_iff hr controller, fun kind spec => ⟨?_, ?_⟩⟩
  · exact reportedIff_findings hr c ⟨kind, "", controller, spec, .pod⟩ Rule.isPodRule fun r h => h
  · rw [evaluatePod, List.forall₂_map_right_iff, List.forall₂_same]
    exact fun site _ => ⟨rfl, rfl, reportedIff_evaluateContainer hr c controller site⟩

/-- The rule about liveness probes says nothing about the container that runs first, is exempt for
the sidecar, and is reported once for the container in between. -/
theorem reported_evaluatePod_liveness :
    let r : Rule := Rule.all[15]
    let c : Configuration := {
      healthChecks := (Table.insert .empty "livenessProbeMissing" .warning).insert
        "readinessProbeMissing" .error
      exemptions := [{ containerNames := ["istio-"], rules := ["livenessProbeMissing"] }] }
    let spec : PodSpec := {
      initContainers := [{ name := "setup" }]
      containers := [{ name := "app" }, { name := "istio-proxy" }] }
    r.id = "livenessProbeMissing" ∧
    (∃ a ∈ c.activeRules, a.rule = r ∧ c.applies a "web" (some "app") = true) ∧
    ∃ setup app sidecar : ContainerResult,
      (c.evaluatePod .deployment "web" spec).containers = [setup, app, sidecar] ∧
      (¬∃ f ∈ setup.findings, f.id = r.id) ∧
      app.findings.countP (fun f => f.id = r.id) = 1 ∧
      ¬∃ f ∈ sidecar.findings, f.id = r.id := by
  intro r c spec
  have hr : r ∈ Rule.all := List.getElem_mem _
  obtain ⟨hactive, hreports⟩ := reported_evaluatePod hr c "web"
  refine ⟨rfl, (hactive (some "app")).1 (by decide), _, _, _, rfl, ?_⟩
  obtain _ | ⟨⟨-, -, hsetup⟩, _ | ⟨⟨-, -, happ⟩, _ | ⟨⟨-, -, hsidecar⟩, -⟩⟩⟩ :=
    (hreports .deployment spec).2
  exact ⟨fun h => absurd (hsetup.iff.1 h) (by decide), happ.once (by decide),
    fun h => absurd (hsidecar.iff.1 h) (by decide)⟩

end Configuration

end ClusterAudit
