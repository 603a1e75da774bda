import ClusterAudit.Proofs.Report.Lookup
import ClusterAudit.Proofs.Report.Placed

/-!
# What exemptions take out of a report

An exemption takes checks out of a report and does nothing else. Which checks, this file says
without the functions that are asked during an evaluation: `ClusterAudit.Exemption.Suppresses` is
about a check that is there, with the place and the rule it is about. The check must be one of a
rule that the exemption lists, the name of the controller must begin as one of the exemption's does,
and so must the name of the container; where the exemption gives no names, all match. The pod as a
whole is no container, so an exemption for certain containers leaves its checks alone, and the
checks of images, which are about no rule, are left alone by all.

What is left of a report is what it would hold without exemptions, less the checks that one of them
suppresses (`ClusterAudit.Audit.placedChecks_eq_filter`). So it matters which exemptions there are
and not how they are listed, and more exemptions leave fewer checks.
-/

namespace ClusterAudit

/-! ### Exemptions and single checks -/

namespace Exemption

/-- **An exemption suppresses a check**: that of a rule that it lists, at a place whose controller
and container are among its own. -/
def Suppresses (x : Exemption) (e : PlacedCheck) : Prop :=
  ∃ r ∈ e.rule, r.id ∈ x.rules ∧
    (x.controllerNames = [] ∨
      ∃ start ∈ x.controllerNames, start.toList <+: e.place.controller.toList) ∧
    (x.containerNames = [] ∨
      ∃ name ∈ e.place.containerName?, ∃ start ∈ x.containerNames, start.toList <+: name.toList)

instance (x : Exemption) (e : PlacedCheck) : Decidable (x.Suppresses e) :=
  inferInstanceAs (Decidable (∃ r ∈ e.rule, _))

theorem matchesController_iff {x : Exemption} {controller : String} :
    x.matchesController controller = true ↔
      x.controllerNames = [] ∨
        ∃ start ∈ x.controllerNames, start.toList <+: controller.toList := by
  simp [matchesController, Text.beginsWith]

theorem matchesContainer_iff {x : Exemption} {container : Option String} :
    x.matchesContainer container = true ↔
      x.containerNames = [] ∨
        ∃ name ∈ container, ∃ start ∈ x.containerNames, start.toList <+: name.toList := by
  cases container with
  | none => simp [matchesContainer]
  | some name => simp [matchesContainer, Text.beginsWith]

/-- To suppress the check of a rule is to cover the rule at its place. -/
theorem suppresses_mk_some {x : Exemption} {p : Place} {r : Rule} {d : Check} :
    x.Suppresses ⟨p, some r, d⟩ ↔ x.covers r.id p.controller p.containerName? = true := by
  simp only [Suppresses, covers, Bool.and_eq_true, matchesController_iff, matchesContainer_iff,
    List.contains_iff_mem, Option.mem_def, Option.some.injEq, exists_eq_left']

/-- The checks of images are suppressed by no exemption. -/
theorem not_suppresses_image (x : Exemption) (p : Place) (d : Check) :
    ¬x.Suppresses ⟨p, none, d⟩ := by
  rintro ⟨r, hr, -⟩
  cases hr

end Exemption

/-! ### Exemptions and contributions -/

namespace Configuration

/-- The configuration with other exemptions. -/
def withExemptions (c : Configuration) (l : List Exemption) : Configuration :=
  { c with exemptions := l }

/-- A check that a configuration leaves out: exemptions count, and one of them suppresses it. -/
def LeavesOut (c : Configuration) (e : PlacedCheck) : Prop :=
  c.disallowExemptions = false ∧ ∃ x ∈ c.exemptions, x.Suppresses e

instance (c : Configuration) (e : PlacedCheck) : Decidable (c.LeavesOut e) :=
  inferInstanceAs (Decidable (_ ∧ _))

theorem not_leavesOut_image (c : Configuration) (p : Place) (d : Check) :
    ¬c.LeavesOut ⟨p, none, d⟩ := by
  rintro ⟨-, x, -, hx⟩
  exact x.not_suppresses_image p d hx

/-- **A rule contributes as it would without exemptions**, where none of them takes it out. -/
theorem contributes_iff {c : Configuration} {p : Place} {r : Rule} {a : Action} (d : Check) :
    c.Contributes p r a ↔
      ¬c.LeavesOut ⟨p, some r, d⟩ ∧ (c.withExemptions []).Contributes p r a := by
  have hexempt : ¬c.LeavesOut ⟨p, some r, d⟩ ↔
      c.disallowExemptions = true ∨
        ∀ x ∈ c.exemptions, x.covers r.id p.controller p.containerName? = false := by
    cases hd : c.disallowExemptions <;> simp [LeavesOut, hd, Exemption.suppresses_mk_some]
  rw [hexempt]
  constructor
  · intro h
    exact ⟨h.notExempt, h.configured, h.active, .inr fun x hx => absurd hx List.not_mem_nil,
      h.concerns⟩
  · rintro ⟨hnot, h⟩
    exact ⟨h.configured, h.active, hnot, h.concerns⟩

theorem expected?_eq_filter (c : Configuration) (p : Place) (r : Rule) :
    c.expected? p r =
      ((c.withExemptions []).expected? p r).filter fun d => ¬c.LeavesOut ⟨p, some r, d⟩ := by
  have hsame : (c.withExemptions []).rules r.group = c.rules r.group := rfl
  rw [expected?, expected?, hsame]
  cases (c.rules r.group).get? r.id with
  | none => rfl
  | some a =>
    -- the check is there without exemptions or not, and if it is, it is left out or not
    have hiff : c.Contributes p r a ↔ _ := contributes_iff (p.ruleCheck r a)
    by_cases hfree : (c.withExemptions []).Contributes p r a
    · by_cases hout : c.LeavesOut ⟨p, some r, p.ruleCheck r a⟩
      · have hnot : ¬c.Contributes p r a := fun h => (hiff.1 h).1 hout
        simp [hfree, hnot, hout, Option.filter_some]
      · have hall : c.Contributes p r a := hiff.2 ⟨hout, hfree⟩
        simp [hfree, hall, hout, Option.filter_some]
    · have hnot : ¬c.Contributes p r a := fun h => hfree (hiff.1 h).2
      simp [hfree, hnot]

end Configuration

/-! ### Exemptions and reports -/

namespace Audit

variable (c : Configuration) (s : Snapshot) (scans : Option (Table ScanSummary))

/-- **What is left of a report** is what it would hold without exemptions, less the checks that are
left out. -/
theorem placedChecks_eq_filter :
    placedChecks c s scans =
      (placedChecks (c.withExemptions []) s scans).filter fun e => ¬c.LeavesOut e := by
  have hrules : placedRuleChecks c s =
      (placedRuleChecks (c.withExemptions []) s).filter fun e => ¬c.LeavesOut e := by
    rw [placedRuleChecks, placedRuleChecks, List.filter_flatMap]
    refine List.flatMap_congr fun p _ => ?_
    rw [List.filter_filterMap]
    refine List.filterMap_congr fun r _ => ?_
    rw [c.expected?_eq_filter]
    cases (c.withExemptions []).expected? p r with
    | none => rfl
    | some d => simp only [Option.filter_some, Option.map_some]; split <;> rfl
  have himages : (placedImageChecks s scans).filter (fun e => ¬c.LeavesOut e) =
      placedImageChecks s scans := by
    refine List.filter_eq_self.2 fun e he => ?_
    obtain ⟨-, hrule, -⟩ := mem_placedImageChecks.1 he
    obtain ⟨p, rule, d⟩ := e
    subst hrule
    simpa using c.not_leavesOut_image p d
  rw [placedChecks, placedChecks, List.filter_append, ← hrules, himages]

theorem checks_report_eq_filter :
    (report c s scans).checks =
      ((placedChecks (c.withExemptions []) s scans).filter fun e => ¬c.LeavesOut e).map
        PlacedCheck.check := by
  rw [← map_check_placedChecks, placedChecks_eq_filter]

/-- **What leaves out more leaves less of a report**, and of that the same in the same order. -/
theorem sublist_checks_of_leavesOut {c c' : Configuration}
    (hfree : c.withExemptions [] = c'.withExemptions [])
    (h : ∀ e, c.LeavesOut e → c'.LeavesOut e) :
    List.Sublist (report c' s scans).checks (report c s scans).checks := by
  rw [checks_report_eq_filter c, checks_report_eq_filter c', hfree]
  refine (List.monotone_filter_right _ fun e he => ?_).map PlacedCheck.check
  simp only [decide_not, Bool.not_eq_true', decide_eq_false_iff_not] at he ⊢
  exact fun hout => he (h e hout)

/-- What leaves out the same leaves the same report. -/
theorem report_eq_of_leavesOut {c c' : Configuration}
    (hfree : c.withExemptions [] = c'.withExemptions [])
    (h : ∀ e, c.LeavesOut e ↔ c'.LeavesOut e) : report c s scans = report c' s scans := by
  have hname : c.displayName = c'.displayName := by
    change (c.withExemptions []).displayName = (c'.withExemptions []).displayName
    rw [hfree]
  refine report_eq_of_checks_eq hname ?_
  simp only [checks_report_eq_filter c, checks_report_eq_filter c', hfree, h]

/-- **Exemptions take checks out of a report and do nothing else.** Where exemptions do not count
the report is that of the configuration without any. Where they do, its checks are those that it
would hold without exemptions, less those that one of them suppresses, in the same order; the checks
of images stay, and so do those of a pod if an exemption is for certain containers. One more
exemption takes out more or the same, and neither their order nor how often they are given counts.
-/
theorem report_exemptions (c : Configuration) (s : Snapshot)
    (scans : Option (Table ScanSummary)) :
    let free := c.withExemptions []
    (c.disallowExemptions = true → report c s scans = report free s scans) ∧
    (report free s scans).checks = (placedChecks free s scans).map PlacedCheck.check ∧
    (∀ e ∈ placedChecks free s scans, e.check.resource = e.place.resource ∧
      ((∃ r ∈ Rule.all, e.rule = some r ∧ e.check.id = "polaris." ++ r.id) ∨
        e.rule = none ∧ ∃ image, e.check.id = "image-scan." ++ image)) ∧
    (c.disallowExemptions = false →
      (report c s scans).checks =
        ((placedChecks free s scans).filter fun e => ¬∃ x ∈ c.exemptions, x.Suppresses e).map
          PlacedCheck.check) ∧
    (∀ (x : Exemption) (e : PlacedCheck), x.containerNames ≠ [] → e.place.scope = .pod →
      ¬x.Suppresses e) ∧
    (report c s scans).checks.filter (fun d => d.group = Check.imageScanGroup) =
      (report free s scans).checks.filter (fun d => d.group = Check.imageScanGroup) ∧
    (∀ (l m : List Exemption) (x : Exemption),
      List.Sublist (report (c.withExemptions (l ++ x :: m)) s scans).checks
        (report (c.withExemptions (l ++ m)) s scans).checks) ∧
    ∀ l m : List Exemption, (∀ x, x ∈ l ↔ x ∈ m) →
      report (c.withExemptions l) s scans = report (c.withExemptions m) s scans := by
  intro free
  refine ⟨fun hd => ?_, (map_check_placedChecks free s scans).symm, ?_, fun hd => ?_, ?_, ?_, ?_,
    ?_⟩
  · -- where exemptions do not count nothing is left out on either side
    refine report_eq_of_leavesOut s scans rfl fun e => ?_
    simp [Configuration.LeavesOut, free, Configuration.withExemptions, hd]
  · exact fun e he => ⟨(resource_of_mem_placedChecks he).2, id_of_mem_placedChecks he⟩
  · rw [checks_report_eq_filter]
    simp only [Configuration.LeavesOut, hd, true_and]
    rfl
  · rintro x e hne hpod ⟨r, -, -, -, hcontainers⟩
    obtain hnil | ⟨name, hname, -⟩ := hcontainers
    · exact hne hnil
    · rw [Place.containerName?, hpod] at hname
      cases hname
  · rw [filter_checks_report, filter_checks_report]
  -- one more exemption suppresses what the others do and perhaps more
  · intro l m x
    refine sublist_checks_of_leavesOut s scans rfl ?_
    rintro e ⟨hd, y, hy, hsuppresses⟩
    refine ⟨hd, y, ?_, hsuppresses⟩
    rcases List.mem_append.1 hy with hy | hy
    · exact List.mem_append_left _ hy
    · exact List.mem_append_right _ (List.mem_cons_of_mem x hy)
  · intro l m hmem
    refine report_eq_of_leavesOut s scans rfl fun e => and_congr_right' ?_
    exact exists_congr fun y => and_congr_left' (hmem y)

/-- The pod of a controller is exempt by the name of the controller alone, and a container by its
own name; to give an exemption twice or later changes nothing. -/
theorem report_exemptions_sidecar :
    let proxies : Exemption := { controllerNames := ["kube-"], rules := ["hostNetworkSet"] }
    let sidecars : Exemption :=
      { containerNames := ["istio-"], rules := ["runAsPrivileged", "hostNetworkSet"] }
    let c : Configuration := {
      networking := .insert .empty "hostNetworkSet" .warning
      security := .insert .empty "runAsPrivileged" .error
      exemptions := [proxies, sidecars] }
    let strict : Configuration := { c with disallowExemptions := true }
    let pod : PodSpec :=
      { hostNetwork := some true, containers := [{ name := "app" }, { name := "istio-proxy" }] }
    let s : Snapshot := {
      deployments := [⟨{ name := some "web" }, some pod⟩]
      daemonSets := [⟨{ name := some "kube-proxy" }, some pod⟩] }
    c.disallowExemptions = false ∧ strict.disallowExemptions = true ∧
    ((report c s none).checks.map fun d => (d.id, d.resource)) =
      [("polaris.hostNetworkSet", "/ns/default/deployments/web/pods"),
        ("polaris.runAsPrivileged", "/ns/default/deployments/web/containers/app"),
        ("polaris.runAsPrivileged", "/ns/default/daemon-sets/kube-proxy/containers/app")] ∧
    report strict s none = report (strict.withExemptions []) s none ∧
    report (c.withExemptions [sidecars, proxies, sidecars]) s none =
      report (c.withExemptions [proxies, sidecars]) s none := by
  intro proxies sidecars c strict pod s
  obtain ⟨-, -, -, hleft, -, -, -, hsame⟩ := report_exemptions c s none
  refine ⟨rfl, rfl, ?_, (report_exemptions strict s none).1 rfl, hsame _ _ fun x => ?_⟩
  · rw [hleft rfl]
    decide
  · simp only [List.mem_cons, List.not_mem_nil, or_false]
    tauto

end Audit

end ClusterAudit
