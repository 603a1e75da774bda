import ClusterAudit.Proofs.Report.Lookup
import ClusterAudit.Proofs.Report.Placed
import ClusterAudit.Proofs.Rule.Catalogue

/-!
# What a report says about one rule

All rules of an audit go through the same walks: they are made active together, asked together at
every place, and what they find stands in one list, rule after rule and place after place. This file
takes one rule out of the list. The checks that bear its name are those that it makes itself, one at
every place where it contributes (`ClusterAudit.Audit.filter_checks_of_rule`). Nothing of another
rule is left in this description, so two configurations that say the same about a rule get the same
checks of it, whatever else they say.
-/

namespace ClusterAudit

/-! ### The checks of a rule -/

namespace Audit

theorem nodup_ruleName_all : (Rule.all.map fun r => "polaris." ++ r.id).Nodup := by
  rw [← Function.comp_def (f := ("polaris." ++ ·)), ← List.map_map]
  exact Rule.nodup_id_all.map fun id id' heq => (String.append_right_inj _).1 heq

variable {r : Rule}

/-- At a place the checks that bear the name of a rule are its own, of which there is one at most. -/
theorem filter_expected (hr : r ∈ Rule.all) (c : Configuration) (p : Place) :
    (Rule.all.filterMap (c.expected? p)).filter (fun d => d.id = "polaris." ++ r.id) =
      (c.expected? p r).toList :=
  filter_filterMap_of_nodup (fun _ _ hd => (eq_of_expected? hd).1) nodup_ruleName_all hr

/-- **The checks of a rule** in a report are those that it makes at the places of the snapshot. -/
theorem filter_checks_of_rule (hr : r ∈ Rule.all) (c : Configuration) (s : Snapshot)
    (scans : Option (Table ScanSummary)) :
    (report c s scans).checks.filter (fun d => d.id = "polaris." ++ r.id) =
      s.places.filterMap fun p => c.expected? p r := by
  have himages : (s.controllers.flatMap (imageChecks scans)).filter
      (fun d => d.id = "polaris." ++ r.id) = [] := by
    refine List.filter_eq_nil_iff.2 fun d hd => ?_
    obtain ⟨image, himage⟩ := id_of_mem_imageChecks hd
    rw [himage, decide_eq_true_eq]
    exact (ruleName_ne_imageName r.id image).symm
  rw [checks_report_eq, List.filter_append, himages, List.append_nil, flatMap_ruleChecks,
    List.filter_flatMap, List.filterMap_eq_flatMap_toList]
  exact List.flatMap_congr fun p _ => filter_expected hr c p

end Audit

/-! ### Two configurations -/

namespace Configuration

/-- **Two configurations say the same about a rule**: they have the same action for it in the table
of its group, and the same exemptions, which count in both or in neither. -/
structure AgreeAbout (r : Rule) (c c' : Configuration) : Prop where
  /-- The actions are the same. -/
  action : (c.rules r.group).get? r.id = (c'.rules r.group).get? r.id
  /-- The exemptions are the same. -/
  exemptions : c.exemptions = c'.exemptions
  /-- They count or they do not. -/
  disallowExemptions : c.disallowExemptions = c'.disallowExemptions

variable {c c' : Configuration} {r : Rule}

theorem AgreeAbout.symm (h : AgreeAbout r c c') : AgreeAbout r c' c :=
  ⟨h.action.symm, h.exemptions.symm, h.disallowExemptions.symm⟩

theorem AgreeAbout.contributes (h : AgreeAbout r c c') {p : Place} {a : Action}
    (hc : c.Contributes p r a) : c'.Contributes p r a where
  configured := h.action ▸ hc.configured
  active := hc.active
  notExempt := h.exemptions ▸ h.disallowExemptions ▸ hc.notExempt
  concerns := hc.concerns

/-- **What is said alike about a rule gives the same check at every place.** -/
theorem AgreeAbout.expected?_eq (h : AgreeAbout r c c') (p : Place) :
    c.expected? p r = c'.expected? p r := by
  rw [expected?, expected?, h.action]
  cases (c'.rules r.group).get? r.id with
  | none => rfl
  | some a =>
    have hiff : c.Contributes p r a ↔ c'.Contributes p r a := ⟨h.contributes, h.symm.contributes⟩
    simp only [hiff]

end Configuration

/-- **Rules do not get in each other's way.** What a report says about a rule, and what it says
about images, is the same for all configurations that say the same about this rule: the same checks
with the same paths and verdicts in the same order, whichever other rules are configured and
whatever their failure means. -/
theorem Audit.checks_of_rule_independent {r : Rule} (hr : r ∈ Rule.all) {c c' : Configuration}
    (h : Configuration.AgreeAbout r c c') (s : Snapshot) (scans : Option (Table ScanSummary)) :
    (report c s scans).checks.filter (fun d => d.id = "polaris." ++ r.id) =
      (report c' s scans).checks.filter (fun d => d.id = "polaris." ++ r.id) ∧
    (report c s scans).checks.filter (fun d => d.group = Check.imageScanGroup) =
      (report c' s scans).checks.filter (fun d => d.group = Check.imageScanGroup) := by
  constructor
  · rw [filter_checks_of_rule hr, filter_checks_of_rule hr]
    exact List.filterMap_congr fun p _ => h.expected?_eq p
  · rw [filter_checks_report, filter_checks_report]

/-- To the rule about tags it is all the same that one configuration has other rules and the other
takes them for warnings, while exemptions and images are the same. -/
theorem Audit.checks_of_rule_independent_tag :
    let r : Rule := Rule.all[12]
    let sidecars : Exemption :=
      { containerNames := ["istio-"], rules := ["tagNotSpecified", "runAsPrivileged"] }
    let c : Configuration := {
      security := (Table.insert .empty "hostIPCSet" .error).insert "runAsPrivileged" .error
      images := .insert .empty "tagNotSpecified" .error
      exemptions := [sidecars] }
    let c' : Configuration := {
      security := .insert .empty "runAsPrivileged" .warning
      images := (Table.insert .empty "tagNotSpecified" .error).insert "pullPolicyNotAlways" .warning
      exemptions := [sidecars] }
    let pod : PodSpec := { containers := [{ name := "app", image := some "nginx" },
      { name := "istio-proxy", image := some "istio" }] }
    let s : Snapshot := { deployments := [⟨{ name := some "web" }, some pod⟩] }
    r.id = "tagNotSpecified" ∧ Configuration.AgreeAbout r c c' ∧
    (report c s (some .empty)).checks.length = 5 ∧ (report c' s (some .empty)).checks.length = 6 ∧
    ((report c' s (some .empty)).checks.filter fun d => d.id = "polaris." ++ r.id) =
      [⟨"polaris.tagNotSpecified", "polaris.Images", "deployments",
        "/ns/default/deployments/web/containers/app", .error⟩] := by
  intro r sidecars c c' pod s
  have h : Configuration.AgreeAbout r c c' := ⟨by decide, rfl, rfl⟩
  refine ⟨rfl, h, by decide, by decide, ?_⟩
  rw [← (checks_of_rule_independent (List.getElem_mem _) h s (some .empty)).1]
  decide

end ClusterAudit
