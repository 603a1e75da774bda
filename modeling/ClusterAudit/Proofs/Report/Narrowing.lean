import ClusterAudit.Proofs.Report.Origin
import Mathlib.Data.List.Basic

/-!
# Narrowing an audit to some namespaces

To restrict a snapshot and to audit it is to audit it and to leave out checks. The restriction
works on lists of objects, kind by kind, and the audit on controllers; both read the namespace of
an object in the same way, so a restricted snapshot has the controllers that live in the selected
namespaces and no others (`ClusterAudit.Snapshot.controllers_restrictTo`). Checks are made for one
controller at a time, in the part of the rules and in that of the images, and so they stay or go
with their controller (`ClusterAudit.Audit.origins_restrictTo`).

What is restricted is told apart by the namespace of the controller and not by the path of the
check: an object without a namespace lives in the default one and is selected by its name, and one
with an empty namespace is never selected.
-/

namespace ClusterAudit

/-! ### Controllers of a restricted snapshot -/

theorem isSelected_iff {names : List String} {name : String} :
    isSelected names name = true ↔ name ≠ "" ∧ name ∈ names := by
  simp [isSelected]

namespace Snapshot

theorem restrictTo_nil (s : Snapshot) : s.restrictTo [] = s := rfl

theorem workloads_restrictTo {names : List String} (hne : names ≠ []) (s : Snapshot)
    (kind : WorkloadKind) :
    (s.restrictTo names).workloads kind =
      (s.workloads kind).filter fun w => isSelected names w.metadata.effectiveNamespace := by
  rw [restrictTo, if_neg (by simpa using hne)]
  cases kind <;> rfl

/-- **The controllers of a restricted snapshot** are those that live in a selected namespace, in
the order in which they stood. -/
theorem controllers_restrictTo {names : List String} (hne : names ≠ []) (s : Snapshot) :
    (s.restrictTo names).controllers =
      s.controllers.filter fun k => isSelected names k.namespaceName := by
  rw [controllers, controllers, List.filter_flatMap]
  refine List.flatMap_congr fun kind _ => ?_
  rw [workloads_restrictTo hne, List.filter_map]
  rfl

end Snapshot

/-! ### Checks of a restricted snapshot -/

namespace Audit

variable (c : Configuration) (s : Snapshot) (scans : Option (Table ScanSummary))

/-- **Checks stay or go with their controller.** -/
theorem origins_restrictTo {names : List String} (hne : names ≠ []) :
    origins c (s.restrictTo names) scans =
      (origins c s scans).filter fun e => isSelected names e.1.namespaceName := by
  rw [origins, Snapshot.controllers_restrictTo hne, Check.tagged_filter, Check.tagged_filter,
    ← List.filter_append]
  rfl

/-- **Of a namespace all checks are kept or none.** -/
theorem filter_origins_restrictTo {names : List String} (hne : names ≠ []) (m : String) :
    (origins c (s.restrictTo names) scans).filter (fun e => e.1.namespaceName = m) =
      if m ≠ "" ∧ m ∈ names then (origins c s scans).filter fun e => e.1.namespaceName = m
      else [] := by
  rw [origins_restrictTo c s scans hne, List.filter_filter]
  split
  case isTrue hm =>
    refine List.filter_congr fun e _ => ?_
    by_cases he : e.1.namespaceName = m
    · rw [he, isSelected_iff.2 hm, Bool.and_true]
    · simp [he]
  case isFalse hm =>
    refine List.filter_eq_nil_iff.2 fun e _ hboth => ?_
    obtain ⟨he, hsel⟩ := Bool.and_eq_true_iff.1 hboth
    exact hm (of_decide_eq_true he ▸ isSelected_iff.1 hsel)

/-- **Auditing a restricted snapshot is auditing it and keeping the checks of some controllers**:
those that live in a namespace that is named and not empty. The checks that are kept are the same
and in the same order, those of a namespace are kept all or none, and to name no namespaces changes
nothing at all. -/
theorem report_restrictTo (name : String) (others : List String) :
    report c (s.restrictTo []) scans = report c s scans ∧
    (∀ s' : Snapshot, (origins c s' scans).map Prod.snd = (report c s' scans).checks) ∧
    (report c (s.restrictTo (name :: others)) scans).checks =
      ((origins c s scans).filter fun e =>
        e.1.namespaceName ≠ "" ∧ e.1.namespaceName ∈ name :: others).map Prod.snd ∧
    List.Sublist (report c (s.restrictTo (name :: others)) scans).checks
      (report c s scans).checks ∧
    ∀ m : String,
      (origins c (s.restrictTo (name :: others)) scans).filter (fun e => e.1.namespaceName = m) =
        if m ≠ "" ∧ m ∈ name :: others then
          (origins c s scans).filter fun e => e.1.namespaceName = m
        else [] := by
  have hne : name :: others ≠ [] := List.cons_ne_nil name others
  have hkept : origins c (s.restrictTo (name :: others)) scans =
      (origins c s scans).filter fun e =>
        e.1.namespaceName ≠ "" ∧ e.1.namespaceName ∈ name :: others := by
    rw [origins_restrictTo c s scans hne]
    refine List.filter_congr fun e _ => ?_
    rw [Bool.eq_iff_iff, isSelected_iff, decide_eq_true_iff]
  refine ⟨by rw [Snapshot.restrictTo_nil], fun s' => map_snd_origins c s' scans, ?_, ?_,
    filter_origins_restrictTo c s scans hne⟩
  · rw [← map_snd_origins, hkept]
  · rw [← map_snd_origins, ← map_snd_origins, hkept]
    exact List.filter_sublist.map Prod.snd

end Audit

end ClusterAudit
