import ClusterAudit.Proofs.Report.Derived
import ClusterAudit.Proofs.Report.Narrowing
import ClusterAudit.Proofs.Snapshot.Listing
import Mathlib.Data.List.Perm.Basic

/-!
# Snapshots that are put together

A snapshot may be made of others, list by list: its deployments are those of the first, then those
of the second, and so on, and the same holds of every other list (`ClusterAudit.Snapshot.Joins`).
Its controllers are not listed one part after another, because the kinds come first; they are those
of the parts all the same (`ClusterAudit.Snapshot.Joins.perm_controllers`). Since every check is
made for one controller and looks at nothing else, the report of the whole holds the checks of the
reports of the parts, and what it counts is the sum of what they count
(`ClusterAudit.Snapshot.Joins.addUpTo_report`): in all, under every group and under every namespace.
Restricting the whole to some namespaces is restricting each part, so this goes for restricted
snapshots as well (`ClusterAudit.Snapshot.Joins.restrictTo`).

Sums are those of tallies, word by word.
-/

namespace ClusterAudit

/-- Two walks, one inside the other, may change places. -/
theorem flatMap_comm_perm {α β γ : Type} (l : List α) (m : List β) (f : α → β → List γ) :
    (l.flatMap fun a => m.flatMap (f a)).Perm (m.flatMap fun b => l.flatMap fun a => f a b) := by
  induction l with
  | nil => simp
  | cons a l ih =>
    simp only [List.flatMap_cons]
    exact (ih.append_left _).trans (List.flatMap_append_perm m (f a) _)

/-! ### Summaries that add up -/

namespace ResultSummary

/-- **Summaries add up to others**: no name has two of these, a name is among them if it is among
the summaries of some part, and its counts are those of all parts together. -/
structure AddUpTo (parts : List (List ResultSummary)) (whole : List ResultSummary) : Prop where
  /-- No name occurs twice. -/
  distinct : (whole.map ResultSummary.name).Nodup
  /-- The names are those of the parts. -/
  names : ∀ name, name ∈ whole.map ResultSummary.name ↔
    ∃ entries ∈ parts, name ∈ entries.map ResultSummary.name
  /-- The counts of a name are the sum of its counts in the parts. -/
  counts : ∀ name, countsOf whole name = Tally.sum (parts.map fun entries => countsOf entries name)

variable {l : List Check} {parts : List (List Check)}

theorem tallyBy_of_perm_flatten (key : Check → Option String) (h : l.Perm parts.flatten)
    (name : Option String) :
    tallyBy key l name = Tally.sum (parts.map fun m => tallyBy key m name) := by
  have hfilter : (parts.flatten.filter fun c => key c = name).map Check.verdict =
      parts.flatMap fun m => (m.filter fun c => key c = name).map Check.verdict := by
    rw [List.filter_flatten, List.map_flatten, List.map_map, List.flatMap_def]
    rfl
  rw [tallyBy_of_perm key h, tallyBy, hfilter]
  exact (Tally.sum_map_ofVerdicts _ parts).symm

/-- **The summaries of checks add up** to those of all the checks together. -/
theorem addUpTo_byKey (key : Check → Option String) (h : l.Perm parts.flatten) :
    AddUpTo (parts.map (byKey key)) (byKey key l) where
  distinct := by
    rw [names_byKey]
    exact nodup_namesBy key l
  names := by
    intro name
    have hmem : name ∈ namesBy key l ↔ ∃ m ∈ parts, name ∈ namesBy key m := by
      rw [mem_namesBy_of_perm key h]
      simp only [mem_namesBy, List.mem_flatten]
      constructor
      · rintro ⟨c, ⟨m, hm, hc⟩, hname⟩
        exact ⟨m, hm, c, hc, hname⟩
      · rintro ⟨m, hm, c, hc, hname⟩
        exact ⟨c, ⟨m, hm, hc⟩, hname⟩
    rw [names_byKey, hmem]
    constructor
    · rintro ⟨m, hm, hname⟩
      exact ⟨byKey key m, List.mem_map_of_mem hm, by rwa [names_byKey]⟩
    · rintro ⟨entries, hentries, hname⟩
      obtain ⟨m, hm, rfl⟩ := List.mem_map.1 hentries
      exact ⟨m, hm, by rwa [names_byKey] at hname⟩
  counts := by
    intro name
    simp only [List.map_map, Function.comp_def, countsOf_byKey]
    exact tallyBy_of_perm_flatten key h (some name)

end ResultSummary

/-- **Reports add up to another one**: it holds their checks, and all its counts are the sums of
theirs. -/
structure Report.AddUpTo (parts : List Report) (whole : Report) : Prop where
  /-- The checks are those of the parts, in some order. -/
  checks : whole.checks.Perm (parts.map Report.checks).flatten
  /-- The counts of all checks are the sum. -/
  overall : whole.overallSummary.counts =
    Tally.sum (parts.map fun r => r.overallSummary.counts)
  /-- The summaries of groups add up. -/
  groups : ResultSummary.AddUpTo (parts.map Report.groupSummary) whole.groupSummary
  /-- The summaries of namespaces add up. -/
  namespaces : ResultSummary.AddUpTo (parts.map Report.namespaceSummary) whole.namespaceSummary

/-! ### Controllers of snapshots that are put together -/

namespace Snapshot

/-- **A snapshot joins others**: each of its nine lists is made of theirs, one after another. -/
def Joins (s : Snapshot) (parts : List Snapshot) : Prop :=
  ∀ kind, s.listOf kind = parts.flatMap fun p => p.listOf kind

/-- Whether an object stays when a snapshot is restricted to some namespaces. -/
def stays (names : List String) : ClusterObject → Bool
  | .workload _ w => isSelected names w.metadata.effectiveNamespace
  | .namespaceObject m => isSelected names m.displayName
  | .node _ => true
  | .pod p => isSelected names p.metadata.effectiveNamespace

/-- Of every list some objects stay, each for what it is itself. -/
theorem listOf_restrictTo {names : List String} (hne : names ≠ []) (s : Snapshot)
    (kind : ObjectKind) :
    (s.restrictTo names).listOf kind = (s.listOf kind).filter (stays names) := by
  have hempty : ¬ names.isEmpty = true := by simpa using hne
  cases kind with
  | workload k =>
    rw [listOf, listOf, workloads_restrictTo hne, List.filter_map]
    rfl
  | namespaceObject =>
    rw [listOf, listOf, Snapshot.restrictTo, if_neg hempty, List.filter_map]
    rfl
  | node =>
    rw [listOf, listOf, Snapshot.restrictTo, if_neg hempty, List.filter_map]
    exact congrArg (List.map ClusterObject.node) (List.filter_true s.nodes).symm
  | pod =>
    rw [listOf, listOf, Snapshot.restrictTo, if_neg hempty, List.filter_map]
    exact congrArg (List.map ClusterObject.pod) (if_neg hempty)

namespace Joins

variable {s : Snapshot} {parts : List Snapshot}

theorem workloads (h : s.Joins parts) (kind : WorkloadKind) :
    s.workloads kind = parts.flatMap fun p => p.workloads kind := by
  have hlist : (s.workloads kind).map (ClusterObject.workload kind) =
      (parts.flatMap fun p => p.workloads kind).map (ClusterObject.workload kind) := by
    rw [List.map_flatMap]
    exact h (.workload kind)
  exact List.map_injective_iff.2 (fun _ _ heq => (ClusterObject.workload.inj heq).2) hlist

/-- **The controllers are those of the parts.** Those of a kind stand together, so the parts are not
told apart any more. -/
theorem perm_controllers (h : s.Joins parts) :
    s.controllers.Perm (parts.flatMap Snapshot.controllers) := by
  have hkinds : s.controllers = WorkloadKind.all.flatMap fun kind =>
      parts.flatMap fun p => (p.workloads kind).map (Controller.ofWorkload kind) := by
    rw [Snapshot.controllers]
    simp only [h.workloads, List.map_flatMap]
  rw [hkinds]
  exact flatMap_comm_perm _ _ _

theorem perm_checks_report (h : s.Joins parts) (c : Configuration)
    (scans : Option (Table ScanSummary)) :
    (Audit.report c s scans).checks.Perm
      (parts.flatMap fun p => (Audit.report c p scans).checks) := by
  have heach : ∀ f : Controller → List Check,
      (s.controllers.flatMap f).Perm (parts.flatMap fun p => p.controllers.flatMap f) := fun f => by
    rw [← List.flatMap_assoc]
    exact h.perm_controllers.flatMap_right f
  simp only [Audit.checks_report_eq]
  exact ((heach _).append (heach _)).trans (List.flatMap_append_perm _ _ _)

/-- **Restricting a snapshot restricts its parts.** -/
theorem restrictTo (h : s.Joins parts) (names : List String) :
    (s.restrictTo names).Joins (parts.map (Snapshot.restrictTo names)) := by
  by_cases hnames : names = []
  · subst hnames
    have hsame : parts.map (Snapshot.restrictTo []) = parts := List.map_id parts
    rw [restrictTo_nil, hsame]
    exact h
  · intro kind
    rw [listOf_restrictTo hnames, h kind, List.filter_flatMap, List.flatMap_map]
    simp only [listOf_restrictTo hnames]

/-- **The reports of the parts add up to the report of the whole.** -/
theorem addUpTo_report (h : s.Joins parts) (c : Configuration)
    (scans : Option (Table ScanSummary)) :
    Report.AddUpTo (parts.map fun p => Audit.report c p scans) (Audit.report c s scans) := by
  have hchecks : (Audit.report c s scans).checks.Perm
      (parts.map fun p => (Audit.report c p scans).checks).flatten := by
    rw [← List.flatMap_def]
    exact h.perm_checks_report c scans
  constructor
  case checks =>
    rw [List.map_map]
    exact hchecks
  case overall =>
    simp only [Audit.overallSummary_report_eq, List.map_map, Function.comp_def]
    rw [Tally.ofVerdicts_perm (hchecks.map Check.verdict), List.map_flatten, List.map_map]
    exact (Tally.sum_map_ofVerdicts _ parts).symm
  case groups =>
    simp only [List.map_map, Function.comp_def, Audit.groupSummary_report_eq]
    have hsum := ResultSummary.addUpTo_byKey (fun d => some d.group) hchecks
    rwa [List.map_map] at hsum
  case namespaces =>
    simp only [List.map_map, Function.comp_def, Audit.namespaceSummary_report_eq]
    have hsum := ResultSummary.addUpTo_byKey Check.namespaceName? hchecks
    rwa [List.map_map] at hsum

end Joins

end Snapshot

end ClusterAudit
