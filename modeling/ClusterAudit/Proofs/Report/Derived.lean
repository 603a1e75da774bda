import ClusterAudit.Audit
import ClusterAudit.Proofs.Counting.Index

/-!
# What a report derives from its checks

A report is made step by step: checks come in, one by one or from an evaluation or from scans,
summaries are computed in between or not, the checks are cleared and others come in. In the end the
report is finalized. This file shows that nothing of the way matters but the checks that are there
at the end.

A step is a `ClusterAudit.Report.Step` and a sequence of them is run by `ClusterAudit.Report.run`.
The argument has two halves that do not meet:

* what a step does to the checks is read off the checks alone
  (`ClusterAudit.Report.checks_perform`), so by induction the checks after a run do not depend on
  anything that was derived on the way (`ClusterAudit.Report.checks_run`);
* what finalizing derives is read off the checks alone as well
  (`ClusterAudit.Report.derived_finalize`), whatever stale counts stand in the report.

What is derived is spelt out by `ClusterAudit.ResultSummary.Summarizes`: one entry for every name
that occurs, in the order of first occurrence, with the exact numbers as long as the checks can be
counted in 32 bits. The report of an audit is finalized, so all that it derives is that of its
checks (`ClusterAudit.Audit.derived_report`).
-/

namespace ClusterAudit

/-! ### Three summaries in one pass -/

namespace Summaries

open SummaryIndex ResultSummary

theorem groups_foldl_add (l : List Check) (x : Summaries) :
    (l.foldl add x).groups = l.foldl (addBy fun c => some c.group) x.groups := by
  induction l generalizing x with
  | nil => rfl
  | cons c l ih =>
    rw [List.foldl_cons, ih, List.foldl_cons]
    rfl

theorem namespaces_foldl_add (l : List Check) (x : Summaries) :
    (l.foldl add x).namespaces = l.foldl (addBy Check.namespaceName?) x.namespaces := by
  induction l generalizing x with
  | nil => rfl
  | cons c l ih =>
    rw [List.foldl_cons, ih, List.foldl_cons]
    rfl

theorem overall_foldl_add (l : List Check) (x : Summaries) :
    (l.foldl add x).overall
      = { x.overall with counts := (l.map Check.verdict).foldl Tally.add x.overall.counts } := by
  induction l generalizing x with
  | nil => rfl
  | cons c l ih =>
    rw [List.foldl_cons, ih, List.map_cons, List.foldl_cons]
    rfl

theorem groups_ofChecks (l : List Check) :
    (ofChecks l).groups.entries = byKey (fun c => some c.group) l := by
  rw [ofChecks, groups_foldl_add, entries_foldl_addBy]

theorem namespaces_ofChecks (l : List Check) :
    (ofChecks l).namespaces.entries = byKey Check.namespaceName? l := by
  rw [ofChecks, namespaces_foldl_add, entries_foldl_addBy]

theorem overall_ofChecks (l : List Check) :
    (ofChecks l).overall = { name := overallName, counts := .ofVerdicts (l.map Check.verdict) } := by
  rw [ofChecks, overall_foldl_add]
  rfl

end Summaries

/-! ### Exact numbers -/

namespace ResultSummary

/-- The entries are **the summaries of the checks under a key**: there is one for every name that
occurs, in the order in which the names occur first, and it holds how many checks of that name
ended in each verdict. -/
structure Summarizes (key : Check → Option String) (l : List Check)
    (entries : List ResultSummary) : Prop where
  /-- The names are those that occur, in the order of first occurrence. -/
  names : entries.map ResultSummary.name = (l.filterMap key).eraseDups
  /-- No name occurs twice. -/
  distinct : (entries.map ResultSummary.name).Nodup
  /-- The numbers are exact. -/
  exact : ∀ s ∈ entries, ∀ v,
    (s.counts.count v).toNat = l.countP fun c => key c = some s.name ∧ c.verdict = v

variable {l : List Check}

theorem toNat_count_tallyBy (small : l.length < 2 ^ 32) (key : Check → Option String)
    (name : Option String) (v : Verdict) :
    ((tallyBy key l name).count v).toNat = l.countP fun c => key c = name ∧ c.verdict = v := by
  rw [count_tallyBy]
  exact UInt32.toNat_ofNat_of_lt' (Nat.lt_of_le_of_lt List.countP_le_length small)

theorem summarizes_byKey (small : l.length < 2 ^ 32) (key : Check → Option String) :
    Summarizes key l (byKey key l) where
  names := names_byKey key l
  distinct := by
    rw [names_byKey]
    exact nodup_namesBy key l
  exact := by
    intro s hs v
    obtain ⟨n, -, rfl⟩ := List.mem_map.1 hs
    exact toNat_count_tallyBy small key (some n) v

/-- The entries of a key that every check has add up to all checks. -/
theorem sum_toNat_count_byKey (small : l.length < 2 ^ 32) {key : Check → Option String}
    (total : ∀ c, key c ≠ none) (v : Verdict) :
    ((byKey key l).map fun s => (s.counts.count v).toNat).sum = l.countP fun c => c.verdict = v := by
  have hnone : (l.countP fun c => key c = none ∧ c.verdict = v) = 0 := by
    rw [List.countP_eq_zero]
    exact fun c _ => by simp [total c]
  calc ((byKey key l).map fun s => (s.counts.count v).toNat).sum
      = ((namesBy key l).map fun n =>
          l.countP fun c => key c = some n ∧ c.verdict = v).sum := by
        rw [byKey, List.map_map]
        exact congrArg List.sum
          (List.map_congr_left fun n _ => toNat_count_tallyBy small key (some n) v)
    _ = l.countP fun c => c.verdict = v := by
        have hsum := sum_countP_namesBy key l fun c => c.verdict = v
        simp only [decide_eq_true_eq] at hsum
        rw [hnone, Nat.add_zero] at hsum
        exact hsum

end ResultSummary

namespace Report

/-! ### Steps -/

/-- One thing that is done to a report. -/
inductive Step where
  /-- A check is added. -/
  | push (c : Check)
  /-- The checks of an evaluation are added. -/
  | addResults (l : List ControllerResult)
  /-- The checks of the images of a snapshot are added. -/
  | addScans (s : Snapshot) (scans : Table ScanSummary)
  /-- The summaries are computed. -/
  | summarize
  /-- All that is derived is computed. -/
  | finalize
  /-- The checks are cleared. -/
  | clear

/-- The report after a step. -/
def perform (r : Report) : Step → Report
  | .push c => r.addChecks [c]
  | .addResults l => r.addResults l
  | .addScans s scans => r.addScans s scans
  | .summarize => r.summarize
  | .finalize => r.finalize
  | .clear => r.clear

/-- The report after a sequence of steps. -/
def run (r : Report) (steps : List Step) : Report :=
  steps.foldl perform r

/-- What a step makes of the checks. -/
def Step.effect (checks : List Check) : Step → List Check
  | .push c => checks ++ [c]
  | .addResults l => checks ++ l.flatMap Check.ofResult
  | .addScans s scans => checks ++ s.controllers.flatMap (Check.ofImages scans)
  | .summarize => checks
  | .finalize => checks
  | .clear => []

@[simp] theorem checks_summarize (r : Report) : r.summarize.checks = r.checks := rfl

@[simp] theorem checks_finalize (r : Report) : r.finalize.checks = r.checks := rfl

/-- **A step sees the checks and nothing else** of a report, as far as checks go. -/
theorem checks_perform (r : Report) (step : Step) :
    (r.perform step).checks = step.effect r.checks := by
  cases step with
  | push c => rfl
  | addResults l => rfl
  | addScans s scans => rfl
  | summarize => exact checks_summarize r
  | finalize => exact checks_finalize r
  | clear => rfl

/-- **The checks after a run** are those that the steps make of the checks at its start. -/
theorem checks_run (r : Report) (steps : List Step) :
    (r.run steps).checks = steps.foldl Step.effect r.checks := by
  induction steps generalizing r with
  | nil => rfl
  | cons step steps ih =>
    rw [run, List.foldl_cons, List.foldl_cons, ← checks_perform]
    exact ih (r.perform step)

/-! ### What is derived -/

/-- Finalizing leaves what is said about the cluster, apart from the score and the grade. -/
theorem cluster_finalize (r : Report) : r.finalize.cluster =
    { r.cluster with
      score := r.finalize.cluster.score
      grade := r.finalize.cluster.grade } := rfl

/-- The part of a report that is derived from its checks. -/
structure Derived where
  /-- The counts of all checks. -/
  overallSummary : ResultSummary
  /-- The counts by group. -/
  groupSummary : List ResultSummary
  /-- The counts by namespace. -/
  namespaceSummary : List ResultSummary
  /-- The score. -/
  score : Nat
  /-- The grade. -/
  grade : String

/-- What stands in a report as derived. -/
def derived (r : Report) : Derived where
  overallSummary := r.overallSummary
  groupSummary := r.groupSummary
  namespaceSummary := r.namespaceSummary
  score := r.cluster.score
  grade := r.cluster.grade

/-- What there is to derive from checks. -/
def Derived.ofChecks (l : List Check) : Derived where
  overallSummary := { name := ResultSummary.overallName, counts := .ofVerdicts (l.map Check.verdict) }
  groupSummary := ResultSummary.byKey (fun c => some c.group) l
  namespaceSummary := ResultSummary.byKey Check.namespaceName? l
  score := (Tally.ofVerdicts (l.map Check.verdict)).score
  grade := Grade.ofScore (Tally.ofVerdicts (l.map Check.verdict)).score

/-- **Finalizing derives everything from the checks**, whatever stood in the report before. -/
theorem derived_finalize (r : Report) : r.finalize.derived = .ofChecks r.checks := by
  simp only [derived, finalize, summarize, Derived.ofChecks, Summaries.groups_ofChecks,
    Summaries.namespaces_ofChecks, Summaries.overall_ofChecks]

theorem overallSummary_finalize (r : Report) : r.finalize.overallSummary =
    { name := ResultSummary.overallName, counts := .ofVerdicts (r.checks.map Check.verdict) } :=
  congrArg Derived.overallSummary r.derived_finalize

theorem groupSummary_finalize (r : Report) :
    r.finalize.groupSummary = ResultSummary.byKey (fun c => some c.group) r.checks :=
  congrArg Derived.groupSummary r.derived_finalize

theorem namespaceSummary_finalize (r : Report) :
    r.finalize.namespaceSummary = ResultSummary.byKey Check.namespaceName? r.checks :=
  congrArg Derived.namespaceSummary r.derived_finalize

theorem score_finalize (r : Report) :
    r.finalize.cluster.score = r.finalize.overallSummary.counts.score := by
  rw [overallSummary_finalize]
  exact congrArg Derived.score r.derived_finalize

theorem grade_finalize (r : Report) :
    r.finalize.cluster.grade = Grade.ofScore r.finalize.cluster.score := by
  rw [score_finalize, overallSummary_finalize]
  exact congrArg Derived.grade r.derived_finalize

/-- The overall counts are exact. -/
theorem toNat_count_overallSummary {r : Report} (small : r.checks.length < 2 ^ 32) (v : Verdict) :
    (r.finalize.overallSummary.counts.count v).toNat = r.checks.countP fun c => c.verdict = v := by
  rw [overallSummary_finalize, Tally.toNat_count_ofVerdicts_map _ small]

theorem run_concat_finalize (r : Report) (steps : List Step) :
    r.run (steps ++ [.finalize]) = (r.run steps).finalize := by
  rw [run, List.foldl_append]
  rfl

/-! ### After the last step -/

open ResultSummary in
/-- **Whatever was done to a report, once it is finalized only its checks count.** Below `2 ^ 32`
checks the numbers are exact: over all checks, under every group and under every namespace; the
groups add up to all checks, and the score and the grade are those of the overall counts. Runs that
end with the same checks derive the same. -/
theorem finalized_run (r : Report) (steps : List Step)
    (small : (r.run steps).checks.length < 2 ^ 32) :
    let f := r.run (steps ++ [.finalize])
    f.checks = (r.run steps).checks ∧
    f.checks = steps.foldl Step.effect r.checks ∧
    f.overallSummary.name = overallName ∧
    (∀ v, (f.overallSummary.counts.count v).toNat = f.checks.countP fun c => c.verdict = v) ∧
    Summarizes (fun c => some c.group) f.checks f.groupSummary ∧
    (∀ v, (f.groupSummary.map fun s => (s.counts.count v).toNat).sum
      = (f.overallSummary.counts.count v).toNat) ∧
    Summarizes Check.namespaceName? f.checks f.namespaceSummary ∧
    f.cluster.score = f.overallSummary.counts.score ∧
    f.cluster.grade = Grade.ofScore f.cluster.score ∧
    ∀ (r' : Report) (steps' : List Step), (r'.run steps').checks = (r.run steps).checks →
      (r'.run (steps' ++ [.finalize])).derived = f.derived := by
  intro f
  have hf : f = (r.run steps).finalize := run_concat_finalize r steps
  have hchecks : f.checks = (r.run steps).checks := by rw [hf, checks_finalize]
  have hexact : ∀ v, (f.overallSummary.counts.count v).toNat
      = f.checks.countP fun c => c.verdict = v := by
    intro v
    rw [hchecks, hf]
    exact toNat_count_overallSummary small v
  refine ⟨hchecks, hchecks.trans (checks_run r steps), ?_, hexact, ?_, ?_, ?_, ?_, ?_, ?_⟩
  · rw [hf, overallSummary_finalize]
  · rw [hchecks, hf, groupSummary_finalize]
    exact summarizes_byKey small _
  · -- every check has a group, so the groups leave none out
    intro v
    rw [hexact v, hchecks, hf, groupSummary_finalize]
    exact sum_toNat_count_byKey small (fun c => by simp) v
  · rw [hchecks, hf, namespaceSummary_finalize]
    exact summarizes_byKey small _
  · rw [hf, score_finalize]
  · rw [hf, grade_finalize]
  · intro r' steps' hsame
    rw [run_concat_finalize, derived_finalize, hsame, hf, derived_finalize]

/-- Of a check that was cleared after it was counted nothing is left. -/
theorem finalized_run_cleared :
    let failed : Check :=
      ⟨"polaris.hostIPCSet", "polaris.Security", "deployments", "/ns/a/deployments/x/pods", .error⟩
    let passed : Check :=
      ⟨"polaris.hostIPCSet", "polaris.Security", "jobs", "/ns/b/jobs/y/pods", .success⟩
    let r : Report := .ofSnapshot {} none
    let steps : List Step := [.push failed, .finalize, .clear, .push passed, .summarize, .push passed]
    (r.run steps).checks.length < 2 ^ 32 ∧
    ((r.run (steps ++ [.finalize])).overallSummary.counts.count .error).toNat = 0 ∧
    ((r.run (steps ++ [.finalize])).overallSummary.counts.count .success).toNat = 2 := by
  intro failed passed r steps
  have small : (r.run steps).checks.length < 2 ^ 32 := by decide
  have hexact := (finalized_run r steps small).2.2.2.1
  exact ⟨small, hexact .error, hexact .success⟩

end Report

/-! ### Reports of audits -/

namespace Audit

variable (c : Configuration) (s : Snapshot) (scans : Option (Table ScanSummary))

/-- **What an audit derives** is what there is to derive from the checks of its report. -/
theorem derived_report : (report c s scans).derived = .ofChecks (report c s scans).checks := by
  obtain ⟨r, hr⟩ : ∃ r : Report, report c s scans = r.finalize := by
    cases scans with
    | none => exact ⟨_, rfl⟩
    | some t => exact ⟨_, rfl⟩
  rw [hr, Report.derived_finalize, Report.checks_finalize]

theorem overallSummary_report_eq : (report c s scans).overallSummary =
    { name := ResultSummary.overallName
      counts := .ofVerdicts ((report c s scans).checks.map Check.verdict) } :=
  congrArg Report.Derived.overallSummary (derived_report c s scans)

theorem groupSummary_report_eq : (report c s scans).groupSummary =
    ResultSummary.byKey (fun d => some d.group) (report c s scans).checks :=
  congrArg Report.Derived.groupSummary (derived_report c s scans)

theorem namespaceSummary_report_eq : (report c s scans).namespaceSummary =
    ResultSummary.byKey Check.namespaceName? (report c s scans).checks :=
  congrArg Report.Derived.namespaceSummary (derived_report c s scans)

theorem score_report_eq : (report c s scans).cluster.score =
    (Tally.ofVerdicts ((report c s scans).checks.map Check.verdict)).score :=
  congrArg Report.Derived.score (derived_report c s scans)

theorem grade_report_eq : (report c s scans).cluster.grade =
    Grade.ofScore (report c s scans).cluster.score := by
  rw [score_report_eq]
  exact congrArg Report.Derived.grade (derived_report c s scans)

/-- Of the cluster only the score and the grade are derived; the rest is read off the snapshot. -/
theorem cluster_report_eq : (report c s scans).cluster =
    { (Report.ofSnapshot s c.displayName).cluster with
      score := (report c s scans).cluster.score
      grade := (report c s scans).cluster.grade } := by
  obtain ⟨r, hr, hcluster⟩ : ∃ r : Report, report c s scans = r.finalize ∧
      r.cluster = (Report.ofSnapshot s c.displayName).cluster := by
    cases scans with
    | none => exact ⟨_, rfl, rfl⟩
    | some t => exact ⟨_, rfl, rfl⟩
  rw [hr, ← hcluster]
  exact r.cluster_finalize

variable {c s scans} {fetched : Except SnapshotFault Snapshot} {lookup : Option Lookup} {r : Report}

/-- An audit that does not fail brings the report of what it has fetched and looked up. -/
theorem run_eq_ok :
    run c fetched lookup = .ok r ↔
      ∃ v, view c fetched = .ok v ∧
        ∃ scans, lookUp lookup v = .ok scans ∧ report c v scans = r := by
  rw [run]
  cases view c fetched with
  | error e => simp
  | ok v =>
    cases hlookup : lookUp lookup v <;> simp [hlookup]

/-- **The report that an audit brings counts its checks.** -/
theorem counts_of_run (h : run c fetched lookup = .ok r) :
    r.overallSummary.counts = .ofVerdicts (r.checks.map Check.verdict) := by
  obtain ⟨v, -, scans, -, rfl⟩ := run_eq_ok.1 h
  rw [overallSummary_report_eq]

end Audit

end ClusterAudit
