import ClusterAudit.Proofs.Report.Namespaces

/-!
# The tallies of an evaluation and of its report

What is found is counted twice. An evaluation counts from below: the findings of every container,
and on the way up those of the pod and of its containers together. A report counts from the list of
its checks, after the findings have been taken out of their pods and turned into checks. Both counts
are the tally of the same list, all findings pod after pod and in a pod container after container
(`ClusterAudit.PodResult.allFindings`): the one because appending tallies is counting what both
count (`ClusterAudit.PodResult.tally_eq`), the other because a check ends as its finding does
(`ClusterAudit.Check.map_verdict_ofResult`).
-/

namespace ClusterAudit

/-! ### One pod -/

/-- The tally of findings is exact as long as the words do not overflow. -/
theorem Tally.toNat_count_ofFindings {l : List Finding} (small : l.length < 2 ^ 32) (v : Verdict) :
    ((ofFindings l).count v).toNat = l.countP fun f => f.outcome.verdict = v :=
  toNat_count_ofVerdicts_map (fun f : Finding => f.outcome.verdict) small v

/-- No rule ends without data. -/
theorem Outcome.verdict_ne_noData (o : Outcome) : o.verdict ≠ .noData := by
  cases o <;> decide

namespace PodResult

/-- **All findings of a pod**, those about its settings in front of those about its containers. -/
def allFindings (r : PodResult) : List Finding :=
  r.findings ++ r.containers.flatMap ContainerResult.findings

/-- **The tally of a pod is that of all its findings.** -/
theorem tally_eq (r : PodResult) : r.tally = .ofFindings r.allFindings := by
  rw [allFindings, Tally.ofFindings, List.map_append, List.map_flatMap]
  exact Tally.foldl_append_ofVerdicts (fun d => d.findings.map fun f => f.outcome.verdict)
    r.containers (r.findings.map fun f => f.outcome.verdict)

/-- **The tally of a pod is exact**: under every verdict it has as many as there are findings about
the pod and its containers that ended so, none of them without data, and as many in all as there
are findings. -/
structure IsCounted (r : PodResult) : Prop where
  /-- Every verdict is counted in the pod and in all its containers. -/
  counts : ∀ v, (r.tally.count v).toNat =
    r.findings.countP (fun f => f.outcome.verdict = v) +
      (r.containers.map fun d => d.findings.countP fun f => f.outcome.verdict = v).sum
  /-- There is nothing without data. -/
  noData : r.tally.noData = 0
  /-- In all there are as many as findings. -/
  total : r.tally.total.toNat =
    r.findings.length + (r.containers.map fun d => d.findings.length).sum

theorem isCounted {r : PodResult} (small : r.allFindings.length < 2 ^ 32) : r.IsCounted where
  counts v := by
    rw [tally_eq, Tally.toNat_count_ofFindings small, allFindings, List.countP_append,
      List.countP_flatMap]
    rfl
  noData := by
    have hnone : Verdict.noData ∉ r.allFindings.map fun f => f.outcome.verdict := by
      intro hmem
      obtain ⟨f, -, hf⟩ := List.mem_map.1 hmem
      exact f.outcome.verdict_ne_noData hf
    have hcount : r.tally.count .noData = 0 := by
      rw [tally_eq, Tally.ofFindings, Tally.count_ofVerdicts, List.count_eq_zero_of_not_mem hnone]
      rfl
    exact hcount
  total := by
    rw [tally_eq, Tally.ofFindings, Tally.total_ofVerdicts, List.length_map,
      UInt32.toNat_ofNat_of_lt' small, allFindings, List.length_append, List.length_flatMap]

end PodResult

/-! ### All pods -/

/-- **A check ends as the finding does that it is made of**, and there is one for each. -/
theorem Check.map_verdict_ofResult (r : ControllerResult) :
    (ofResult r).map Check.verdict = r.pod.allFindings.map fun f => f.outcome.verdict := by
  simp only [ofResult, PodResult.allFindings, List.map_append, List.map_map, List.map_flatMap]
  rfl

namespace Configuration

/-- **All findings of an evaluation**, controller after controller. -/
def allFindings (c : Configuration) (s : Snapshot) : List Finding :=
  (c.evaluate s).flatMap fun r => r.pod.allFindings

theorem length_allFindings_le {c : Configuration} {s : Snapshot} {r : ControllerResult}
    (hr : r ∈ c.evaluate s) : r.pod.allFindings.length ≤ (c.allFindings s).length := by
  have hmem : r.pod.allFindings ∈ (c.evaluate s).map fun r => r.pod.allFindings :=
    List.mem_map_of_mem hr
  rw [allFindings, List.flatMap_def]
  exact (List.sublist_flatten_of_mem hmem).length_le

/-- Added up word by word, the tallies of the pods are the tally of all findings. -/
theorem sum_tally_evaluate (c : Configuration) (s : Snapshot) :
    Tally.sum ((c.evaluate s).map fun r => r.pod.tally) = .ofFindings (c.allFindings s) := by
  simp only [PodResult.tally_eq, Tally.ofFindings, Tally.sum_map_ofVerdicts, allFindings,
    List.map_flatMap]

/-- **The overall counts of a report without scans** are the tally of all findings as well. -/
theorem overallSummary_report_none (c : Configuration) (s : Snapshot) :
    (Audit.report c s none).overallSummary.counts = .ofFindings (c.allFindings s) := by
  have hverdicts : (s.controllers.flatMap (Audit.ruleChecks c)).map Check.verdict =
      (c.allFindings s).map fun f => f.outcome.verdict := by
    rw [allFindings, evaluate, List.flatMap_map, List.map_flatMap, List.map_flatMap]
    exact List.flatMap_congr fun k _ => Check.map_verdict_ofResult _
  rw [Audit.overallSummary_report_eq, Audit.checks_report_eq, Audit.flatMap_imageChecks_none,
    List.append_nil, hverdicts, Tally.ofFindings]

/-- **Both counts agree.** The tallies of all pods add up to the overall counts of the report, field
by field. As long as there are fewer than `2 ^ 32` findings the numbers are exact: the sums do not
overflow, and the tally of every pod says how many of its findings and of those of its containers
ended in each verdict. A controller that makes no pods adds nothing. -/
theorem sum_tally_eq_overall {c : Configuration} {s : Snapshot}
    (small : (c.allFindings s).length < 2 ^ 32) :
    Tally.sum ((c.evaluate s).map fun r => r.pod.tally) =
      (Audit.report c s none).overallSummary.counts ∧
    (∀ v, ((c.evaluate s).map fun r => (r.pod.tally.count v).toNat).sum =
      ((Audit.report c s none).overallSummary.counts.count v).toNat) ∧
    (∀ r ∈ c.evaluate s, r.pod.IsCounted) ∧
    ∀ k ∈ s.controllers, k.podSpec = none → (c.evaluateController k).pod.tally = {} := by
  have hpod : ∀ r ∈ c.evaluate s, r.pod.allFindings.length < 2 ^ 32 := fun r hr =>
    Nat.lt_of_le_of_lt (length_allFindings_le hr) small
  refine ⟨?_, fun v => ?_, fun r hr => PodResult.isCounted (hpod r hr), fun k _ hnone => ?_⟩
  · rw [sum_tally_evaluate, overallSummary_report_none]
  · rw [overallSummary_report_none, Tally.toNat_count_ofFindings small, allFindings,
      List.countP_flatMap]
    refine congrArg List.sum (List.map_congr_left fun r hr => ?_)
    rw [PodResult.tally_eq, Tally.toNat_count_ofFindings (hpod r hr), Function.comp_apply]
  · rw [evaluateController, hnone]
    rfl

/-- A deployment with two containers and a job without pods: three findings are counted in the pod
of the one and in the report alike. -/
theorem sum_tally_eq_overall_pinned :
    let c : Configuration := {
      security := .insert .empty "hostIPCSet" .error
      images := .insert .empty "tagNotSpecified" .warning }
    let pod : PodSpec := { containers := [{ name := "app", image := some "nginx:1.25" },
      { name := "proxy", image := some "envoy" }] }
    let s : Snapshot := {
      deployments := [⟨{ name := some "web" }, some pod⟩]
      jobs := [⟨{ name := some "migrate" }, none⟩] }
    (c.allFindings s).length = 3 ∧
    ((Audit.report c s none).overallSummary.counts.count .success).toNat = 2 ∧
    ((Audit.report c s none).overallSummary.counts.count .warning).toNat = 1 := by
  intro c pod s
  have hlength : (c.allFindings s).length = 3 := by decide
  obtain ⟨-, hsum, -, -⟩ := sum_tally_eq_overall (c := c) (s := s) (by rw [hlength]; decide)
  refine ⟨hlength, ?_, ?_⟩
  · rw [← hsum]
    decide
  · rw [← hsum]
    decide

end Configuration

end ClusterAudit
