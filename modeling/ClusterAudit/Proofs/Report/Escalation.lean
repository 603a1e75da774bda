import ClusterAudit.Proofs.Report.Derived
import ClusterAudit.Proofs.Report.Independence
import ClusterAudit.Proofs.Report.Score

/-!
# Making warnings errors

A configuration is made stricter when the failure of some rules becomes an error that was a warning
before. This never makes a report look better. The checks stay what they are, one by one, except
that those which failed under such a rule end in an error
(`ClusterAudit.Audit.checks_report_of_escalates`): a rule is asked at the same places whether its
failure is a warning or an error, and what it says of a place that passes is the same as well.

So every check of the laxer report ends as well as its counterpart or better, and what is known of
lists of such checks (`ClusterAudit.Tally.score_le_of_improves`) is all that is needed for the score
and the grade.
-/

namespace ClusterAudit

/-! ### Stricter configurations -/

namespace Configuration

/-- A configuration without the tables of its rules: all else that it says. -/
def withoutRules (c : Configuration) : Configuration :=
  { c with
    security := .empty
    networking := .empty
    resources := .empty
    images := .empty
    healthChecks := .empty }

/-- **A configuration escalates to another one**: some rules that were warnings are errors, and
nothing else is different. -/
structure Escalates (c c' : Configuration) : Prop where
  /-- An action is the same, or it was a warning and is an error. -/
  actions : ∀ g id, (c'.rules g).get? id = (c.rules g).get? id ∨
    (c.rules g).get? id = some .warning ∧ (c'.rules g).get? id = some .error
  /-- All that is not about rules is the same. -/
  rest : c'.withoutRules = c.withoutRules

/-- A rule that was a warning and is an error. -/
def Raises (c c' : Configuration) (r : Rule) : Prop :=
  (c.rules r.group).get? r.id = some .warning ∧ (c'.rules r.group).get? r.id = some .error

instance (c c' : Configuration) (r : Rule) : Decidable (c.Raises c' r) :=
  inferInstanceAs (Decidable (_ ∧ _))

variable {c c' : Configuration}

theorem Escalates.exemptions (h : c.Escalates c') : c'.exemptions = c.exemptions :=
  (congrArg Configuration.exemptions h.rest :)

theorem Escalates.disallowExemptions (h : c.Escalates c') :
    c'.disallowExemptions = c.disallowExemptions :=
  (congrArg Configuration.disallowExemptions h.rest :)

/-- A rule is raised, or both configurations say the same about it. -/
theorem Escalates.raises_or_agreeAbout (h : c.Escalates c') (r : Rule) :
    c.Raises c' r ∨ AgreeAbout r c' c := by
  rcases h.actions r.group r.id with hsame | hraised
  · exact .inr ⟨hsame, h.exemptions, h.disallowExemptions⟩
  · exact .inl hraised

/-- **A rule that is raised contributes where it did**, as an error. -/
theorem Escalates.contributes_iff (h : c.Escalates c') {r : Rule} (hr : c.Raises c' r) {p : Place} :
    c'.Contributes p r .error ↔ c.Contributes p r .warning := by
  have hexempt := h.exemptions
  have hdisallow := h.disallowExemptions
  constructor
  · rintro ⟨-, -, hnot, hconcerns⟩
    exact ⟨hr.1, by decide, hdisallow ▸ hexempt ▸ hnot, hconcerns⟩
  · rintro ⟨-, -, hnot, hconcerns⟩
    exact ⟨hr.2, by decide, hdisallow ▸ hexempt ▸ hnot, hconcerns⟩

end Configuration

/-! ### Escalated checks -/

namespace Check

/-- **A check under the stricter configuration**: if it failed with a warning under a rule that is
raised, it is an error. -/
def escalated (c c' : Configuration) (d : Check) : Check :=
  if d.verdict = .warning ∧ ∃ r ∈ Rule.all, c.Raises c' r ∧ d.id = "polaris." ++ r.id then
    { d with verdict := .error }
  else d

variable {c c' : Configuration} {r : Rule} {d : Check}

/-- The names of rules are their own, so a check of a rule is escalated if this rule is raised. -/
theorem escalated_of_id (hr : r ∈ Rule.all) (hid : d.id = "polaris." ++ r.id) :
    d.escalated c c' =
      if d.verdict = .warning ∧ c.Raises c' r then { d with verdict := .error } else d := by
  have hraised :
      (∃ r' ∈ Rule.all, c.Raises c' r' ∧ d.id = "polaris." ++ r'.id) ↔ c.Raises c' r := by
    constructor
    · rintro ⟨r', hr', hraised, hid'⟩
      have hsame : r' = r := List.inj_on_of_nodup_map Rule.nodup_id_all hr' hr
        ((String.append_right_inj _).1 (hid'.symm.trans hid))
      exact hsame ▸ hraised
    · exact fun hraised => ⟨r, hr, hraised, hid⟩
  simp only [escalated, hraised]

theorem escalated_of_image {image : String} (hid : d.id = "image-scan." ++ image) :
    d.escalated c c' = d := by
  refine if_neg ?_
  rintro ⟨-, r, -, -, hid'⟩
  exact Audit.ruleName_ne_imageName r.id image (hid'.symm.trans hid)

theorem improves_escalated (c c' : Configuration) (d : Check) :
    (d.escalated c c').verdict.Improves d.verdict := by
  rw [escalated]
  split
  next h =>
    rw [h.1]
    exact .eased
  next => exact .same _

end Check

/-- At every place a rule makes the check that it made, escalated. -/
theorem Configuration.Escalates.expected?_eq {c c' : Configuration} (h : c.Escalates c') {r : Rule}
    (hr : r ∈ Rule.all) (p : Place) :
    c'.expected? p r = (c.expected? p r).map (Check.escalated c c') := by
  rcases h.raises_or_agreeAbout r with hraised | hagree
  · rw [expected?, expected?, hraised.1, hraised.2]
    simp only [h.contributes_iff hraised]
    split
    next hc =>
      have hid : (p.ruleCheck r .warning).id = "polaris." ++ r.id := rfl
      rw [Option.map_some, Check.escalated_of_id hr hid]
      cases hholds : r.holdsAt p <;> simp [Place.ruleCheck, hholds, hraised]
    next => rfl
  · have hnot : ¬c.Raises c' r := by
      rintro ⟨hwarning, herror⟩
      have := hagree.action
      rw [hwarning, herror] at this
      cases this
    rw [hagree.expected?_eq]
    cases hd : c.expected? p r with
    | none => rfl
    | some d =>
      rw [Option.map_some, Check.escalated_of_id hr (Audit.eq_of_expected? hd).1,
        if_neg fun hboth => hnot hboth.2]

namespace Audit

variable {c c' : Configuration}

/-- **A stricter report holds the same checks**, escalated. -/
theorem checks_report_of_escalates (h : c.Escalates c') (s : Snapshot)
    (scans : Option (Table ScanSummary)) :
    (report c' s scans).checks = (report c s scans).checks.map (Check.escalated c c') := by
  have himages : (s.controllers.flatMap (imageChecks scans)).map (Check.escalated c c') =
      s.controllers.flatMap (imageChecks scans) := by
    refine List.map_congr_left (fun d hd => ?_) |>.trans (List.map_id _)
    obtain ⟨image, hid⟩ := id_of_mem_imageChecks hd
    exact Check.escalated_of_image hid
  rw [checks_report_eq, checks_report_eq, List.map_append, himages, flatMap_ruleChecks,
    flatMap_ruleChecks, List.map_flatMap]
  refine congrArg (· ++ _) (List.flatMap_congr fun p _ => ?_)
  rw [List.map_filterMap]
  exact List.filterMap_congr fun r hr => h.expected?_eq hr p

/-- **A stricter configuration never makes a better report.** Where nothing is changed but that
some rules are errors that were warnings, the report holds the same checks in the same order, about
the same resources; those that failed with a warning under a rule that is raised are errors, and all
others end as before. As long as the counts do not overflow, the score is the same or lower, and the
grade is the same or worse. -/
theorem report_of_escalates (h : c.Escalates c') (s : Snapshot)
    (scans : Option (Table ScanSummary)) :
    let old := report c s scans
    let new := report c' s scans
    new.checks = old.checks.map (Check.escalated c c') ∧
    (new.checks.map fun d => (d.id, d.resource)) = (old.checks.map fun d => (d.id, d.resource)) ∧
    (old.checks.length < 2 ^ 32 → new.cluster.score ≤ old.cluster.score ∧
      Grade.rank old.cluster.grade ≤ Grade.rank new.cluster.grade) := by
  intro old new
  have hchecks : new.checks = old.checks.map (Check.escalated c c') :=
    checks_report_of_escalates h s scans
  refine ⟨hchecks, ?_, fun small => ?_⟩
  · rw [hchecks, List.map_map]
    refine List.map_congr_left fun d _ => ?_
    rw [Function.comp_apply, Check.escalated]
    split <;> rfl
  · have hverdicts : List.Forall₂ Verdict.Improves (new.checks.map Check.verdict)
        (old.checks.map Check.verdict) := by
      rw [hchecks, List.map_map, List.forall₂_map_left_iff, List.forall₂_map_right_iff,
        List.forall₂_same]
      exact fun d _ => Check.improves_escalated c c' d
    have hscore : new.cluster.score ≤ old.cluster.score := by
      rw [score_report_eq, score_report_eq]
      refine Tally.score_le_of_improves ?_ hverdicts
      rwa [List.length_map, hchecks, List.length_map]
    refine ⟨hscore, ?_⟩
    rw [grade_report_eq, grade_report_eq]
    exact Grade.rank_le_rank hscore

/-- To share the messages of the machine is an error from now on, and to name no tag is a warning as
before. -/
theorem report_of_escalates_hostIPC :
    let c : Configuration := {
      security := .insert .empty "hostIPCSet" .warning
      images := .insert .empty "tagNotSpecified" .warning }
    let c' : Configuration := { c with security := .insert .empty "hostIPCSet" .error }
    let web : PodSpec :=
      { hostIPC := some true, containers := [{ name := "app", image := some "nginx" }] }
    let job : PodSpec := { containers := [{ name := "app", image := some "nginx:1.25" }] }
    let s : Snapshot := {
      deployments := [⟨{ name := some "web" }, some web⟩]
      jobs := [⟨{ name := some "migrate" }, some job⟩] }
    c.Escalates c' ∧ (report c s none).checks.length < 2 ^ 32 ∧
    ((report c s none).checks.map Check.verdict) = [.warning, .warning, .success, .success] ∧
    ((report c' s none).checks.map Check.verdict) = [.error, .warning, .success, .success] ∧
    (report c' s none).cluster.score ≤ (report c s none).cluster.score ∧
    (report c s none).cluster.grade = "D+" ∧ (report c' s none).cluster.grade = "F" := by
  intro c c' web job s
  have h : c.Escalates c' := by
    refine ⟨fun g id => ?_, rfl⟩
    cases g with
    | security =>
      by_cases hid : id = "hostIPCSet"
      · subst hid
        exact .inr ⟨rfl, rfl⟩
      · left
        simp [Configuration.rules, c, c', Table.get?_insert, hid]
    | _ => exact .inl rfl
  have small : (report c s none).checks.length < 2 ^ 32 := by decide
  obtain ⟨hchecks, -, hbetter⟩ := report_of_escalates h s none
  refine ⟨h, small, by decide, ?_, (hbetter small).1, by decide, by decide⟩
  rw [hchecks]
  decide

end Audit

end ClusterAudit
