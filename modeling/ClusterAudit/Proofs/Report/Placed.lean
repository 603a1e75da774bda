import ClusterAudit.Proofs.Report.Reference

/-!
# The checks of a report with what they are about

A check says what it is about in words: its path names a place and its name a rule. Where a
statement is about places and rules, the words are in the way, since a path may be read in two ways
when names have slashes in them. `ClusterAudit.Audit.placedChecks` is the list of the checks of a
report with the place of each and, for the checks of rules, the rule. Without places and rules it is
the list of the checks (`ClusterAudit.Audit.map_check_placedChecks`), so what holds of it holds of
the report.

A report holds nothing that its checks and the name of the cluster do not say
(`ClusterAudit.Audit.report_eq_of_checks_eq`), so reports are compared by their checks.
-/

namespace ClusterAudit

/-! ### Checks at places -/

/-- A check with what it is about. -/
structure PlacedCheck where
  /-- The place. -/
  place : Place
  /-- The rule, unless the check is one of an image. -/
  rule : Option Rule
  /-- The check. -/
  check : Check

namespace Audit

/-- The checks of rules, place after place and rule after rule. -/
def placedRuleChecks (c : Configuration) (s : Snapshot) : List PlacedCheck :=
  s.places.flatMap fun p => Rule.all.filterMap fun r =>
    (c.expected? p r).map (PlacedCheck.mk p (some r))

/-- The checks of images, place after place; none without scans. -/
def placedImageChecks (s : Snapshot) (scans : Option (Table ScanSummary)) : List PlacedCheck :=
  match scans with
  | none => []
  | some t => s.places.filterMap fun p => (p.imageCheck? t).map (PlacedCheck.mk p none)

/-- **The checks of a report with what they are about.** -/
def placedChecks (c : Configuration) (s : Snapshot) (scans : Option (Table ScanSummary)) :
    List PlacedCheck :=
  placedRuleChecks c s ++ placedImageChecks s scans

variable (c : Configuration) (s : Snapshot) (scans : Option (Table ScanSummary))

theorem map_check_placedRuleChecks :
    (placedRuleChecks c s).map PlacedCheck.check = s.controllers.flatMap (ruleChecks c) := by
  rw [flatMap_ruleChecks, placedRuleChecks, List.map_flatMap]
  refine List.flatMap_congr fun p _ => ?_
  rw [List.map_filterMap]
  refine List.filterMap_congr fun r _ => ?_
  cases c.expected? p r <;> rfl

theorem map_check_placedImageChecks :
    (placedImageChecks s scans).map PlacedCheck.check =
      s.controllers.flatMap (imageChecks scans) := by
  cases scans with
  | none => exact (flatMap_imageChecks_none _).symm
  | some t =>
    rw [flatMap_imageChecks, placedImageChecks, List.map_filterMap]
    refine List.filterMap_congr fun p _ => ?_
    cases p.imageCheck? t <;> rfl

/-- **Without places and rules the placed checks are those of the report**, in the same order. -/
theorem map_check_placedChecks :
    (placedChecks c s scans).map PlacedCheck.check = (report c s scans).checks := by
  rw [placedChecks, List.map_append, map_check_placedRuleChecks, map_check_placedImageChecks,
    checks_report_eq]

variable {c s scans}

/-! ### What a placed check is -/

theorem mem_placedRuleChecks {e : PlacedCheck} :
    e ∈ placedRuleChecks c s ↔
      e.place ∈ s.places ∧ ∃ r ∈ Rule.all, e.rule = some r ∧
        c.expected? e.place r = some e.check := by
  obtain ⟨p, rule, d⟩ := e
  simp only [placedRuleChecks, List.mem_flatMap, List.mem_filterMap, Option.map_eq_some_iff,
    PlacedCheck.mk.injEq]
  constructor
  · rintro ⟨p, hp, r, hr, d, hd, rfl, rfl, rfl⟩
    exact ⟨hp, r, hr, rfl, hd⟩
  · rintro ⟨hp, r, hr, rfl, hd⟩
    exact ⟨p, hp, r, hr, d, hd, rfl, rfl, rfl⟩

theorem mem_placedImageChecks {e : PlacedCheck} :
    e ∈ placedImageChecks s scans ↔
      e.place ∈ s.places ∧ e.rule = none ∧ ∃ t, scans = some t ∧
        e.place.imageCheck? t = some e.check := by
  obtain ⟨p, rule, d⟩ := e
  cases scans with
  | none => simp [placedImageChecks]
  | some t =>
    simp only [placedImageChecks, List.mem_filterMap, Option.map_eq_some_iff, PlacedCheck.mk.injEq,
      Option.some.injEq]
    constructor
    · rintro ⟨p, hp, d, hd, rfl, rfl, rfl⟩
      exact ⟨hp, rfl, t, rfl, hd⟩
    · rintro ⟨hp, rfl, t', rfl, hd⟩
      exact ⟨p, hp, d, hd, rfl, rfl, rfl⟩

/-- The check of a rule bears the name of the rule and the path of the place. -/
theorem eq_of_expected? {p : Place} {r : Rule} {d : Check} (h : c.expected? p r = some d) :
    d.id = "polaris." ++ r.id ∧ d.resource = p.resource := by
  rw [Configuration.expected?] at h
  split at h
  · cases h
  · split at h
    · cases h
      exact ⟨rfl, rfl⟩
    · cases h

/-- The check of an image bears the name of the image and the path of the place. -/
theorem eq_of_imageCheck? {t : Table ScanSummary} {p : Place} {d : Check}
    (h : p.imageCheck? t = some d) :
    (∃ image, d.id = "image-scan." ++ image) ∧ d.resource = p.resource := by
  rw [Place.imageCheck?] at h
  split at h
  · cases h
  · split at h
    · cases h
    · split at h
      · cases h
      · cases h
        exact ⟨⟨_, rfl⟩, rfl⟩

/-- No rule and no image make checks of one name: the words in front begin with different letters. -/
theorem ruleName_ne_imageName (id image : String) : "polaris." ++ id ≠ "image-scan." ++ image := by
  intro heq
  have hfirst := congrArg (fun t => t.toList.head?) heq
  simp at hfirst

/-- The checks of images bear the names of images. -/
theorem id_of_mem_imageChecks {d : Check} (h : d ∈ s.controllers.flatMap (imageChecks scans)) :
    ∃ image, d.id = "image-scan." ++ image := by
  rw [← map_check_placedImageChecks] at h
  obtain ⟨e, he, rfl⟩ := List.mem_map.1 h
  obtain ⟨-, -, t, -, hd⟩ := mem_placedImageChecks.1 he
  exact (eq_of_imageCheck? hd).1

/-- **A placed check is about its place**: the place is one of the snapshot, and the check bears its
path. -/
theorem resource_of_mem_placedChecks {e : PlacedCheck} (h : e ∈ placedChecks c s scans) :
    e.place ∈ s.places ∧ e.check.resource = e.place.resource := by
  rcases List.mem_append.1 h with h | h
  · obtain ⟨hp, r, -, -, hd⟩ := mem_placedRuleChecks.1 h
    exact ⟨hp, (eq_of_expected? hd).2⟩
  · obtain ⟨hp, -, t, -, hd⟩ := mem_placedImageChecks.1 h
    exact ⟨hp, (eq_of_imageCheck? hd).2⟩

/-- **A placed check is about its rule**, whose name it bears, or about an image if it has none. -/
theorem id_of_mem_placedChecks {e : PlacedCheck} (h : e ∈ placedChecks c s scans) :
    (∃ r ∈ Rule.all, e.rule = some r ∧ e.check.id = "polaris." ++ r.id) ∨
      e.rule = none ∧ ∃ image, e.check.id = "image-scan." ++ image := by
  rcases List.mem_append.1 h with h | h
  · obtain ⟨-, r, hr, hrule, hd⟩ := mem_placedRuleChecks.1 h
    exact .inl ⟨r, hr, hrule, (eq_of_expected? hd).1⟩
  · obtain ⟨-, hrule, t, -, hd⟩ := mem_placedImageChecks.1 h
    exact .inr ⟨hrule, (eq_of_imageCheck? hd).1⟩

/-! ### Reports by their checks -/

/-- A report is made of its checks and of what is there before them. -/
theorem report_eq_finalize_addChecks :
    report c s scans =
      ((Report.ofSnapshot s c.displayName).addChecks (report c s scans).checks).finalize := by
  have hsome : ∃ l, report c s scans =
      ((Report.ofSnapshot s c.displayName).addChecks l).finalize := by
    cases scans with
    | none => exact ⟨_, rfl⟩
    | some t =>
      let rules := (c.evaluate s).flatMap Check.ofResult
      exact ⟨rules ++ s.controllers.flatMap (Check.ofImages t), rfl⟩
  obtain ⟨l, hl⟩ := hsome
  have hchecks : (report c s scans).checks = l := congrArg Report.checks hl
  rw [hchecks, hl]

/-- **Reports of one snapshot with the same checks are the same**, once they bear the same name. -/
theorem report_eq_of_checks_eq {c' : Configuration} (hname : c.displayName = c'.displayName)
    (hchecks : (report c s scans).checks = (report c' s scans).checks) :
    report c s scans = report c' s scans := by
  rw [report_eq_finalize_addChecks, hname, hchecks, ← report_eq_finalize_addChecks]

end Audit

end ClusterAudit
