import ClusterAudit.Proofs.Report.Lookup
import ClusterAudit.Proofs.Service.Gathering
import ClusterAudit.Proofs.Vulnerability.Sorting
import ClusterAudit.Proofs.Vulnerability.Usage

/-!
# What the summaries of a scanner say in a report

A scanner lists summaries, and nobody keeps it from listing images that it was not asked about, one
image twice or none at all, or counters in any order. An audit sorts the counters, makes a table of
the summaries and looks the image of every container up in it.

What is left of a summary in a report is its verdict alone. So all that a list of summaries means
for a report is one verdict for each image of the snapshot, the one of the last summary of this
image (`ClusterAudit.ScanSummary.verdictIn`), and lists with the same verdicts make the same report
(`ClusterAudit.Audit.report_tableOf_congr`). Which changes of a list keep the verdicts is then a
question about the list: further summaries of other images do, another order of the summaries does
if no two are of one image, and another order of the counters always does
(`ClusterAudit.ScanSummary.Agrees`), sorting them among others.
-/

namespace ClusterAudit

/-! ### Verdicts of summaries -/

namespace ScanSummary

/-- **The verdict on an image** among summaries: that of the last one of this image. Without one
there is no data. -/
def verdictIn (l : List ScanSummary) (image : String) : Verdict :=
  ((l.filter fun s => s.image = image).map verdict).getLast?.getD .noData

variable {l l' : List ScanSummary} {image : String}

/-- A table of summaries knows the verdict of every image. -/
theorem verdictIn_eq_get? (l : List ScanSummary) (image : String) :
    verdictIn l image = (((tableOf l).get? image).map verdict).getD .noData := by
  rw [verdictIn, List.getLast?_map, List.getLast?_filter, get?_tableOf_eq_find?]
  rfl

/-- Summaries of other images do not matter. -/
theorem verdictIn_filter {images : List String} (h : image ∈ images) :
    verdictIn (l.filter fun s => s.image ∈ images) image = verdictIn l image := by
  have hfilter : (l.filter fun s => s.image ∈ images).filter (fun s => s.image = image)
      = l.filter fun s => s.image = image := by
    rw [List.filter_filter]
    refine List.filter_congr fun s _ => ?_
    by_cases himage : s.image = image
    · simp [himage, h]
    · simp [himage]
  rw [verdictIn, verdictIn, hfilter]

/-- In whatever order summaries of different images stand, those of one image are the same: there is
at most one. -/
theorem filter_eq_of_perm (hperm : l.Perm l') (hnodup : (l.map ScanSummary.image).Nodup) :
    (l.filter fun s => s.image = image) = l'.filter fun s => s.image = image := by
  have hnodup' : (l'.map ScanSummary.image).Nodup := (hperm.map _).nodup_iff.1 hnodup
  have hdistinct : ∀ m : List ScanSummary, (m.map ScanSummary.image).Nodup →
      (m.filter fun s => s.image = image).Pairwise fun s t => s.image ≠ t.image :=
    fun m hm => (List.pairwise_map.1 hm).filter _
  refine List.Perm.eq_of_pairwise (fun s t hs ht hne _ => ?_) (hdistinct l hnodup)
    (hdistinct l' hnodup') (hperm.filter _)
  have himage : s.image = image := of_decide_eq_true (List.mem_filter.1 hs).2
  have himage' : t.image = image := of_decide_eq_true (List.mem_filter.1 ht).2
  exact absurd (himage.trans himage'.symm) hne

/-- **The order of summaries does not matter** when they are of different images. -/
theorem verdictIn_of_perm (hperm : l.Perm l') (hnodup : (l.map ScanSummary.image).Nodup)
    (image : String) : verdictIn l image = verdictIn l' image := by
  rw [verdictIn, verdictIn, filter_eq_of_perm hperm hnodup]

/-- **Nor does the order of counters** in any of them. -/
theorem verdictIn_of_agrees (h : List.Forall₂ Agrees l l') (image : String) :
    verdictIn l image = verdictIn l' image := by
  have hverdicts : (l.filter fun s => s.image = image).map verdict
      = (l'.filter fun s => s.image = image).map verdict := by
    -- both lists keep the summaries of a place or both drop them, as these are of one image
    induction h with
    | nil => rfl
    | @cons s t l l' hagrees _ ih =>
      by_cases himage : s.image = image
      · have himage' : t.image = image := hagrees.image ▸ himage
        simp only [List.filter_cons, himage, himage', decide_true, if_true, List.map_cons,
          hagrees.verdict_eq, ih]
      · have himage' : t.image ≠ image := hagrees.image ▸ himage
        simp only [List.filter_cons, himage, himage', decide_false, Bool.false_eq_true, if_false,
          ih]
  rw [verdictIn, verdictIn, hverdicts]

theorem forall₂_agrees_sortCounters (l : List ScanSummary) :
    List.Forall₂ Agrees l (l.map sortCounters) :=
  List.forall₂_map_right_iff.2 (List.forall₂_same.2 fun s _ => agrees_sortCounters s)

end ScanSummary

open ScanSummary (verdictIn)

/-! ### Checks of summaries -/

/-- The check of the image of a container that ended in a verdict. -/
def Check.judged (k : Controller) (container : Container) (image : String) (verdict : Verdict) :
    Check where
  id := "image-scan." ++ image
  group := "image-scan"
  category := k.kind.pathSegment
  resource := k.containerPath container.name
  verdict := verdict

theorem Check.ofImage_tableOf (l : List ScanSummary) (k : Controller) (container : Container)
    (image : String) :
    ofImage (ScanSummary.tableOf l) k container image =
      judged k container image (verdictIn l image) := by
  rw [ScanSummary.verdictIn_eq_get?, ofImage, judged, imageScanGroup]
  cases (ScanSummary.tableOf l).get? image with
  | none => rfl
  | some s => rfl

namespace Audit

/-- **The checks of summaries**: one for every container of a controller that names an image. -/
def judgements (v : Snapshot) (l : List ScanSummary) : List Check :=
  v.controllers.flatMap fun k => k.containers.filterMap fun container =>
    container.image?.map fun image => Check.judged k container image (verdictIn l image)

theorem flatMap_ofImages_tableOf (v : Snapshot) (l : List ScanSummary) :
    v.controllers.flatMap (Check.ofImages (ScanSummary.tableOf l)) = judgements v l := by
  refine List.flatMap_congr fun k _ => List.filterMap_congr fun container _ => ?_
  cases container.image? with
  | none => rfl
  | some image => exact congrArg some (Check.ofImage_tableOf l k container image)

theorem judgements_congr {v : Snapshot} {l l' : List ScanSummary}
    (h : ∀ image ∈ v.images, verdictIn l image = verdictIn l' image) :
    judgements v l = judgements v l' := by
  refine List.flatMap_congr fun k hk => List.filterMap_congr fun container hcontainer => ?_
  cases himage : container.image? with
  | none => rfl
  | some image =>
    have hmem : image ∈ v.images := Snapshot.mem_images.2 ⟨k, hk, container, hcontainer, himage⟩
    exact congrArg (fun x => some (Check.judged k container image x)) (h image hmem)

variable (c : Configuration)

theorem checks_report_tableOf (v : Snapshot) (l : List ScanSummary) :
    (report c v (some (ScanSummary.tableOf l))).checks =
      (report c v none).checks ++ judgements v l := by
  rw [checks_report_eq, checks_report_eq, flatMap_imageChecks_none, List.append_nil,
    ← flatMap_ofImages_tableOf]
  rfl

/-- **Of summaries a report shows the verdicts**, and those only of the images of its snapshot. -/
theorem report_tableOf_congr {v : Snapshot} {l l' : List ScanSummary}
    (h : ∀ image ∈ v.images, verdictIn l image = verdictIn l' image) :
    report c v (some (ScanSummary.tableOf l)) = report c v (some (ScanSummary.tableOf l')) := by
  have hchecks : v.controllers.flatMap (Check.ofImages (ScanSummary.tableOf l))
      = v.controllers.flatMap (Check.ofImages (ScanSummary.tableOf l')) := by
    rw [flatMap_ofImages_tableOf, flatMap_ofImages_tableOf, judgements_congr h]
  exact congrArg Report.finalize (Report.addScans_eq_of_checks_eq hchecks _)

/-- **There is a report of what a scanner gives.** It is that of the summaries as they came: that
their counters are sorted before does not show, nor that without images nothing is asked. -/
theorem run_ofScanner {s : Snapshot} {net : Network} {sc : Scanner} {given : List ScanSummary}
    (h : (s.restrictTo c.namespacesToScan).images ≠ [] →
      sc.Gives net (s.restrictTo c.namespacesToScan).images given) :
    run c (.ok s) (some (.ofScanner net sc)) =
      .ok (report c (s.restrictTo c.namespacesToScan) (some (ScanSummary.tableOf given))) := by
  rw [run_ok]
  generalize s.restrictTo c.namespacesToScan = v at h ⊢
  by_cases himages : v.images = []
  -- nothing is asked, and of no images a report shows no verdict
  · have hnone : Lookup.ofScanner net sc v.images = .ok .empty :=
      Lookup.ofScanner_eq_ok.2 (.inl ⟨himages, rfl⟩)
    have hsame : report c v (some .empty) = report c v (some (ScanSummary.tableOf given)) := by
      refine report_congr (fun image himage => ?_) c
      rw [himages] at himage
      cases himage
    rw [hnone, ← hsame]
    rfl
  · have hsome : Lookup.ofScanner net sc v.images =
        .ok (ScanSummary.tableOf (given.map ScanSummary.sortCounters)) :=
      Lookup.ofScanner_eq_ok.2 (.inr ⟨himages, given, h himages, rfl⟩)
    have hsame : report c v (some (ScanSummary.tableOf given)) =
        report c v (some (ScanSummary.tableOf (given.map ScanSummary.sortCounters))) :=
      report_tableOf_congr c fun image _ =>
        ScanSummary.verdictIn_of_agrees (ScanSummary.forall₂_agrees_sortCounters given) image
    rw [hsome, hsame]
    rfl

/-- **An audit with a scanner judges every image by the last summary of it.** Whatever summaries the
scanner gives, there is a report: behind the checks that it has without a scanner there is one check
for each container that names an image, and its verdict is that of the last summary whose image is
this one; without one there is no data. What another scanner gives in place of these summaries makes
the same report if it has the same summaries of the images that are looked at, whatever it has of
others; if it has the same summaries in another order and no two of them are of one image; and if
its summaries differ only in the order of their counters. -/
theorem run_ofScanner_exact (c : Configuration) (s : Snapshot) (net : Network) (sc : Scanner)
    (given : List ScanSummary) :
    let v := s.restrictTo c.namespacesToScan
    (v.images ≠ [] → sc.Gives net v.images given) →
    (∃ r, run c (.ok s) (some (.ofScanner net sc)) = .ok r ∧
      r.checks = (report c v none).checks ++ v.controllers.flatMap fun k =>
        k.containers.filterMap fun container => container.image?.map fun image =>
          Check.judged k container image (verdictIn given image)) ∧
    ∀ (net' : Network) (sc' : Scanner) (given' : List ScanSummary),
      (v.images ≠ [] → sc'.Gives net' v.images given') →
      ((given.filter fun t => t.image ∈ v.images) =
          (given'.filter fun t => t.image ∈ v.images) →
        run c (.ok s) (some (.ofScanner net' sc')) = run c (.ok s) (some (.ofScanner net sc))) ∧
      (given.Perm given' → (given.map ScanSummary.image).Nodup →
        run c (.ok s) (some (.ofScanner net' sc')) = run c (.ok s) (some (.ofScanner net sc))) ∧
      (List.Forall₂ ScanSummary.Agrees given given' →
        run c (.ok s) (some (.ofScanner net' sc')) =
          run c (.ok s) (some (.ofScanner net sc))) := by
  intro v hgives
  refine ⟨⟨_, run_ofScanner c hgives, checks_report_tableOf c v given⟩, ?_⟩
  intro net' sc' given' hgives'
  -- in all three cases the verdicts of the images that are looked at are the same
  have hsame : (∀ image ∈ v.images, verdictIn given image = verdictIn given' image) →
      run c (.ok s) (some (.ofScanner net' sc')) = run c (.ok s) (some (.ofScanner net sc)) := by
    intro hverdicts
    rw [run_ofScanner c hgives', run_ofScanner c hgives]
    exact congrArg Except.ok (report_tableOf_congr c hverdicts).symm
  refine ⟨fun hfilter => hsame fun image himage => ?_, fun hperm hnodup => hsame fun image _ => ?_,
    fun hagrees => hsame fun image _ => ?_⟩
  · rw [← ScanSummary.verdictIn_filter himage, hfilter, ScanSummary.verdictIn_filter himage]
  · exact ScanSummary.verdictIn_of_perm hperm hnodup image
  · exact ScanSummary.verdictIn_of_agrees hagrees image

/-- Summaries in JSON, each of them and each of their counters as the list of its field values. -/
def listed (l : List ScanSummary) : Json :=
  .array (l.map fun s => .array [.string s.image, s.status.toJson, .string s.description,
    .array (s.counters.map fun c => .array [.string c.severity, .count c.count])])

/-- A network that answers every request with these summaries. -/
def answering (l : List ScanSummary) : Network := fun _ =>
  .response 200 (listed l).compact

/-- Of two summaries of `nginx` the last one counts, and there is none of `redis`. The counters may
come in the other order, a summary of an image that nobody runs may come between the two, and
summaries of different images may come in any order. -/
theorem run_ofScanner_exact_twice :
    let sc : Scanner := ⟨{ scheme := "http", host := some (.name "scanner") }, rfl⟩
    let s : Snapshot := { deployments := [⟨{ name := some "web" }, some { containers :=
      [{ name := "app", image := some "nginx" }, { name := "db", image := some "redis" }] }⟩] }
    let nginx (counters : List SeverityCount) : ScanSummary :=
      { image := "nginx", status := .succeeded, counters }
    let busybox : ScanSummary := { image := "busybox" }
    let audit (l : List ScanSummary) := run {} (.ok s) (some (.ofScanner (answering l) sc))
    let low : SeverityCount := ⟨"LOW", 2⟩
    let high : SeverityCount := ⟨"HIGH", 1⟩
    (∃ r, audit [nginx [], nginx [low, high]] = .ok r ∧
      r.checks = (report {} s none).checks ++
        [⟨"image-scan.nginx", "image-scan", "deployments",
            "/ns/default/deployments/web/containers/app", .error⟩,
          ⟨"image-scan.redis", "image-scan", "deployments",
            "/ns/default/deployments/web/containers/db", .noData⟩]) ∧
    audit [nginx [], nginx [high, low]] = audit [nginx [], nginx [low, high]] ∧
    audit [nginx [], busybox, nginx [low, high]] = audit [nginx [], nginx [low, high]] ∧
    audit [nginx [low], busybox] = audit [busybox, nginx [low]] := by
  intro sc s nginx busybox audit low high
  have hgives : ∀ l, (Json.select? Scanner.listSelection (listed l).compact).bind
      Scanner.summaries? = some l →
      (s.restrictTo []).images ≠ [] → sc.Gives (answering l) (s.restrictTo []).images l := by
    intro l hl _
    obtain ⟨x, hselect, hread⟩ := Option.bind_eq_some_iff.1 hl
    exact ⟨_, x, ⟨by decide +kernel, 200, rfl, rfl⟩, hselect, hread⟩
  obtain ⟨⟨r, hrun, hchecks⟩, hsame⟩ := run_ofScanner_exact {} s
    (answering [nginx [], nginx [low, high]]) sc _ (hgives _ (by decide +kernel))
  obtain ⟨-, hcounters⟩ := hsame (answering [nginx [], nginx [high, low]]) sc _
    (hgives _ (by decide +kernel))
  obtain ⟨hfurther, -⟩ := hsame (answering [nginx [], busybox, nginx [low, high]]) sc _
    (hgives _ (by decide +kernel))
  obtain ⟨-, hothers⟩ := run_ofScanner_exact {} s (answering [busybox, nginx [low]]) sc _
    (hgives _ (by decide +kernel))
  obtain ⟨-, hperm, -⟩ := hothers (answering [nginx [low], busybox]) sc _
    (hgives _ (by decide +kernel))
  refine ⟨⟨r, hrun, hchecks.trans ?_⟩, hcounters.2 ?_, hfurther (by decide +kernel),
    hperm (List.Perm.swap _ _ _) (by decide)⟩
  · exact congrArg _ (by decide +kernel)
  · exact .cons ⟨rfl, rfl, List.Perm.refl _⟩ (.cons ⟨rfl, rfl, List.Perm.swap _ _ _⟩ .nil)

end Audit

end ClusterAudit
