import ClusterAudit.Proofs.Report.Origin
import Mathlib.Data.List.Basic

/-!
# Which images an audit asks for

An audit goes through the controllers of a snapshot twice where images are concerned. The first walk
collects the images to ask for, each once and in order (`ClusterAudit.Snapshot.images`); the second
makes a check for every container that names an image, out of what was answered. Were the first walk
to miss an image that the second one looks up, the check would say that there is no data, and nobody
would notice.

The two walks do not miss each other: both take of a container what `ClusterAudit.Container.image?`
says, and of a controller all containers (`ClusterAudit.Snapshot.mem_images`,
`ClusterAudit.Check.mem_ofImages`). So a lookup that answers for the images of the snapshot and
for no others is as good as one that answers for all (`ClusterAudit.Audit.report_congr`), and what
a check without data tells is something about the scans.
-/

namespace ClusterAudit

/-! ### Both walks over the images -/

/-- **The images to ask for** are those that the containers of controllers name. -/
theorem Snapshot.mem_images {s : Snapshot} {image : String} :
    image ∈ s.images ↔
      ∃ k ∈ s.controllers, ∃ container ∈ k.containers, container.image? = some image := by
  simp only [images, Text.mem_sortedDistinct, List.mem_flatMap, List.mem_filterMap]

/-- Every image is asked for once, and the images are in order. -/
theorem Snapshot.pairwise_images (s : Snapshot) : s.images.Pairwise (· < ·) :=
  Text.pairwise_sortedDistinct _

namespace Check

/-- **The checks of images** are made for the containers that name one. -/
theorem mem_ofImages {scans : Table ScanSummary} {k : Controller} {d : Check} :
    d ∈ ofImages scans k ↔
      ∃ container ∈ k.containers, ∃ image, container.image? = some image ∧
        ofImage scans k container image = d := by
  simp only [ofImages, List.mem_filterMap, Option.map_eq_some_iff]

/-- A check of an image sees of the scans what they know about this image. -/
theorem ofImage_congr {t t' : Table ScanSummary} {image : String} (h : t.get? image = t'.get? image)
    (k : Controller) (container : Container) :
    ofImage t k container image = ofImage t' k container image := by
  rw [ofImage, ofImage, h]

theorem ofImages_congr {t t' : Table ScanSummary} {k : Controller}
    (h : ∀ container ∈ k.containers, ∀ image, container.image? = some image →
      t.get? image = t'.get? image) :
    ofImages t k = ofImages t' k := by
  refine List.filterMap_congr fun container hcontainer => ?_
  cases himage : container.image? with
  | none => rfl
  | some image =>
    exact congrArg some (ofImage_congr (h container hcontainer image himage) k container)

end Check

/-! ### What has to be answered -/

/-- Of scans only the checks that they make get into a report. -/
theorem Report.addScans_eq_of_checks_eq {s : Snapshot} {t t' : Table ScanSummary}
    (h : s.controllers.flatMap (Check.ofImages t) = s.controllers.flatMap (Check.ofImages t'))
    (r : Report) : r.addScans s t = r.addScans s t' := by
  rw [addScans, addScans, h]

/-- **Scans that know the same about the images of a snapshot make the same checks.** -/
theorem Report.addScans_congr {s : Snapshot} {t t' : Table ScanSummary}
    (h : ∀ image ∈ s.images, t.get? image = t'.get? image) (r : Report) :
    r.addScans s t = r.addScans s t' := by
  refine addScans_eq_of_checks_eq (List.flatMap_congr fun k hk => ?_) r
  exact Check.ofImages_congr fun container hcontainer image himage =>
    h image (Snapshot.mem_images.2 ⟨k, hk, container, hcontainer, himage⟩)

theorem Audit.report_congr {s : Snapshot} {t t' : Table ScanSummary}
    (h : ∀ image ∈ s.images, t.get? image = t'.get? image) (c : Configuration) :
    report c s (some t) = report c s (some t') :=
  congrArg Report.finalize (Report.addScans_congr h _)

/-- **A lookup in a table** knows about the images it is asked for what the table knows, and about
no others. -/
theorem Lookup.ofTable_eq_ok (t : Table ScanSummary) (images : List String) :
    ∃ answered, ofTable t images = .ok answered ∧
      ∀ image, answered.get? image = if image ∈ images then t.get? image else none := by
  refine ⟨_, rfl, fun image => ?_⟩
  have hmem : image ∈ images ↔ image ∈ images.reverse := List.mem_reverse.symm
  simp only [hmem]
  rw [Table.get?_ofList, ← List.filterMap_reverse]
  induction images.reverse with
  | nil => rfl
  | cons i rest ih =>
    rw [List.filterMap_cons]
    cases hi : t.get? i with
    | none =>
      -- an image that the table does not know adds nothing to what is answered
      simp only [Option.map_none, ih, List.mem_cons]
      by_cases heq : image = i
      · simp [heq, hi]
      · simp [heq]
    | some summary =>
      simp only [Option.map_some, List.find?_cons, List.mem_cons]
      by_cases heq : image = i
      · simp [heq, hi]
      · simp only [heq, false_or, beq_false_of_ne (Ne.symm heq), ih]

/-! ### What checks of images say -/

namespace Check

/-- **There is no data for an image** exactly when no scan of it that succeeded is known. -/
theorem verdict_ofImage_eq_noData {t : Table ScanSummary} {k : Controller} {container : Container}
    {image : String} :
    (ofImage t k container image).verdict = .noData ↔
      ∀ summary, t.get? image = some summary → summary.status ≠ .succeeded := by
  rw [ofImage]
  cases t.get? image with
  | none => simp
  | some summary => simpa using ScanSummary.verdict_eq_noData

theorem group_of_mem_ofImages {t : Table ScanSummary} {k : Controller} {d : Check}
    (h : d ∈ ofImages t k) : d.group = imageScanGroup := by
  obtain ⟨container, -, image, -, rfl⟩ := mem_ofImages.1 h
  rfl

theorem group_ne_of_mem_ofResult {r : ControllerResult} {d : Check} (h : d ∈ ofResult r) :
    d.group ≠ imageScanGroup := by
  have hmark : ∀ (kind : WorkloadKind) (resource : String) (f : Finding),
      (ofFinding kind resource f).group ≠ imageScanGroup := by
    intro kind resource f heq
    have hfirst := congrArg (fun g => g.toList.head?) heq
    simp [ofFinding, policyMark, imageScanGroup] at hfirst
  rcases List.mem_append.1 h with h | h
  · obtain ⟨f, -, rfl⟩ := List.mem_map.1 h
    exact hmark _ _ f
  · obtain ⟨r', -, h⟩ := List.mem_flatMap.1 h
    obtain ⟨f, -, rfl⟩ := List.mem_map.1 h
    exact hmark _ _ f

end Check

namespace Audit

variable (c : Configuration) (s : Snapshot) (t : Table ScanSummary)

/-- **The checks of images are one group of a report**, and they do not depend on the rules. -/
theorem filter_checks_report (scans : Option (Table ScanSummary)) :
    (report c s scans).checks.filter (fun d => d.group = Check.imageScanGroup)
      = s.controllers.flatMap (imageChecks scans) := by
  have hrules : (s.controllers.flatMap (ruleChecks c)).filter
      (fun d => d.group = Check.imageScanGroup) = [] := by
    refine List.filter_eq_nil_iff.2 fun d hd => ?_
    obtain ⟨k, -, hd⟩ := List.mem_flatMap.1 hd
    simpa using Check.group_ne_of_mem_ofResult hd
  have himages : (s.controllers.flatMap (imageChecks scans)).filter
      (fun d => d.group = Check.imageScanGroup) = s.controllers.flatMap (imageChecks scans) := by
    refine List.filter_eq_self.2 fun d hd => ?_
    obtain ⟨k, -, hd⟩ := List.mem_flatMap.1 hd
    cases scans with
    | none => exact absurd hd List.not_mem_nil
    | some t => simpa using Check.group_of_mem_ofImages hd
  rw [checks_report_eq, List.filter_append, hrules, himages, List.nil_append]

/-- The checks that scans add to a report. -/
def scanChecks : List Check :=
  ((Report.ofSnapshot s none).addScans s t).checks

theorem scanChecks_eq : scanChecks s t = s.controllers.flatMap (imageChecks (some t)) :=
  List.nil_append _

variable {s t} in
theorem mem_scanChecks {d : Check} :
    d ∈ scanChecks s t ↔ ∃ k ∈ s.controllers, ∃ container ∈ k.containers, ∃ image,
      container.image? = some image ∧ Check.ofImage t k container image = d := by
  simp only [scanChecks_eq, imageChecks, List.mem_flatMap, Check.mem_ofImages]

/-- An audit asks its lookup for the images of the restricted snapshot and makes of the answer
nothing but a report. -/
theorem run_ok (l : Lookup) :
    let v := s.restrictTo c.namespacesToScan
    run c (.ok s) (some l) =
      ((l v.images).mapError AuditFault.scanner).map fun answered =>
        report c v (some answered) := by
  intro v
  have hview : view c (.ok s) = .ok v := rfl
  rw [run, hview]
  dsimp only [lookUp]
  cases l v.images with
  | error e => rfl
  | ok answered => rfl

/-- **An audit asks for every image that it makes a check of, and for no other.** With a table of
scans as its lookup, which answers only for what it is asked, the report is that of the whole table;
any lookup that gives the same answer for the images of the restricted snapshot gives the same
report. These images are in order and each is there once, they are those that scans add checks of,
and such a check has no data exactly when the table has no scan of its image that succeeded. -/
theorem run_ofTable (c : Configuration) (s : Snapshot) (t : Table ScanSummary) :
    let v := s.restrictTo c.namespacesToScan
    run c (.ok s) (some (.ofTable t)) = .ok (report c v (some t)) ∧
    (∀ l : Lookup, l v.images = Lookup.ofTable t v.images →
      run c (.ok s) (some l) = .ok (report c v (some t))) ∧
    v.images.Pairwise (· < ·) ∧
    (report c v (some t)).checks.filter (fun d => d.group = Check.imageScanGroup) =
      scanChecks v t ∧
    (∀ image, image ∈ v.images ↔ ∃ d ∈ scanChecks v t, d.id = "image-scan." ++ image) ∧
    ∀ d ∈ scanChecks v t, ∃ image ∈ v.images, d.id = "image-scan." ++ image ∧
      (d.verdict = .noData ↔
        ∀ summary, t.get? image = some summary → summary.status ≠ .succeeded) := by
  intro v
  have hrun : ∀ l : Lookup, l v.images = Lookup.ofTable t v.images →
      run c (.ok s) (some l) = .ok (report c v (some t)) := by
    intro l hl
    obtain ⟨answered, hok, hget⟩ := Lookup.ofTable_eq_ok t v.images
    have hsame : report c v (some answered) = report c v (some t) :=
      report_congr (fun image himage => by rw [hget, if_pos himage]) c
    rw [run_ok, hl, hok, ← hsame]
    rfl
  refine ⟨hrun _ rfl, hrun, Snapshot.pairwise_images v, ?_, ?_, ?_⟩
  · rw [filter_checks_report, scanChecks_eq]
  · intro image
    rw [Snapshot.mem_images]
    constructor
    · rintro ⟨k, hk, container, hcontainer, himage⟩
      exact ⟨_, mem_scanChecks.2 ⟨k, hk, container, hcontainer, image, himage, rfl⟩, rfl⟩
    · rintro ⟨d, hd, hid⟩
      obtain ⟨k, hk, container, hcontainer, image', himage, rfl⟩ := mem_scanChecks.1 hd
      -- the name of the check tells which image the container names
      exact ⟨k, hk, container, hcontainer, (String.append_right_inj _).1 hid ▸ himage⟩
  · intro d hd
    obtain ⟨k, hk, container, hcontainer, image, himage, rfl⟩ := mem_scanChecks.1 hd
    exact ⟨image, Snapshot.mem_images.2 ⟨k, hk, container, hcontainer, himage⟩, rfl,
      Check.verdict_ofImage_eq_noData⟩

/-- A lookup that refuses every other question does as well, and an image that the table does not
know has no data. -/
theorem run_ofTable_restricted :
    let c : Configuration := { namespacesToScan := ["shop"] }
    let s : Snapshot := {
      deployments := [⟨{ namespaceName := some "shop" },
        some { initContainers := [{ name := "init", image := some "busybox" }]
               containers := [{ name := "app", image := some "nginx" }, { name := "log" }] }⟩]
      jobs := [⟨{ namespaceName := some "test" },
        some { containers := [{ name := "task", image := some "redis" }] }⟩] }
    let v := s.restrictTo c.namespacesToScan
    let t : Table ScanSummary := .ofList [
      ("nginx", { image := "nginx", status := .succeeded }),
      ("redis", { image := "redis", status := .succeeded })]
    let l : Lookup := fun images =>
      if images = ["busybox", "nginx"] then Lookup.ofTable t images
      else .error (.notABase "http://scanner")
    l v.images = Lookup.ofTable t v.images ∧
    run c (.ok s) (some l) = .ok (report c v (some t)) ∧
    ((scanChecks v t).map fun d => (d.id, d.verdict)) =
      [("image-scan.busybox", .noData), ("image-scan.nginx", .success)] := by
  intro c s v t l
  have hl : l v.images = Lookup.ofTable t v.images := by decide
  exact ⟨hl, (run_ofTable c s t).2.1 l hl, by decide⟩

end Audit

end ClusterAudit
