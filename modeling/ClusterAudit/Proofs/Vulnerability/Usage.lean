import ClusterAudit.Audit
import ClusterAudit.Proofs.Report.Lookup
import ClusterAudit.Proofs.Report.Narrowing
import ClusterAudit.Proofs.Rule.Catalogue
import Mathlib.Data.List.Nodup
import Mathlib.Data.List.Sort

/-!
# Where images run

A usage says of an image in which pods it runs and what these pods are marked with.
`ClusterAudit.ImageUsage.IsExact` states when it is right about a list of pods: both of its lists
are in order and without repetition, and they name the pods that run the image and no others. Only
one usage of a summary is exact (`ClusterAudit.ImageUsage.IsExact.eq`).

Usages are made from summaries, one after another, and the first summary of an image takes all of
its pods. So whether the usage of a summary is exact depends on what stands in front of it: where
the image was met before, nothing is left (`ClusterAudit.ImageUsage.ofScans_exact`).

An audit asks only for images that are in order and different from each other, and of the
summaries that come back it takes the last one of each. Its summaries are therefore of different
images, whatever the scanner says, and all usages that it lists are exact
(`ClusterAudit.Audit.imageUsage_exact`).
-/

namespace ClusterAudit

/-! ### Pods that run an image -/

namespace Pod

variable {p : Pod} {image a : String}

/-- A pod runs an image: a container of it names exactly this image, one that runs first or another
one. -/
def RunsImage (p : Pod) (image : String) : Prop :=
  ∃ spec, p.spec = some spec ∧ ∃ container,
    (container ∈ spec.initContainers ∨ container ∈ spec.containers) ∧ container.image = some image

theorem runs_iff : p.runs image = true ↔ p.RunsImage image := by
  simp only [runs, RunsImage, Option.any_eq_true, List.any_eq_true, PodSpec.allContainers,
    List.mem_append, beq_iff_eq]

/-- What a pod is marked with: the namespace that it lives in, and each of its labels. -/
def HasAttribute (p : Pod) (a : String) : Prop :=
  "namespace:" ++ p.metadata.effectiveNamespace = a ∨
    ∃ label value, p.metadata.labels.get? label = some value ∧ label ++ ":" ++ value = a

theorem mem_attributes : a ∈ p.attributes ↔ p.HasAttribute a := by
  rw [attributes, HasAttribute, List.mem_cons, eq_comm]
  refine or_congr_right ?_
  simp only [List.mem_map, Prod.exists, Table.mem_entries]

end Pod

/-! ### Exact usages -/

namespace ImageUsage

/-- A usage is **exact** for some pods: it lists those that run its image and what they are marked
with, all of it, nothing else, in order and without repetition. -/
structure IsExact (pods : List Pod) (u : ImageUsage) : Prop where
  /-- The names of pods are in order, and each is there once. -/
  pairwise_pods : u.pods.Pairwise (· < ·)
  /-- They are the names of the pods that run the image, with their namespaces in front. -/
  mem_pods : ∀ name, name ∈ u.pods ↔ ∃ p ∈ pods, p.RunsImage u.scan.image ∧
    p.metadata.effectiveNamespace ++ "." ++ p.metadata.displayName = name
  /-- The attributes are in order, and each is there once. -/
  pairwise_attributes : u.attributes.Pairwise (· < ·)
  /-- They are what the pods that run the image are marked with. -/
  mem_attributes : ∀ a, a ∈ u.attributes ↔ ∃ p ∈ pods, p.RunsImage u.scan.image ∧ p.HasAttribute a

variable {pods : List Pod} {u w : ImageUsage}

/-- **A summary has one exact usage.** -/
theorem IsExact.eq (hu : u.IsExact pods) (hw : w.IsExact pods) (h : u.scan = w.scan) : u = w := by
  have hpods : u.pods = w.pods := by
    refine List.Pairwise.eq_of_mem_iff hu.pairwise_pods hw.pairwise_pods fun name => ?_
    rw [hu.mem_pods, hw.mem_pods, h]
  have hattributes : u.attributes = w.attributes := by
    refine List.Pairwise.eq_of_mem_iff hu.pairwise_attributes hw.pairwise_attributes fun a => ?_
    rw [hu.mem_attributes, hw.mem_attributes, h]
  cases u
  cases w
  simp_all

theorem isExact_ofScan (pods : List Pod) (scan : ScanSummary) :
    (ofScan pods scan).IsExact pods where
  pairwise_pods := Text.pairwise_sortedDistinct _
  mem_pods := by
    intro name
    simp only [ofScan, Text.mem_sortedDistinct, List.mem_map, List.mem_filter, Pod.runs_iff,
      and_assoc, Pod.qualifiedName]
  pairwise_attributes := Text.pairwise_sortedDistinct _
  mem_attributes := by
    intro a
    simp only [ofScan, Text.mem_sortedDistinct, List.mem_flatMap, List.mem_filter, Pod.runs_iff,
      and_assoc, Pod.mem_attributes]

/-- A usage without pods is exact when no pod runs the image, and only then. -/
theorem isExact_of_empty {scan : ScanSummary} :
    IsExact pods { scan } ↔ ∀ p ∈ pods, ¬ p.RunsImage scan.image := by
  constructor
  · intro h p hp hruns
    exact List.not_mem_nil ((h.mem_pods _).2 ⟨p, hp, hruns, rfl⟩)
  · intro hnone
    refine ⟨.nil, fun name => ?_, .nil, fun a => ?_⟩
    · simpa using fun p hp hruns => absurd hruns (hnone p hp)
    · simpa using fun p hp hruns => absurd hruns (hnone p hp)

/-! ### Usages of summaries one after another -/

theorem map_scan_ofScansAfter (seen : List String) (scans : List ScanSummary) :
    (ofScansAfter pods seen scans).map ImageUsage.scan = scans := by
  induction scans generalizing seen with
  | nil => rfl
  | cons scan rest ih =>
    rw [ofScansAfter, List.map_cons, ih]
    split <;> rfl

/-- **There is one usage for every summary**, in the same order. -/
theorem map_scan_ofScans (pods : List Pod) (scans : List ScanSummary) :
    (ofScans pods scans).map ImageUsage.scan = scans :=
  map_scan_ofScansAfter [] scans

/-- What is made of a summary depends on the images in front of it. -/
theorem getElem?_ofScansAfter (pods : List Pod) (seen : List String) (scans : List ScanSummary)
    (i : Nat) :
    (ofScansAfter pods seen scans)[i]? = scans[i]?.map fun scan =>
      if scan.image ∈ seen ∨ scan.image ∈ (scans.take i).map ScanSummary.image then { scan }
      else ofScan pods scan := by
  induction scans generalizing seen i with
  | nil => rfl
  | cons scan rest ih =>
    rw [ofScansAfter]
    cases i with
    | zero => simp
    | succ i =>
      rw [List.getElem?_cons_succ, ih, List.getElem?_cons_succ]
      refine congrFun (congrArg Option.map (funext fun later => ?_)) _
      -- the image of the first summary has moved from the ones in front to those that were seen
      simp only [List.mem_cons, List.take_succ_cons, List.map_cons, or_assoc, or_left_comm]

/-- **The usage of a summary is exact unless its image was met before.** There is one usage for
every summary, with all that the summary says and in the same order. It is exact where its image is
met for the first time; where the image was met before, it has neither pods nor attributes, which is
exact only when no pod runs the image. -/
theorem ofScans_exact (pods : List Pod) (scans : List ScanSummary) :
    (ofScans pods scans).map ImageUsage.scan = scans ∧
    ∀ (i : Nat) (u : ImageUsage), (ofScans pods scans)[i]? = some u →
      (u.scan.image ∈ (scans.take i).map ScanSummary.image → u.pods = [] ∧ u.attributes = []) ∧
      (u.IsExact pods ↔ u.scan.image ∉ (scans.take i).map ScanSummary.image ∨
        ∀ p ∈ pods, ¬ p.RunsImage u.scan.image) := by
  refine ⟨map_scan_ofScans pods scans, fun i u hu => ?_⟩
  rw [ofScans, getElem?_ofScansAfter] at hu
  obtain ⟨scan, -, rfl⟩ := Option.map_eq_some_iff.1 hu
  by_cases hmet : scan.image ∈ (scans.take i).map ScanSummary.image
  · rw [if_pos (.inr hmet)]
    refine ⟨fun _ => ⟨rfl, rfl⟩, ?_⟩
    rw [isExact_of_empty]
    exact (or_iff_right (not_not.2 hmet)).symm
  · have hnew : ¬ (scan.image ∈ [] ∨ scan.image ∈ (scans.take i).map ScanSummary.image) := by
      simpa using hmet
    rw [if_neg hnew]
    exact ⟨fun h => absurd h hmet, fun _ => .inl hmet, fun _ => isExact_ofScan pods scan⟩

/-- Two summaries of one image do not both get its pods. -/
theorem not_isExact_of_repeated :
    ¬ ∀ (pods : List Pod) (scans : List ScanSummary), ∀ u ∈ ofScans pods scans, u.IsExact pods := by
  intro h
  let web : Pod := {
    metadata := { name := some "web-1", namespaceName := some "shop" }
    spec := some { containers := [{ name := "web", image := some "nginx:1.25" }] } }
  let nginx : ScanSummary := { image := "nginx:1.25" }
  have hmem : ({ scan := nginx } : ImageUsage) ∈ ofScans [web] [nginx, nginx] := by decide
  have hnone := isExact_of_empty.1 (h [web] [nginx, nginx] _ hmem) web List.mem_cons_self
  exact hnone (Pod.runs_iff.1 (by decide))

theorem ofScansAfter_of_nodup {seen : List String} {scans : List ScanSummary}
    (hnodup : (scans.map ScanSummary.image).Nodup) (hnew : ∀ scan ∈ scans, scan.image ∉ seen) :
    ofScansAfter pods seen scans = scans.map (ofScan pods) := by
  induction scans generalizing seen with
  | nil => rfl
  | cons scan rest ih =>
    obtain ⟨hfirst, hrest⟩ := List.nodup_cons.1 hnodup
    have hscan : ¬ seen.contains scan.image = true := by
      simpa using hnew scan List.mem_cons_self
    have hlater : ∀ later ∈ rest, later.image ∉ scan.image :: seen := by
      intro later hmem hin
      rcases List.mem_cons.1 hin with heq | hin
      · exact hfirst (heq ▸ List.mem_map_of_mem hmem)
      · exact hnew later (List.mem_cons_of_mem _ hmem) hin
    rw [ofScansAfter, if_neg hscan, ih hrest hlater, List.map_cons]

/-- **Summaries of different images share no pods.** -/
theorem ofScans_of_nodup {scans : List ScanSummary} (h : (scans.map ScanSummary.image).Nodup) :
    ofScans pods scans = scans.map (ofScan pods) :=
  ofScansAfter_of_nodup h fun _ _ => List.not_mem_nil

end ImageUsage

/-! ### Summaries that come back -/

namespace ScanSummary

/-- The last summary of its image among others. -/
def IsLast (l : List ScanSummary) (s : ScanSummary) : Prop :=
  ∃ before after, l = before ++ s :: after ∧ ∀ t ∈ after, t.image ≠ s.image

theorem get?_tableOf_eq_find? (l : List ScanSummary) (image : String) :
    (tableOf l).get? image = l.reverse.find? fun t => t.image == image := by
  rw [tableOf, Table.get?_ofList, ← List.map_reverse, List.find?_map, Option.map_map]
  exact Option.map_id'

/-- **Of the summaries of an image the last one is kept.** -/
theorem get?_tableOf {l : List ScanSummary} {image : String} {s : ScanSummary} :
    (tableOf l).get? image = some s ↔ IsLast l s ∧ s.image = image := by
  rw [get?_tableOf_eq_find?, List.find?_eq_some_iff_append]
  constructor
  · rintro ⟨himage, after, before, hl, hafter⟩
    obtain rfl : s.image = image := by simpa using himage
    refine ⟨⟨before.reverse, after.reverse, ?_, fun t ht => ?_⟩, rfl⟩
    · rw [← List.reverse_inj, hl]
      simp
    · simpa using hafter t (List.mem_reverse.1 ht)
  · rintro ⟨⟨before, after, rfl, hafter⟩, rfl⟩
    refine ⟨by simp, after.reverse, before.reverse, by simp, fun t ht => ?_⟩
    simpa using hafter t (List.mem_reverse.1 ht)

/-- An image with a summary has a last one. -/
theorem exists_isLast {l : List ScanSummary} {image : String} :
    (∃ s, IsLast l s ∧ s.image = image) ↔ ∃ s ∈ l, s.image = image := by
  constructor
  · rintro ⟨s, ⟨before, after, rfl, -⟩, himage⟩
    exact ⟨s, by simp, himage⟩
  · rintro ⟨s, hs, rfl⟩
    have hsome : (l.reverse.find? fun t => t.image == s.image).isSome :=
      List.find?_isSome.2 ⟨s, List.mem_reverse.2 hs, by simp⟩
    obtain ⟨t, ht⟩ := Option.isSome_iff_exists.1 hsome
    exact ⟨t, get?_tableOf.1 (by rw [get?_tableOf_eq_find?, ht])⟩

end ScanSummary

/-! ### Pods of a restricted snapshot -/

theorem mem_selectPods {names : List String} {pods : List Pod} {p : Pod} :
    p ∈ selectPods names pods ↔ p ∈ pods ∧
      (names = [] ∨
        p.metadata.effectiveNamespace ≠ "" ∧ p.metadata.effectiveNamespace ∈ names) := by
  rw [selectPods]
  cases names with
  | nil => simp
  | cons name names => simp [isSelected_iff]

namespace Snapshot

theorem pods_restrictTo (names : List String) (s : Snapshot) :
    (s.restrictTo names).pods = selectPods names s.pods := by
  rw [restrictTo]
  split
  next h => rw [selectPods, if_pos h]
  next => rfl

/-- Other pods change nothing but the pods of the restricted snapshot. -/
theorem restrictTo_withPods (names : List String) (s : Snapshot) (pods : List Pod) :
    ({ s with pods } : Snapshot).restrictTo names =
      { s.restrictTo names with pods := selectPods names pods } := by
  rw [restrictTo, restrictTo]
  split
  next h => rw [selectPods, if_pos h]
  next => rfl

end Snapshot

theorem Container.image?_eq_some {container : Container} {image : String} :
    container.image? = some image ↔ container.image = some image ∧ image ≠ "" := by
  rw [image?, Option.filter_eq_some_iff]
  simp

/-- An image is asked for when a controller names it and its name is not empty. -/
theorem Snapshot.mem_images_iff {s : Snapshot} {image : String} :
    image ∈ s.images ↔ image ≠ "" ∧
      ∃ k ∈ s.controllers, ∃ container ∈ k.containers, container.image = some image := by
  simp only [mem_images, Container.image?_eq_some]
  constructor
  · rintro ⟨k, hk, container, hcontainer, himage, hne⟩
    exact ⟨hne, k, hk, container, hcontainer, himage⟩
  · rintro ⟨hne, k, hk, container, hcontainer, himage⟩
    exact ⟨k, hk, container, hcontainer, himage, hne⟩

/-! ### Usages that an audit lists -/

namespace Audit

/-- The summaries that usages are made of: for image after image of a snapshot the last one that
came back, if there is one. -/
def covered (v : Snapshot) (summaries : List ScanSummary) : List ScanSummary :=
  v.images.filterMap (ScanSummary.tableOf summaries).get?

theorem mem_covered {v : Snapshot} {summaries : List ScanSummary} {summary : ScanSummary} :
    summary ∈ covered v summaries ↔
      summary.image ∈ v.images ∧ ScanSummary.IsLast summaries summary := by
  simp only [covered, List.mem_filterMap, ScanSummary.get?_tableOf]
  constructor
  · rintro ⟨image, himage, hlast, rfl⟩
    exact ⟨himage, hlast⟩
  · rintro ⟨himage, hlast⟩
    exact ⟨_, himage, hlast, rfl⟩

/-- **There is one of every image that the snapshot asks for and that came back.** -/
theorem exists_mem_covered {v : Snapshot} {summaries : List ScanSummary} {image : String} :
    (∃ summary ∈ covered v summaries, summary.image = image) ↔
      image ∈ v.images ∧ ∃ summary ∈ summaries, summary.image = image := by
  constructor
  · rintro ⟨summary, hsummary, rfl⟩
    obtain ⟨himage, hlast⟩ := mem_covered.1 hsummary
    exact ⟨himage, ScanSummary.exists_isLast.1 ⟨summary, hlast, rfl⟩⟩
  · rintro ⟨himage, hsome⟩
    obtain ⟨summary, hlast, rfl⟩ := ScanSummary.exists_isLast.2 hsome
    exact ⟨summary, mem_covered.2 ⟨himage, hlast⟩, rfl⟩

/-- **The images of these summaries are in order**, and each is there once. -/
theorem pairwise_covered (v : Snapshot) (summaries : List ScanSummary) :
    ((covered v summaries).map ScanSummary.image).Pairwise (· < ·) := by
  have hsub : List.Sublist ((covered v summaries).map ScanSummary.image) (v.images.map id) :=
    sublist_map_filterMap (fun _ _ h => (ScanSummary.get?_tableOf.1 h).2) _
  rw [List.map_id] at hsub
  exact v.pairwise_images.sublist hsub

variable {c : Configuration} {s : Snapshot} {summaries : List ScanSummary}

theorem imageUsage_of_lookup {l : Lookup}
    (h : l (s.restrictTo c.namespacesToScan).images = .ok (ScanSummary.tableOf summaries)) :
    imageUsage c (.ok s) l =
      .ok (ImageUsage.ofScans (s.restrictTo c.namespacesToScan).pods
        (covered (s.restrictTo c.namespacesToScan) summaries)) := by
  have hview : view c (.ok s) = .ok (s.restrictTo c.namespacesToScan) := rfl
  rw [imageUsage, hview]
  simp only [h]
  rfl

theorem imageUsage_of_results {net : Network} {sc : Scanner}
    (h : sc.results net (s.restrictTo c.namespacesToScan).images = .ok summaries) :
    imageUsage c (.ok s) (.ofScanner net sc) =
      .ok (ImageUsage.ofScans (s.restrictTo c.namespacesToScan).pods
        (covered (s.restrictTo c.namespacesToScan) summaries)) := by
  cases himages : (s.restrictTo c.namespacesToScan).images with
  | nil =>
    -- without images nothing is asked, and no summary is of one of them
    have hcovered : covered (s.restrictTo c.namespacesToScan) summaries = [] := by
      rw [covered, himages, List.filterMap_nil]
    have hempty : Lookup.ofScanner net sc (s.restrictTo c.namespacesToScan).images
        = .ok (ScanSummary.tableOf []) := by
      rw [himages]
      rfl
    rw [imageUsage_of_lookup hempty, hcovered, covered, himages, List.filterMap_nil]
  | cons image images =>
    refine imageUsage_of_lookup ?_
    rw [himages] at h ⊢
    rw [Lookup.ofScanner, h]
    rfl

/-- Only the restricted snapshot matters. -/
theorem imageUsage_congr {t : Snapshot}
    (h : t.restrictTo c.namespacesToScan = s.restrictTo c.namespacesToScan) (l : Lookup) :
    imageUsage c (.ok t) l = imageUsage c (.ok s) l := by
  have hview : view c (.ok t) = view c (.ok s) := congrArg Except.ok h
  rw [imageUsage, imageUsage, hview]

/-- **The usages that an audit lists are those of the images of its snapshot**, whatever summaries
come back: of other images, of one image twice, in any order. The images are in order, and each is
there once; they are the ones that controllers of the restricted snapshot name and that some summary
is about. A usage holds the last summary of its image and is exact for the pods of the restricted
snapshot. These are the pods of the namespaces that are looked at; no other pod matters. -/
theorem imageUsage_exact (c : Configuration) (s : Snapshot) (summaries : List ScanSummary) :
    let v := s.restrictTo c.namespacesToScan
    ∃ usages : List ImageUsage,
      (∀ l : Lookup, l v.images = .ok (ScanSummary.tableOf summaries) →
        imageUsage c (.ok s) l = .ok usages) ∧
      (∀ (net : Network) (sc : Scanner), sc.results net v.images = .ok summaries →
        imageUsage c (.ok s) (.ofScanner net sc) = .ok usages) ∧
      (usages.map fun u => u.scan.image).Pairwise (· < ·) ∧
      (∀ image, (∃ u ∈ usages, u.scan.image = image) ↔
        image ≠ "" ∧
        (∃ k ∈ v.controllers, ∃ container ∈ k.containers, container.image = some image) ∧
        ∃ summary ∈ summaries, summary.image = image) ∧
      (∀ u ∈ usages, ScanSummary.IsLast summaries u.scan ∧ u.IsExact v.pods) ∧
      (∀ p, p ∈ v.pods ↔ p ∈ s.pods ∧ (c.namespacesToScan = [] ∨
        p.metadata.effectiveNamespace ≠ "" ∧
          p.metadata.effectiveNamespace ∈ c.namespacesToScan)) ∧
      ∀ pods, selectPods c.namespacesToScan pods = selectPods c.namespacesToScan s.pods →
        ∀ l, imageUsage c (.ok { s with pods }) l = imageUsage c (.ok s) l := by
  intro v
  have hnodup : ((covered v summaries).map ScanSummary.image).Nodup :=
    (pairwise_covered v summaries).imp String.ne_of_lt
  have hscans : (ImageUsage.ofScans v.pods (covered v summaries)).map (fun u => u.scan.image)
      = (covered v summaries).map ScanSummary.image := by
    conv_rhs => rw [← ImageUsage.map_scan_ofScans v.pods (covered v summaries), List.map_map]
    rfl
  refine ⟨_, fun l => imageUsage_of_lookup, fun net sc => imageUsage_of_results, ?_, ?_, ?_, ?_, ?_⟩
  · rw [hscans]
    exact pairwise_covered v summaries
  · intro image
    rw [← List.mem_map (f := fun u : ImageUsage => u.scan.image), hscans, List.mem_map,
      exists_mem_covered, Snapshot.mem_images_iff, and_assoc]
  · intro u hu
    rw [ImageUsage.ofScans_of_nodup hnodup] at hu
    obtain ⟨summary, hsummary, rfl⟩ := List.mem_map.1 hu
    exact ⟨(mem_covered.1 hsummary).2, ImageUsage.isExact_ofScan v.pods summary⟩
  · intro p
    rw [Snapshot.pods_restrictTo, mem_selectPods]
  · intro pods hpods l
    refine imageUsage_congr ?_ l
    rw [Snapshot.restrictTo_withPods, hpods, ← Snapshot.pods_restrictTo]

/-- An image without a name is not listed, although a controller names it so and the scanner has a
summary under this name. -/
theorem not_imageUsage_unnamed :
    ¬ ∀ (c : Configuration) (s : Snapshot) (summaries : List ScanSummary) (l : Lookup)
        (usages : List ImageUsage),
      l (s.restrictTo c.namespacesToScan).images = .ok (ScanSummary.tableOf summaries) →
      imageUsage c (.ok s) l = .ok usages →
      ∀ image, (∃ u ∈ usages, u.scan.image = image) ↔
        (∃ k ∈ (s.restrictTo c.namespacesToScan).controllers, ∃ container ∈ k.containers,
          container.image = some image) ∧
        ∃ summary ∈ summaries, summary.image = image := by
  intro h
  let web : Workload := {
    podSpec := some { containers := [{ image := some "nginx" }, { image := some "" }] } }
  let s : Snapshot := { deployments := [web] }
  let summaries : List ScanSummary := [{ image := "nginx" }, { image := "" }]
  have hnames := h {} s summaries (fun _ => .ok (ScanSummary.tableOf summaries))
    [{ scan := { image := "nginx" } }] rfl (by decide) ""
  have hlisted := hnames.2 (by decide)
  exact absurd hlisted (by decide)

end Audit

end ClusterAudit
