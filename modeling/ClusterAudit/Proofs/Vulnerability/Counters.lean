import ClusterAudit.Proofs.Vulnerability.Severity
import Mathlib.Algebra.BigOperators.Group.List.Lemmas
import Mathlib.Data.List.Dedup
import Mathlib.Data.List.Induction
import Mathlib.Data.UInt

/-!
# What the counters of a scan count

A scan is counted in three steps: its vulnerabilities are put in one list, counted into a table
under their severity in upper case, and the counters of the table are sorted by severity. What comes
out can be said without any of them. The vulnerabilities of a scan have labels, which may occur more
than once; `ClusterAudit.SeverityCount.Counts` says of counters that they count labels: they are in
order, there is one for every label that occurs, and it says how often. A list of labels has just
one list of counters, and the order of the labels does not matter to it
(`ClusterAudit.SeverityCount.Counts.eq`).

So whatever leaves the labels of a scan as they are, but for their order, leaves its counters as
they are. `ClusterAudit.ScanTarget.Rearranged` lists what can be done to targets without touching
the labels: vulnerabilities change places or targets, targets change places, are split or put
together, and severities are spelled in another case.

The words of the counters have 32 bits. As long as there are fewer than `2 ^ 32` vulnerabilities
they are the numbers themselves, and so is their sum
(`ClusterAudit.ScanSummary.counters_ofScan`).
-/

namespace ClusterAudit

/-! ### Labels -/

/-- The label a vulnerability is counted under: its severity in upper case. -/
def Vulnerability.label (v : Vulnerability) : String :=
  Text.upper v.severity

namespace ScanTarget

/-- The labels of all vulnerabilities of some targets. -/
def labels (l : List ScanTarget) : List String :=
  (l.flatMap fun t => t.vulnerabilities).map Vulnerability.label

theorem labels_append (l m : List ScanTarget) : labels (l ++ m) = labels l ++ labels m := by
  rw [labels, List.flatMap_append, List.map_append]
  rfl

theorem labels_cons (t : ScanTarget) (l : List ScanTarget) :
    labels (t :: l) = t.vulnerabilities.map Vulnerability.label ++ labels l := by
  rw [labels, List.flatMap_cons, List.map_append]
  rfl

theorem labels_nil : labels [] = [] := rfl

theorem mem_labels {l : List ScanTarget} {label : String} :
    label ∈ labels l ↔ ∃ t ∈ l, ∃ v ∈ t.vulnerabilities, Text.upper v.severity = label := by
  simp only [labels, List.mem_map, List.mem_flatMap, Vulnerability.label]
  constructor
  · rintro ⟨v, ⟨t, ht, hv⟩, hlabel⟩
    exact ⟨t, ht, v, hv, hlabel⟩
  · rintro ⟨t, ht, v, hv, hlabel⟩
    exact ⟨v, ⟨t, ht, hv⟩, hlabel⟩

theorem count_labels (l : List ScanTarget) (label : String) :
    (labels l).count label =
      (l.map fun t => t.vulnerabilities.countP fun v => Text.upper v.severity = label).sum := by
  induction l with
  | nil => rfl
  | cons t l ih =>
    have hown : (t.vulnerabilities.map Vulnerability.label).count label =
        t.vulnerabilities.countP fun v => Text.upper v.severity = label := by
      rw [List.count_eq_countP, List.countP_map]
      exact List.countP_congr fun v _ => by simp [Vulnerability.label]
    rw [labels_cons, List.count_append, ih, hown, List.map_cons, List.sum_cons]

theorem length_labels (l : List ScanTarget) :
    (labels l).length = (l.map fun t => t.vulnerabilities.length).sum := by
  rw [labels, List.length_map, List.length_flatMap]

/-- **Targets that are rearranged**: nothing is found or lost on the way, and severities are at most
spelled in another case. -/
inductive Rearranged : List ScanTarget → List ScanTarget → Prop
  /-- Nothing is done. -/
  | refl (l) : Rearranged l l
  /-- What was done is undone; so targets that can be split can be put together. -/
  | symm {l m} (h : Rearranged l m) : Rearranged m l
  /-- One thing is done after another. -/
  | trans {l m n} (h : Rearranged l m) (h' : Rearranged m n) : Rearranged l n
  /-- Something is done to neighbouring targets, and the others stay as they are. -/
  | among (before after) {l m} (h : Rearranged l m) :
    Rearranged (before ++ l ++ after) (before ++ m ++ after)
  /-- The vulnerabilities of a target change places. -/
  | permuted (name) {found found'} (h : found.Perm found') :
    Rearranged [⟨name, found⟩] [⟨name, found'⟩]
  /-- A vulnerability moves from one target to another. -/
  | moved (v found found' name name' between) :
    Rearranged (⟨name, v :: found⟩ :: between ++ [⟨name', found'⟩])
      (⟨name, found⟩ :: between ++ [⟨name', v :: found'⟩])
  /-- Targets change places. -/
  | reordered {l m} (h : l.Perm m) : Rearranged l m
  /-- A target is split in two. -/
  | split (name first second found found') :
    Rearranged [⟨name, found ++ found'⟩] [⟨first, found⟩, ⟨second, found'⟩]
  /-- A severity is spelled in another case. -/
  | recased (name found) {v w : Vulnerability} (h : Text.upper v.severity = Text.upper w.severity) :
    Rearranged [⟨name, v :: found⟩] [⟨name, w :: found⟩]

/-- **Rearranging keeps the labels**, in some order. -/
theorem Rearranged.perm_labels {l m : List ScanTarget} (h : Rearranged l m) :
    (labels l).Perm (labels m) := by
  induction h with
  | refl l => exact List.Perm.refl _
  | symm _ ih => exact ih.symm
  | trans _ _ ih ih' => exact ih.trans ih'
  | among before after _ ih =>
    simp only [labels_append]
    exact (ih.append_left _).append_right _
  | permuted name h => exact (h.append_right []).map Vulnerability.label
  | moved v found found' name name' between =>
    simp only [labels_append, labels_cons, labels_nil, List.map_cons, List.append_nil,
      List.cons_append]
    -- the label of the one that moves comes behind all that stood between
    rw [← List.append_assoc, ← List.append_assoc]
    exact List.perm_middle.symm
  | reordered h => exact (h.flatMap_right _).map Vulnerability.label
  | split name first second found found' =>
    simp only [labels_cons, labels_nil, List.map_append, List.append_nil]
    exact List.Perm.refl _
  | recased name found h =>
    simp only [labels_cons, List.map_cons, Vulnerability.label, h]
    exact List.Perm.refl _

end ScanTarget

/-! ### Counters that count labels -/

namespace SeverityCount

/-- **Counters count labels**: they are in order of severity, there is one for each label that
occurs, and it holds how often the label occurs, as a word of 32 bits. -/
structure Counts (counters : List SeverityCount) (labels : List String) : Prop where
  /-- The severities increase, so that none has two counters. -/
  increasing : counters.Pairwise fun a b => Severity.compare a.severity b.severity = .lt
  /-- The counters are those of the labels. -/
  mem_iff : ∀ c, c ∈ counters ↔ c.severity ∈ labels ∧ c.count = .ofNat (labels.count c.severity)

namespace Counts

variable {counters counters' : List SeverityCount} {labels labels' : List String}

/-- **There is one list of counters**, and the order of the labels does not matter to it. -/
theorem eq (h : Counts counters labels) (h' : Counts counters' labels')
    (hperm : labels.Perm labels') : counters = counters' := by
  have hirrefl : Std.Irrefl fun a b : SeverityCount =>
      Severity.compare a.severity b.severity = .lt :=
    ⟨fun a => Severity.not_compare_self_eq_lt a.severity⟩
  have hantisymm : Std.Antisymm fun a b : SeverityCount =>
      Severity.compare a.severity b.severity = .lt :=
    ⟨fun a b hab hba => absurd hba (Severity.not_compare_eq_lt_of_compare_eq_lt hab)⟩
  refine List.Pairwise.eq_of_mem_iff h.increasing h'.increasing fun c => ?_
  rw [h.mem_iff, h'.mem_iff, hperm.mem_iff, hperm.count_eq]

theorem nodup (h : Counts counters labels) : (counters.map severity).Nodup :=
  Severity.nodup_of_pairwise_lt h.increasing

/-- There is a counter for each label that occurs and for no other. -/
theorem exists_iff (h : Counts counters labels) (label : String) :
    (∃ c ∈ counters, c.severity = label) ↔ label ∈ labels := by
  constructor
  · rintro ⟨c, hc, rfl⟩
    exact ((h.mem_iff c).1 hc).1
  · intro hlabel
    exact ⟨⟨label, .ofNat (labels.count label)⟩, (h.mem_iff _).2 ⟨hlabel, rfl⟩, rfl⟩

/-- **The word is the number** as long as that fits. -/
theorem toNat_count (h : Counts counters labels) {c : SeverityCount} (hc : c ∈ counters)
    (hfits : labels.count c.severity < 2 ^ 32) : c.count.toNat = labels.count c.severity := by
  rw [((h.mem_iff c).1 hc).2]
  exact UInt32.toNat_ofNat_of_lt' hfits

/-- Nor is a counter zero then. -/
theorem count_pos (h : Counts counters labels) {c : SeverityCount} (hc : c ∈ counters)
    (hfits : labels.count c.severity < 2 ^ 32) : 0 < c.count := by
  rw [UInt32.lt_iff_toNat_lt, h.toNat_count hc hfits]
  exact List.count_pos_iff.2 ((h.mem_iff c).1 hc).1

/-- **The counters add up** to the number of labels. -/
theorem sum_toNat_count (h : Counts counters labels) (hsmall : labels.length < 2 ^ 32) :
    (counters.map fun c => c.count.toNat).sum = labels.length := by
  have hperm : (counters.map severity).Perm labels.dedup := by
    refine (List.perm_ext_iff_of_nodup h.nodup (List.nodup_dedup labels)).2 fun label => ?_
    rw [List.mem_map, h.exists_iff, List.mem_dedup]
  have hcounts : counters.map (fun c => c.count.toNat) =
      (counters.map severity).map fun label => labels.count label := by
    rw [List.map_map]
    refine List.map_congr_left fun c hc => h.toNat_count hc ?_
    exact List.count_le_length.trans_lt hsmall
  rw [hcounts, (hperm.map _).sum_eq]
  exact List.sum_map_count_dedup_eq_length labels

end Counts

end SeverityCount

/-! ### Counting a scan -/

namespace ScanSummary

/-- **The table of counts** holds under every label how often it occurs, and nothing under one that
does not. -/
theorem get?_countLabels (l : List Vulnerability) (label : String) :
    (countLabels l).get? label =
      if label ∈ l.map Vulnerability.label then
        some (.ofNat ((l.map Vulnerability.label).count label))
      else none := by
  induction l using List.reverseRecOn generalizing label with
  | nil => rfl
  | append_singleton l v ih =>
    have hstep : countLabels (l ++ [v]) =
        (countLabels l).insert v.label (((countLabels l).get? v.label).getD 0 + 1) := by
      rw [countLabels, List.foldl_append]
      rfl
    have hold : ((countLabels l).get? v.label).getD 0 =
        .ofNat ((l.map Vulnerability.label).count v.label) := by
      rw [ih]
      split
      case isTrue => rfl
      case isFalse hnot =>
        rw [List.count_eq_zero.2 hnot]
        rfl
    rw [hstep, Table.get?_insert, hold, List.map_append, List.count_append]
    by_cases hlabel : label = v.label
    · subst hlabel
      simp [UInt32.ofNat_add]
    · simp [hlabel, ih, Ne.symm hlabel]

theorem total_eq (s : ScanSummary) :
    s.total = .ofNat (s.counters.map fun c => c.count.toNat).sum := by
  have hfold : ∀ (l : List SeverityCount) (n : UInt32),
      l.foldl (fun n c => n + c.count) n = n + .ofNat (l.map fun c => c.count.toNat).sum := by
    intro l
    induction l with
    | nil => simp
    | cons c l ih =>
      intro n
      rw [List.foldl_cons, ih, List.map_cons, List.sum_cons, UInt32.ofNat_add, UInt32.ofNat_toNat,
        UInt32.add_assoc]
  rw [total, hfold, UInt32.zero_add]

/-- Sorting moves counters and does nothing else. -/
theorem perm_counters_sortCounters (s : ScanSummary) : s.sortCounters.counters.Perm s.counters :=
  List.mergeSort_perm s.counters SeverityCount.le

/-- The summary of a scan before its counters are sorted. -/
def counted (s : ImageScan) : ScanSummary where
  image := s.image
  status := s.status
  description := s.description
  counters := (countLabels s.vulnerabilities).entries.map fun e => ⟨e.1, e.2⟩

theorem ofScan_eq (s : ImageScan) : ofScan s = (counted s).sortCounters := rfl

theorem map_severity_counted (s : ImageScan) :
    (counted s).counters.map SeverityCount.severity = (countLabels s.vulnerabilities).keys := by
  rw [counted, List.map_map]
  rfl

theorem mem_counters_counted {s : ImageScan} {c : SeverityCount} :
    c ∈ (counted s).counters ↔ c.severity ∈ ScanTarget.labels s.targets ∧
      c.count = .ofNat ((ScanTarget.labels s.targets).count c.severity) := by
  have hentry : c ∈ (counted s).counters ↔
      (countLabels s.vulnerabilities).get? c.severity = some c.count := by
    rw [counted, List.mem_map, ← Table.mem_entries]
    constructor
    · rintro ⟨e, he, rfl⟩
      exact he
    · intro he
      exact ⟨_, he, rfl⟩
  have hlabels : s.vulnerabilities.map Vulnerability.label = ScanTarget.labels s.targets := rfl
  rw [hentry, get?_countLabels, hlabels]
  split
  case isTrue hlabel => simp [hlabel, eq_comm]
  case isFalse hlabel => simp [hlabel]

/-- **The counters of a scan count its labels.** -/
theorem counts_ofScan (s : ImageScan) :
    SeverityCount.Counts (ofScan s).counters (ScanTarget.labels s.targets) where
  increasing := by
    have hnodup : ((counted s).counters.map SeverityCount.severity).Nodup := by
      rw [map_severity_counted]
      exact (Table.pairwise_keys _).imp String.ne_of_lt
    exact Severity.pairwise_mergeSort_of_nodup hnodup
  mem_iff c := by
    rw [ofScan_eq, (perm_counters_sortCounters (counted s)).mem_iff, mem_counters_counted]

/-- **Scans with the same labels have the same counters**, in whatever order the labels come. -/
theorem counters_ofScan_eq {s s' : ImageScan}
    (h : (ScanTarget.labels s.targets).Perm (ScanTarget.labels s'.targets)) :
    (ofScan s).counters = (ofScan s').counters :=
  (counts_ofScan s).eq (counts_ofScan s') h

/-- **The counters of a scan** are in order of severity and all of different severities, which are
in upper case: those that vulnerabilities of the scan have in upper case, each of them. A counter is
above zero and holds how many vulnerabilities there are of its severity in all targets together, and
all counters add up to the number of vulnerabilities. They depend on nothing else: rearranging the
targets leaves them as they are. -/
theorem counters_ofScan (s : ImageScan)
    (hsmall : (s.targets.map fun t => t.vulnerabilities.length).sum < 2 ^ 32) :
    let counters := (ofScan s).counters
    counters.Pairwise (fun a b => Severity.compare a.severity b.severity = .lt) ∧
    (counters.map SeverityCount.severity).Nodup ∧
    (∀ c ∈ counters, Text.upper c.severity = c.severity) ∧
    (∀ label, (∃ c ∈ counters, c.severity = label) ↔
      ∃ t ∈ s.targets, ∃ v ∈ t.vulnerabilities, Text.upper v.severity = label) ∧
    (∀ c ∈ counters, 0 < c.count ∧ c.count.toNat =
      (s.targets.map fun t =>
        t.vulnerabilities.countP fun v => Text.upper v.severity = c.severity).sum) ∧
    (ofScan s).total.toNat = (s.targets.map fun t => t.vulnerabilities.length).sum ∧
    ∀ s' : ImageScan, ScanTarget.Rearranged s.targets s'.targets →
      (ofScan s').counters = counters := by
  intro counters
  have hcounts : SeverityCount.Counts counters (ScanTarget.labels s.targets) := counts_ofScan s
  have hlength : (ScanTarget.labels s.targets).length < 2 ^ 32 := by
    rw [ScanTarget.length_labels]
    exact hsmall
  have hfits (label : String) : (ScanTarget.labels s.targets).count label < 2 ^ 32 :=
    List.count_le_length.trans_lt hlength
  refine ⟨hcounts.increasing, hcounts.nodup, fun c hc => ?_, fun label => ?_, fun c hc => ⟨?_, ?_⟩,
    ?_, fun s' hs' => ?_⟩
  · obtain ⟨t, -, v, -, hlabel⟩ := ScanTarget.mem_labels.1 ((hcounts.mem_iff c).1 hc).1
    rw [← hlabel, Text.upper_upper]
  · rw [hcounts.exists_iff, ScanTarget.mem_labels]
  · exact hcounts.count_pos hc (hfits _)
  · rw [hcounts.toNat_count hc (hfits _), ScanTarget.count_labels]
  · rw [total_eq, hcounts.sum_toNat_count hlength, UInt32.toNat_ofNat_of_lt' hlength,
      ScanTarget.length_labels]
  · exact (counters_ofScan_eq hs'.perm_labels).symm

/-- Two spellings of a severity in two targets are counted together, as they are when the targets
are put together and one severity is spelled in yet another way. -/
theorem counters_ofScan_two :
    let found : String → Vulnerability := fun severity => { severity }
    let s : ImageScan := {
      image := "nginx"
      targets := [⟨"os", [found "low", found "CRITICAL"]⟩, ⟨"app", [found "critical"]⟩] }
    let s' : ImageScan := {
      image := "nginx"
      targets := [⟨"all", [found "Low", found "CRITICAL", found "critical"]⟩] }
    (s.targets.map fun t => t.vulnerabilities.length).sum < 2 ^ 32 ∧
    ScanTarget.Rearranged s.targets s'.targets ∧
    (ofScan s').counters = (ofScan s).counters ∧
    (∃ c ∈ (ofScan s).counters, c.severity = "CRITICAL" ∧ c.count.toNat = 2) ∧
    (ofScan s).total.toNat = 3 := by
  intro found s s'
  have hsmall : (s.targets.map fun t => t.vulnerabilities.length).sum < 2 ^ 32 := by decide
  have hrearranged : ScanTarget.Rearranged s.targets s'.targets :=
    (ScanTarget.Rearranged.split "all" "os" "app" [found "low", found "CRITICAL"]
      [found "critical"]).symm.trans
      (.recased "all" [found "CRITICAL", found "critical"] (by decide))
  obtain ⟨-, -, -, hexists, hcount, htotal, hsame⟩ := counters_ofScan s hsmall
  obtain ⟨c, hc, hcritical⟩ := (hexists "CRITICAL").2 (by decide)
  have htwo := (hcount c hc).2
  rw [hcritical] at htwo
  exact ⟨hsmall, hrearranged, hsame s' hrearranged, ⟨c, hc, hcritical, htwo.trans (by decide)⟩,
    htotal⟩

end ScanSummary

end ClusterAudit
