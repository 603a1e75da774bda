import ClusterAudit.Proofs.Counting.Index
import ClusterAudit.Proofs.Vulnerability.Counters
import ClusterAudit.Vulnerability.Details

/-!
# Vulnerabilities in groups

The detail view of an image shows its vulnerabilities target by target, those of one target in
groups of one severity. It is made in one pass: a vulnerability goes behind the others of its group,
or opens a group at the end, and when all have been placed the groups are sorted by severity.

`ClusterAudit.SeverityGroup.Splits` says what comes out without any of this. The groups are in order
of severity, and there is one for each severity that occurs: it holds the vulnerabilities of this
severity as the target lists them. That the pass does no more than this shows when it is written in
one line (`ClusterAudit.SeverityGroup.placed_eq`), severities in the order in which they occur
first, each with the part of the list that belongs to it.

The summary beside the groups is counted apart from them, over all targets at once and with a table.
The two agree, since both go by the same labels: a severity has a counter if it has a group in some
target, and it counts what these groups hold together (`ClusterAudit.ScanDetails.groups_ofScan`).
-/

namespace ClusterAudit

namespace SeverityGroup

/-! ### Placing vulnerabilities -/

section Place

variable {groups : List SeverityGroup} {label : String}

/-- The group with one more member behind the others. -/
def push (v : Vulnerability) (g : SeverityGroup) : SeverityGroup :=
  { g with members := g.members ++ [v] }

/-- A group that is there gets one more member, and no other group changes. -/
theorem place_of_mem (v : Vulnerability) (hnodup : (groups.map severity).Nodup)
    (h : label ∈ groups.map severity) :
    place label v groups = groups.map fun g => if g.severity = label then g.push v else g := by
  induction groups with
  | nil => cases h
  | cons g groups ih =>
    obtain ⟨hnew, hrest⟩ := List.nodup_cons.1 hnodup
    rw [place, List.map_cons]
    by_cases hg : g.severity = label
    · -- the groups behind it are of other severities, so they stay as they are
      have hsame :
          (groups.map fun g' => if g'.severity = label then g'.push v else g') = groups := by
        refine List.map_congr_left (fun g' hg' => if_neg ?_) |>.trans (List.map_id _)
        intro hlabel
        exact hnew (List.mem_map.2 ⟨g', hg', hlabel.trans hg.symm⟩)
      rw [if_pos hg, if_pos hg, hsame]
      rfl
    · have hmem : label ∈ groups.map severity := by
        rcases List.mem_cons.1 h with heq | hmem
        · exact absurd heq.symm hg
        · exact hmem
      rw [if_neg hg, if_neg hg, ih hrest hmem]

/-- A vulnerability of a new severity opens a group at the end. -/
theorem place_of_notMem (v : Vulnerability) (h : label ∉ groups.map severity) :
    place label v groups = groups ++ [⟨label, [v]⟩] := by
  induction groups with
  | nil => rfl
  | cons g groups ih =>
    obtain ⟨hg, hrest⟩ := not_or.1 (mt List.mem_cons.2 h)
    rw [place, if_neg (Ne.symm hg), ih hrest, List.cons_append]

end Place

/-- The groups of a list before they are sorted. -/
def placed (l : List Vulnerability) : List SeverityGroup :=
  l.foldl (fun gs v => place v.label v gs) []

theorem ofList_eq (l : List Vulnerability) :
    ofList l = (placed l).mergeSort fun a b => Severity.le a.severity b.severity := rfl

/-- The vulnerabilities of one severity, as they are listed. -/
def part (l : List Vulnerability) (label : String) : List Vulnerability :=
  l.filter fun v => Text.upper v.severity = label

theorem part_concat (l : List Vulnerability) (v : Vulnerability) (label : String) :
    part (l ++ [v]) label = if v.label = label then part l label ++ [v] else part l label := by
  rw [part, List.filter_append]
  by_cases h : v.label = label
  · have hkeep : decide (Text.upper v.severity = label) = true := decide_eq_true h
    rw [if_pos h, List.filter_singleton, hkeep]
    rfl
  · have hdrop : decide (Text.upper v.severity = label) = false := decide_eq_false h
    rw [if_neg h, List.filter_singleton, hdrop]
    exact List.append_nil _

/-- **The groups of a list in one line**: the severities that occur, in the order in which they
occur first, each with its part of the list. -/
theorem placed_eq (l : List Vulnerability) :
    placed l = (l.map Vulnerability.label).eraseDups.map fun label => ⟨label, part l label⟩ := by
  induction l using List.reverseRecOn with
  | nil => rfl
  | append_singleton l v ih =>
    have hstep : placed (l ++ [v]) = place v.label v (placed l) := by
      rw [placed, List.foldl_append]
      rfl
    have hlabels : (placed l).map severity = (l.map Vulnerability.label).eraseDups := by
      rw [ih, List.map_map]
      exact List.map_id _
    rw [hstep, List.map_append]
    by_cases hmem : v.label ∈ l.map Vulnerability.label
    · have hplaced : v.label ∈ (placed l).map severity := hlabels ▸ List.mem_eraseDups.2 hmem
      have hnodup : ((placed l).map severity).Nodup := hlabels ▸ nodup_eraseDups _
      rw [place_of_mem v hnodup hplaced, List.map_cons, List.map_nil, eraseDups_concat_of_mem hmem,
        ih, List.map_map]
      refine List.map_congr_left fun label _ => ?_
      rw [Function.comp_apply, part_concat]
      by_cases hlabel : v.label = label
      · rw [if_pos hlabel, if_pos hlabel.symm]
        rfl
      · rw [if_neg hlabel, if_neg (Ne.symm hlabel)]
    · have hplaced : v.label ∉ (placed l).map severity := by
        rw [hlabels, List.mem_eraseDups]
        exact hmem
      have hnone : part l v.label = [] := by
        refine List.filter_eq_nil_iff.2 fun w hw hlabel => ?_
        exact hmem (List.mem_map.2 ⟨w, hw, of_decide_eq_true hlabel⟩)
      rw [place_of_notMem v hplaced, List.map_cons, List.map_nil, eraseDups_concat_of_notMem hmem,
        List.map_append, List.map_cons, List.map_nil, part_concat, if_pos rfl, hnone, ih]
      refine congrArg (· ++ _) (List.map_congr_left fun label hlabel => ?_)
      have hne : v.label ≠ label := by
        rintro rfl
        exact hmem (List.mem_eraseDups.1 hlabel)
      rw [part_concat, if_neg hne]

/-! ### What the groups are -/

/-- **Groups split a list by severity**: they are in order of severity, there is one for each
severity in upper case that occurs, and it holds the vulnerabilities of this severity as the list
has them. -/
structure Splits (groups : List SeverityGroup) (l : List Vulnerability) : Prop where
  /-- The severities increase, so that none has two groups. -/
  increasing : groups.Pairwise fun a b => Severity.compare a.severity b.severity = .lt
  /-- A group is there if it holds what the list has of its severity, and that is not nothing. -/
  mem_iff : ∀ g, g ∈ groups ↔
    g.members ≠ [] ∧ g.members = l.filter fun v => Text.upper v.severity = g.severity

theorem mem_placed {l : List Vulnerability} {g : SeverityGroup} :
    g ∈ placed l ↔ g.members ≠ [] ∧ g.members = part l g.severity := by
  have hoccurs (label : String) : label ∈ l.map Vulnerability.label ↔ part l label ≠ [] := by
    rw [part, Ne, List.filter_eq_nil_iff, List.mem_map]
    push Not
    simp only [decide_eq_true_eq, Vulnerability.label]
  rw [placed_eq, List.mem_map]
  constructor
  · rintro ⟨label, hlabel, rfl⟩
    exact ⟨(hoccurs label).1 (List.mem_eraseDups.1 hlabel), rfl⟩
  · rintro ⟨hne, hmembers⟩
    refine ⟨g.severity, List.mem_eraseDups.2 ((hoccurs _).2 (hmembers ▸ hne)), ?_⟩
    rw [← hmembers]

/-- **The groups of a list split it.** -/
theorem splits_ofList (l : List Vulnerability) : Splits (ofList l) l where
  increasing := by
    have hnodup : ((placed l).map severity).Nodup := by
      rw [placed_eq, List.map_map]
      exact (List.map_id _).symm ▸ nodup_eraseDups (l.map Vulnerability.label)
    exact Severity.pairwise_mergeSort_of_nodup hnodup
  mem_iff g := by
    rw [ofList_eq, List.mem_mergeSort, mem_placed]
    rfl

namespace Splits

variable {groups groups' : List SeverityGroup} {l : List Vulnerability}

theorem nodup (h : Splits groups l) : (groups.map severity).Nodup :=
  Severity.nodup_of_pairwise_lt h.increasing

/-- There is a group for each severity that occurs and for no other. -/
theorem exists_iff (h : Splits groups l) (label : String) :
    (∃ g ∈ groups, g.severity = label) ↔ ∃ v ∈ l, Text.upper v.severity = label := by
  constructor
  · rintro ⟨g, hg, rfl⟩
    obtain ⟨hne, hmembers⟩ := (h.mem_iff g).1 hg
    obtain ⟨v, hv⟩ := List.exists_mem_of_ne_nil _ hne
    rw [hmembers, List.mem_filter] at hv
    exact ⟨v, hv.1, of_decide_eq_true hv.2⟩
  · rintro ⟨v, hv, rfl⟩
    refine ⟨⟨Text.upper v.severity, part l (Text.upper v.severity)⟩, ?_, rfl⟩
    refine (h.mem_iff _).2 ⟨?_, rfl⟩
    exact List.ne_nil_of_mem (List.mem_filter.2 ⟨hv, decide_eq_true rfl⟩)

end Splits

/-! ### Nothing is lost -/

theorem perm_flatMap_place (label : String) (v : Vulnerability) (groups : List SeverityGroup) :
    ((place label v groups).flatMap members).Perm (groups.flatMap members ++ [v]) := by
  induction groups with
  | nil => exact List.Perm.refl _
  | cons g groups ih =>
    rw [place]
    split
    · rw [List.flatMap_cons, List.flatMap_cons, List.append_assoc, List.append_assoc]
      exact List.perm_append_comm.append_left _
    · rw [List.flatMap_cons, List.flatMap_cons, List.append_assoc]
      exact ih.append_left _

theorem perm_flatMap_placed (l : List Vulnerability) : ((placed l).flatMap members).Perm l := by
  induction l using List.reverseRecOn with
  | nil => exact List.Perm.refl _
  | append_singleton l v ih =>
    rw [placed, List.foldl_append]
    exact (perm_flatMap_place _ _ _).trans (ih.append_right _)

/-- **The groups hold the list**, all of it and each vulnerability as often as it is there. -/
theorem perm_flatMap_ofList (l : List Vulnerability) : ((ofList l).flatMap members).Perm l := by
  rw [ofList_eq]
  exact ((List.mergeSort_perm _ _).flatMap_right _).trans (perm_flatMap_placed l)

/-- How much the groups of one severity hold. -/
def size (groups : List SeverityGroup) (label : String) : Nat :=
  ((groups.filter fun g => g.severity = label).map fun g => g.members.length).sum

/-- **A group has the size of its part of the list.** -/
theorem size_ofList (l : List Vulnerability) (label : String) :
    size (ofList l) label = l.countP fun v => Text.upper v.severity = label := by
  have hmembers : ∀ g ∈ ofList l, ∀ v ∈ g.members, Text.upper v.severity = g.severity := by
    intro g hg v hv
    rw [(((splits_ofList l).mem_iff g).1 hg).2, List.mem_filter] at hv
    exact of_decide_eq_true hv.2
  have hcount : ∀ g ∈ ofList l, (g.members.countP fun v => Text.upper v.severity = label) =
      if g.severity = label then g.members.length else 0 := by
    intro g hg
    split
    next h => exact List.countP_eq_length.2 fun v hv => by simp [hmembers g hg v hv, h]
    next h => exact List.countP_eq_zero.2 fun v hv => by simp [hmembers g hg v hv, h]
  symm
  calc (l.countP fun v => Text.upper v.severity = label)
      = ((ofList l).flatMap members).countP fun v => Text.upper v.severity = label :=
        (perm_flatMap_ofList l).countP_eq _ |>.symm
    _ = ((ofList l).map fun g => g.members.countP fun v => Text.upper v.severity = label).sum :=
        List.countP_flatMap
    _ = ((ofList l).map fun g => if g.severity = label then g.members.length else 0).sum :=
        congrArg List.sum (List.map_congr_left hcount)
    _ = size (ofList l) label := by
        rw [List.sum_map_ite]
        simp [size]

end SeverityGroup

/-! ### The detail view and its summary -/

namespace ScanDetails

/-- **The detail view of a scan** has the targets of the scan in their order, and in each of them
the vulnerabilities of this target: in groups that split them by severity, without one lost or shown
twice. The summary agrees with the groups. It has one counter for each severity that has a group in
some target and for no other, and the counter holds how many vulnerabilities there are in the groups
of its severity in all targets together, as a word of 32 bits, which is this number itself as long
as it fits. -/
theorem groups_ofScan (s : ImageScan) :
    let d := ofScan s
    List.Forall₂ (fun t e => e.target = t.name ∧
      SeverityGroup.Splits e.groups t.vulnerabilities ∧
      (e.groups.flatMap SeverityGroup.members).Perm t.vulnerabilities) s.targets d.targets ∧
    (d.summary.counters.map SeverityCount.severity).Nodup ∧
    ∀ label,
      let size := (d.targets.map fun e => SeverityGroup.size e.groups label).sum
      ((∃ c ∈ d.summary.counters, c.severity = label) ↔
        ∃ e ∈ d.targets, ∃ g ∈ e.groups, g.severity = label) ∧
      ∀ c ∈ d.summary.counters, c.severity = label →
        c.count = .ofNat size ∧ (size < 2 ^ 32 → c.count.toNat = size) := by
  intro d
  have htargets : d.targets =
      s.targets.map fun t => ⟨t.name, SeverityGroup.ofList t.vulnerabilities⟩ := rfl
  have hcounts : SeverityCount.Counts d.summary.counters (ScanTarget.labels s.targets) :=
    ScanSummary.counts_ofScan s
  rw [htargets]
  refine ⟨?_, hcounts.nodup, fun label => ⟨?_, ?_⟩⟩
  · refine List.forall₂_map_right_iff.2 (List.forall₂_same.2 fun t _ => ⟨rfl, ?_, ?_⟩)
    · exact SeverityGroup.splits_ofList t.vulnerabilities
    · exact SeverityGroup.perm_flatMap_ofList t.vulnerabilities
  · have hgroups (t : ScanTarget) :=
      (SeverityGroup.splits_ofList t.vulnerabilities).exists_iff label
    rw [hcounts.exists_iff, ScanTarget.mem_labels]
    simp only [List.mem_map, exists_exists_and_eq_and, hgroups]
  · rintro c hc rfl
    have hword := ((hcounts.mem_iff c).1 hc).2
    have hnumber := hcounts.toNat_count hc
    rw [ScanTarget.count_labels] at hword hnumber
    simp only [List.map_map, Function.comp_def, SeverityGroup.size_ofList]
    exact ⟨hword, hnumber⟩

/-- Two spellings of a severity make one group of a target, in the order in which they are listed,
and the counter of the summary holds the groups of both targets. -/
theorem groups_ofScan_two :
    let found : String → String → Vulnerability := fun identifier severity =>
      { identifier, severity }
    let s : ImageScan := {
      image := "nginx"
      targets := [⟨"os", [found "a" "low", found "b" "high", found "c" "Low"]⟩,
        ⟨"app", [found "d" "LOW"]⟩] }
    (∃ e e', (ofScan s).targets = [e, e'] ∧ e.target = "os" ∧ e'.target = "app" ∧
      ⟨"LOW", [found "a" "low", found "c" "Low"]⟩ ∈ e.groups ∧
      ⟨"LOW", [found "d" "LOW"]⟩ ∈ e'.groups) ∧
    ∃ c ∈ (ofScan s).summary.counters, c.severity = "LOW" ∧ c.count.toNat = 3 := by
  intro found s
  obtain ⟨htargets, -, hsummary⟩ := groups_ofScan s
  obtain ⟨⟨hos, hsplits, -⟩, hrest⟩ := List.forall₂_cons.1 htargets
  obtain ⟨⟨happ, hsplits', -⟩, -⟩ := List.forall₂_cons.1 hrest
  have hgroup := (hsplits.mem_iff ⟨"LOW", [found "a" "low", found "c" "Low"]⟩).2 (by decide)
  have hgroup' := (hsplits'.mem_iff ⟨"LOW", [found "d" "LOW"]⟩).2 (by decide)
  obtain ⟨hexists, hcount⟩ := hsummary "LOW"
  obtain ⟨c, hc, hlow⟩ := hexists.2 ⟨_, List.mem_cons_self, _, hgroup, rfl⟩
  have hthree : ((ofScan s).targets.map fun e => SeverityGroup.size e.groups "LOW").sum = 3 := by
    simp only [ofScan, List.map_map, Function.comp_def, SeverityGroup.size_ofList]
    decide
  have hword := (hcount c hc hlow).2
  rw [hthree] at hword
  exact ⟨⟨_, _, rfl, hos, happ, hgroup, hgroup'⟩, c, hc, hlow, hword (by decide)⟩

end ScanDetails

end ClusterAudit
