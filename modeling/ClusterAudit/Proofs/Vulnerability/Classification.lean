import ClusterAudit.Proofs.Report.Score
import ClusterAudit.Proofs.Vulnerability.Counters

/-!
# What is said about an image

The verdict on an image and the message that goes with it are both read off its counters, each on
its own. They go by the same list, the counters above zero
(`ClusterAudit.ScanSummary.found`): the image passed if there is none, and the verdict is an error
if one of them blocks. So the message can be told from the verdict, whatever the counters are, and
the other way round, since the three forms of a message differ in their first letters.

Of a summary that was counted from a scan more can be said, as its counters stand for
vulnerabilities. A counter above zero blocks if some vulnerability does, in whatever case its
severity is written (`ClusterAudit.ScanSummary.exists_found_ofScan`), and from then on the counters
do not matter any more. In particular further vulnerabilities can only make the verdict worse. A
counter holds 32 bits, though, and what it cannot hold does not count
(`ClusterAudit.ImageScan.counted`). Everything counts as long as no counter runs over
(`ClusterAudit.ImageScan.Fits`).
-/

namespace ClusterAudit

/-! ### Severities that block -/

theorem Severity.isBlocking_iff {label : String} :
    isBlocking label = true ↔ Text.upper label = "CRITICAL" ∨ Text.upper label = "HIGH" := by
  have hbound : rank "HIGH" = 20 := by decide
  rw [isBlocking, decide_eq_true_iff, hbound, rank]
  split
  all_goals simp_all

theorem Severity.isBlocking_upper (label : String) :
    isBlocking (Text.upper label) = isBlocking label := by
  rw [Bool.eq_iff_iff, isBlocking_iff, isBlocking_iff, Text.upper_upper]

namespace ScanSummary

variable {t : ScanSummary}

/-! ### The verdict by the counters above zero -/

theorem mem_found {c : SeverityCount} : c ∈ t.found ↔ c ∈ t.counters ∧ 0 < c.count := by
  rw [found, List.mem_filter, decide_eq_true_iff]

/-- Some vulnerability that was counted blocks. -/
def Blocks (t : ScanSummary) : Prop :=
  ∃ c ∈ t.found, Severity.isBlocking c.severity = true

theorem verdict_of_found_eq_nil (hdone : t.status = .succeeded) (h : t.found = []) :
    t.verdict = .success := by
  rw [verdict, if_neg (not_not.2 hdone), h]
  rfl

theorem verdict_of_blocks (hdone : t.status = .succeeded) (h : t.Blocks) : t.verdict = .error := by
  obtain ⟨c, hc, hblocks⟩ := h
  have hany : (t.found.any fun c => Severity.isBlocking c.severity) = true :=
    List.any_eq_true.2 ⟨c, hc, hblocks⟩
  have hfound : ¬t.found.isEmpty = true := by
    rw [List.isEmpty_iff]
    exact List.ne_nil_of_mem hc
  rw [verdict, if_neg (not_not.2 hdone), if_neg hfound, if_pos hany]

theorem verdict_of_not_blocks (hdone : t.status = .succeeded) (hfound : t.found ≠ [])
    (h : ¬t.Blocks) : t.verdict = .warning := by
  have hany : ¬(t.found.any fun c => Severity.isBlocking c.severity) = true :=
    fun hany => h (List.any_eq_true.1 hany)
  rw [verdict, if_neg (not_not.2 hdone), if_neg (mt List.isEmpty_iff.1 hfound), if_neg hany]

/-- **The verdict on an image that was scanned**: passed without counters above zero, an error if
one of these blocks, and a warning otherwise. -/
theorem verdict_iff (hdone : t.status = .succeeded) :
    (t.verdict = .success ↔ t.found = []) ∧ (t.verdict = .error ↔ t.Blocks) ∧
      (t.verdict = .warning ↔ t.found ≠ [] ∧ ¬t.Blocks) := by
  have hempty : t.found = [] → ¬t.Blocks := by
    rintro hnil ⟨c, hc, -⟩
    rw [hnil] at hc
    cases hc
  by_cases hfound : t.found = []
  · rw [verdict_of_found_eq_nil hdone hfound]
    simp [hfound, hempty hfound]
  · by_cases hblocks : t.Blocks
    · rw [verdict_of_blocks hdone hblocks]
      simp [hfound, hblocks]
    · rw [verdict_of_not_blocks hdone hfound hblocks]
      simp [hfound, hblocks]

/-- **Where more is found, the verdict is no better.** -/
theorem verdict_improves {t t' : ScanSummary} (hdone : t.status = .succeeded)
    (hdone' : t'.status = .succeeded) (hfound : t.found ≠ [] → t'.found ≠ [])
    (hblocks : t.Blocks → t'.Blocks) : t'.verdict.Improves t.verdict := by
  by_cases hnil : t.found = []
  · rw [verdict_of_found_eq_nil hdone hnil]
    exact .success _
  · by_cases hblock : t.Blocks
    · rw [verdict_of_blocks hdone hblock, verdict_of_blocks hdone' (hblocks hblock)]
      exact .same _
    · rw [verdict_of_not_blocks hdone hnil hblock]
      by_cases hblock' : t'.Blocks
      · rw [verdict_of_blocks hdone' hblock']
        exact .eased
      · rw [verdict_of_not_blocks hdone' (hfound hnil) hblock']
        exact .same _

/-! ### The message -/

theorem message_of_noData (h : t.verdict = .noData) : t.message = "No vulnerabilities check data" :=
  if_pos (verdict_eq_noData.1 h)

theorem status_of_verdict_ne_noData (h : t.verdict ≠ .noData) : t.status = .succeeded :=
  not_not.1 (mt verdict_eq_noData.2 h)

theorem message_of_success (h : t.verdict = .success) :
    t.message = "The image passed vulnerabilities check" := by
  have hdone : t.status = .succeeded := status_of_verdict_ne_noData (by simp [h])
  have hfound : t.found = [] := (verdict_iff hdone).1.1 h
  rw [message, if_neg (not_not.2 hdone), parts, hfound]
  rfl

/-- The message of an image that did not pass lists what was found. -/
theorem message_of_found (hdata : t.verdict ≠ .noData) (hpassed : t.verdict ≠ .success) :
    t.message = "Image has " ++ Text.join ", " t.parts ++ " known vulnerabilities" := by
  have hdone : t.status = .succeeded := status_of_verdict_ne_noData hdata
  have hfound : t.found ≠ [] := mt (verdict_iff hdone).1.2 hpassed
  have hparts : ¬t.parts.isEmpty = true := by
    rw [List.isEmpty_iff, parts, List.map_eq_nil_iff]
    exact hfound
  rw [message, if_neg (not_not.2 hdone), if_neg hparts]

/-- The letter that the message with a verdict begins with. -/
def initial : Verdict → Char
  | .noData => 'N'
  | .success => 'T'
  | .warning => 'I'
  | .error => 'I'

theorem initial_eq_N {v : Verdict} : initial v = 'N' ↔ v = .noData := by
  cases v <;> decide

theorem initial_eq_T {v : Verdict} : initial v = 'T' ↔ v = .success := by
  cases v <;> decide

theorem head?_message (t : ScanSummary) : t.message.toList.head? = some (initial t.verdict) := by
  have hstart : "Image has ".toList = 'I' :: "mage has ".toList := by decide
  cases hverdict : t.verdict with
  | noData =>
    rw [message_of_noData hverdict]
    rfl
  | success =>
    rw [message_of_success hverdict]
    rfl
  | warning =>
    rw [message_of_found (by simp [hverdict]) (by simp [hverdict]), String.toList_append,
      String.toList_append, hstart]
    rfl
  | error =>
    rw [message_of_found (by simp [hverdict]) (by simp [hverdict]), String.toList_append,
      String.toList_append, hstart]
    rfl

theorem initial_eq_of_message {text : String} {c : Char} (htext : text.toList.head? = some c)
    (h : t.message = text) : initial t.verdict = c := by
  rw [← h, head?_message] at htext
  exact Option.some.inj htext

theorem message_eq_noData :
    t.message = "No vulnerabilities check data" ↔ t.verdict = .noData :=
  ⟨fun h => initial_eq_N.1 (initial_eq_of_message rfl h), message_of_noData⟩

theorem message_eq_passed :
    t.message = "The image passed vulnerabilities check" ↔ t.verdict = .success :=
  ⟨fun h => initial_eq_T.1 (initial_eq_of_message rfl h), message_of_success⟩

end ScanSummary

/-! ### Summaries of scans -/

namespace ImageScan

variable {s s' : ImageScan}

/-- The vulnerabilities that count: the counter of their severity, a word of 32 bits, is above
zero. -/
def counted (s : ImageScan) : List Vulnerability :=
  s.vulnerabilities.filter fun v =>
    0 < UInt32.ofNat
      (s.vulnerabilities.countP fun w => Text.upper w.severity = Text.upper v.severity)

/-- **No counter of a scan runs over**: of each severity there are fewer vulnerabilities than a
counter can hold. -/
def Fits (s : ImageScan) : Prop :=
  ∀ label, (s.vulnerabilities.countP fun v => Text.upper v.severity = label) < 2 ^ 32

theorem Fits.of_subperm (hfits : s'.Fits) (h : s.vulnerabilities.Subperm s'.vulnerabilities) :
    s.Fits := fun label => (h.countP_le _).trans_lt (hfits label)

/-- Then all vulnerabilities count. -/
theorem Fits.counted_eq (hfits : s.Fits) : s.counted = s.vulnerabilities := by
  rw [counted, List.filter_eq_self]
  intro v hv
  have hpos : 0 < s.vulnerabilities.countP fun w => Text.upper w.severity = Text.upper v.severity :=
    List.countP_pos_iff.2 ⟨v, hv, decide_eq_true rfl⟩
  rw [decide_eq_true_iff, UInt32.lt_iff_toNat_lt, UInt32.toNat_ofNat_of_lt' (hfits _)]
  exact hpos

end ImageScan

namespace ScanSummary

variable {s : ImageScan}

theorem count_labels_targets (s : ImageScan) (label : String) :
    (ScanTarget.labels s.targets).count label =
      s.vulnerabilities.countP fun v => Text.upper v.severity = label := by
  rw [ScanTarget.count_labels, ImageScan.vulnerabilities, List.countP_flatMap]
  rfl

theorem mem_labels_targets {label : String} :
    label ∈ ScanTarget.labels s.targets ↔
      ∃ v ∈ s.vulnerabilities, Text.upper v.severity = label :=
  List.mem_map

/-- **What is found stands for vulnerabilities**: a counter above zero with some property of its
severity is one for vulnerabilities whose severity in upper case has it. -/
theorem exists_found_ofScan (s : ImageScan) (p : String → Prop) :
    (∃ c ∈ (ofScan s).found, p c.severity) ↔ ∃ v ∈ s.counted, p (Text.upper v.severity) := by
  have hcounts := counts_ofScan s
  constructor
  · rintro ⟨c, hc, hp⟩
    obtain ⟨hmem, hpos⟩ := mem_found.1 hc
    obtain ⟨hlabel, hcount⟩ := (hcounts.mem_iff c).1 hmem
    obtain ⟨v, hv, heq⟩ := mem_labels_targets.1 hlabel
    rw [hcount, count_labels_targets, ← heq] at hpos
    exact ⟨v, List.mem_filter.2 ⟨hv, decide_eq_true hpos⟩, heq ▸ hp⟩
  · rintro ⟨v, hv, hp⟩
    obtain ⟨hmem, hpos⟩ := List.mem_filter.1 hv
    obtain ⟨c, hc, hseverity⟩ := (hcounts.exists_iff _).2 (mem_labels_targets.2 ⟨v, hmem, rfl⟩)
    have hcount := ((hcounts.mem_iff c).1 hc).2
    rw [hseverity, count_labels_targets] at hcount
    exact ⟨c, mem_found.2 ⟨hc, hcount ▸ of_decide_eq_true hpos⟩, hseverity ▸ hp⟩

theorem found_ofScan_eq_nil (s : ImageScan) : (ofScan s).found = [] ↔ s.counted = [] := by
  have hexists := exists_found_ofScan s fun _ => True
  simp only [and_true] at hexists
  rw [List.eq_nil_iff_forall_not_mem, List.eq_nil_iff_forall_not_mem, ← not_exists, ← not_exists,
    hexists]

theorem blocks_ofScan (s : ImageScan) : (ofScan s).Blocks ↔
    ∃ v ∈ s.counted, Text.upper v.severity = "CRITICAL" ∨ Text.upper v.severity = "HIGH" := by
  rw [Blocks, exists_found_ofScan s fun label => Severity.isBlocking label = true]
  simp only [Severity.isBlocking_upper, Severity.isBlocking_iff]

/-- **The verdict and the message say what was found.** The verdict on a scan is that there is no
data if the scan did not succeed. If it did, the image passed if no vulnerability counts; the
verdict is an error if one that counts is critical or high, in whatever case this is written, and a
warning in all other cases. As long as no counter runs over, all vulnerabilities count, and with
further ones, in whatever targets and at whatever places, the verdict is the same or worse. The
message that goes with a summary, whatever its counters are, is the one for no data if that is the
verdict, the one for an image that passed if that is the verdict, and otherwise it lists the
counters above zero in their order. -/
theorem verdict_ofScan_and_message :
    (∀ s : ImageScan, (ofScan s).verdict = .noData ↔ s.status ≠ .succeeded) ∧
    (∀ s : ImageScan, s.status = .succeeded →
      let blocks := ∃ v ∈ s.counted,
        Text.upper v.severity = "CRITICAL" ∨ Text.upper v.severity = "HIGH"
      ((ofScan s).verdict = .success ↔ s.counted = []) ∧
      ((ofScan s).verdict = .error ↔ blocks) ∧
      ((ofScan s).verdict = .warning ↔ s.counted ≠ [] ∧ ¬blocks)) ∧
    (∀ s : ImageScan, s.Fits → s.counted = s.vulnerabilities ∧
      ∀ s₀ : ImageScan, s₀.status = .succeeded → s.status = .succeeded →
        s₀.vulnerabilities.Subperm s.vulnerabilities →
        (ofScan s).verdict.Improves (ofScan s₀).verdict) ∧
    ∀ t : ScanSummary,
      (t.message = "No vulnerabilities check data" ↔ t.verdict = .noData) ∧
      (t.message = "The image passed vulnerabilities check" ↔ t.verdict = .success) ∧
      (t.verdict ≠ .noData → t.verdict ≠ .success →
        t.message = "Image has " ++
          Text.join ", " ((t.counters.filter fun c => 0 < c.count).map fun c =>
            Text.decimal c.count.toNat ++ " " ++ c.severity) ++ " known vulnerabilities") := by
  refine ⟨fun s => verdict_eq_noData, fun s hdone => ?_, fun s hfits => ?_, fun t => ?_⟩
  · intro blocks
    obtain ⟨hsuccess, herror, hwarning⟩ := verdict_iff (t := ofScan s) hdone
    have hblocks : (ofScan s).Blocks ↔ blocks := blocks_ofScan s
    rw [hsuccess, herror, hwarning, Ne, found_ofScan_eq_nil, hblocks]
    exact ⟨Iff.rfl, Iff.rfl, Iff.rfl⟩
  · refine ⟨hfits.counted_eq, fun s₀ hdone₀ hdone hmore => ?_⟩
    have hcounted := hfits.counted_eq
    have hcounted₀ := (hfits.of_subperm hmore).counted_eq
    refine verdict_improves hdone₀ hdone ?_ ?_
    · rw [Ne, Ne, found_ofScan_eq_nil, found_ofScan_eq_nil, hcounted, hcounted₀]
      intro hsome hnone
      rw [hnone] at hmore
      exact hsome (List.subperm_nil.1 hmore)
    · rw [blocks_ofScan, blocks_ofScan, hcounted, hcounted₀]
      rintro ⟨v, hv, hlabel⟩
      exact ⟨v, hmore.subset hv, hlabel⟩
  · exact ⟨message_eq_noData, message_eq_passed, message_of_found⟩

/-- A second vulnerability, in another target and with its severity in mixed case, makes a warning
an error; and a counter of zero neither makes an error nor stands in a message. -/
theorem verdict_ofScan_and_message_mixed :
    let found : String → Vulnerability := fun severity => { severity }
    let s₀ : ImageScan := {
      image := "nginx", status := .succeeded, targets := [⟨"os", [found "low"]⟩] }
    let s : ImageScan := {
      image := "nginx", status := .succeeded
      targets := [⟨"app", [found "Critical"]⟩, ⟨"os", [found "low"]⟩] }
    let t : ScanSummary := {
      image := "nginx", status := .succeeded, counters := [⟨"odd", 2⟩, ⟨"HIGH", 0⟩, ⟨"LOW", 1⟩] }
    (ofScan s₀).verdict = .warning ∧ (ofScan s).verdict = .error ∧
    (ofScan s).verdict.Improves (ofScan s₀).verdict ∧
    t.verdict = .warning ∧ t.message = "Image has 2 odd, 1 LOW known vulnerabilities" := by
  intro found s₀ s t
  have hfits₀ : s₀.Fits := fun _ => List.countP_le_length.trans_lt (by decide)
  have hfits : s.Fits := fun _ => List.countP_le_length.trans_lt (by decide)
  obtain ⟨-, hscans, hcounted, hsummaries⟩ := verdict_ofScan_and_message
  obtain ⟨-, -, hwarning⟩ := hscans s₀ rfl
  obtain ⟨-, herror, -⟩ := hscans s rfl
  obtain ⟨hall, hmore⟩ := hcounted s hfits
  rw [(hcounted s₀ hfits₀).1] at hwarning
  rw [hall] at herror
  obtain ⟨-, -, hmessage⟩ := hsummaries t
  refine ⟨hwarning.2 (by decide), herror.2 (by decide), hmore s₀ rfl rfl ?_, by decide,
    (hmessage (by decide) (by decide)).trans (by decide)⟩
  exact (List.sublist_append_right [found "Critical"] [found "low"]).subperm

end ScanSummary

end ClusterAudit
