import ClusterAudit.Proofs.Vulnerability.Classification

/-!
# Sorting by severity

What is shown of the vulnerabilities of an image is sorted by severity, and it is sorted by an
order of labels alone: two counters of one label are equal in it, whatever they count. So it is not
enough to say that the counters are in order afterwards. `ClusterAudit.Severity.Sorts` says what a
list sorted by severity is, whatever carries the severities: it is in order, and what is of one
severity stands as it stood before. A list can be sorted in one way only
(`ClusterAudit.Severity.Sorts.eq`), so this leaves nothing open, and a list that is in order is
sorted as it is.

The rest of a summary does not see the order of its counters. `ClusterAudit.ScanSummary.Agrees` says
of two summaries of an image that they have the same counters in some order. Then they have the same
verdict and the same total, and their messages are the same up to the order of what they list.
Sorting is a case of it (`ClusterAudit.ScanSummary.compare_and_sortCounters`).
-/

namespace ClusterAudit

namespace Severity

/-! ### Sorted lists -/

variable {α : Type} {severity : α → String} {l m m' : List α} {x y : α}

/-- **A list sorts another by severity**: it is in order, and of each severity it holds what the
other one holds, in the same order. -/
structure Sorts (severity : α → String) (l m : List α) : Prop where
  /-- None comes before a more severe one. -/
  ordered : m.Pairwise fun x y => le (severity x) (severity y) = true
  /-- What is of one severity stands as it stood. -/
  filter_eq : ∀ label,
    (m.filter fun x => severity x = label) = l.filter fun x => severity x = label

theorem sorts_self (h : l.Pairwise fun x y => le (severity x) (severity y) = true) :
    Sorts severity l l where
  ordered := h
  filter_eq _ := rfl

theorem pairwise_filter_severity (severity : α → String) (l : List α) (label : String) :
    (l.filter fun x => severity x = label).Pairwise
      fun x y => le (severity x) (severity y) = true := by
  refine List.pairwise_filter.2 (List.pairwise_of_forall fun x y hx hy => ?_)
  rw [of_decide_eq_true hx, of_decide_eq_true hy]
  exact le_refl label

/-- **Sorting keeps what is of one severity as it stands.** -/
theorem sorts_mergeSort (severity : α → String) (l : List α) :
    Sorts severity l (l.mergeSort fun x y => le (severity x) (severity y)) where
  ordered := pairwise_mergeSort severity l
  filter_eq label := by
    have htrans : ∀ x y z, le (severity x) (severity y) = true →
        le (severity y) (severity z) = true → le (severity x) (severity z) = true :=
      fun x y z hxy hyz => le_trans hxy hyz
    have htotal : ∀ x y, (le (severity x) (severity y) || le (severity y) (severity x)) = true :=
      fun x y => le_total (severity x) (severity y)
    -- what is of one severity is in order as it stands, so it is found like this in the sorted list
    have hsublist := List.sublist_mergeSort htrans htotal
      (pairwise_filter_severity severity l label) List.filter_sublist
    have hpart := hsublist.filter fun x => severity x = label
    simp only [List.filter_filter, Bool.and_self] at hpart
    have hperm := (List.mergeSort_perm l fun x y => le (severity x) (severity y)).filter
      fun x => severity x = label
    exact (hpart.eq_of_length hperm.length_eq.symm).symm

namespace Sorts

theorem mem_iff (h : Sorts severity l m) : x ∈ m ↔ x ∈ l := by
  have hpart (l : List α) : x ∈ l ↔ x ∈ l.filter fun y => severity y = severity x := by simp
  rw [hpart m, h.filter_eq, ← hpart l]

/-- The first of a sorted list is as severe as any. -/
theorem le_of_mem (h : Sorts severity l (x :: m)) (hy : y ∈ l) :
    le (severity x) (severity y) = true := by
  rcases List.mem_cons.1 (h.mem_iff.2 hy) with rfl | hrest
  · exact le_refl _
  · exact (List.pairwise_cons.1 h.ordered).1 y hrest

/-- The first of a sorted list is the first of the most severe. -/
theorem head_eq (h : Sorts severity l (x :: m)) (h' : Sorts severity l (y :: m')) : x = y := by
  have hx : x ∈ l := h.mem_iff.1 List.mem_cons_self
  have hy : y ∈ l := h'.mem_iff.1 List.mem_cons_self
  have hsame : severity x = severity y := le_antisymm (h.le_of_mem hy) (h'.le_of_mem hx)
  have hpart := (h.filter_eq (severity y)).trans (h'.filter_eq (severity y)).symm
  simp only [List.filter_cons, hsame, decide_true, if_true] at hpart
  exact (List.cons.inj hpart).1

/-- Where two sorted lists begin alike, the rest of the one sorts the rest of the other. -/
theorem tail (h : Sorts severity l (x :: m)) (h' : Sorts severity l (x :: m')) :
    Sorts severity m' m where
  ordered := (List.pairwise_cons.1 h.ordered).2
  filter_eq label := by
    have hpart := (h.filter_eq label).trans (h'.filter_eq label).symm
    rw [List.filter_cons, List.filter_cons] at hpart
    split at hpart
    · exact (List.cons.inj hpart).2
    · exact hpart

/-- **A list can be sorted in one way only.** -/
theorem eq (h : Sorts severity l m) (h' : Sorts severity l m') : m = m' := by
  -- whatever list is sorted, since what is left of it behind the first one is another list
  induction m generalizing l m' with
  | nil =>
    refine (List.eq_nil_iff_forall_not_mem.2 fun x hx => ?_).symm
    cases h.mem_iff.2 (h'.mem_iff.1 hx)
  | cons x m ih =>
    cases m' with
    | nil => cases h'.mem_iff.2 (h.mem_iff.1 List.mem_cons_self)
    | cons y m' =>
      obtain rfl := h.head_eq h'
      -- the rest of the one sorts the rest of the other, which is in order as it is
      have hrest := sorts_self (List.pairwise_cons.1 h'.ordered).2
      rw [ih (h.tail h') hrest]

theorem perm (h : Sorts severity l m) : m.Perm l := by
  rw [h.eq (sorts_mergeSort severity l)]
  exact List.mergeSort_perm l _

end Sorts

/-- Severities that do not occur need not be looked at. -/
theorem sorts_iff : Sorts severity l m ↔
    (m.Pairwise fun x y => le (severity x) (severity y) = true) ∧
    ∀ label ∈ (l ++ m).map severity,
      (m.filter fun x => severity x = label) = l.filter fun x => severity x = label := by
  refine ⟨fun h => ⟨h.ordered, fun label _ => h.filter_eq label⟩, ?_⟩
  rintro ⟨hordered, hfilter⟩
  refine ⟨hordered, fun label => ?_⟩
  by_cases hlabel : label ∈ (l ++ m).map severity
  · exact hfilter label hlabel
  · have hnone (x : α) (hx : x ∈ l ++ m) : ¬decide (severity x = label) = true :=
      fun heq => hlabel (List.mem_map.2 ⟨x, hx, of_decide_eq_true heq⟩)
    rw [List.filter_eq_nil_iff.2 fun x hx => hnone x (List.mem_append_right l hx),
      List.filter_eq_nil_iff.2 fun x hx => hnone x (List.mem_append_left m hx)]

instance [DecidableEq α] : Decidable (Sorts severity l m) :=
  decidable_of_iff' _ sorts_iff

end Severity

/-! ### Summaries with the same counters -/

namespace ScanSummary

/-- **Two summaries agree**: they are of one image and say the same about it, with the same counters
in some order. -/
structure Agrees (s t : ScanSummary) : Prop where
  /-- They are of one image. -/
  image : s.image = t.image
  /-- The scans ended in the same way. -/
  status : s.status = t.status
  /-- The counters are the same up to their order. -/
  counters : s.counters.Perm t.counters

theorem agrees_sortCounters (s : ScanSummary) : s.Agrees s.sortCounters where
  image := rfl
  status := rfl
  counters := (perm_counters_sortCounters s).symm

namespace Agrees

variable {s t : ScanSummary}

/-- **The order of counters does not matter to the verdict.** -/
theorem verdict_eq (h : s.Agrees t) : s.verdict = t.verdict := by
  have hfound : s.found.Perm t.found := h.counters.filter _
  have hempty : s.found.isEmpty = t.found.isEmpty := hfound.isEmpty_eq
  have hblocking : (s.found.any fun c => Severity.isBlocking c.severity)
      = t.found.any fun c => Severity.isBlocking c.severity := hfound.any_eq
  rw [verdict, verdict, h.status, hempty, hblocking]

theorem sum_eq (h : s.Agrees t) :
    (s.counters.map fun c => c.count.toNat).sum = (t.counters.map fun c => c.count.toNat).sum :=
  (h.counters.map _).sum_eq

theorem total_eq (h : s.Agrees t) : s.total = t.total := by
  rw [ScanSummary.total_eq, ScanSummary.total_eq, h.sum_eq]

theorem perm_parts (h : s.Agrees t) : s.parts.Perm t.parts :=
  (h.counters.filter _).map _

/-- The message of an image that passed, or that nothing is known of, has no parts. -/
theorem message_eq (h : s.Agrees t) (hnone : s.verdict = .noData ∨ s.verdict = .success) :
    s.message = t.message := by
  rcases hnone with hdata | hpassed
  · rw [message_of_noData hdata, message_of_noData (h.verdict_eq ▸ hdata)]
  · rw [message_of_success hpassed, message_of_success (h.verdict_eq ▸ hpassed)]

end Agrees

/-! ### Sorting the counters of a summary -/

theorem sorts_sortCounters (s : ScanSummary) :
    Severity.Sorts SeverityCount.severity s.counters s.sortCounters.counters :=
  Severity.sorts_mergeSort SeverityCount.severity s.counters

/-- Counters in order are sorted as they are. -/
theorem sortCounters_sortCounters (s : ScanSummary) :
    s.sortCounters.sortCounters = s.sortCounters := by
  have hself := Severity.sorts_self (sorts_sortCounters s).ordered
  have hcounters : s.sortCounters.sortCounters.counters = s.sortCounters.counters :=
    (sorts_sortCounters s.sortCounters).eq hself
  calc s.sortCounters.sortCounters
      = { s.sortCounters with counters := s.sortCounters.sortCounters.counters } := rfl
    _ = s.sortCounters := by rw [hcounters]

/-- **Labels have one order, and counters are sorted by it.** Two labels are equal in the order of
severities if they are the same, and when they change places the answer is turned around. It is
decided by their ranks, which do not see case, and between labels of one rank by the labels
themselves. So no label comes later than itself, labels that come no later than each other are the
same, what comes no later than something comes no later than what follows it, of any two labels one
comes no later than the other, and what comes no later has no higher rank.

The counters of a summary that is sorted are the same counters, in this order, and those of one
severity stand as they stood. There is only one list like this, and sorting once more does nothing.
Nothing but the order of the counters changes, and it shows in the message alone: the verdict stays,
and so does what the counters add up to, as a word of 32 bits and as a number. The message of an
image that passed, or that there is no data of, stays as well, and any other message has the same
parts in some order. -/
theorem compare_and_sortCounters :
    (∀ a b : String,
      (Severity.compare a b = .eq ↔ a = b) ∧
      Severity.compare b a = (Severity.compare a b).swap ∧
      (Severity.compare a b = .lt ↔
        Severity.rank a < Severity.rank b ∨ Severity.rank a = Severity.rank b ∧ a < b)) ∧
    (∀ a, Severity.rank (Text.upper a) = Severity.rank a) ∧
    (∀ a, Severity.le a a = true) ∧
    (∀ a b, Severity.le a b = true → Severity.le b a = true → a = b) ∧
    (∀ a b c, Severity.le a b = true → Severity.le b c = true → Severity.le a c = true) ∧
    (∀ a b, Severity.le a b = true ∨ Severity.le b a = true) ∧
    (∀ a b, Severity.le a b = true → Severity.rank a ≤ Severity.rank b) ∧
    ∀ s : ScanSummary,
      let t := s.sortCounters
      t.counters.Perm s.counters ∧
      Severity.Sorts SeverityCount.severity s.counters t.counters ∧
      (∀ l, Severity.Sorts SeverityCount.severity s.counters l → l = t.counters) ∧
      t.sortCounters = t ∧
      t = { s with counters := t.counters } ∧
      t.verdict = s.verdict ∧
      t.total = s.total ∧
      (t.counters.map fun c => c.count.toNat).sum = (s.counters.map fun c => c.count.toNat).sum ∧
      (s.verdict = .noData ∨ s.verdict = .success → t.message = s.message) ∧
      (s.verdict = .warning ∨ s.verdict = .error →
        s.message = "Image has " ++ Text.join ", " s.parts ++ " known vulnerabilities" ∧
        t.message = "Image has " ++ Text.join ", " t.parts ++ " known vulnerabilities") ∧
      t.parts.Perm s.parts := by
  refine ⟨fun a b => ⟨?_, ?_, Severity.compare_eq_lt_iff⟩, Severity.rank_upper,
    Severity.le_refl, fun a b => Severity.le_antisymm, fun a b c => Severity.le_trans,
    fun a b => ?_, fun a b => Severity.rank_le_of_le, fun s => ?_⟩
  · exact Std.LawfulEqCmp.compare_eq_iff_eq
  · exact Std.OrientedCmp.eq_swap
  · exact Bool.or_eq_true_iff.1 (Severity.le_total a b)
  · intro t
    have hagrees : s.Agrees t := agrees_sortCounters s
    have hsorts : Severity.Sorts SeverityCount.severity s.counters t.counters :=
      sorts_sortCounters s
    refine ⟨hsorts.perm, hsorts, fun l hl => hl.eq hsorts, sortCounters_sortCounters s, rfl,
      hagrees.verdict_eq.symm, hagrees.total_eq.symm, hagrees.sum_eq.symm,
      fun hnone => (hagrees.message_eq hnone).symm, fun hlisted => ?_, hagrees.perm_parts.symm⟩
    have hdata : s.verdict ≠ .noData := by rcases hlisted with h | h <;> simp [h]
    have hpassed : s.verdict ≠ .success := by rcases hlisted with h | h <;> simp [h]
    refine ⟨message_of_found hdata hpassed, message_of_found ?_ ?_⟩
    · rwa [← hagrees.verdict_eq]
    · rwa [← hagrees.verdict_eq]

/-- Two spellings of a severity are of one rank and not equal, so the counters of the one stand in
front of those of the other, and these as they stood. -/
theorem compare_and_sortCounters_spellings :
    let s : ScanSummary := {
      image := "nginx", status := .succeeded
      counters := [⟨"low", 1⟩, ⟨"odd", 0⟩, ⟨"HIGH", 2⟩, ⟨"low", 3⟩, ⟨"LOW", 4⟩] }
    Severity.rank "LOW" = Severity.rank "low" ∧ Severity.compare "LOW" "low" = .lt ∧
    s.sortCounters.counters = [⟨"HIGH", 2⟩, ⟨"LOW", 4⟩, ⟨"low", 1⟩, ⟨"low", 3⟩, ⟨"odd", 0⟩] ∧
    s.sortCounters.verdict = .error ∧ s.sortCounters.total = 10 ∧
    s.message = "Image has 1 low, 2 HIGH, 3 low, 4 LOW known vulnerabilities" ∧
    s.sortCounters.message = "Image has 2 HIGH, 4 LOW, 1 low, 3 low known vulnerabilities" := by
  intro s
  obtain ⟨horder, hupper, -, -, -, -, -, hsort⟩ := compare_and_sortCounters
  obtain ⟨-, -, hunique, -, hsame, hverdict, htotal, -, -, hlisted, -⟩ := hsort s
  have hrank : Severity.rank "LOW" = Severity.rank "low" := hupper "low"
  have hcounters := hunique
    [⟨"HIGH", 2⟩, ⟨"LOW", 4⟩, ⟨"low", 1⟩, ⟨"low", 3⟩, ⟨"odd", 0⟩] (by decide)
  have herror : s.verdict = .error := by decide
  obtain ⟨hmessage, hmessage'⟩ := hlisted (.inr herror)
  have hparts : s.sortCounters.parts = ["2 HIGH", "4 LOW", "1 low", "3 low"] := by
    rw [hsame, ← hcounters]
    decide
  rw [hparts] at hmessage'
  exact ⟨hrank, (horder _ _).2.2.2 (.inr ⟨hrank, by decide⟩), hcounters.symm,
    hverdict.trans herror, htotal.trans (by decide), hmessage.trans (by decide),
    hmessage'.trans (by decide)⟩

end ScanSummary

end ClusterAudit
