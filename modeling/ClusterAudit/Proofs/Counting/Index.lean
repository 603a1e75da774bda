import ClusterAudit.Proofs.Counting.Tally
import ClusterAudit.Report.Summary
import Mathlib.Algebra.BigOperators.Group.List.Basic
import Mathlib.Data.List.Induction

/-!
# Counting under names

A report counts its checks under two kinds of names: the groups they belong to and the namespaces
their paths begin with. Both are a key of a check, which a check may be without, and both are
counted by the same `ClusterAudit.SummaryIndex`. This file says what comes out.

`ClusterAudit.ResultSummary.byKey` is the answer in one line: the names that occur, each once and
in the order in which they occur first, and under each name the tally of the checks that have it.
The proof reads an index as its list of summaries. Names and places are in step, so counting under
a name that is there touches one summary, and counting under a new one adds one at the end.

The last sections use the summaries again. A check that has a name is counted under exactly one
(`ClusterAudit.ResultSummary.sum_countP_namesBy`), so what the summaries miss when they are added
up are the checks without a name and nothing else (`ClusterAudit.ResultSummary.sum_byKey`); and to
look a name up among them is to count the checks that have it
(`ClusterAudit.ResultSummary.countsOf_byKey`). The order of the checks decides the order of the
summaries and nothing else about them (`ClusterAudit.ResultSummary.byKey_perm`).
-/

namespace ClusterAudit

/-! ### First occurrences -/

theorem nodup_eraseDups {α : Type} [BEq α] [LawfulBEq α] : ∀ l : List α, l.eraseDups.Nodup
  | [] => by simp
  | a :: l => by
    rw [List.eraseDups_cons, List.nodup_cons]
    exact ⟨by simp, nodup_eraseDups (l.filter fun b => !b == a)⟩
termination_by l => l.length
decreasing_by exact Nat.lt_succ_of_le (List.length_filter_le _ _)

theorem eraseDups_concat_of_mem {α : Type} [BEq α] [LawfulBEq α] {l : List α} {a : α}
    (h : a ∈ l) : (l ++ [a]).eraseDups = l.eraseDups := by
  rw [List.eraseDups_append]
  simp [List.removeAll, h]

theorem eraseDups_concat_of_notMem {α : Type} [BEq α] [LawfulBEq α] {l : List α} {a : α}
    (h : a ∉ l) : (l ++ [a]).eraseDups = l.eraseDups ++ [a] := by
  rw [List.eraseDups_append]
  simp [List.removeAll, h, List.eraseDups_cons]

/-! ### What is counted -/

namespace ResultSummary

/-- The names that checks have under a key, in the order in which they occur first. -/
def namesBy (key : Check → Option String) (l : List Check) : List String :=
  (l.filterMap key).eraseDups

/-- The tally of the checks that have a name under a key. -/
def tallyBy (key : Check → Option String) (l : List Check) (name : Option String) : Tally :=
  .ofVerdicts ((l.filter fun c => key c = name).map Check.verdict)

/-- **The summaries of checks under a key**: one for every name that occurs. -/
def byKey (key : Check → Option String) (l : List Check) : List ResultSummary :=
  (namesBy key l).map fun n => { name := n, counts := tallyBy key l (some n) }

@[simp] theorem names_byKey (key : Check → Option String) (l : List Check) :
    (byKey key l).map ResultSummary.name = namesBy key l := by
  simp [byKey, Function.comp_def]

theorem mem_namesBy {key : Check → Option String} {l : List Check} {n : String} :
    n ∈ namesBy key l ↔ ∃ c ∈ l, key c = some n := by
  rw [namesBy, List.mem_eraseDups, List.mem_filterMap]

theorem nodup_namesBy (key : Check → Option String) (l : List Check) : (namesBy key l).Nodup :=
  nodup_eraseDups _

/-! One more check adds its name if that is new, and changes the tally of its own name and no
other. -/

theorem namesBy_concat_of_none {key : Check → Option String} {c : Check} (h : key c = none)
    (l : List Check) : namesBy key (l ++ [c]) = namesBy key l := by
  simp [namesBy, h]

theorem namesBy_concat_of_mem {key : Check → Option String} {l : List Check} {c : Check}
    {n : String} (h : key c = some n) (hn : n ∈ namesBy key l) :
    namesBy key (l ++ [c]) = namesBy key l := by
  have := eraseDups_concat_of_mem (List.mem_eraseDups.1 hn)
  rw [namesBy, namesBy, List.filterMap_append, ← this]
  simp [h]

theorem namesBy_concat_of_notMem {key : Check → Option String} {l : List Check} {c : Check}
    {n : String} (h : key c = some n) (hn : n ∉ namesBy key l) :
    namesBy key (l ++ [c]) = namesBy key l ++ [n] := by
  have := eraseDups_concat_of_notMem fun hm => hn (List.mem_eraseDups.2 hm)
  rw [namesBy, namesBy, List.filterMap_append, ← this]
  simp [h]

theorem tallyBy_concat_self (key : Check → Option String) (l : List Check) (c : Check) :
    tallyBy key (l ++ [c]) (key c) = (tallyBy key l (key c)).add c.verdict := by
  rw [tallyBy, tallyBy, Tally.add_ofVerdicts]
  simp

theorem tallyBy_concat_of_ne {key : Check → Option String} {c : Check} {name : Option String}
    (h : key c ≠ name) (l : List Check) : tallyBy key (l ++ [c]) name = tallyBy key l name := by
  simp [tallyBy, h]

theorem count_tallyBy (key : Check → Option String) (l : List Check) (name : Option String)
    (v : Verdict) :
    (tallyBy key l name).count v = .ofNat (l.countP fun c => key c = name ∧ c.verdict = v) := by
  rw [tallyBy, Tally.count_ofVerdicts_map, List.countP_filter]
  refine congrArg UInt32.ofNat (List.countP_congr fun c _ => ?_)
  simp [and_comm]

theorem tallyBy_of_notMem {key : Check → Option String} {l : List Check} {n : String}
    (h : n ∉ namesBy key l) : tallyBy key l (some n) = {} := by
  have hnone : l.filter (fun c => key c = some n) = [] := by
    rw [List.filter_eq_nil_iff]
    intro c hc hn
    exact h (mem_namesBy.2 ⟨c, hc, by simpa using hn⟩)
  rw [tallyBy, hnone]
  rfl

end ResultSummary

/-! ### The index as a list of summaries -/

namespace SummaryIndex

/-- The names of an index in the order of its summaries. -/
def names (x : SummaryIndex) : List String :=
  x.entries.map ResultSummary.name

theorem getElem?_names {x : SummaryIndex} {n : String} {i : Nat} :
    x.names[i]? = some n ↔ x.positions.get? n = some i := by
  rw [names, List.getElem?_map, x.inStep]

theorem mem_names {x : SummaryIndex} {n : String} :
    n ∈ x.names ↔ ∃ i, x.positions.get? n = some i := by
  rw [List.mem_iff_getElem?]
  exact exists_congr fun i => getElem?_names

/-- Counting under a name that is there changes its summary and no other. -/
theorem entries_add_of_mem {x : SummaryIndex} {n : String} (h : n ∈ x.names) (v : Verdict) :
    (x.add n v).entries = x.entries.map fun s => if s.name = n then s.count v else s := by
  obtain ⟨i, hi⟩ := mem_names.1 h
  have hlt := x.lt_length hi
  have hplace : x.place n = ⟨x, i, hlt⟩ := by
    unfold place
    split
    next j hj =>
      rw [hi] at hj
      cases hj
      rfl
    next hj =>
      rw [hi] at hj
      cases hj
  have hname : ∀ (j : Nat) (hj : j < x.entries.length), x.entries[j].name = n ↔ i = j := by
    intro j hj
    have := x.inStep n j
    rw [List.getElem?_eq_getElem hj, Option.map_some, Option.some.injEq, hi,
      Option.some.injEq] at this
    exact this.symm
  rw [add, hplace]
  refine List.ext_getElem (by simp [countAt]) fun j h1 h2 => ?_
  have hj : j < x.entries.length := by simpa using h2
  simp only [countAt, List.getElem_map]
  rw [List.getElem_set]
  by_cases hij : i = j
  · subst hij
    rw [if_pos rfl, if_pos ((hname i hj).2 rfl)]
    rfl
  · rw [if_neg hij, if_neg fun he => hij ((hname j hj).1 he)]

/-- Counting under a new name adds a summary at the end. -/
theorem entries_add_of_notMem {x : SummaryIndex} {n : String} (h : n ∉ x.names) (v : Verdict) :
    (x.add n v).entries = x.entries ++ [{ name := n, counts := Tally.add {} v }] := by
  have hnew : x.positions.get? n = none := by
    cases hp : x.positions.get? n with
    | none => rfl
    | some i => exact absurd (mem_names.2 ⟨i, hp⟩) h
  have hplace : x.place n = ⟨x.push n hnew, x.entries.length, by simp [push]⟩ := by
    unfold place
    split
    next j hj =>
      rw [hnew] at hj
      cases hj
    · rfl
  rw [add, hplace]
  simp [countAt, push, ResultSummary.count]

/-- Count a check under its key, if it has one. -/
def addBy (key : Check → Option String) (x : SummaryIndex) (c : Check) : SummaryIndex :=
  match key c with
  | some n => x.add n c.verdict
  | none => x

open ResultSummary in
/-- **What an index counts**: the summaries of the checks, in the order in which their names occur
first. -/
theorem entries_foldl_addBy (key : Check → Option String) (l : List Check) :
    (l.foldl (addBy key) .empty).entries = byKey key l := by
  induction l using List.reverseRecOn with
  | nil => rfl
  | append_singleton l c ih =>
    rw [List.foldl_append, List.foldl_cons, List.foldl_nil, addBy]
    have hnames : (l.foldl (addBy key) .empty).names = namesBy key l := by
      rw [names, ih, names_byKey]
    cases hk : key c with
    | none =>
      -- a check without a name leaves all names and all tallies alone
      have hn := namesBy_concat_of_none hk l
      have ht : ∀ n, tallyBy key (l ++ [c]) (some n) = tallyBy key l (some n) := fun n =>
        tallyBy_concat_of_ne (by simp [hk]) l
      simp only [ih, byKey, hn, ht]
    | some n =>
      have hself : tallyBy key (l ++ [c]) (some n) = (tallyBy key l (some n)).add c.verdict := by
        rw [← hk]
        exact tallyBy_concat_self key l c
      have hother : ∀ m, m ≠ n → tallyBy key (l ++ [c]) (some m) = tallyBy key l (some m) :=
        fun m hm => tallyBy_concat_of_ne (by rw [hk]; simpa using Ne.symm hm) l
      by_cases hmem : n ∈ namesBy key l
      · rw [entries_add_of_mem (by rwa [hnames]), ih, byKey, byKey,
          namesBy_concat_of_mem hk hmem, List.map_map]
        refine List.map_congr_left fun m _ => ?_
        by_cases hm : m = n
        · subst hm
          simp [hself, ResultSummary.count]
        · simp [hm, hother m hm]
      · rw [entries_add_of_notMem (by rwa [hnames]), ih, byKey, byKey,
          namesBy_concat_of_notMem hk hmem, List.map_append]
        refine congrArg₂ (· ++ ·) (List.map_congr_left fun m hm => ?_) ?_
        · rw [hother m fun he => hmem (he ▸ hm)]
        · rw [List.map_singleton, hself, tallyBy_of_notMem hmem]

end SummaryIndex

/-! ### Adding summaries up -/

namespace ResultSummary

theorem sum_ite_eq_of_nodup {names : List String} (hn : names.Nodup) (m : String) :
    (names.map fun n => if m = n then 1 else 0).sum = if m ∈ names then 1 else 0 := by
  induction names with
  | nil => simp
  | cons n names ih =>
    obtain ⟨hnot, hrest⟩ := List.nodup_cons.1 hn
    by_cases h : m = n
    · subst h
      simp [ih hrest, hnot]
    · simp [ih hrest, h]

/-- **Every check with a name is counted under exactly one**: counted name by name, together with
the checks that have none, checks are counted once each. -/
theorem sum_countP_namesBy (key : Check → Option String) (l : List Check) (p : Check → Bool) :
    ((namesBy key l).map fun n => l.countP fun c => key c = some n ∧ p c).sum
      + (l.countP fun c => key c = none ∧ p c) = l.countP p := by
  -- the names stay fixed while the checks are counted one after another
  have hall : ∀ m : List Check, (∀ c ∈ m, c ∈ l) →
      ((namesBy key l).map fun n => m.countP fun c => key c = some n ∧ p c).sum
        + (m.countP fun c => key c = none ∧ p c) = m.countP p := by
    intro m
    induction m with
    | nil => simp
    | cons c m ih =>
      intro hm
      have hrest := ih fun d hd => hm d (List.mem_cons_of_mem c hd)
      have hc := hm c List.mem_cons_self
      simp only [List.countP_cons, List.sum_map_add]
      cases hp : p c with
      | false => simpa using hrest
      | true =>
        cases hk : key c with
        | none =>
          simp only [reduceCtorEq, false_and, decide_false, Bool.false_eq_true, ↓reduceIte,
            List.map_const', List.sum_replicate, nsmul_zero, and_self, decide_true]
          omega
        | some n =>
          have hmem : n ∈ namesBy key l := mem_namesBy.2 ⟨c, hc, hk⟩
          have hone := sum_ite_eq_of_nodup (nodup_namesBy key l) n
          rw [if_pos hmem] at hone
          simp only [Option.some.injEq, and_true, decide_eq_true_eq, hone, reduceCtorEq,
            decide_false, Bool.false_eq_true, ↓reduceIte]
          omega
  exact hall l fun c hc => hc

/-- **The summaries miss the checks without a name and nothing else.** -/
theorem sum_byKey (key : Check → Option String) (l : List Check) :
    Tally.sum ((byKey key l).map ResultSummary.counts) ++ tallyBy key l none
      = .ofVerdicts (l.map Check.verdict) := by
  refine Tally.ext_count fun v => ?_
  have hnames : (((byKey key l).map ResultSummary.counts).map fun t => t.count v)
      = ((namesBy key l).map fun n => l.countP fun c => key c = some n ∧ c.verdict = v).map
          UInt32.ofNat := by
    simp only [byKey, List.map_map]
    exact List.map_congr_left fun n _ => count_tallyBy key l (some n) v
  have hsum := sum_countP_namesBy key l fun c => c.verdict = v
  simp only [decide_eq_true_eq] at hsum
  rw [Tally.count_append, Tally.count_sum, hnames, Tally.sum_map_ofNat, count_tallyBy,
    ← UInt32.ofNat_add, hsum, Tally.count_ofVerdicts_map]

/-! ### Looking a name up -/

/-- What summaries say about a name. One that is not among them is not counted at all. -/
def countsOf (entries : List ResultSummary) (name : String) : Tally :=
  ((entries.find? fun s => s.name = name).map ResultSummary.counts).getD {}

/-- Under a name that occurs stands its summary, and under another name nothing. -/
theorem find?_byKey (key : Check → Option String) (l : List Check) (name : String) :
    (byKey key l).find? (fun s => s.name = name) =
      if name ∈ namesBy key l then some { name := name, counts := tallyBy key l (some name) }
      else none := by
  rw [byKey, List.find?_map]
  cases hfind : (namesBy key l).find? _ with
  | none =>
    have hnot : name ∉ namesBy key l := fun hmem => by
      simpa using List.find?_eq_none.1 hfind name hmem
    rw [if_neg hnot]
    rfl
  | some n =>
    have hn : n = name := by simpa using List.find?_some hfind
    subst hn
    rw [if_pos (List.mem_of_find?_eq_some hfind)]
    rfl

theorem countsOf_byKey (key : Check → Option String) (l : List Check) (name : String) :
    countsOf (byKey key l) name = tallyBy key l (some name) := by
  rw [countsOf, find?_byKey]
  split
  next => rfl
  next hnot =>
    rw [tallyBy_of_notMem hnot]
    rfl

/-! ### Checks in another order -/

variable {l m : List Check}

theorem mem_namesBy_of_perm (key : Check → Option String) (h : l.Perm m) (name : String) :
    name ∈ namesBy key l ↔ name ∈ namesBy key m := by
  simp only [mem_namesBy, h.mem_iff]

theorem tallyBy_of_perm (key : Check → Option String) (h : l.Perm m) (name : Option String) :
    tallyBy key l name = tallyBy key m name :=
  Tally.ofVerdicts_perm ((h.filter _).map Check.verdict)

/-- **In another order the same checks have the same summaries**, in another order. -/
theorem byKey_perm (key : Check → Option String) (h : l.Perm m) :
    (byKey key l).Perm (byKey key m) := by
  have hnames : (namesBy key l).Perm (namesBy key m) :=
    (List.perm_ext_iff_of_nodup (nodup_namesBy key l) (nodup_namesBy key m)).2
      (mem_namesBy_of_perm key h)
  rw [byKey, byKey]
  simp only [tallyBy_of_perm key h]
  exact hnames.map _

theorem find?_byKey_of_perm (key : Check → Option String) (h : l.Perm m) (name : String) :
    (byKey key l).find? (fun s => s.name = name) = (byKey key m).find? fun s => s.name = name := by
  simp only [find?_byKey, mem_namesBy_of_perm key h, tallyBy_of_perm key h]

end ResultSummary

end ClusterAudit
