import ClusterAudit.Verdict
import Mathlib.Data.UInt

/-!
# Tallies as counts

A tally is four words, one for each verdict. `ClusterAudit.Tally.count` reads the word of a
verdict, two tallies with the same words are the same
(`ClusterAudit.Tally.ext_count`), and every operation is determined by what it does to them:
counting adds one to one of them, appending adds them word by word.

The tally of a list of verdicts therefore holds, as words of 32 bits, how often every verdict
occurs in it (`ClusterAudit.Tally.count_ofVerdicts`). Below `2 ^ 32` things that end in verdicts
these are the numbers themselves (`ClusterAudit.Tally.toNat_count_ofVerdicts_map`); beyond, they are
the remainders. Tallies that are added up count what all of them count
(`ClusterAudit.Tally.sum_map_ofVerdicts`).
-/

namespace ClusterAudit

namespace Tally

/-- How many checks of a tally ended in a verdict. -/
def count (t : Tally) : Verdict → UInt32
  | .success => t.successes
  | .warning => t.warnings
  | .error => t.errors
  | .noData => t.noData

theorem ext_count {t u : Tally} (h : ∀ v, t.count v = u.count v) : t = u := by
  obtain ⟨s, w, e, n⟩ := t
  obtain ⟨s', w', e', n'⟩ := u
  have hs : s = s' := h .success
  have hw : w = w' := h .warning
  have he : e = e' := h .error
  have hn : n = n' := h .noData
  rw [hs, hw, he, hn]

@[simp] theorem count_empty (v : Verdict) : ({} : Tally).count v = 0 := by
  cases v <;> rfl

@[simp] theorem count_append (t u : Tally) (v : Verdict) :
    (t ++ u).count v = t.count v + u.count v := by
  cases v <;> rfl

@[simp] theorem append_empty (t : Tally) : t ++ {} = t :=
  ext_count fun v => by rw [count_append, count_empty, UInt32.add_zero]

theorem count_add (t : Tally) (w v : Verdict) :
    (t.add w).count v = t.count v + if w = v then 1 else 0 := by
  cases w <;> cases v <;> simp [add, count]

/-! ### The tally of a list -/

theorem count_foldl_add (l : List Verdict) (t : Tally) (v : Verdict) :
    (l.foldl add t).count v = t.count v + UInt32.ofNat (l.count v) := by
  induction l generalizing t with
  | nil => simp
  | cons w l ih =>
    rw [List.foldl_cons, ih, count_add, List.count_cons, UInt32.ofNat_add, UInt32.add_assoc]
    by_cases h : w = v
    · simp [h, UInt32.add_comm]
    · simp [h]

/-- **The tally of a list counts it**, in words of 32 bits. -/
theorem count_ofVerdicts (l : List Verdict) (v : Verdict) :
    (ofVerdicts l).count v = UInt32.ofNat (l.count v) := by
  rw [ofVerdicts, count_foldl_add, count_empty, UInt32.zero_add]

/-- Of things that end in verdicts the tally counts those that end in each. -/
theorem count_ofVerdicts_map {α : Type} (f : α → Verdict) (l : List α) (v : Verdict) :
    (ofVerdicts (l.map f)).count v = UInt32.ofNat (l.countP fun a => f a = v) := by
  rw [count_ofVerdicts, List.count_eq_countP, List.countP_map]
  exact congrArg UInt32.ofNat (List.countP_congr fun a _ => by simp)

/-- **The tally of a list counts it exactly** as long as the words do not overflow. -/
theorem toNat_count_ofVerdicts_map {α : Type} (f : α → Verdict) {l : List α}
    (small : l.length < 2 ^ 32) (v : Verdict) :
    ((ofVerdicts (l.map f)).count v).toNat = l.countP fun a => f a = v := by
  rw [count_ofVerdicts_map]
  exact UInt32.toNat_ofNat_of_lt' (Nat.lt_of_le_of_lt List.countP_le_length small)

/-- **A word that is not zero has counted something.** -/
theorem exists_of_count_pos {α : Type} {f : α → Verdict} {l : List α} {v : Verdict}
    (h : 0 < (ofVerdicts (l.map f)).count v) : ∃ a ∈ l, f a = v := by
  by_contra hnone
  have hzero : (l.countP fun a => f a = v) = 0 := by
    rw [List.countP_eq_zero]
    exact fun a ha hv => hnone ⟨a, ha, of_decide_eq_true hv⟩
  rw [count_ofVerdicts_map, hzero] at h
  exact absurd h (by decide)

/-- **A word that has counted something is not zero**, as long as it does not overflow. -/
theorem count_pos_of_exists {α : Type} {f : α → Verdict} {l : List α} (small : l.length < 2 ^ 32)
    {v : Verdict} (h : ∃ a ∈ l, f a = v) : 0 < (ofVerdicts (l.map f)).count v := by
  obtain ⟨a, ha, hv⟩ := h
  rw [UInt32.lt_iff_toNat_lt, toNat_count_ofVerdicts_map f small]
  exact List.countP_pos_iff.2 ⟨a, ha, decide_eq_true hv⟩

/-- **The four words add up** to how many there are, as long as they do not overflow. -/
theorem sum_toNat_ofVerdicts_map {α : Type} (f : α → Verdict) {l : List α}
    (small : l.length < 2 ^ 32) :
    let t := ofVerdicts (l.map f)
    t.successes.toNat + t.warnings.toNat + t.errors.toNat + t.noData.toNat = l.length := by
  intro t
  have hcount : ∀ v, (t.count v).toNat = l.countP fun a => f a = v :=
    toNat_count_ofVerdicts_map f small
  have hsuccesses := hcount .success
  have hwarnings := hcount .warning
  have herrors := hcount .error
  have hnoData := hcount .noData
  simp only [count] at hsuccesses hwarnings herrors hnoData
  rw [hsuccesses, hwarnings, herrors, hnoData]
  clear * -
  induction l with
  | nil => rfl
  | cons a l ih =>
    simp only [List.countP_cons, List.length_cons]
    cases f a <;> simp <;> omega

/-- The order in which verdicts are counted does not matter. -/
theorem ofVerdicts_perm {l m : List Verdict} (h : l.Perm m) : ofVerdicts l = ofVerdicts m :=
  ext_count fun v => by rw [count_ofVerdicts, count_ofVerdicts, h.count_eq]

theorem ofVerdicts_append (l m : List Verdict) :
    ofVerdicts (l ++ m) = ofVerdicts l ++ ofVerdicts m :=
  ext_count fun v => by simp [count_ofVerdicts, UInt32.ofNat_add]

theorem add_ofVerdicts (l : List Verdict) (v : Verdict) :
    (ofVerdicts l).add v = ofVerdicts (l ++ [v]) := by
  simp only [ofVerdicts, List.foldl_append, List.foldl_cons, List.foldl_nil]

theorem total_add (t : Tally) (v : Verdict) : (t.add v).total = t.total + 1 := by
  cases v <;> simp only [add, total] <;> ac_rfl

theorem total_foldl_add (l : List Verdict) (t : Tally) :
    (l.foldl add t).total = t.total + UInt32.ofNat l.length := by
  induction l generalizing t with
  | nil => simp
  | cons v l ih =>
    rw [List.foldl_cons, ih, total_add, List.length_cons, Nat.add_comm l.length 1,
      UInt32.ofNat_add, UInt32.add_assoc]
    rfl

/-- **In all a tally counts as many as there are**, in words of 32 bits. -/
theorem total_ofVerdicts (l : List Verdict) : (ofVerdicts l).total = .ofNat l.length := by
  have hempty : ({} : Tally).total = 0 := rfl
  rw [ofVerdicts, total_foldl_add, hempty, UInt32.zero_add]

/-! ### Sums of tallies -/

/-- The tallies of a list added field by field. -/
def sum (l : List Tally) : Tally :=
  l.foldl (· ++ ·) {}

theorem count_foldl_append (l : List Tally) (t : Tally) (v : Verdict) :
    (l.foldl (· ++ ·) t).count v = t.count v + (l.map fun u => u.count v).sum := by
  induction l generalizing t with
  | nil => simp
  | cons u l ih =>
    rw [List.foldl_cons, ih, count_append, List.map_cons, List.sum_cons, UInt32.add_assoc]

theorem count_sum (l : List Tally) (v : Verdict) :
    (sum l).count v = (l.map fun u => u.count v).sum := by
  rw [sum, count_foldl_append, count_empty, UInt32.zero_add]

/-- Tallies appended one after another count what all of them count. -/
theorem foldl_append_ofVerdicts {α : Type} (f : α → List Verdict) (l : List α) (m : List Verdict) :
    l.foldl (fun t a => t ++ ofVerdicts (f a)) (ofVerdicts m) = ofVerdicts (m ++ l.flatMap f) := by
  induction l generalizing m with
  | nil => simp
  | cons a l ih =>
    rw [List.foldl_cons, ← ofVerdicts_append, ih, List.flatMap_cons, List.append_assoc]

theorem sum_map_ofVerdicts {α : Type} (f : α → List Verdict) (l : List α) :
    sum (l.map fun a => ofVerdicts (f a)) = ofVerdicts (l.flatMap f) := by
  rw [sum, List.foldl_map]
  exact foldl_append_ofVerdicts f l []

theorem sum_map_ofNat (l : List Nat) : (l.map UInt32.ofNat).sum = .ofNat l.sum := by
  induction l with
  | nil => rfl
  | cons n l ih => rw [List.map_cons, List.sum_cons, List.sum_cons, ih, UInt32.ofNat_add]

end Tally

end ClusterAudit
