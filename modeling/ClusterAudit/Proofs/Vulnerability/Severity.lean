import ClusterAudit.Vulnerability.Summary

/-!
# Severity labels in order

`ClusterAudit.Severity.compare` looks at the rank of two labels first and at the labels themselves
where the ranks do not decide (`ClusterAudit.Severity.compare_eq_lt_iff`). Both are orders, so the
two in a row are one as well, and since the second one tells all labels apart, so does the whole:
labels that are equal in the order are the same label, also when nobody knows what they mean. The
rank does not see case (`ClusterAudit.Severity.rank_upper`) and the order does, so two spellings of
a severity are of one rank and still not equal.

Counting puts labels in upper case beforehand. Upper case is a normal form
(`ClusterAudit.Text.upper_upper`): a letter that was moved into it is not moved again.
-/

namespace ClusterAudit

/-! ### Upper case -/

namespace Text

theorem toUpper_of_not_lower {c : Char} (h : ¬('a'.val ≤ c.val ∧ c.val ≤ 'z'.val)) :
    c.toUpper = c :=
  dif_neg h

theorem toUpper_toUpper (c : Char) : c.toUpper.toUpper = c.toUpper := by
  by_cases hlower : 'a'.val ≤ c.val ∧ c.val ≤ 'z'.val
  · have hupper : c.toUpper = _ := dif_pos hlower
    have hval : c.toUpper.val = c.val + ('A'.val - 'a'.val) := by rw [hupper]
    refine toUpper_of_not_lower fun hstill => ?_
    -- a letter moves down by the distance of the two cases, and this takes it out of the lower one
    rw [hval] at hstill
    simp only [UInt32.le_iff_toNat_le, UInt32.toNat_add, UInt32.toNat_sub, Char.reduceVal,
      UInt32.reduceToNat] at hlower hstill
    omega
  · rw [toUpper_of_not_lower hlower, toUpper_of_not_lower hlower]

/-- **What is in upper case stays as it is.** -/
@[simp] theorem upper_upper (s : String) : upper (upper s) = upper s := by
  simp only [upper, String.toList_ofList, List.map_map, Function.comp_def, toUpper_toUpper]

end Text

/-! ### The order -/

namespace Severity

variable {a b c : String}

instance : Std.TransCmp compare :=
  inferInstanceAs (Std.TransCmp (compareLex (compareOn rank) Ord.compare))

instance : Std.LawfulEqCmp compare where
  eq_of_compare h := by
    have hlabel := (Ordering.then_eq_eq.1 h).2
    exact Std.LawfulEqCmp.eq_of_compare hlabel

theorem le_iff : le a b = true ↔ (compare a b).isLE = true := by
  rw [le]
  cases compare a b <;> decide

theorem le_refl (a : String) : le a a = true := by
  have hself : compare a a = .eq := Std.ReflCmp.compare_self
  rw [le_iff, hself]
  rfl

theorem le_trans (hab : le a b = true) (hbc : le b c = true) : le a c = true :=
  le_iff.2 (Std.TransCmp.isLE_trans (le_iff.1 hab) (le_iff.1 hbc))

theorem le_total (a b : String) : (le a b || le b a) = true := by
  have hswap : compare b a = (compare a b).swap := Std.OrientedCmp.eq_swap
  rw [le, le, hswap]
  cases compare a b <;> decide

/-- **Labels that are not the same are told apart by the order.** -/
theorem compare_eq_lt_of_le (hle : le a b = true) (hne : a ≠ b) : compare a b = .lt := by
  have hisLE := le_iff.1 hle
  cases hcompare : compare a b with
  | lt => rfl
  | eq => exact absurd (Std.LawfulEqCmp.eq_of_compare hcompare) hne
  | gt =>
    rw [hcompare] at hisLE
    cases hisLE

theorem not_compare_self_eq_lt (a : String) : compare a a ≠ .lt := by
  have hself : compare a a = .eq := Std.ReflCmp.compare_self
  rw [hself]
  decide

theorem not_compare_eq_lt_of_compare_eq_lt (hab : compare a b = .lt) : compare b a ≠ .lt := by
  intro hba
  have hself : compare a a = .lt := Std.TransCmp.lt_trans hab hba
  exact not_compare_self_eq_lt a hself

theorem le_antisymm (hab : le a b = true) (hba : le b a = true) : a = b := by
  by_cases heq : a = b
  · exact heq
  · have hlt := compare_eq_lt_of_le hab heq
    exact absurd (compare_eq_lt_of_le hba (Ne.symm heq)) (not_compare_eq_lt_of_compare_eq_lt hlt)

/-- **What decides between two labels**: their ranks, and the labels where the ranks do not. -/
theorem compare_eq_lt_iff :
    compare a b = .lt ↔ rank a < rank b ∨ rank a = rank b ∧ a < b := by
  rw [compare, Ordering.then_eq_lt, Nat.compare_eq_lt, Nat.compare_eq_eq]
  exact or_congr_right (and_congr_right fun _ => compareOfLessAndEq_eq_lt)

/-- The rank does not see case. -/
theorem rank_upper (a : String) : rank (Text.upper a) = rank a := by
  rw [rank, rank, Text.upper_upper]

/-- The order never goes against the ranks. -/
theorem rank_le_of_le (h : le a b = true) : rank a ≤ rank b := by
  by_cases heq : a = b
  · exact Nat.le_of_eq (congrArg rank heq)
  · rcases compare_eq_lt_iff.1 (compare_eq_lt_of_le h heq) with hlt | ⟨hrank, -⟩
    · exact Nat.le_of_lt hlt
    · exact Nat.le_of_eq hrank

/-- What is strictly in order has severities that are all different. -/
theorem nodup_of_pairwise_lt {α : Type} {severity : α → String} {l : List α}
    (h : l.Pairwise fun a b => compare (severity a) (severity b) = .lt) :
    (l.map severity).Nodup := by
  rw [List.nodup_iff_pairwise_ne, List.pairwise_map]
  refine h.imp fun {a b} hlt heq => ?_
  rw [heq] at hlt
  exact not_compare_self_eq_lt (severity b) hlt

/-- **Sorting by severity** puts the more severe first. -/
theorem pairwise_mergeSort {α : Type} (severity : α → String) (l : List α) :
    (l.mergeSort fun a b => le (severity a) (severity b)).Pairwise
      fun a b => le (severity a) (severity b) = true := by
  refine List.pairwise_mergeSort (fun a b c hab hbc => ?_) (fun a b => ?_) l
  · exact le_trans hab hbc
  · exact le_total (severity a) (severity b)

/-- What has severities that are all different is strictly in order afterwards. -/
theorem pairwise_mergeSort_of_nodup {α : Type} {severity : α → String} {l : List α}
    (hnodup : (l.map severity).Nodup) :
    (l.mergeSort fun a b => le (severity a) (severity b)).Pairwise
      fun a b => compare (severity a) (severity b) = .lt := by
  have hperm := List.mergeSort_perm l fun a b => le (severity a) (severity b)
  have hdistinct := (hperm.map severity).nodup_iff.2 hnodup
  rw [List.nodup_iff_pairwise_ne, List.pairwise_map] at hdistinct
  have hsorted := pairwise_mergeSort severity l
  -- in order and all different is strictly in order
  refine (hsorted.and hdistinct).imp fun {a b} hboth => ?_
  exact compare_eq_lt_of_le hboth.1 hboth.2

end Severity

end ClusterAudit
