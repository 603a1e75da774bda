import ClusterAudit.Text.Basic
import Mathlib.Data.List.TakeWhile

/-!
# Texts cut at separators

Paths, names and queries are put together with a separator between their parts and cut at it again.
A part in which the separator does not occur is read back as it was written. What is cut here is a
list of anything, since nothing but the separators counts.
-/

namespace ClusterAudit.Text

variable {α : Type} [BEq α]

/-! ### The first piece -/

/-- The first piece is what stands in front of the first separator. -/
theorem pieces_eq_takeWhile (sep : α) (l : List α) :
    ∃ rest, pieces sep l = l.takeWhile (fun a => !a == sep) :: rest := by
  induction l with
  | nil => exact ⟨[], rfl⟩
  | cons a l ih =>
    obtain ⟨rest, hrest⟩ := ih
    rw [pieces, List.takeWhile_cons]
    cases ha : a == sep with
    | true => exact ⟨pieces sep l, rfl⟩
    | false =>
      refine ⟨rest, ?_⟩
      simp only [Bool.false_eq_true, ↓reduceIte, hrest, Bool.not_false]

theorem exists_pieces_eq_cons (sep : α) (l : List α) : ∃ p ps, pieces sep l = p :: ps := by
  obtain ⟨rest, hrest⟩ := pieces_eq_takeWhile sep l
  exact ⟨_, rest, hrest⟩

variable [LawfulBEq α] {sep : α} {l l' m m' : List α}

theorem takeWhile_append_cons_self (sep : α) (l m : List α) :
    (l ++ sep :: m).takeWhile (fun a => !a == sep) = l.takeWhile fun a => !a == sep := by
  induction l with
  | nil => simp
  | cons a l ih => rw [List.cons_append, List.takeWhile_cons, List.takeWhile_cons, ih]

theorem takeWhile_eq_self (h : sep ∉ l) : l.takeWhile (fun a => !a == sep) = l := by
  rw [List.takeWhile_eq_self_iff]
  intro a ha
  simpa using fun he : a = sep => h (he ▸ ha)

/-- What stands in front of the first separator can be read back, and so can what stands behind. -/
theorem append_cons_inj (hl : sep ∉ l) (hl' : sep ∉ l') (h : l ++ sep :: m = l' ++ sep :: m') :
    l = l' ∧ m = m' := by
  have hfirst := congrArg (List.takeWhile fun a => !a == sep) h
  rw [takeWhile_append_cons_self, takeWhile_append_cons_self, takeWhile_eq_self hl,
    takeWhile_eq_self hl'] at hfirst
  subst hfirst
  exact ⟨rfl, (List.cons.inj (List.append_cancel_left h)).2⟩

theorem cut_append_cons (h : sep ∉ l) (m : List α) : cut sep (l ++ sep :: m) = some (l, m) := by
  induction l with
  | nil => rw [List.nil_append, cut, if_pos (BEq.rfl)]
  | cons a l ih =>
    obtain ⟨hne, hrest⟩ := not_or.1 (mt List.mem_cons.2 h)
    rw [List.cons_append, cut, if_neg (by simpa using Ne.symm hne), ih hrest]
    rfl

/-! ### All pieces -/

theorem pieces_of_notMem (h : sep ∉ l) : pieces sep l = [l] := by
  induction l with
  | nil => rfl
  | cons a l ih =>
    obtain ⟨hne, hrest⟩ := not_or.1 (mt List.mem_cons.2 h)
    rw [pieces, if_neg (by simpa using Ne.symm hne), ih hrest]

/-- **A separator keeps the pieces on both sides apart.** -/
theorem pieces_append_cons (sep : α) (l m : List α) :
    pieces sep (l ++ sep :: m) = pieces sep l ++ pieces sep m := by
  induction l with
  | nil =>
    rw [List.nil_append, pieces.eq_2, if_pos BEq.rfl]
    rfl
  | cons a l ih =>
    rw [List.cons_append, pieces, ih, pieces]
    split
    · rfl
    · obtain ⟨p, ps, hp⟩ := exists_pieces_eq_cons sep l
      rw [hp]
      rfl

/-- **Put together again, the pieces are the text.** -/
theorem flatMap_cons_pieces (sep : α) (l : List α) :
    (pieces sep l).flatMap (sep :: ·) = sep :: l := by
  induction l with
  | nil => rfl
  | cons a l ih =>
    rw [pieces]
    split
    · rename_i hsep
      rw [List.flatMap_cons, ih, List.singleton_append, eq_of_beq hsep]
    · obtain ⟨p, ps, hp⟩ := exists_pieces_eq_cons sep l
      rw [hp, List.flatMap_cons, List.cons_append, List.cons.injEq] at ih
      rw [hp]
      dsimp only
      rw [List.flatMap_cons, List.cons_append, List.cons_append, ih.2]

/-! ### Texts put together -/

/-- What is in texts that are put together is in one of them or between two. -/
theorem mem_join {sep : String} {c : Char} {l : List String} (h : c ∈ (join sep l).toList) :
    c ∈ sep.toList ∨ ∃ s ∈ l, c ∈ s.toList := by
  induction l using join.induct with
  | case1 => exact absurd h List.not_mem_nil
  | case2 s => exact .inr ⟨s, List.mem_singleton_self s, h⟩
  | case3 s t rest ih =>
    rw [join, String.toList_append, String.toList_append, List.mem_append, List.mem_append] at h
    rcases h with (h | h) | h
    · exact .inr ⟨s, List.mem_cons_self, h⟩
    · exact .inl h
    · rcases ih h with hsep | ⟨u, hu, hc⟩
      · exact .inl hsep
      · exact .inr ⟨u, List.mem_cons_of_mem s hu, hc⟩

end ClusterAudit.Text
