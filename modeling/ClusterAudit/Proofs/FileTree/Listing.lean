import ClusterAudit.Proofs.FileTree
import Mathlib.Data.List.Nodup

/-!
# Directories that list their entries in another order

What a directory lists comes in no particular order. `ClusterAudit.FileTree.Relisted` relates two
trees with the same files of which every directory may list its entries differently. A path leads to
the same place in both (`ClusterAudit.FileTree.Relisted.at?`), so a file has the same text
(`ClusterAudit.FileTree.Relisted.readText`), and what is not there in one is not there in the other,
for the same reason.

The way back up is the reason why this is not an induction on the path alone: two dots lead to a
directory that was left before, so the directories above have to be related as well.
-/

namespace ClusterAudit

namespace FileTree

/-- **The same files, listed in another order**: in every directory the entries have the same names
in another order, and under each name stand the same files, listed in another order. -/
inductive Relisted : FileTree → FileTree → Prop
  /-- A file is the same file. -/
  | file (bytes : List UInt8) : Relisted (.file bytes) (.file bytes)
  /-- A directory has the same names. -/
  | directory {entries entries' : List (String × FileTree)}
      (names : (entries.map Prod.fst).Perm (entries'.map Prod.fst))
      (below : ∀ name t t', (name, t) ∈ entries → (name, t') ∈ entries' → Relisted t t') :
      Relisted (.directory entries) (.directory entries')

/-- Two searches find the same, up to the order of entries, or fail for the same reason. -/
def FoundAlike (x y : Except FileFault FileTree) : Prop :=
  (∃ e, x = .error e ∧ y = .error e) ∨ ∃ t t', x = .ok t ∧ y = .ok t' ∧ t.Relisted t'

theorem FoundAlike.fault (e : FileFault) : FoundAlike (.error e) (.error e) :=
  .inl ⟨e, rfl, rfl⟩

theorem mem_of_child? {name : String} {entries : List (String × FileTree)} {t : FileTree}
    (h : child? name entries = some t) : (name, t) ∈ entries := by
  obtain ⟨⟨n, u⟩, hfind, rfl⟩ := Option.map_eq_some_iff.1 h
  obtain rfl : n = name := by simpa using List.find?_some hfind
  exact List.mem_of_find?_eq_some hfind

theorem exists_child? {name : String} {entries : List (String × FileTree)} :
    (∃ t, child? name entries = some t) ↔ name ∈ entries.map Prod.fst := by
  constructor
  · rintro ⟨t, ht⟩
    exact List.mem_map_of_mem (mem_of_child? ht)
  · intro h
    obtain ⟨e, he, rfl⟩ := List.mem_map.1 h
    have hsome : (entries.find? fun f => f.1 == e.1).isSome :=
      List.find?_isSome.2 ⟨e, he, by simp⟩
    obtain ⟨f, hf⟩ := Option.isSome_iff_exists.1 hsome
    exact ⟨f.2, by rw [child?, hf]; rfl⟩

namespace Relisted

variable {t t' : FileTree} {entries entries' : List (String × FileTree)}

/-- A directory in which no name stands twice may list its entries in any order. -/
theorem of_perm (h : entries.Perm entries') (names : (entries.map Prod.fst).Nodup)
    (self : ∀ e ∈ entries, e.2.Relisted e.2) :
    Relisted (.directory entries) (.directory entries') := by
  refine .directory (h.map _) fun name t t' ht ht' => ?_
  have hsame : (name, t) = (name, t') :=
    List.inj_on_of_nodup_map names ht (h.mem_iff.2 ht') rfl
  obtain rfl := congrArg Prod.snd hsame
  exact self _ ht

/-- **Under a name stands the same**, up to the order of entries, or nothing in both. -/
theorem child? (h : Relisted (.directory entries) (.directory entries')) (name : String) :
    (FileTree.child? name entries = none ∧ FileTree.child? name entries' = none) ∨
      ∃ u u', FileTree.child? name entries = some u ∧ FileTree.child? name entries' = some u' ∧
        u.Relisted u' := by
  cases h with
  | directory names below =>
    by_cases hname : name ∈ entries.map Prod.fst
    · obtain ⟨u, hu⟩ := exists_child?.2 hname
      obtain ⟨u', hu'⟩ := exists_child?.2 (names.mem_iff.1 hname)
      exact .inr ⟨u, u', hu, hu', below name u u' (mem_of_child? hu) (mem_of_child? hu')⟩
    · refine .inl ⟨?_, ?_⟩
      · exact Option.eq_none_iff_forall_ne_some.2 fun u hu => hname (exists_child?.1 ⟨u, hu⟩)
      · exact Option.eq_none_iff_forall_ne_some.2 fun u hu =>
          hname (names.mem_iff.2 (exists_child?.1 ⟨u, hu⟩))

/-- **A path leads to the same place** in whatever order directories list their entries. -/
theorem follow (h : t.Relisted t') {above above' : List FileTree}
    (habove : List.Forall₂ Relisted above above') (path : List String) :
    FoundAlike (FileTree.follow path above t) (FileTree.follow path above' t') := by
  induction path generalizing t t' above above' with
  | nil => exact .inr ⟨t, t', rfl, rfl, h⟩
  | cons part rest ih =>
    have hsame := h
    cases h with
    | file bytes => exact .fault .notDirectory
    | directory names below =>
      by_cases hstays : part = "" ∨ part = "."
      · rw [follow_stays hstays, follow_stays hstays]
        exact ih hsame habove
      by_cases hback : part = ".."
      · subst hback
        cases habove with
        | nil => simpa [FileTree.follow] using FoundAlike.fault .notFound
        | cons hup habove =>
          rw [follow_back, follow_back]
          exact ih hup habove
      obtain ⟨hempty, hdot⟩ := not_or.1 hstays
      by_cases hlong : 255 < (Utf8.encode part.toList).length
      · simpa [FileTree.follow, hempty, hdot, hback, hlong] using FoundAlike.fault .nameTooLong
      rcases hsame.child? part with ⟨hu, hu'⟩ | ⟨u, u', hu, hu', hchild⟩
      · simpa [FileTree.follow, hempty, hdot, hback, hlong, hu, hu'] using
          FoundAlike.fault .notFound
      · have hname : IsName part := ⟨⟨hempty, hdot⟩, hback, Nat.not_lt.1 hlong⟩
        rw [hname.follow hu, hname.follow hu']
        exact ih hchild (.cons hsame habove)

theorem at? (h : t.Relisted t') (path : String) : FoundAlike (t.at? path) (t'.at? path) := by
  rw [FileTree.at?, FileTree.at?]
  split
  · exact .fault _
  · split
    · exact .fault _
    · split
      · exact .fault _
      · exact h.follow .nil _

theorem isFileAt (h : t.Relisted t') (path : String) : t.isFileAt path = t'.isFileAt path := by
  rw [FileTree.isFileAt, FileTree.isFileAt]
  rcases h.at? path with ⟨e, hx, hy⟩ | ⟨u, u', hx, hy, hu⟩
  · rw [hx, hy]
  · rw [hx, hy]
    cases hu <;> rfl

/-- **A file has the same text** in whatever order directories list their entries. -/
theorem readText (h : t.Relisted t') (path : String) : t.readText path = t'.readText path := by
  rw [FileTree.readText, FileTree.readText]
  rcases h.at? path with ⟨e, hx, hy⟩ | ⟨u, u', hx, hy, hu⟩
  · rw [hx, hy]
  · rw [hx, hy]
    cases hu <;> rfl

end Relisted

end FileTree

end ClusterAudit
