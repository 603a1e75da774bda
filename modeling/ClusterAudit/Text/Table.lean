/-!
# Tables keyed by text

Rule maps, labels and resource quantities are tables from text to values that are always
walked in the order of their keys. `Table` keeps that order in the type: its entries are
strictly increasing, so two tables with the same content are equal and walking one needs no
sorting.

`Text.insertDistinct` is the same idea for a set of texts.
-/

namespace ClusterAudit

/-! ### Sets of texts -/

/-- Put `x` into a strictly increasing list of texts, once. -/
def Text.insertDistinct (x : String) : List String → List String
  | [] => [x]
  | y :: ys => if x < y then x :: y :: ys else if x = y then y :: ys else y :: insertDistinct x ys

/-- The distinct texts of a list in increasing order. -/
def Text.sortedDistinct (xs : List String) : List String :=
  xs.foldr Text.insertDistinct []

theorem Text.mem_insertDistinct {x y : String} {l : List String} :
    y ∈ insertDistinct x l ↔ y = x ∨ y ∈ l := by
  induction l with
  | nil => simp [insertDistinct]
  | cons z l ih =>
    rw [insertDistinct]
    split
    · exact List.mem_cons
    · split
      next heq => simp [heq]
      · rw [List.mem_cons, ih, List.mem_cons]
        exact or_left_comm

theorem Text.pairwise_insertDistinct (x : String) {l : List String} (h : l.Pairwise (· < ·)) :
    (insertDistinct x l).Pairwise (· < ·) := by
  induction l with
  | nil => simp [insertDistinct]
  | cons z l ih =>
    rw [List.pairwise_cons] at h
    rw [insertDistinct]
    split
    next hlt =>
      refine List.pairwise_cons.2 ⟨fun y hy => ?_, List.pairwise_cons.2 h⟩
      rcases List.mem_cons.1 hy with rfl | hy
      · exact hlt
      · exact String.lt_trans hlt (h.1 y hy)
    next hlt =>
      split
      · exact List.pairwise_cons.2 h
      next hne =>
        refine List.pairwise_cons.2 ⟨fun y hy => ?_, ih h.2⟩
        rcases Text.mem_insertDistinct.1 hy with rfl | hy
        · exact Decidable.byContradiction fun hge =>
            hne (String.le_antisymm (String.not_lt.1 hge) (String.not_lt.1 hlt))
        · exact h.1 y hy

theorem Text.mem_sortedDistinct {x : String} {xs : List String} :
    x ∈ sortedDistinct xs ↔ x ∈ xs := by
  induction xs with
  | nil => simp [sortedDistinct]
  | cons y ys ih =>
    rw [sortedDistinct, List.foldr_cons, mem_insertDistinct, List.mem_cons]
    exact or_congr_right ih

theorem Text.pairwise_sortedDistinct (xs : List String) : (sortedDistinct xs).Pairwise (· < ·) := by
  induction xs with
  | nil => exact .nil
  | cons y ys ih => exact pairwise_insertDistinct y ih

/-! ### Tables -/

/-- Put `v` under the key `k` into a list of entries with increasing keys; an entry that is
already there gives way. -/
def putEntry {α : Type} (k : String) (v : α) : List (String × α) → List (String × α)
  | [] => [(k, v)]
  | (k', v') :: rest =>
    if k < k' then (k, v) :: (k', v') :: rest
    else if k = k' then (k, v) :: rest
    else (k', v') :: putEntry k v rest

theorem mem_putEntry {α : Type} {k : String} {v : α} {l : List (String × α)} {e : String × α}
    (h : e ∈ putEntry k v l) : e = (k, v) ∨ e ∈ l := by
  induction l with
  | nil => simpa [putEntry] using h
  | cons e' rest ih =>
    obtain ⟨k', v'⟩ := e'
    rw [putEntry] at h
    split at h
    · simpa using h
    · split at h
      · rcases List.mem_cons.1 h with h | h
        · exact .inl h
        · exact .inr (List.mem_cons_of_mem _ h)
      · rcases List.mem_cons.1 h with h | h
        · exact .inr (h ▸ List.mem_cons_self)
        · exact (ih h).imp id (List.mem_cons_of_mem _)

theorem pairwise_putEntry {α : Type} {k : String} {v : α} {l : List (String × α)}
    (h : l.Pairwise fun a b => a.1 < b.1) :
    (putEntry k v l).Pairwise fun a b => a.1 < b.1 := by
  induction l with
  | nil => simp [putEntry]
  | cons e' rest ih =>
    obtain ⟨k', v'⟩ := e'
    rw [List.pairwise_cons] at h
    rw [putEntry]
    split
    next hlt =>
      refine List.pairwise_cons.2 ⟨fun e he => ?_, List.pairwise_cons.2 h⟩
      rcases List.mem_cons.1 he with rfl | he
      · exact hlt
      · exact String.lt_trans hlt (h.1 e he)
    next hlt =>
      split
      next heq => exact List.pairwise_cons.2 ⟨fun e he => heq ▸ h.1 e he, h.2⟩
      next hne =>
        refine List.pairwise_cons.2 ⟨fun e he => ?_, ih h.2⟩
        rcases mem_putEntry he with rfl | he
        · exact Decidable.byContradiction fun hge =>
            hne (String.le_antisymm (String.not_lt.1 hge) (String.not_lt.1 hlt))
        · exact h.1 e he

theorem find?_putEntry {α : Type} (k : String) (v : α) (q : String) (l : List (String × α)) :
    (putEntry k v l).find? (fun e => e.1 == q)
      = if q = k then some (k, v) else l.find? fun e => e.1 == q := by
  induction l with
  | nil =>
    by_cases hq : q = k
    · simp [putEntry, hq]
    · simp [putEntry, hq, Ne.symm hq]
  | cons e' rest ih =>
    obtain ⟨k', v'⟩ := e'
    rw [putEntry]
    by_cases hq : q = k
    · subst hq
      split
      · simp
      · split
        · simp
        next hne => simp [ih, Ne.symm hne]
    · split
      · simp [Ne.symm hq]
      · split
        next heq => simp [Ne.symm hq, ← heq]
        · simp [List.find?_cons, ih, hq]

theorem find?_eq_some_of_mem {α : Type} {l : List (String × α)} {e : String × α}
    (h : l.Pairwise fun a b => a.1 < b.1) (he : e ∈ l) : l.find? (fun a => a.1 == e.1) = some e := by
  induction l with
  | nil => cases he
  | cons e' rest ih =>
    obtain ⟨hfirst, hrest⟩ := List.pairwise_cons.1 h
    rcases List.mem_cons.1 he with rfl | he
    · simp
    · have hne : e'.1 ≠ e.1 := String.ne_of_lt (hfirst e he)
      rw [List.find?_cons, beq_false_of_ne hne]
      exact ih hrest he

/-- A finite map from text, held as its entries in increasing order of their keys. -/
structure Table (α : Type) where
  /-- The entries, keys strictly increasing. -/
  entries : List (String × α)
  /-- Keys strictly increase, so each occurs once. -/
  sorted : entries.Pairwise fun a b => a.1 < b.1 := by simp
deriving DecidableEq

namespace Table

variable {α : Type}

/-- The table without entries. -/
def empty : Table α where
  entries := []

instance : Inhabited (Table α) := ⟨empty⟩

/-- The table with `v` under `k`, in place of what stood there. -/
def insert (t : Table α) (k : String) (v : α) : Table α where
  entries := putEntry k v t.entries
  sorted := pairwise_putEntry t.sorted

/-- The value under `k`. -/
def get? (t : Table α) (k : String) : Option α :=
  (t.entries.find? fun e => e.1 == k).map (·.2)

@[simp] theorem get?_empty (q : String) : (empty : Table α).get? q = none := rfl

theorem get?_insert (t : Table α) (k : String) (v : α) (q : String) :
    (t.insert k v).get? q = if q = k then some v else t.get? q := by
  rw [get?, insert, find?_putEntry]
  split
  · rfl
  · rfl

/-- The table of a list of entries; of entries with one key the last counts. -/
def ofList (l : List (String × α)) : Table α :=
  l.foldl (fun t e => t.insert e.1 e.2) empty

/-- Of entries with one key the last counts. -/
theorem get?_ofList (l : List (String × α)) (q : String) :
    (ofList l).get? q = (l.reverse.find? fun e => e.1 == q).map (·.2) := by
  rw [ofList, ← List.foldr_reverse]
  induction l.reverse with
  | nil => rfl
  | cons e rest ih =>
    rw [List.foldr_cons, get?_insert, List.find?_cons, ih]
    by_cases hq : q = e.1
    · simp [hq]
    · rw [if_neg hq, beq_false_of_ne (Ne.symm hq)]

/-- The keys in increasing order. -/
def keys (t : Table α) : List String :=
  t.entries.map (·.1)

/-- **The entries are what stands under the keys.** -/
theorem mem_entries {t : Table α} {k : String} {v : α} :
    (k, v) ∈ t.entries ↔ t.get? k = some v := by
  rw [get?]
  constructor
  · intro h
    rw [find?_eq_some_of_mem t.sorted h]
    rfl
  · intro h
    obtain ⟨⟨k', v'⟩, he, rfl⟩ := Option.map_eq_some_iff.1 h
    have hk : k' = k := by simpa using List.find?_some he
    exact hk ▸ List.mem_of_find?_eq_some he

theorem mem_keys {t : Table α} {k : String} : k ∈ t.keys ↔ ∃ v, t.get? k = some v := by
  simp only [keys, List.mem_map, Prod.exists, exists_and_right, exists_eq_right, mem_entries]

theorem pairwise_keys (t : Table α) : t.keys.Pairwise (· < ·) :=
  List.pairwise_map.2 t.sorted

/-- Whether there is no entry. -/
def isEmpty (t : Table α) : Bool :=
  t.entries.isEmpty

end Table

end ClusterAudit
