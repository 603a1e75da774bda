import ClusterAudit.Json.Canonical
import Mathlib.Data.List.Nodup

/-!
# The fields of objects

An object is a list of fields, and a reader asks for them by name. `ClusterAudit.Json.given` is the
list of the fields with a name: the last of them counts, the order in which fields of other names
stand between them does not, and where the names of an object are distinct there is one at most.
Putting a document into canonical order does not change what stands under a name
(`ClusterAudit.Json.field?_canonical`).
-/

namespace ClusterAudit.Json

variable {l l' : List (String × Json)} {f : String × Json} {k : String}

/-! ### Fields with a name -/

/-- The fields with a name. -/
def given (k : String) (l : List (String × Json)) : List (String × Json) :=
  l.filter fun f => f.1 == k

theorem given_cons_of_ne (h : f.1 ≠ k) :
    given k (f :: l) = given k l := by
  rw [given, List.filter_cons_of_neg (by simpa using h), given]

theorem given_cons_self (k : String) (x : Json) : given k ((k, x) :: l) = (k, x) :: given k l := by
  rw [given, List.filter_cons_of_pos (by simp), given]

/-- The last field with a name is the one that counts. -/
theorem field?_object (k : String) (l : List (String × Json)) :
    (Json.object l).field? k = (given k l).getLast?.map (·.2) := by
  rw [field?, given, ← List.head?_filter, List.filter_reverse, List.head?_reverse]

theorem perm_given (k : String) (h : l.Perm l') : (given k l).Perm (given k l') :=
  h.filter _

/-- The order of an object's fields does not show where each name has one of them. -/
theorem given_eq_of_perm (h : l.Perm l') (hle : (given k l).length ≤ 1) :
    given k l = given k l' := by
  have hperm := perm_given k h
  match hgiven : given k l, hle with
  | [], _ =>
    rw [hgiven] at hperm
    exact hperm.nil_eq
  | [f], _ =>
    rw [hgiven] at hperm
    exact hperm.singleton_eq

/-- Where names are distinct, a field is the only one with its name. -/
theorem given_of_mem (hnodup : (l.map (·.1)).Nodup) (hf : f ∈ l) :
    given f.1 l = [f] := by
  induction l with
  | nil => cases hf
  | cons g l ih =>
    rw [List.map_cons, List.nodup_cons] at hnodup
    rcases List.mem_cons.1 hf with rfl | hf
    · have hnone : given f.1 l = [] := List.filter_eq_nil_iff.2 fun g hg heq =>
        hnodup.1 (List.mem_map.2 ⟨g, hg, by simpa using heq⟩)
      rw [show f :: l = (f.1, f.2) :: l from rfl, given_cons_self, hnone]
    · have hne : g.1 ≠ f.1 := fun heq => hnodup.1 (heq ▸ List.mem_map_of_mem hf)
      rw [given_cons_of_ne hne, ih hnodup.2 hf]

/-! ### What stands under a name -/

theorem field?_of_mem (hnodup : (l.map (·.1)).Nodup) (hf : f ∈ l) :
    (Json.object l).field? f.1 = some f.2 := by
  rw [field?_object, given_of_mem hnodup hf]
  rfl

theorem given_eq_nil (h : ∀ f ∈ l, f.1 ≠ k) : given k l = [] :=
  List.filter_eq_nil_iff.2 fun f hf => by simpa using h f hf

theorem field?_eq_none (h : ∀ f ∈ l, f.1 ≠ k) : (Json.object l).field? k = none := by
  rw [field?_object, given_eq_nil h]
  rfl

theorem mem_of_field?_eq_some {x : Json} (h : (Json.object l).field? k = some x) : (k, x) ∈ l := by
  obtain ⟨f, hf, rfl⟩ := Option.map_eq_some_iff.1 h
  obtain rfl : f.1 = k := by simpa using List.find?_some hf
  exact List.mem_reverse.1 (List.mem_of_find?_eq_some hf)

/-- Fields of other names do not hide a field. -/
theorem field?_append_of_left (h : ∀ f ∈ l, f.1 ≠ k) :
    (Json.object (l ++ l')).field? k = (Json.object l').field? k := by
  rw [field?_object, field?_object, given, List.filter_append, ← given, ← given, given_eq_nil h,
    List.nil_append]

theorem field?_append_of_right (h : ∀ f ∈ l', f.1 ≠ k) :
    (Json.object (l ++ l')).field? k = (Json.object l).field? k := by
  rw [field?_object, field?_object, given, List.filter_append, ← given, ← given, given_eq_nil h,
    List.append_nil]

theorem field?_concat (l : List (String × Json)) (k : String) (x : Json) :
    (Json.object (l ++ [(k, x)])).field? k = some x := by
  simp [field?]

/-! ### Canonical order -/

theorem field?_entries (t : Table Json) (k : String) :
    (Json.object t.entries).field? k = t.get? k := by
  have hnodup : (t.entries.map (·.1)).Nodup :=
    (List.pairwise_map.2 t.sorted).imp fun h => String.ne_of_lt h
  cases hget : t.get? k with
  | some x => exact field?_of_mem hnodup (Table.mem_entries.2 hget)
  | none =>
    refine field?_eq_none fun f hf hk => ?_
    have hsome := Table.mem_entries.1 (hk ▸ hf : (k, f.2) ∈ t.entries)
    rw [hget] at hsome
    cases hsome

theorem canonicalFields_eq (l : List (String × Json)) :
    canonicalFields l = l.map fun f => (f.1, canonical f.2) := by
  induction l with
  | nil => rfl
  | cons f l ih => rw [canonicalFields, ih, List.map_cons]

theorem canonicalItems_eq (l : List Json) : canonicalItems l = l.map canonical := by
  induction l with
  | nil => rfl
  | cons x l ih => rw [canonicalItems, ih, List.map_cons]

/-- **What stands under a name** stays there in canonical order. -/
theorem field?_canonical (x : Json) (k : String) :
    x.canonical.field? k = (x.field? k).map canonical := by
  cases x with
  | object l =>
    rw [canonical, field?_entries, Table.get?_ofList, canonicalFields_eq, ← List.map_reverse,
      List.find?_map, field?, Option.map_map, Option.map_map]
    rfl
  | array items =>
    rw [canonical]
    rfl
  | _ => rfl

end ClusterAudit.Json
