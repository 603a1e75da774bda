import ClusterAudit.Rule.Catalogue
import Mathlib.Data.List.Nodup

/-!
# Rules by their names

A rule of the catalogue is found by its name, with its group or without. Both searches stop at the
first rule that fits, and this file says what they find without speaking of an order: a group has
rules of certain names (`ClusterAudit.RuleGroup.Has`), and some words are the name of a rule
(`ClusterAudit.Rule.IsName`).

No two rules have the same name (`ClusterAudit.Rule.nodup_id_all`). So whatever is made of the rules
one by one and bears their names, under the name of a rule there is what was made of this rule and
nothing else (`ClusterAudit.filter_filterMap_of_nodup`).
-/

namespace ClusterAudit

/-! ### Names of rules -/

/-- The group has a rule of this name. -/
def RuleGroup.Has (g : RuleGroup) (id : String) : Prop :=
  ∃ r ∈ Rule.all, r.group = g ∧ r.id = id

instance (g : RuleGroup) (id : String) : Decidable (g.Has id) :=
  inferInstanceAs (Decidable (∃ r ∈ Rule.all, _))

theorem RuleGroup.mem_all (g : RuleGroup) : g ∈ RuleGroup.all := by
  cases g <;> decide

namespace Rule

/-- This is the name of a rule. -/
def IsName (id : String) : Prop :=
  ∃ r ∈ all, r.id = id

instance (id : String) : Decidable (IsName id) :=
  inferInstanceAs (Decidable (∃ r ∈ all, _))

theorem isNone_inGroup? {g : RuleGroup} {id : String} :
    (inGroup? g id).isNone = true ↔ ¬g.Has id := by
  simp [inGroup?, RuleGroup.Has]

theorem isNone_named? {id : String} : (named? id).isNone = true ↔ ¬IsName id := by
  simp [named?, IsName]

/-- **No two rules of the catalogue have the same name.** -/
theorem nodup_id_all : (all.map Rule.id).Nodup := by decide

end Rule

/-! ### What bears a name -/

/-- Dropping what brings nothing keeps what is known of the rest, in order. -/
theorem sublist_map_filterMap {α β γ : Type} {f : α → Option β} {g : β → γ} {h : α → γ}
    (hf : ∀ a b, f a = some b → g b = h a) (l : List α) :
    List.Sublist ((l.filterMap f).map g) (l.map h) := by
  induction l with
  | nil => exact .slnil
  | cons a l ih =>
    rw [List.filterMap_cons]
    cases hb : f a with
    | none => exact ih.cons _
    | some b =>
      rw [List.map_cons, List.map_cons, hf a b hb]
      exact ih.cons_cons _

/-- **Under a name there is what was made of its bearer and nothing else**, if no two of a list have
the same name. -/
theorem filter_filterMap_of_nodup {α β κ : Type} [DecidableEq κ] {f : α → Option β} {name : β → κ}
    {key : α → κ} (hf : ∀ a b, f a = some b → name b = key a) {l : List α}
    (hn : (l.map key).Nodup) {a : α} (ha : a ∈ l) :
    (l.filterMap f).filter (fun b => name b = key a) = (f a).toList := by
  -- what is made of another one bears another name
  have hother : ∀ a', key a' ≠ key a → (f a').filter (fun b => name b = key a) = none := by
    intro a' hne
    cases hb : f a' with
    | none => rfl
    | some b => simp [hf a' b hb, hne]
  rw [List.filter_filterMap]
  induction l with
  | nil => cases ha
  | cons a' l ih =>
    obtain ⟨hnot, hrest⟩ := List.nodup_cons.1 hn
    rcases List.mem_cons.1 ha with rfl | ha
    · have hself : (f a).filter (fun b => name b = key a) = f a := by
        cases hb : f a with
        | none => rfl
        | some b => simp [hf a b hb]
      have hnone : l.filterMap (fun x => (f x).filter fun b => name b = key a) = [] :=
        List.filterMap_eq_nil_iff.2 fun a' ha' =>
          hother a' fun heq => hnot (heq ▸ List.mem_map_of_mem ha')
      rw [List.filterMap_cons, hself, hnone]
      cases f a <;> rfl
    · have hne : key a' ≠ key a := fun heq => hnot (heq ▸ List.mem_map_of_mem ha)
      simp only [List.filterMap_cons, hother a' hne]
      exact ih hrest ha

end ClusterAudit
