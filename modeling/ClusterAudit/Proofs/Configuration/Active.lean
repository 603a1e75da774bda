import ClusterAudit.Proofs.Rule.Catalogue
import ClusterAudit.Rule.Active
import Mathlib.Data.List.Perm.Basic

/-!
# Which rules are active

A configuration speaks of rules by their names, table by table; an audit goes through the catalogue
and looks every rule up in the table of its group. What the configuration says is its list of
entries (`ClusterAudit.Configuration.entries`), and an active rule is an entry that does something,
found from the other side. The two lists are in different orders and have the same members
(`ClusterAudit.Configuration.perm_entry_activeRules`); an entry is missed only if its group has no
rule of that name.

Whether a rule is asked about a container is decided in two ways. An audit takes the active rules
and leaves out those that are exempt; `ClusterAudit.Configuration.isActive` decides it for a single
rule and in one step. They agree (`ClusterAudit.Configuration.isActive_iff`).
-/

namespace ClusterAudit

theorem Action.isActive_iff {a : Action} : a.isActive = true ↔ a ≠ .ignore := by
  cases a <;> simp [isActive]

/-- What a configuration says about a rule. -/
structure RuleEntry where
  /-- The group whose table it stands in. -/
  group : RuleGroup
  /-- The name of the rule. -/
  id : String
  /-- What the failure of the rule means. -/
  action : Action
deriving DecidableEq

/-- What a configuration says about a rule that it makes active. -/
def ActiveRule.entry (a : ActiveRule) : RuleEntry :=
  ⟨a.rule.group, a.rule.id, a.action⟩

namespace Configuration

/-- **All that a configuration says about rules**, table after table. -/
def entries (c : Configuration) : List RuleEntry :=
  RuleGroup.all.flatMap fun g => (c.rules g).entries.map fun e => ⟨g, e.1, e.2⟩

variable {c : Configuration}

/-! ### The rules that are active -/

theorem activate?_eq_some {r : Rule} {a : ActiveRule} :
    c.activate? r = some a ↔
      a.rule = r ∧ (c.rules r.group).get? r.id = some a.action ∧ a.action ≠ .ignore := by
  obtain ⟨rule, action⟩ := a
  rw [activate?, action?]
  cases h : (c.rules r.group).get? r.id with
  | none => simp
  | some b =>
    simp only [Action.isActive_iff, ne_eq, Option.some.injEq]
    split
    next hb =>
      simp only [Option.some.injEq, ActiveRule.mk.injEq]
      constructor
      · rintro ⟨rfl, rfl⟩
        exact ⟨rfl, rfl, hb⟩
      · rintro ⟨rfl, rfl, -⟩
        exact ⟨rfl, rfl⟩
    next hb =>
      simp only [reduceCtorEq, false_iff]
      rintro ⟨-, rfl, hne⟩
      exact hb hne

/-- **A rule is active** with the action that its group's table has for it, unless this is to ignore
it. -/
theorem mem_activeRules {a : ActiveRule} :
    a ∈ c.activeRules ↔ a.rule ∈ Rule.all ∧
      (c.rules a.rule.group).get? a.rule.id = some a.action ∧ a.action ≠ .ignore := by
  rw [activeRules, List.mem_filterMap]
  constructor
  · rintro ⟨r, hr, ha⟩
    obtain ⟨rfl, ha⟩ := activate?_eq_some.1 ha
    exact ⟨hr, ha⟩
  · rintro ⟨hr, ha⟩
    exact ⟨a.rule, hr, activate?_eq_some.2 ⟨rfl, ha⟩⟩

/-- To decide for a single rule is to make it active and to ask whether it is exempt. -/
theorem isActive_eq (c : Configuration) (r : Rule) (controller : String)
    (container : Option String) :
    c.isActive r.group r.id controller container =
      (c.activate? r).any fun a => c.applies a controller container := by
  rw [isActive, activate?]
  cases c.action? r.group r.id with
  | none => rfl
  | some a => cases a <;> simp [Action.isActive, applies]

/-- **The two ways to ask whether a rule counts agree.** -/
theorem isActive_iff {r : Rule} (hr : r ∈ Rule.all) (controller : String)
    (container : Option String) :
    c.isActive r.group r.id controller container = true ↔
      ∃ a ∈ c.activeRules, a.rule = r ∧ c.applies a controller container = true := by
  rw [isActive_eq, Option.any_eq_true]
  refine exists_congr fun a => ?_
  rw [mem_activeRules, activate?_eq_some]
  constructor
  · rintro ⟨⟨rfl, ha⟩, happlies⟩
    exact ⟨⟨hr, ha⟩, rfl, happlies⟩
  · rintro ⟨⟨-, ha⟩, rfl, happlies⟩
    exact ⟨⟨rfl, ha⟩, happlies⟩

/-! ### Entries and active rules -/

theorem mem_entries {e : RuleEntry} :
    e ∈ c.entries ↔ (c.rules e.group).get? e.id = some e.action := by
  obtain ⟨group, id, action⟩ := e
  simp only [entries, List.mem_flatMap, List.mem_map, RuleEntry.mk.injEq, Prod.exists]
  rw [← Table.mem_entries]
  constructor
  · rintro ⟨g, -, k, v, he, rfl, rfl, rfl⟩
    exact he
  · intro he
    exact ⟨group, group.mem_all, id, action, he, rfl, rfl, rfl⟩

/-- No entry stands twice in the tables. -/
theorem nodup_entries (c : Configuration) : c.entries.Nodup := by
  refine List.nodup_flatMap.2 ⟨fun g _ => ?_, ?_⟩
  -- the entries of one table have different names, and those of two have different groups
  · refine List.Nodup.of_map RuleEntry.id ?_
    rw [List.map_map]
    exact (c.rules g).pairwise_keys.imp String.ne_of_lt
  · have hgroups : RuleGroup.all.Nodup := by decide
    refine hgroups.imp fun {g g'} hne e he he' => hne ?_
    obtain ⟨_, -, rfl⟩ := List.mem_map.1 he
    obtain ⟨_, -, heq⟩ := List.mem_map.1 he'
    exact (congrArg RuleEntry.group heq).symm

theorem nodup_entry_activeRules (c : Configuration) :
    (c.activeRules.map ActiveRule.entry).Nodup := by
  refine List.Nodup.of_map RuleEntry.id ?_
  rw [List.map_map]
  refine Rule.nodup_id_all.sublist (sublist_map_filterMap (fun r a ha => ?_) Rule.all)
  rw [← (activate?_eq_some.1 ha).1]
  rfl

/-- **The active rules are the entries that do something**, as far as there are such rules. -/
theorem perm_entry_activeRules (c : Configuration) :
    (c.activeRules.map ActiveRule.entry).Perm
      (c.entries.filter fun e => e.action ≠ .ignore ∧ e.group.Has e.id) := by
  refine (List.perm_ext_iff_of_nodup c.nodup_entry_activeRules (c.nodup_entries.filter _)).2 fun e => ?_
  simp only [List.mem_map, List.mem_filter, mem_entries, mem_activeRules, decide_eq_true_eq]
  constructor
  · rintro ⟨a, ⟨hr, haction, hactive⟩, rfl⟩
    exact ⟨haction, hactive, a.rule, hr, rfl, rfl⟩
  · rintro ⟨haction, hactive, r, hr, hgroup, hid⟩
    obtain ⟨group, id, action⟩ := e
    dsimp only at hgroup hid
    subst hgroup hid
    exact ⟨⟨r, action⟩, ⟨hr, haction, hactive⟩, rfl⟩

end Configuration

end ClusterAudit
