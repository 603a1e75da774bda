import ClusterAudit.Proofs.Report.Joining
import ClusterAudit.Proofs.Vulnerability.Usage

/-!
# What is kept of a restricted snapshot

To restrict a snapshot is to keep some of the objects of each of its lists and to leave everything
else as it is (`ClusterAudit.Snapshot.Retains`). Which objects are kept is said object by object
(`ClusterAudit.ClusterObject.IsKept`): what lives in a namespace is kept for this namespace, a
namespace for its own name, and a machine always. No names at all keep everything, so
`ClusterAudit.ClusterObject.StaysIn` has this case of its own.

The laws of restricting need nothing more. A snapshot is determined by what is kept of another one
(`ClusterAudit.Snapshot.Retains.unique`), and to keep some objects and then some of these is to keep
those that are kept both times (`ClusterAudit.Snapshot.Retains.trans`). So restricting twice by the
same names, or by different ones in either order, is a matter of what *and* means.
-/

namespace ClusterAudit

/-! ### Objects that are kept -/

/-- **The namespace that an object lives in** is the one that it names, and the default one if it
names none. -/
inductive Metadata.LivesIn (m : Metadata) : String → Prop
  /-- The object names its namespace. -/
  | named (name : String) (h : m.namespaceName = some name) : m.LivesIn name
  /-- The object names no namespace. -/
  | unnamed (h : m.namespaceName = none) : m.LivesIn "default"

theorem Metadata.livesIn_iff {m : Metadata} {name : String} :
    m.LivesIn name ↔ m.effectiveNamespace = name := by
  rw [effectiveNamespace]
  constructor
  · rintro (⟨_, h⟩ | h)
    · rw [h, Option.getD_some]
    · rw [h, Option.getD_none]
      rfl
  · rintro rfl
    cases h : m.namespaceName with
    | none => exact .unnamed h
    | some name => exact .named name h

/-- An object whose namespace is selected lives in one of the names. -/
theorem Metadata.isSelected_effectiveNamespace {m : Metadata} {names : List String} :
    isSelected names m.effectiveNamespace = true ↔
      ∃ name, m.LivesIn name ∧ name ≠ "" ∧ name ∈ names := by
  rw [isSelected_iff]
  constructor
  · intro h
    exact ⟨m.effectiveNamespace, livesIn_iff.2 rfl, h⟩
  · rintro ⟨name, hlives, h⟩
    rw [livesIn_iff.1 hlives]
    exact h

/-- A namespace whose name is selected has one of the names. -/
theorem Metadata.isSelected_displayName {m : Metadata} {names : List String} :
    isSelected names m.displayName = true ↔
      ∃ name, m.name = some name ∧ name ≠ "" ∧ name ∈ names := by
  rw [isSelected_iff, displayName]
  constructor
  · rintro ⟨hne, hmem⟩
    cases hname : m.name with
    -- without a name the empty one is looked up, and that is never selected
    | none =>
      rw [hname] at hne
      exact absurd rfl hne
    | some name =>
      rw [hname] at hne hmem
      exact ⟨name, rfl, hne, hmem⟩
  · rintro ⟨name, hname, h⟩
    rw [hname]
    exact h

namespace ClusterObject

/-- **An object is kept** among some names. An empty name keeps nothing. -/
inductive IsKept (names : List String) : ClusterObject → Prop
  /-- A controller is kept for the namespace that it lives in. -/
  | workload (kind : WorkloadKind) (w : Workload) (name : String) (h : w.metadata.LivesIn name)
    (hne : name ≠ "") (hmem : name ∈ names) : IsKept names (.workload kind w)
  /-- A namespace is kept for its name. -/
  | namespaceObject (m : Metadata) (name : String) (h : m.name = some name) (hne : name ≠ "")
    (hmem : name ∈ names) : IsKept names (.namespaceObject m)
  /-- A machine is always kept. -/
  | node (m : Metadata) : IsKept names (.node m)
  /-- A pod is kept for the namespace that it lives in. -/
  | pod (p : Pod) (name : String) (h : p.metadata.LivesIn name) (hne : name ≠ "")
    (hmem : name ∈ names) : IsKept names (.pod p)

variable {names others : List String} {o : ClusterObject}

theorem isKept_iff : o.IsKept names ↔ Snapshot.stays names o = true := by
  cases o with
  | workload kind w =>
    rw [Snapshot.stays, Metadata.isSelected_effectiveNamespace]
    constructor
    · rintro ⟨⟩
      case workload name hne hmem h => exact ⟨name, h, hne, hmem⟩
    · rintro ⟨name, h, hne, hmem⟩
      exact .workload kind w name h hne hmem
  | namespaceObject m =>
    rw [Snapshot.stays, Metadata.isSelected_displayName]
    constructor
    · rintro ⟨⟩
      case namespaceObject name hne hmem h => exact ⟨name, h, hne, hmem⟩
    · rintro ⟨name, h, hne, hmem⟩
      exact .namespaceObject m name h hne hmem
  | node m => exact iff_of_true (.node m) rfl
  | pod p =>
    rw [Snapshot.stays, Metadata.isSelected_effectiveNamespace]
    constructor
    · rintro ⟨⟩
      case pod name hne hmem h => exact ⟨name, h, hne, hmem⟩
    · rintro ⟨name, h, hne, hmem⟩
      exact .pod p name h hne hmem

instance (names : List String) : DecidablePred (IsKept names) :=
  fun _ => decidable_of_iff _ isKept_iff.symm

/-- More names keep more objects. -/
theorem IsKept.mono (h : o.IsKept names) (hsub : names ⊆ others) : o.IsKept others := by
  cases h with
  | workload kind w name h hne hmem => exact .workload kind w name h hne (hsub hmem)
  | namespaceObject m name h hne hmem => exact .namespaceObject m name h hne (hsub hmem)
  | node m => exact .node m
  | pod p name h hne hmem => exact .pod p name h hne (hsub hmem)

/-- **An object stays** when a snapshot is restricted to some names: it is kept among them, or there
are none. -/
def StaysIn (names : List String) (o : ClusterObject) : Prop :=
  names = [] ∨ o.IsKept names

instance (names : List String) : DecidablePred (StaysIn names) :=
  fun _ => inferInstanceAs (Decidable (_ ∨ _))

theorem staysIn_of_ne_nil (hne : names ≠ []) : o.StaysIn names ↔ o.IsKept names :=
  or_iff_right hne

/-- What stays depends on the set of names. -/
theorem staysIn_congr (h : ∀ name, name ∈ names ↔ name ∈ others) :
    o.StaysIn names ↔ o.StaysIn others := by
  have hnil : names = [] ↔ others = [] := by
    rw [List.eq_nil_iff_forall_not_mem, List.eq_nil_iff_forall_not_mem]
    exact forall_congr' fun name => not_congr (h name)
  have hkept : o.IsKept names ↔ o.IsKept others :=
    ⟨fun hk => hk.mono fun name => (h name).1, fun hk => hk.mono fun name => (h name).2⟩
  exact or_congr hnil hkept

end ClusterObject

/-! ### Keeping some objects -/

namespace Snapshot

open ClusterObject

/-- **Some objects of a snapshot are retained** in another one: of each of the nine lists those that
are kept, in their order and as often as they are there. What the snapshot says about itself is the
same. -/
structure Retains (keep : ClusterObject → Prop) [DecidablePred keep] (s t : Snapshot) : Prop where
  /-- The snapshots say the same about themselves. -/
  origin : t.origin = s.origin
  /-- Of each list some objects are kept. -/
  lists : ∀ kind, t.listOf kind = (s.listOf kind).filter keep

namespace Retains

variable {keep keep' : ClusterObject → Prop} [DecidablePred keep] [DecidablePred keep']
  {s t u : Snapshot}

/-- **What is kept determines a snapshot.** -/
theorem unique (h : s.Retains keep t) (h' : s.Retains keep' u) (hsame : ∀ o, keep o ↔ keep' o) :
    t = u := by
  refine eq_of_listOf_eq (h.origin.trans h'.origin.symm) fun kind => ?_
  rw [h.lists, h'.lists]
  exact List.filter_congr fun o _ => decide_eq_decide.2 (hsame o)

/-- **To keep twice is to keep what is kept both times.** -/
theorem trans (h : s.Retains keep t) (h' : t.Retains keep' u) :
    s.Retains (fun o => keep o ∧ keep' o) u where
  origin := h'.origin.trans h.origin
  lists := by
    intro kind
    rw [h'.lists, h.lists, List.filter_filter]
    refine List.filter_congr fun o _ => ?_
    rw [Bool.decide_and, Bool.and_comm]

end Retains

variable (names others : List String) (s : Snapshot)

theorem origin_restrictTo : (s.restrictTo names).origin = s.origin := by
  rw [restrictTo]
  split
  next => rfl
  next => rfl

theorem nodes_restrictTo : (s.restrictTo names).nodes = s.nodes := by
  rw [restrictTo]
  split
  next => rfl
  next => rfl

/-- **Restricting retains the objects that stay.** -/
theorem retains_restrictTo : s.Retains (StaysIn names) (s.restrictTo names) where
  origin := origin_restrictTo names s
  lists := by
    intro kind
    by_cases hne : names = []
    -- no names at all are no restriction, so here everything stays
    · subst hne
      rw [restrictTo_nil]
      exact (List.filter_eq_self.2 fun o _ => decide_eq_true (.inl rfl)).symm
    · rw [listOf_restrictTo hne]
      refine List.filter_congr fun o _ => ?_
      rw [Bool.eq_iff_iff, decide_eq_true_iff, staysIn_of_ne_nil hne, isKept_iff]

/-- Restricting twice retains what stays both times. -/
theorem retains_restrictTo_restrictTo :
    s.Retains (fun o => o.StaysIn names ∧ o.StaysIn others)
      ((s.restrictTo names).restrictTo others) :=
  (retains_restrictTo names s).trans (retains_restrictTo others _)

/-- **Restricting a snapshot to namespaces is a filter.** When there are names, exactly the objects
that are kept among them are left in each of the nine lists, in their order and as often as they
were there. The machines stay, and so does what the snapshot says about itself. No names at all
change nothing. Only the set of names matters. Restricting once more by the same names changes
nothing, restricting by others commutes with it, and when there are names both times, exactly what
is kept among both is left. The controllers of a restricted snapshot are those whose namespace is
kept, in their order; its pods are the selected ones. -/
theorem restrictTo_exact (names others : List String) (s : Snapshot) :
    (names ≠ [] → ∀ kind,
      (s.restrictTo names).listOf kind = (s.listOf kind).filter (IsKept names)) ∧
    (s.restrictTo names).nodes = s.nodes ∧
    (s.restrictTo names).origin = s.origin ∧
    (names = [] → s.restrictTo names = s) ∧
    ((∀ name, name ∈ names ↔ name ∈ others) → s.restrictTo names = s.restrictTo others) ∧
    (s.restrictTo names).restrictTo names = s.restrictTo names ∧
    (s.restrictTo names).restrictTo others = (s.restrictTo others).restrictTo names ∧
    (names ≠ [] → others ≠ [] → ∀ kind, ((s.restrictTo names).restrictTo others).listOf kind =
      (s.listOf kind).filter fun o => o.IsKept names ∧ o.IsKept others) ∧
    (names ≠ [] → (s.restrictTo names).controllers =
      s.controllers.filter fun k => k.namespaceName ≠ "" ∧ k.namespaceName ∈ names) ∧
    selectPods names s.pods = (s.restrictTo names).pods := by
  have honce := retains_restrictTo names s
  have hboth := retains_restrictTo_restrictTo names others s
  refine ⟨?_, nodes_restrictTo names s, honce.origin, ?_, ?_, ?_, ?_, ?_, ?_,
    (pods_restrictTo names s).symm⟩
  · intro hne kind
    rw [honce.lists]
    exact List.filter_congr fun o _ => decide_eq_decide.2 (staysIn_of_ne_nil hne)
  · rintro rfl
    exact restrictTo_nil s
  · intro h
    exact honce.unique (retains_restrictTo others s) fun o => staysIn_congr h
  · exact (retains_restrictTo_restrictTo names names s).unique honce fun o => and_self_iff
  · exact hboth.unique (retains_restrictTo_restrictTo others names s) fun o => and_comm
  · intro hne hne' kind
    rw [hboth.lists]
    exact List.filter_congr fun o _ =>
      decide_eq_decide.2 (and_congr (staysIn_of_ne_nil hne) (staysIn_of_ne_nil hne'))
  · intro hne
    rw [controllers_restrictTo hne]
    refine List.filter_congr fun k _ => ?_
    rw [Bool.eq_iff_iff, isSelected_iff, decide_eq_true_iff]

/-- Of two deployments, one of which names no namespace, both are kept among `default` and `apps`,
and the pod with an empty namespace is not although the empty name is there. Of a snapshot that was
restricted to `apps` before, the deployment without a namespace is gone. -/
theorem restrictTo_exact_apps :
    let api : Workload := { metadata := { name := some "api", namespaceName := some "apps" } }
    let web : Workload := { metadata := { name := some "web" } }
    let pod : Pod := { metadata := { name := some "web", namespaceName := some "" } }
    let s : Snapshot := { nodes := [{}], deployments := [api, web, api],
                          namespaces := [{ name := some "apps" }, {}], pods := [pod] }
    let t := s.restrictTo ["apps", "", "default"]
    (t.listOf (.workload .deployment) = s.listOf (.workload .deployment) ∧
      t.listOf .namespaceObject = [.namespaceObject { name := some "apps" }] ∧
      t.listOf .pod = [] ∧ t.controllers = s.controllers) ∧
    s.restrictTo ["default", "", "apps", ""] = t ∧
    (t.restrictTo ["apps"]).listOf (.workload .deployment) =
      [.workload .deployment api, .workload .deployment api] ∧
    s.restrictTo [] = s := by
  intro api web pod s t
  obtain ⟨hlists, -, -, -, hset, -, -, -, hcontrollers, -⟩ :=
    restrictTo_exact ["apps", "", "default"] ["default", "", "apps", ""] s
  obtain ⟨-, -, -, -, -, -, -, htwice, -, -⟩ :=
    restrictTo_exact ["apps", "", "default"] ["apps"] s
  obtain ⟨-, -, -, hnone, -, -, -, -, -, -⟩ := restrictTo_exact [] [] s
  refine ⟨⟨?_, ?_, ?_, ?_⟩, (hset ?_).symm, ?_, hnone rfl⟩
  · rw [hlists (by decide)]
    decide +kernel
  · rw [hlists (by decide)]
    decide +kernel
  · rw [hlists (by decide)]
    decide +kernel
  · rw [hcontrollers (by decide)]
    decide +kernel
  · intro name
    simp only [List.mem_cons, List.not_mem_nil, or_false]
    tauto
  · rw [htwice (by decide) (by decide)]
    decide +kernel

end Snapshot

end ClusterAudit
