import ClusterAudit.Proofs.Configuration.Faults
import ClusterAudit.Proofs.Report.Exemptions

/-!
# Exemptions that spare nothing

An exemption says how the names begin that it is for. Every name begins with the empty text, and the
empty name begins with nothing else: it is the last one that a list of beginnings comes to match. So
a list matches all names exactly when it matches the empty one, which is when it has no entry at all
or an empty one (`ClusterAudit.Exemption.Unlimited`).

Validation refuses exemptions without any entry, since these would be for everything. It does not
look into the entries, and so one way is left to write an exemption for everything: with an empty
name for the controllers and none for the containers
(`ClusterAudit.Configuration.exists_spares_iff`). Its rules are switched off.
-/

namespace ClusterAudit

/-! ### Lists that match all names -/

namespace Exemption

/-- **A list of beginnings matches all names**: it is empty, or it has an empty entry. -/
def Unlimited (l : List String) : Prop :=
  l = [] ∨ "" ∈ l

instance (l : List String) : Decidable (Unlimited l) :=
  inferInstanceAs (Decidable (_ ∨ _))

/-- A list matches all names exactly when it matches the empty one. -/
theorem unlimited_iff {l : List String} :
    Unlimited l ↔ l = [] ∨ ∃ start ∈ l, start.toList <+: "".toList := by
  simp [Unlimited]

variable {x : Exemption} {controller name : String} {container : Option String}

theorem matchesController_of_unlimited (h : Unlimited x.controllerNames) (controller : String) :
    x.matchesController controller = true :=
  matchesController_iff.2 (h.imp_right fun hmem => ⟨"", hmem, List.nil_prefix⟩)

theorem matchesController_empty : x.matchesController "" = true ↔ Unlimited x.controllerNames := by
  rw [matchesController_iff, unlimited_iff]

theorem matchesContainer_of_unlimited (h : Unlimited x.containerNames) (name : String) :
    x.matchesContainer (some name) = true :=
  matchesContainer_iff.2 (h.imp_right fun hmem => ⟨name, rfl, "", hmem, List.nil_prefix⟩)

theorem matchesContainer_empty :
    x.matchesContainer (some "") = true ↔ Unlimited x.containerNames := by
  simp [matchesContainer_iff, unlimited_iff]

theorem matchesContainer_none : x.matchesContainer none = true ↔ x.containerNames = [] := by
  simp [matchesContainer_iff]

/-! ### What an exemption spares -/

/-- **An exemption spares a target**: none of its rules is covered there. The target is a container
of a controller, or the pod as a whole when no container is given. -/
def Spares (x : Exemption) (controller : String) (container : Option String) : Prop :=
  ∀ id ∈ x.rules, x.covers id controller container = false

theorem covers_of_mem {id : String} (h : id ∈ x.rules) :
    x.covers id controller container =
      (x.matchesController controller && x.matchesContainer container) := by
  rw [covers, List.contains_iff_mem.2 h, Bool.true_and]

/-- With a rule to cover, a target is spared when its controller or its container does not match. -/
theorem spares_iff (hrules : x.rules ≠ []) :
    x.Spares controller container ↔
      ¬(x.matchesController controller = true ∧ x.matchesContainer container = true) := by
  rw [← Bool.and_eq_true, Bool.not_eq_true]
  obtain ⟨id, hid⟩ := List.exists_mem_of_ne_nil _ hrules
  constructor
  · intro h
    rw [← covers_of_mem hid]
    exact h id hid
  · intro h id' hid'
    rw [covers_of_mem hid', h]

/-- An exemption spares a container unless both of its lists match all names. -/
theorem exists_spares_container_iff (hrules : x.rules ≠ []) :
    (∃ controller name, x.Spares controller (some name)) ↔
      ¬(Unlimited x.controllerNames ∧ Unlimited x.containerNames) := by
  constructor
  · rintro ⟨controller, name, h⟩ ⟨hcontrollers, hcontainers⟩
    exact (spares_iff hrules).1 h
      ⟨matchesController_of_unlimited hcontrollers _, matchesContainer_of_unlimited hcontainers _⟩
  · intro h
    -- the empty names are spared if any are
    refine ⟨"", "", (spares_iff hrules).2 ?_⟩
    rwa [matchesController_empty, matchesContainer_empty]

/-- An exemption spares a target unless it matches all controllers and has no containers. -/
theorem exists_spares_iff_unlimited (hrules : x.rules ≠ []) :
    (∃ controller container, x.Spares controller container) ↔
      ¬(Unlimited x.controllerNames ∧ x.containerNames = []) := by
  constructor
  · rintro ⟨controller, container, h⟩ ⟨hcontrollers, hcontainers⟩
    exact (spares_iff hrules).1 h
      ⟨matchesController_of_unlimited hcontrollers _, matchesContainer_iff.2 (.inl hcontainers)⟩
  · intro h
    -- a pod as a whole is spared by every exemption for certain containers
    refine ⟨"", none, (spares_iff hrules).2 ?_⟩
    rwa [matchesController_empty, matchesContainer_none]

/-- An exemption that spares nothing suppresses every check of its rules. -/
theorem suppresses_of_not_spares (h : ¬∃ controller container, x.Spares controller container)
    {e : PlacedCheck} {r : Rule} (hrule : r ∈ e.rule) (hr : r.id ∈ x.rules) : x.Suppresses e := by
  obtain ⟨p, rule, d⟩ := e
  obtain rfl : rule = some r := hrule
  have hmatches := not_not.1 fun hno =>
    h ⟨p.controller, p.containerName?, (spares_iff (List.ne_nil_of_mem hr)).2 hno⟩
  rw [suppresses_mk_some, covers_of_mem hr, hmatches.1, hmatches.2]
  rfl

end Exemption

/-- Where an exemption spares nothing, its rules have no checks in a report. -/
theorem Audit.not_mem_report_of_not_spares {c : Configuration} {s : Snapshot}
    {scans : Option (Table ScanSummary)} {x : Exemption} {d : Check} {id : String}
    (count : c.disallowExemptions = false) (hx : x ∈ c.exemptions)
    (h : ¬∃ controller container, x.Spares controller container) (hid : id ∈ x.rules)
    (heq : d.id = "polaris." ++ id) : d ∉ (report c s scans).checks := by
  rw [← map_check_placedChecks, List.mem_map]
  rintro ⟨e, he, rfl⟩
  rcases id_of_mem_placedChecks he with ⟨r, -, hrule, hname⟩ | ⟨-, image, hname⟩
  · obtain rfl : r.id = id := (String.append_right_inj _).1 (hname.symm.trans heq)
    rw [placedChecks_eq_filter, List.mem_filter, decide_eq_true_eq] at he
    exact he.2 ⟨count, x, hx, Exemption.suppresses_of_not_spares h hrule hid⟩
  · exact ruleName_ne_imageName id image (heq.symm.trans hname)

namespace Configuration

/-- **An accepted exemption spares some target, unless it has an empty name for its controllers and
no names for its containers.** It even spares some container, unless both of its lists match all
names; so it does when none of its names is empty. Where an exemption spares nothing and exemptions
count, no report has a check of one of its rules. -/
theorem exists_spares_iff (c : Configuration) (accepted : c.validate = .ok ()) (x : Exemption)
    (hx : x ∈ c.exemptions) :
    ((∃ controller container, x.Spares controller container) ↔
      ¬("" ∈ x.controllerNames ∧ x.containerNames = [])) ∧
    ((∃ controller name, x.Spares controller (some name)) ↔
      ¬(Exemption.Unlimited x.controllerNames ∧ Exemption.Unlimited x.containerNames)) ∧
    ("" ∉ x.controllerNames → "" ∉ x.containerNames →
      ∃ controller name, x.Spares controller (some name)) ∧
    (c.disallowExemptions = false → (¬∃ controller container, x.Spares controller container) →
      ∀ s scans, ∀ d ∈ (Audit.report c s scans).checks, ∀ id ∈ x.rules,
        d.id ≠ "polaris." ++ id) := by
  have hsound := (validate_eq_ok.1 accepted).exemptions x hx
  have hcontainer := Exemption.exists_spares_container_iff hsound.rules
  refine ⟨?_, hcontainer, fun hcontrollers hcontainers => hcontainer.2 ?_, ?_⟩
  · rw [Exemption.exists_spares_iff_unlimited hsound.rules]
    refine not_congr (and_congr_left fun hnone => ⟨fun h => ?_, .inr⟩)
    exact h.resolve_left fun hnil => hsound.targets.elim (· hnil) (· hnone)
  · rintro ⟨hall, hall'⟩
    -- one of the lists has an entry, and it has no empty one
    rcases hsound.targets with hne | hne
    · exact hall.elim hne hcontrollers
    · exact hall'.elim hne hcontainers
  · intro hcount hnone s scans d hd id hid heq
    exact Audit.not_mem_report_of_not_spares hcount hx hnone hid heq hd

/-- One exemption for certain controllers, one for certain containers, and one for everything. -/
theorem exists_spares_iff_three :
    let proxies : Exemption := { controllerNames := ["kube-"], rules := ["hostNetworkSet"] }
    let sidecars : Exemption := { containerNames := ["istio-", ""], rules := ["runAsPrivileged"] }
    let all : Exemption := { controllerNames := ["kube-", ""], rules := ["hostIPCSet"] }
    let c : Configuration := {
      security := .insert .empty "hostIPCSet" .error
      exemptions := [proxies, sidecars, all] }
    c.validate = .ok () ∧
    (∃ controller name, proxies.Spares controller (some name)) ∧
    (∃ controller container, sidecars.Spares controller container) ∧
    (¬∃ controller name, sidecars.Spares controller (some name)) ∧
    (¬∃ controller container, all.Spares controller container) ∧
    ∀ s, ∀ d ∈ (Audit.report c s none).checks, d.id ≠ "polaris.hostIPCSet" := by
  intro proxies sidecars all c
  have accepted : c.validate = .ok () := by decide +kernel
  obtain ⟨-, -, hnamed, -⟩ := exists_spares_iff c accepted proxies (by decide)
  obtain ⟨hpod, hcontainer, -⟩ := exists_spares_iff c accepted sidecars (by decide)
  obtain ⟨hall, -, -, hchecks⟩ := exists_spares_iff c accepted all (by decide)
  have hnone : ¬∃ controller container, all.Spares controller container := fun h =>
    hall.1 h ⟨by decide, rfl⟩
  refine ⟨accepted, hnamed (by decide) (by decide), hpod.2 (by decide), fun h => ?_, hnone,
    fun s d hd => hchecks rfl hnone s none d hd _ (List.mem_singleton.2 rfl)⟩
  exact hcontainer.1 h ⟨by decide, by decide⟩

/-- **An accepted exemption for everything.** -/
theorem exists_accepted_spares_nothing :
    let x : Exemption := { controllerNames := [""], rules := ["hostIPCSet"] }
    let c : Configuration := {
      security := .insert .empty "hostIPCSet" .error
      exemptions := [x] }
    c.validate = .ok () ∧ x ∈ c.exemptions ∧
      ¬∃ controller container, x.Spares controller container := by
  intro x c
  refine ⟨by decide +kernel, by decide, fun h => ?_⟩
  exact (Exemption.exists_spares_iff_unlimited (List.cons_ne_nil _ _)).1 h ⟨by decide, rfl⟩

end Configuration

end ClusterAudit
