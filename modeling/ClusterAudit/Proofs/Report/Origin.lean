import ClusterAudit.Audit

/-!
# Where the checks of a report come from

Every check of a report was made for one controller. A report does not keep which, and a path says
it only in so far as the names in it can be told apart. `ClusterAudit.Audit.origins` keeps it: it
lists controllers with their checks, in the order in which a report holds the checks, and without
the controllers it is the checks of the report (`ClusterAudit.Audit.map_snd_origins`).

Both parts of a report go through the controllers of the snapshot, first with the rules and then
with the images, so both parts are `ClusterAudit.Check.tagged` lists of the same controllers.
-/

namespace ClusterAudit

/-! ### Checks with their controllers -/

namespace Check

/-- The checks that are made for controller after controller, each with its controller. -/
def tagged (f : Controller → List Check) (l : List Controller) : List (Controller × Check) :=
  l.flatMap fun k => (f k).map (Prod.mk k)

theorem tagged_cons (f : Controller → List Check) (k : Controller) (l : List Controller) :
    tagged f (k :: l) = (f k).map (Prod.mk k) ++ tagged f l :=
  List.flatMap_cons

theorem map_snd_tagged (f : Controller → List Check) (l : List Controller) :
    (tagged f l).map Prod.snd = l.flatMap f := by
  simp [tagged, List.map_flatMap, Function.comp_def]

theorem mem_tagged {f : Controller → List Check} {l : List Controller} {e : Controller × Check} :
    e ∈ tagged f l ↔ e.1 ∈ l ∧ e.2 ∈ f e.1 := by
  obtain ⟨k, d⟩ := e
  simp only [tagged, List.mem_flatMap, List.mem_map, Prod.mk.injEq]
  constructor
  · rintro ⟨k', hk, d', hd, rfl, rfl⟩
    exact ⟨hk, hd⟩
  · rintro ⟨hk, hd⟩
    exact ⟨k, hk, d, hd, rfl, rfl⟩

/-- **Leaving out controllers leaves out their checks** and no others. -/
theorem tagged_filter (f : Controller → List Check) (p : Controller → Bool) (l : List Controller) :
    tagged f (l.filter p) = (tagged f l).filter fun e => p e.1 := by
  induction l with
  | nil => rfl
  | cons k l ih =>
    -- all checks of a controller have the same controller, so they pass or fail together
    have hown : ((f k).map (Prod.mk k)).filter (fun e => p e.1)
        = if p k then (f k).map (Prod.mk k) else [] := by
      rw [List.filter_map]
      cases hp : p k with
      | true => exact congrArg (List.map _) (List.filter_eq_self.2 fun _ _ => hp)
      | false => exact congrArg (List.map _) (List.filter_eq_nil_iff.2 fun _ _ => by simp [hp])
    rw [tagged_cons, List.filter_append, hown, ← ih]
    cases hp : p k with
    | true => rw [List.filter_cons_of_pos hp, tagged_cons, if_pos rfl]
    | false => rw [List.filter_cons_of_neg (by simp [hp]), if_neg Bool.false_ne_true, List.nil_append]

end Check

/-! ### The origins of a report -/

namespace Audit

/-- The checks of the rules about a controller. -/
def ruleChecks (c : Configuration) (k : Controller) : List Check :=
  Check.ofResult (c.evaluateController k)

/-- The checks of the images of a controller, none without scans. -/
def imageChecks (scans : Option (Table ScanSummary)) (k : Controller) : List Check :=
  match scans with
  | none => []
  | some t => Check.ofImages t k

/-- **The checks of a report with the controllers they are made for.** -/
def origins (c : Configuration) (s : Snapshot) (scans : Option (Table ScanSummary)) :
    List (Controller × Check) :=
  Check.tagged (ruleChecks c) s.controllers ++ Check.tagged (imageChecks scans) s.controllers

theorem flatMap_imageChecks_none (l : List Controller) : l.flatMap (imageChecks none) = [] :=
  List.flatMap_eq_nil_iff.2 fun _ _ => rfl

variable (c : Configuration) (s : Snapshot) (scans : Option (Table ScanSummary))

theorem checks_report_eq :
    (report c s scans).checks =
      s.controllers.flatMap (ruleChecks c) ++ s.controllers.flatMap (imageChecks scans) := by
  have hrules : (c.evaluate s).flatMap Check.ofResult = s.controllers.flatMap (ruleChecks c) := by
    rw [Configuration.evaluate, List.flatMap_map]
    rfl
  cases scans with
  | none =>
    rw [flatMap_imageChecks_none, List.append_nil, ← hrules]
    exact List.nil_append _
  | some t =>
    rw [← hrules]
    exact congrArg (· ++ s.controllers.flatMap (Check.ofImages t)) (List.nil_append _)

/-- **Without the controllers the origins are the checks**, in the same order. -/
theorem map_snd_origins : (origins c s scans).map Prod.snd = (report c s scans).checks := by
  rw [origins, List.map_append, Check.map_snd_tagged, Check.map_snd_tagged, checks_report_eq]

theorem mem_origins {c : Configuration} {s : Snapshot} {scans : Option (Table ScanSummary)}
    {e : Controller × Check} :
    e ∈ origins c s scans ↔
      e.1 ∈ s.controllers ∧ (e.2 ∈ ruleChecks c e.1 ∨ e.2 ∈ imageChecks scans e.1) := by
  rw [origins, List.mem_append, Check.mem_tagged, Check.mem_tagged, and_or_left]

end Audit

end ClusterAudit
