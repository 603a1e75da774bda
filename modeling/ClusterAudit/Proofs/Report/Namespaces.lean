import ClusterAudit.Proofs.Counting.Index
import ClusterAudit.Proofs.Report.Derived
import ClusterAudit.Proofs.Report.Origin
import ClusterAudit.Proofs.Text.Pieces

/-!
# What the summaries of namespaces account for

A check does not carry the namespace of its controller. The path of the check begins with it, and
the summaries of namespaces read it back from there. So they count under what a path can tell: the
part of a namespace in front of its first slash, if there is one
(`ClusterAudit.Resource.leading?`). A namespace that may be the name of one in a cluster is its own
leading part; the metadata in a file may also hold an empty namespace, which a path does not tell
from no namespace, or one with a slash in it, which a path does not tell from a shorter one.

A check is counted once, under the leading part of the namespace that its controller lives in
(`ClusterAudit.Audit.countsOf_namespaceSummary`), and not at all when there is none
(`ClusterAudit.Audit.sum_namespaceSummary`). Where all namespaces are plain the summaries account
for every check by the namespace of its controller (`ClusterAudit.Audit.AccountsByNamespace`), and
where they are not this can fail.
-/

namespace ClusterAudit

/-! ### Namespaces in paths -/

namespace Resource

/-- **The leading part of a namespace**: what stands in front of its first slash, if that is not
empty. -/
def leading? (ns : String) : Option String :=
  match ns.toList.takeWhile fun a => !a == '/' with
  | [] => none
  | a :: l => some (String.ofList (a :: l))

/-- A namespace that is neither empty nor has a slash in it. -/
def IsPlain (ns : String) : Prop :=
  ns ≠ "" ∧ '/' ∉ ns.toList

instance (ns : String) : Decidable (IsPlain ns) :=
  inferInstanceAs (Decidable (_ ∧ _))

theorem leading?_of_isPlain {ns : String} (h : IsPlain ns) : leading? ns = some ns := by
  rw [leading?, Text.takeWhile_eq_self h.2]
  split
  case h_1 hnil => exact absurd (String.toList_eq_nil_iff.1 hnil) h.1
  case h_2 a l hcons => rw [← hcons, String.ofList_toList]

/-- **What a path tells of a namespace** is its leading part. -/
theorem namespaceOf?_eq {path ns : String} {rest : List Char}
    (h : path.toList = '/' :: 'n' :: 's' :: '/' :: (ns.toList ++ '/' :: rest)) :
    namespaceOf? path = leading? ns := by
  obtain ⟨more, hmore⟩ := Text.pieces_eq_takeWhile '/' (ns.toList ++ '/' :: rest)
  rw [Text.takeWhile_append_cons_self] at hmore
  -- the path begins with a slash, so nothing stands in front of its first one
  have hpieces : Text.pieces '/' path.toList =
      [] :: ['n', 's'] :: (ns.toList.takeWhile fun a => !a == '/') :: more := by
    rw [h, ← hmore]
    cases hp : Text.pieces '/' (ns.toList ++ '/' :: rest) with
    | nil => simp [hmore] at hp
    | cons p ps => simp [Text.pieces, hp]
  rw [namespaceOf?, hpieces, leading?]
  cases ns.toList.takeWhile fun a => !a == '/' with
  | nil => rfl
  | cons a l => rfl

theorem namespaceOf?_path_append (k : Controller) (tail : String) :
    namespaceOf? (k.path ++ tail) = leading? k.namespaceName := by
  have hpath : (k.path ++ tail).toList = '/' :: 'n' :: 's' :: '/' :: (k.namespaceName.toList ++
      '/' :: (k.kind.pathSegment.toList ++ '/' :: (k.name.toList ++ tail.toList))) := by
    simp [Controller.path]
  exact namespaceOf?_eq hpath

theorem namespaceOf?_podPath (k : Controller) :
    namespaceOf? k.podPath = leading? k.namespaceName :=
  namespaceOf?_path_append k "/pods"

theorem namespaceOf?_containerPath (k : Controller) (container : String) :
    namespaceOf? (k.containerPath container) = leading? k.namespaceName := by
  rw [Controller.containerPath, String.append_assoc]
  exact namespaceOf?_path_append k ("/containers/" ++ container)

end Resource

/-! ### Namespaces of checks -/

namespace Check

theorem namespaceName?_of_mem_ofResult {r : ControllerResult} {d : Check} (h : d ∈ ofResult r) :
    d.namespaceName? = Resource.leading? r.namespaceName := by
  rcases List.mem_append.1 h with h | h
  · obtain ⟨f, -, rfl⟩ := List.mem_map.1 h
    exact Resource.namespaceOf?_podPath _
  · obtain ⟨r', -, h⟩ := List.mem_flatMap.1 h
    obtain ⟨f, -, rfl⟩ := List.mem_map.1 h
    exact Resource.namespaceOf?_containerPath _ _

theorem namespaceName?_of_mem_ofImages {t : Table ScanSummary} {k : Controller} {d : Check}
    (h : d ∈ ofImages t k) : d.namespaceName? = Resource.leading? k.namespaceName := by
  obtain ⟨container, -, h⟩ := List.mem_filterMap.1 h
  obtain ⟨image, -, rfl⟩ := Option.map_eq_some_iff.1 h
  exact Resource.namespaceOf?_containerPath _ _

end Check

namespace Audit

variable (c : Configuration) (s : Snapshot) (scans : Option (Table ScanSummary))

/-- **The path of a check tells the leading part** of the namespace that its controller lives in,
for every kind of controller and in both parts of a report. -/
theorem namespaceName?_of_mem_origins {e : Controller × Check} (h : e ∈ origins c s scans) :
    e.2.namespaceName? = Resource.leading? e.1.namespaceName := by
  obtain ⟨-, h | h⟩ := mem_origins.1 h
  · have hsame : (c.evaluateController e.1).namespaceName = e.1.namespaceName := by
      rw [Configuration.evaluateController]
    rw [Check.namespaceName?_of_mem_ofResult h, hsame]
  · cases scans with
    | none => exact absurd h List.not_mem_nil
    | some t => exact Check.namespaceName?_of_mem_ofImages h

/-! ### Accounting -/

/-- The tally of the checks of a report whose controllers satisfy a condition. -/
def tallyWhere (p : Controller → Bool) : Tally :=
  .ofVerdicts (((origins c s scans).filter fun e => p e.1).map fun e => e.2.verdict)

theorem tallyWhere_congr {p q : Controller → Bool}
    (h : ∀ e ∈ origins c s scans, p e.1 = q e.1) :
    tallyWhere c s scans p = tallyWhere c s scans q := by
  rw [tallyWhere, tallyWhere, List.filter_congr h]

/-- **The summaries account for every check by the namespace of its controller**: what is counted
under a name are the checks of the controllers that live in the namespace of this name, and all
summaries together count all checks. -/
structure AccountsByNamespace : Prop where
  /-- Every check is counted under the namespace of its controller. -/
  entries : ∀ name, ResultSummary.countsOf (report c s scans).namespaceSummary name =
    tallyWhere c s scans fun k => k.namespaceName = name
  /-- No check is missing. -/
  total : Tally.sum ((report c s scans).namespaceSummary.map ResultSummary.counts) =
    (report c s scans).overallSummary.counts

/-- To tally by what paths tell is to tally by the leading parts of namespaces. -/
theorem tallyBy_checks_report (name : Option String) :
    ResultSummary.tallyBy Check.namespaceName? (report c s scans).checks name =
      tallyWhere c s scans fun k => Resource.leading? k.namespaceName = name := by
  have hsame : ∀ e ∈ origins c s scans, decide (e.2.namespaceName? = name) =
      decide (Resource.leading? e.1.namespaceName = name) := fun e he => by
    rw [namespaceName?_of_mem_origins c s scans he]
  rw [ResultSummary.tallyBy, tallyWhere, ← map_snd_origins, List.filter_map, List.map_map,
    ← List.filter_congr hsame]
  rfl

theorem countsOf_namespaceSummary (name : String) :
    ResultSummary.countsOf (report c s scans).namespaceSummary name =
      tallyWhere c s scans fun k => Resource.leading? k.namespaceName = some name := by
  rw [namespaceSummary_report_eq, ResultSummary.countsOf_byKey, tallyBy_checks_report]

theorem nodup_names_namespaceSummary :
    ((report c s scans).namespaceSummary.map ResultSummary.name).Nodup := by
  rw [namespaceSummary_report_eq, ResultSummary.names_byKey]
  exact ResultSummary.nodup_namesBy _ _

theorem mem_names_namespaceSummary {name : String} :
    name ∈ (report c s scans).namespaceSummary.map ResultSummary.name ↔
      ∃ e ∈ origins c s scans, Resource.leading? e.1.namespaceName = some name := by
  rw [namespaceSummary_report_eq, ResultSummary.names_byKey, ResultSummary.mem_namesBy,
    ← map_snd_origins]
  constructor
  · rintro ⟨d, hd, hname⟩
    obtain ⟨e, he, rfl⟩ := List.mem_map.1 hd
    exact ⟨e, he, namespaceName?_of_mem_origins c s scans he ▸ hname⟩
  · rintro ⟨e, he, hname⟩
    exact ⟨e.2, List.mem_map_of_mem he, (namespaceName?_of_mem_origins c s scans he).trans hname⟩

/-- What the summaries miss are the checks of controllers without a leading part. -/
theorem sum_namespaceSummary :
    Tally.sum ((report c s scans).namespaceSummary.map ResultSummary.counts) ++
        tallyWhere c s scans (fun k => Resource.leading? k.namespaceName = none) =
      (report c s scans).overallSummary.counts := by
  rw [overallSummary_report_eq, namespaceSummary_report_eq, ← ResultSummary.sum_byKey,
    tallyBy_checks_report]

theorem accountsByNamespace_of_isPlain
    (hplain : ∀ e ∈ origins c s scans, Resource.IsPlain e.1.namespaceName) :
    AccountsByNamespace c s scans where
  entries name := by
    rw [countsOf_namespaceSummary]
    refine tallyWhere_congr c s scans fun e he => ?_
    simp [Resource.leading?_of_isPlain (hplain e he)]
  total := by
    -- with a leading part everywhere there is nothing that the summaries miss
    have hnone : tallyWhere c s scans (fun k => Resource.leading? k.namespaceName = none) = {} := by
      have hfalse : ∀ e ∈ origins c s scans,
          decide (Resource.leading? e.1.namespaceName = none) = false := fun e he => by
        simp [Resource.leading?_of_isPlain (hplain e he)]
      rw [tallyWhere, List.filter_congr hfalse, List.filter_false]
      rfl
    rw [← sum_namespaceSummary, hnone, Tally.append_empty]

/-- **What the summaries of namespaces account for.** Under a name are counted the checks of the
controllers whose namespace has it as its leading part, there is one summary for every name that
occurs so, and the summaries together with the checks of the controllers whose namespace has no
leading part count all checks. So where every controller with checks lives in a plain namespace,
the summaries account for every check by the namespace of its controller. -/
theorem namespaceSummary_report :
    (∀ name, ResultSummary.countsOf (report c s scans).namespaceSummary name =
      tallyWhere c s scans fun k => Resource.leading? k.namespaceName = some name) ∧
    ((report c s scans).namespaceSummary.map ResultSummary.name).Nodup ∧
    (∀ name, name ∈ (report c s scans).namespaceSummary.map ResultSummary.name ↔
      ∃ e ∈ origins c s scans, Resource.leading? e.1.namespaceName = some name) ∧
    Tally.sum ((report c s scans).namespaceSummary.map ResultSummary.counts) ++
        tallyWhere c s scans (fun k => Resource.leading? k.namespaceName = none) =
      (report c s scans).overallSummary.counts ∧
    ((∀ e ∈ origins c s scans, Resource.IsPlain e.1.namespaceName) →
      AccountsByNamespace c s scans) := by
  refine ⟨countsOf_namespaceSummary c s scans, nodup_names_namespaceSummary c s scans, ?_,
    sum_namespaceSummary c s scans, accountsByNamespace_of_isPlain c s scans⟩
  intro name
  exact mem_names_namespaceSummary c s scans

/-- A controller that names no namespace is accounted for under the default one. -/
theorem namespaceSummary_report_default :
    let c : Configuration := { security := .insert .empty "hostIPCSet" .error }
    let s : Snapshot := {
      deployments := [⟨{ namespaceName := some "shop" }, some { hostIPC := some true }⟩]
      cronJobs := [⟨{}, some {}⟩] }
    ((origins c s none).map fun e => (e.1.namespaceName, e.2.verdict)) =
      [("shop", .error), ("default", .success)] ∧
    (∀ e ∈ origins c s none, Resource.IsPlain e.1.namespaceName) ∧
    AccountsByNamespace c s none := by
  intro c s
  have hplain : ∀ e ∈ origins c s none, Resource.IsPlain e.1.namespaceName := by decide
  exact ⟨by decide, hplain, (namespaceSummary_report c s none).2.2.2.2 hplain⟩

/-- **Without plain namespaces the accounts can fail**: the checks of an empty namespace are missing
from them, and those of a namespace with a slash in it are counted under another name. -/
theorem not_accountsByNamespace :
    let c : Configuration := { security := .insert .empty "hostIPCSet" .error }
    let s (ns : String) : Snapshot := {
      deployments := [⟨{ namespaceName := some ns }, some { hostIPC := some true }⟩] }
    ¬AccountsByNamespace c (s "") none ∧ ¬AccountsByNamespace c (s "shop/test") none := by
  intro c s
  constructor
  · intro h
    exact absurd h.total (by decide)
  · intro h
    exact absurd (h.entries "shop/test") (by decide)

end Audit

end ClusterAudit
