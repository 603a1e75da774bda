import ClusterAudit.Proofs.Report.Derived
import ClusterAudit.Proofs.Snapshot.Listing
import ClusterAudit.Service

/-!
# What an audit gathers

An audit of a service is put together from what others answer: the server of a cluster, unless the
snapshot comes from elsewhere, and the scanner, if there is one and there are images to ask it for.
`ClusterAudit.Service.Gathers` says in terms of these answers what an audit has in hand when it
makes its report. There is a report exactly of what was gathered
(`ClusterAudit.Service.run_eq_ok`), so an answer that is missing or cannot be read leaves no report
behind, and no smaller one either.
-/

namespace ClusterAudit

/-! ### Answers of the scanner -/

/-- A request brings a body: it can be sent, and what comes back is no failure. -/
def Network.Brings (net : Network) (r : Request) (body : String) : Prop :=
  r.url.isRequestable = true ∧ ∃ status, net r = .response status body ∧ isFailure status = false

theorem Network.send_eq_ok {net : Network} {r : Request} {body : String} :
    net.send r = .ok body ↔ net.Brings r body := by
  rw [send, Brings]
  cases r.url.isRequestable with
  | false => simp
  | true =>
    cases net r with
    | unreachable => simp
    | response status body' => cases hstatus : isFailure status <;> simp_all

namespace Scanner

variable {sc : Scanner} {net : Network} {images : List String}

/-- The request for the summaries of images. -/
def resultsRequest (sc : Scanner) (images : List String) : Request where
  method := "GET"
  url := sc.resultsUrl images

/-- The scanner gives summaries: the request for them brings a document that lists them, whatever it
holds besides. -/
def Gives (sc : Scanner) (net : Network) (images : List String) (l : List ScanSummary) : Prop :=
  ∃ body x, net.Brings (sc.resultsRequest images) body ∧
    Json.select? listSelection body = some x ∧ summaries? x = some l

theorem decoded_eq_ok {α : Type} {wanted : Json.Selection} {read : Json → Option α}
    {sent : Except ExchangeFault String} {a : α} :
    decoded wanted read sent = .ok a ↔
      ∃ body x, sent = .ok body ∧ Json.select? wanted body = some x ∧ read x = some a := by
  cases sent with
  | error e => simp [decoded]
  | ok body =>
    cases hselect : Json.select? wanted body with
    | none => simp_all [decoded]
    | some x => cases hread : read x <;> simp_all [decoded]

theorem results_eq_ok {l : List ScanSummary} :
    sc.results net images = .ok l ↔
      ∃ given, sc.Gives net images given ∧ given.map ScanSummary.sortCounters = l := by
  simp only [results, map_eq_ok, decoded_eq_ok, Network.send_eq_ok, Gives, resultsRequest]

/-- What is known about images after asking the scanner. Without images it is not asked. -/
def Knows (sc : Scanner) (net : Network) (images : List String) (t : Table ScanSummary) : Prop :=
  (images = [] ∧ t = .empty) ∨
    (images ≠ [] ∧ ∃ given, sc.Gives net images given ∧
      t = ScanSummary.tableOf (given.map ScanSummary.sortCounters))

end Scanner

theorem Lookup.ofScanner_eq_ok {net : Network} {sc : Scanner} {images : List String}
    {t : Table ScanSummary} :
    ofScanner net sc images = .ok t ↔ sc.Knows net images t := by
  rw [ofScanner, Scanner.Knows]
  cases images with
  | nil => simp [eq_comm]
  | cons image images =>
    simp only [List.isEmpty_cons, Bool.false_eq_true, if_false, map_eq_ok, Scanner.results_eq_ok]
    constructor
    · rintro ⟨-, ⟨given, hgiven, rfl⟩, rfl⟩
      exact .inr ⟨List.cons_ne_nil _ _, given, hgiven, rfl⟩
    · rintro (⟨hnil, -⟩ | ⟨-, given, hgiven, rfl⟩)
      · cases hnil
      · exact ⟨_, ⟨given, hgiven, rfl⟩, rfl⟩

/-! ### Audits of a service -/

namespace Service

variable (s : Service) (c : Configuration)

/-- What an audit has gathered when it makes its report. -/
structure Gathers (v : Snapshot) (scans : Option (Table ScanSummary)) : Prop where
  /-- The snapshot was fetched as a whole, and it is restricted to the namespaces. -/
  fetched : ∃ whole, s.snapshot = .ok whole ∧ whole.restrictTo c.namespacesToScan = v
  /-- Without a scanner nothing is known about images. -/
  unscanned : s.scanner = none → scans = none
  /-- With a scanner it is what the scanner gives, for all images of the snapshot. -/
  scanned : ∀ sc, s.scanner = some sc →
    ∃ t, sc.Knows s.surroundings.network v.images t ∧ scans = some t

variable {s c} {v : Snapshot} {scans : Option (Table ScanSummary)}

theorem view_eq_ok {fetched : Except SnapshotFault Snapshot} :
    Audit.view c fetched = .ok v ↔
      ∃ whole, fetched = .ok whole ∧ whole.restrictTo c.namespacesToScan = v := by
  cases fetched <;> simp [Audit.view]

theorem lookup_eq_some {sc : Scanner} (h : s.scanner = some sc) :
    s.lookup = some (.ofScanner s.surroundings.network sc) := by
  rw [lookup, h]
  rfl

theorem lookUp_eq_ok :
    Audit.lookUp s.lookup v = .ok scans ↔
      (s.scanner = none → scans = none) ∧
      ∀ sc, s.scanner = some sc →
        ∃ t, sc.Knows s.surroundings.network v.images t ∧ scans = some t := by
  cases hscanner : s.scanner with
  | none => simp [Audit.lookUp, lookup, hscanner, eq_comm]
  | some sc =>
    simp only [← Lookup.ofScanner_eq_ok, lookup_eq_some hscanner, Audit.lookUp, Option.some.injEq,
      reduceCtorEq, false_implies, true_and, forall_eq']
    cases Lookup.ofScanner s.surroundings.network sc v.images with
    | error e => simp
    | ok t => simp [eq_comm]

/-- **There is a report exactly of what an audit gathers.** -/
theorem run_eq_ok {r : Report} :
    Audit.run c s.snapshot s.lookup = .ok r ↔
      ∃ v scans, s.Gathers c v scans ∧ Audit.report c v scans = r := by
  simp only [Audit.run_eq_ok, view_eq_ok, lookUp_eq_ok]
  constructor
  · rintro ⟨v, hview, scans, ⟨hnone, hsome⟩, hreport⟩
    exact ⟨v, scans, ⟨hview, hnone, hsome⟩, hreport⟩
  · rintro ⟨v, scans, ⟨hview, hnone, hsome⟩, hreport⟩
    exact ⟨v, hview, scans, ⟨hnone, hsome⟩, hreport⟩

/-- **What has to be answered for a report**: the snapshot has to be there as a whole, and the
scanner has to give summaries if it is asked for some. -/
theorem exists_gathers :
    (∃ v scans, s.Gathers c v scans) ↔
      ∃ whole, s.snapshot = .ok whole ∧
        ∀ sc, s.scanner = some sc → (whole.restrictTo c.namespacesToScan).images ≠ [] →
          ∃ given, sc.Gives s.surroundings.network
            (whole.restrictTo c.namespacesToScan).images given := by
  constructor
  · rintro ⟨v, scans, ⟨whole, hwhole, rfl⟩, -, hscanned⟩
    refine ⟨whole, hwhole, fun sc hsc himages => ?_⟩
    obtain ⟨t, hnil | ⟨-, given, hgiven, -⟩, -⟩ := hscanned sc hsc
    · exact absurd hnil.1 himages
    · exact ⟨given, hgiven⟩
  · rintro ⟨whole, hwhole, hgives⟩
    refine ⟨whole.restrictTo c.namespacesToScan, ?_⟩
    cases hscanner : s.scanner with
    | none =>
      refine ⟨none, ⟨whole, hwhole, rfl⟩, fun _ => rfl, fun sc hsc => ?_⟩
      rw [hscanner] at hsc
      cases hsc
    | some sc =>
      obtain ⟨t, ht⟩ : ∃ t, sc.Knows s.surroundings.network
          (whole.restrictTo c.namespacesToScan).images t := by
        by_cases himages : (whole.restrictTo c.namespacesToScan).images = []
        · exact ⟨_, .inl ⟨himages, rfl⟩⟩
        · obtain ⟨given, hgiven⟩ := hgives sc hscanner himages
          exact ⟨_, .inr ⟨himages, given, hgiven, rfl⟩⟩
      refine ⟨some t, ⟨whole, hwhole, rfl⟩, fun hnone => ?_, fun sc' hsc' => ⟨t, ?_, rfl⟩⟩
      · rw [hscanner] at hnone
        cases hnone
      · rw [hscanner] at hsc'
        exact Option.some.inj hsc' ▸ ht

end Service

end ClusterAudit
