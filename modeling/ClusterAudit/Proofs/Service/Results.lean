import ClusterAudit.Proofs.Service.Session

/-!
# A whole report or none

A request for a report is answered with a report of everything that was to be looked at, or with the
words that there is none. There is nothing between, although many requests to others stand behind it
and each of them can fail. `ClusterAudit.Service.AllOrNothing` states this for the answers as the
service gives them, and `ClusterAudit.Service.OrderFree` that it stays so when what others answer
comes in any order, with the outcome of the request to scan anywhere among it or nowhere.

No audit stands behind a request whose query gives the field of exemptions twice. It is turned away
(`ClusterAudit.Service.answer_of_repeated`).
-/

namespace ClusterAudit

namespace Service

/-! ### Requests for reports -/

/-- A request for a report, whatever its query is. -/
structure AsksForResults (s : Service) (r : ServedRequest) : Prop where
  /-- The path is the one of reports. -/
  route : ∃ found, s.base.route? r.path = some (.results, found)
  /-- The method is the one that asks for something. -/
  method : r.method = "GET"

/-- A request for a report that the service does not turn away for its query. -/
structure AsksForReport (s : Service) (r : ServedRequest) : Prop extends AsksForResults s r where
  /-- The field does not stand twice in the query. -/
  query : (overrideValues r.query).length ≤ 1

variable {s : Service} {m : Metrics} {r : ServedRequest}

/-- The configuration that a request asks for. -/
def configurationOf (s : Service) (r : ServedRequest) : Configuration :=
  s.configurationFor (overrideValues r.query)

/-- **A request for a report is answered with the result of an audit**, which is recorded. -/
theorem answer_of_asksForReport (hr : s.AsksForReport r) :
    s.answer m r =
      (auditAnswer (Audit.run (s.configurationOf r) s.snapshot s.lookup),
        m.record (Audit.run (s.configurationOf r) s.snapshot s.lookup)) := by
  obtain ⟨⟨⟨found, hroute⟩, hmethod⟩, hquery⟩ := hr
  rw [answer, hroute]
  simp only [hmethod, if_true, routeAnswer, resultsAnswer]
  split
  next heq => simp [heq] at hquery
  next => rfl

/-- **A request that gives the field twice is turned away**, and starts no audit. -/
theorem answer_of_repeated (hr : s.AsksForResults r)
    (hquery : 1 < (overrideValues r.query).length) :
    s.answer m r =
      (.text 400 "Failed to deserialize query string: duplicate field \x60disallowExemptions\x60",
        m) := by
  obtain ⟨⟨found, hroute⟩, hmethod⟩ := hr
  rw [answer, hroute]
  simp only [hmethod, if_true, routeAnswer, resultsAnswer]
  rcases hvalues : overrideValues r.query with _ | ⟨value, _ | ⟨value', values⟩⟩
  · simp [hvalues] at hquery
  · simp [hvalues] at hquery
  · rfl

/-- Results that agree about reports are the same, or both are faults. -/
theorem eq_or_exists_error {result result' : Except AuditFault Report}
    (h : ∀ report, result = .ok report ↔ result' = .ok report) :
    result = result' ∨ ∃ e e', result = .error e ∧ result' = .error e' := by
  cases result with
  | ok report => exact .inl ((h report).1 rfl).symm
  | error e =>
    cases result' with
    | ok report => cases (h report).2 rfl
    | error e' => exact .inr ⟨e, e', rfl, rfl⟩

/-! ### All or nothing -/

open ClusterSource in
/-- **All or nothing**: what is answered to a request for a report. -/
structure AllOrNothing (s : Service) (m : Metrics) (r : ServedRequest) : Prop where
  /-- An audit with any configuration makes a report exactly of what it has gathered. -/
  run : ∀ c report, Audit.run c s.snapshot s.lookup = .ok report ↔
    ∃ v scans, s.Gathers c v scans ∧ Audit.report c v scans = report
  /-- It has gathered what it needs exactly when the snapshot was fetched and, if there is a scanner
  and the restricted snapshot has images, the request for their summaries brought some. -/
  gathers : ∀ c, (∃ v scans, s.Gathers c v scans) ↔ ∃ whole, s.snapshot = .ok whole ∧
    ∀ sc, s.scanner = some sc → (whole.restrictTo c.namespacesToScan).images ≠ [] →
      ∃ given, sc.Gives s.surroundings.network (whole.restrictTo c.namespacesToScan).images given
  /-- The snapshot of a path was fetched exactly when all its files are manifests. -/
  path : ∀ p, s.source = .path p → ((∃ whole, s.snapshot = .ok whole) ↔
    ∀ file ∈ Snapshot.manifestPaths s.surroundings.files p,
      Snapshot.IsManifest s.surroundings.files file)
  /-- The snapshot of a cluster was fetched exactly when the requests for the version and for the
  lists of all kinds were answered. -/
  cluster : s.source = .cluster → ((∃ whole, s.snapshot = .ok whole) ↔
    ∃ server, s.server? = some server ∧ (∃ version, GivesVersion (s.ask server) version) ∧
      ∀ kind ∈ kinds, ∃ l, Lists (s.ask server) kind l)
  /-- Then each of its lists is what was listed. -/
  lists : s.source = .cluster → ∀ whole, s.snapshot = .ok whole →
    ∃ server, s.server? = some server ∧ whole.IsListing (s.ask server) server.text
  /-- With everything gathered the answer is the whole report. -/
  answered : ∀ v scans, s.Gathers (s.configurationOf r) v scans →
    let report := Audit.report (s.configurationOf r) v scans
    s.answer m r = (.json report.toJson,
      { m with
        runs := m.runs + 1
        score := report.cluster.score
        checks := some report.overallSummary.counts })
  /-- In every other case it is a failure in words, and it is counted as one. -/
  failed : (¬∃ v scans, s.Gathers (s.configurationOf r) v scans) →
    ∃ why, s.answer m r = (.text 500 ("audit failed: " ++ why),
      { m with runs := m.runs + 1, failures := m.failures + 1 })

theorem snapshot_eq_ok (hsource : s.source = .cluster) {whole : Snapshot} :
    s.snapshot = .ok whole ↔
      ∃ server, s.server? = some server ∧ whole.IsListing (s.ask server) server.text := by
  cases hserver : s.server? with
  | none =>
    rw [server?] at hserver
    simp [snapshot, hsource, SnapshotSource.fetch, hserver]
  | some server =>
    rw [snapshot_of_cluster hsource hserver, mapError_eq_ok, Snapshot.ofServer_eq_ok]
    simp

theorem exists_snapshot_eq_ok (hsource : s.source = .cluster) :
    (∃ whole, s.snapshot = .ok whole) ↔
      ∃ server, s.server? = some server ∧
        (∃ version, ClusterSource.GivesVersion (s.ask server) version) ∧
        ∀ kind ∈ ClusterSource.kinds, ∃ l, ClusterSource.Lists (s.ask server) kind l := by
  simp only [snapshot_eq_ok hsource, ClusterSource.mem_kinds, true_imp_iff]
  constructor
  · rintro ⟨whole, server, hserver, hwhole⟩
    exact ⟨server, hserver, Snapshot.exists_isListing.1 ⟨whole, hwhole⟩⟩
  · rintro ⟨server, hserver, hanswers⟩
    obtain ⟨whole, hwhole⟩ := Snapshot.exists_isListing.2 hanswers
    exact ⟨whole, server, hserver, hwhole⟩

theorem allOrNothing (hr : s.AsksForReport r) : s.AllOrNothing m r where
  run _ _ := run_eq_ok
  gathers _ := exists_gathers
  path p hsource := by
    rw [snapshot, hsource]
    exact Snapshot.exists_ofPath
  cluster hsource := exists_snapshot_eq_ok hsource
  lists hsource _ := (snapshot_eq_ok hsource).1
  answered v scans h := by
    rw [answer_of_asksForReport hr, run_eq_ok.2 ⟨v, scans, h, rfl⟩]
    rfl
  failed h := by
    rw [answer_of_asksForReport hr]
    cases hrun : Audit.run (s.configurationOf r) s.snapshot s.lookup with
    | ok report =>
      obtain ⟨v, scans, hgathers, -⟩ := run_eq_ok.1 hrun
      exact absurd ⟨v, scans, hgathers⟩ h
    | error e => exact ⟨e.message, rfl⟩

/-! ### In any order -/

/-- **The order of what comes back does not matter** to an audit with a configuration, and what
comes back from the request to scan does not matter at all. -/
structure OrderFree (s : Service) (c : Configuration) : Prop where
  /-- An audit that has ended has the report that it has when all answers are there at once, or none
  as well; it is answered with the same status and recorded alike. -/
  ended : ∀ l σ result, (∀ a ∈ l, s.Brings a) → s.progress c l = some σ →
    σ.stage = .ended result →
    (∀ report, result = .ok report ↔ Audit.run c s.snapshot s.lookup = .ok report) ∧
    (auditAnswer result).status = (auditAnswer (Audit.run c s.snapshot s.lookup)).status ∧
    ∀ m : Metrics, m.record result = m.record (Audit.run c s.snapshot s.lookup)
  /-- As long as it has not ended, it can go on until it has, without the outcome of the request to
  scan. -/
  goesOn : ∀ l σ, (∀ a ∈ l, s.Brings a) → s.progress c l = some σ →
    ∃ l' τ result, (∀ a ∈ l', s.Brings a ∧ a.isAwaited = true) ∧
      s.receiveAll c σ l' = some τ ∧ τ.stage = .ended result
  /-- The request to scan that is sent is for the images of the restricted snapshot. -/
  sent : ∀ l σ q, (∀ a ∈ l, s.Brings a) → s.progress c l = some σ → σ.scan = .sent q →
    ∃ sc, s.scanner = some sc ∧ Audit.background c s.snapshot sc = some q
  /-- Once it is sent, any outcome may come at any time, and the audit is where it would be
  without. -/
  anyOutcome : ∀ l l' σ τ q outcome, s.progress c l = some σ → σ.scan = .sent q →
    s.receiveAll c σ l' = some τ → (∀ a ∈ l', a.isAwaited = true) →
    ∃ τ', s.progress c (l ++ .scan outcome :: l') = some τ' ∧ τ'.stage = τ.stage
  /-- Two audits in which the same comes back, but for the outcomes of the requests to scan, are in
  the same place: they end with the same result, if they end. -/
  sameStage : ∀ l l' σ σ', l.filter Arrival.isAwaited = l'.filter Arrival.isAwaited →
    s.progress c l = some σ → s.progress c l' = some σ' → σ.stage = σ'.stage

theorem orderFree (s : Service) (c : Configuration) : s.OrderFree c where
  ended l σ result hl hrun hended := by
    have hagrees := (agrees_receiveAll hl hrun).stage
    rw [hended] at hagrees
    refine ⟨hagrees, ?_⟩
    obtain heq | ⟨e, e', rfl, herror⟩ := eq_or_exists_error hagrees
    · rw [heq]
      exact ⟨rfl, fun _ => rfl⟩
    -- the faults may differ, but neither the status nor the metrics tell which one it was
    · rw [herror]
      exact ⟨rfl, fun _ => rfl⟩
  goesOn l σ hl hrun := exists_ended (agrees_receiveAll hl hrun)
  sent l σ q hl hrun := (agrees_receiveAll hl hrun).scan q
  anyOutcome l l' σ τ q outcome hrun hsent hrest hawaited := by
    obtain ⟨stage, scan⟩ := σ
    obtain rfl : scan = .sent q := hsent
    have hsame : Session.stage ⟨stage, .sent q⟩ = Session.stage ⟨stage, .settled outcome⟩ := rfl
    obtain ⟨τ', hτ', hstage⟩ := stage_receiveAll hsame hrest
    -- after the outcome nothing is left to filter out
    rw [List.filter_eq_self.2 hawaited] at hτ'
    refine ⟨τ', ?_, hstage.symm⟩
    rw [progress, receiveAll_append, ← progress, hrun, Option.bind_some, receiveAll_cons,
      receive_eq_some.2 .scan]
    exact hτ'
  sameStage l l' σ σ' hl hrun hrun' := by
    obtain ⟨τ, hτ, hσ⟩ := stage_receiveAll rfl hrun
    obtain ⟨τ', hτ', hσ'⟩ := stage_receiveAll rfl hrun'
    rw [hl, hτ'] at hτ
    rw [hσ, hσ', Option.some.inj hτ]

/-- **There is a whole report or none**, whatever others answer to the requests of an audit, in
whatever order, and whatever becomes of the request to scan. Only a request whose query gives the
field of exemptions twice has no audit behind it, and is turned away and not counted. -/
theorem results_whole_or_none (s : Service) (m : Metrics) (r : ServedRequest)
    (hr : s.AsksForResults r) :
    ((overrideValues r.query).length ≤ 1 → s.AllOrNothing m r) ∧
    (1 < (overrideValues r.query).length → s.answer m r =
      (.text 400 "Failed to deserialize query string: duplicate field \x60disallowExemptions\x60",
        m)) ∧
    ∀ c, s.OrderFree c :=
  ⟨fun hquery => allOrNothing ⟨hr, hquery⟩, answer_of_repeated hr, orderFree s⟩

/-- A request to scan that fails does no harm, but one for summaries does, also if the request to
scan does not fail. Neither is sent for a query that gives the field twice. -/
theorem results_whole_or_none_scanner :
    let r : ServedRequest := { method := "GET", path := "/results.json".toList }
    let twice : ServedRequest :=
      { r with query := "disallowExemptions=true&disallowExemptions=true".toList }
    let sc : Scanner := ⟨{ scheme := "http", host := some (.name "scanner") }, rfl⟩
    let service : Network → Service := fun network => {
      configuration := {}
      source := .static { deployments :=
        [⟨{}, some { containers := [{ name := "app", image := some "nginx" }] }⟩] }
      scanner := some sc
      surroundings := { network } }
    let s := service fun q => if q.method = "GET" then .response 200 "[]" else .unreachable
    let t := service fun q => if q.method = "GET" then .response 503 "" else .response 200 ""
    (s.AllOrNothing {} r ∧ ∀ c, s.OrderFree c) ∧ (s.answer {} r).1.status = 200 ∧
      (s.answer {} r).2.failures = 0 ∧
    (t.AllOrNothing {} r ∧ ∀ c, t.OrderFree c) ∧ (t.answer {} r).1.status = 500 ∧
      (t.answer {} r).2.failures = 1 ∧
    (t.answer {} twice).1.status = 400 ∧ (t.answer {} twice).2.runs = 0 := by
  intro r twice sc service s t
  have hs : s.AsksForResults r := ⟨⟨[], by decide⟩, by decide⟩
  have ht : t.AsksForResults r := ⟨⟨[], by decide⟩, by decide⟩
  have htwice : t.AsksForResults twice := ⟨⟨[], by decide⟩, by decide⟩
  obtain ⟨hs, -, horder⟩ := results_whole_or_none s {} r hs
  obtain ⟨ht, -, horder'⟩ := results_whole_or_none t {} r ht
  have hrefused := (results_whole_or_none t {} twice htwice).2.1 (by decide)
  refine ⟨⟨hs (by decide), horder⟩, by decide, by decide, ⟨ht (by decide), horder'⟩, by decide,
    by decide, ?_, ?_⟩
  · rw [hrefused]
    rfl
  · rw [hrefused]

end Service

end ClusterAudit
