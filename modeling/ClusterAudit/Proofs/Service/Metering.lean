import ClusterAudit.Proofs.Service.Exposition
import ClusterAudit.Proofs.Service.Results

/-!
# What the service remembers

Between requests the service remembers its metrics and nothing else. Of all requests only those that
start an audit touch them, and only that for the metrics shows them
(`ClusterAudit.Service.snd_answer`, `ClusterAudit.Service.fst_answer`). So the metrics after many
requests are those of the audits among them, recorded one after the other
(`ClusterAudit.Service.snd_visits`), and what they say is what there is to say about a list of
audits: how many there were, how many of them failed, and what the last report had found. A
collector that reads the answer finds it there (`ClusterAudit.Metrics.collect_render`).

What others answer may be different from one request to the next. A `ClusterAudit.Visit` is a
request together with the surroundings that the service finds when the request comes; the service
itself stays as it is.
-/

namespace ClusterAudit

/-! ### The metrics of a list of audits -/

namespace Metrics

variable (m : Metrics) (l : List (Except AuditFault Report))

/-- The report of the last audit of a list that did not fail. -/
def lastReport? (l : List (Except AuditFault Report)) : Option Report :=
  (l.filterMap Except.toOption).getLast?

theorem mem_of_lastReport? {l : List (Except AuditFault Report)} {r : Report}
    (h : lastReport? l = some r) : .ok r ∈ l := by
  obtain ⟨result, hmem, hresult⟩ := List.mem_filterMap.1 (List.mem_of_getLast? h)
  cases result with
  | error e => cases hresult
  | ok r' => rwa [Option.some.inj hresult] at hmem

theorem runs_foldl_record : (l.foldl record m).runs = m.runs + l.length := by
  induction l generalizing m with
  | nil => rfl
  | cons result l ih =>
    have hstep : (m.record result).runs = m.runs + 1 := by
      cases result <;> rfl
    rw [List.foldl_cons, ih, hstep, List.length_cons]
    omega

theorem failures_foldl_record :
    (l.foldl record m).failures = m.failures + l.countP fun result => !result.isOk := by
  induction l generalizing m with
  | nil => rfl
  | cons result l ih =>
    rw [List.foldl_cons, ih, List.countP_cons]
    cases result with
    | error e =>
      have hfailed : (m.record (.error e)).failures = m.failures + 1 := rfl
      simp only [hfailed, Except.isOk, Except.toBool, Bool.not_false, if_true]
      omega
    | ok r => rfl

/-- **Only the last report is remembered.** -/
theorem shown_foldl_record :
    ((l.foldl record m).score, (l.foldl record m).checks) =
      (lastReport? l).elim (m.score, m.checks)
        fun r => (r.cluster.score, some r.overallSummary.counts) := by
  induction l using List.reverseRecOn with
  | nil => rfl
  | append_singleton l result ih =>
    rw [List.foldl_concat]
    cases result with
    | error e =>
      have hlast : lastReport? (l ++ [.error e]) = lastReport? l := by
        rw [lastReport?, List.filterMap_append, List.filterMap_cons_none rfl, List.filterMap_nil,
          List.append_nil]
        rfl
      rw [hlast]
      exact ih
    | ok r =>
      have hlast : lastReport? (l ++ [.ok r]) = some r := by
        rw [lastReport?, List.filterMap_append]
        exact List.getLast?_concat
      rw [hlast]
      rfl

end Metrics

/-! ### One request -/

namespace Service

variable (s : Service) (m : Metrics) (r : ServedRequest)

/-- A request that starts an audit: one for a report or for the head of its answer, unless the query
gives the field twice. -/
def StartsAudit (s : Service) (r : ServedRequest) : Prop :=
  (s.base.route? r.path).map Prod.fst = some .results ∧ (r.method = "GET" ∨ r.method = "HEAD") ∧
    (overrideValues r.query).length ≤ 1

/-- A request that is answered with the metrics. -/
def AsksForMetrics (s : Service) (r : ServedRequest) : Prop :=
  (s.base.route? r.path).map Prod.fst = some .metrics ∧ r.method = "GET"

instance : Decidable (s.StartsAudit r) :=
  inferInstanceAs (Decidable (_ ∧ _))

instance : Decidable (s.AsksForMetrics r) :=
  inferInstanceAs (Decidable (_ ∧ _))

/-- The result of the audit that a request starts, if it starts one. -/
def result? (s : Service) (r : ServedRequest) : Option (Except AuditFault Report) :=
  if s.StartsAudit r then some (Audit.run (s.configurationOf r) s.snapshot s.lookup) else none

variable {s r} in
theorem startsAudit_iff {route : Route} {found : List PathArgument}
    (h : s.base.route? r.path = some (route, found)) :
    s.StartsAudit r ↔
      route = .results ∧ (r.method = "GET" ∨ r.method = "HEAD") ∧
        (overrideValues r.query).length ≤ 1 := by
  simp [StartsAudit, h]

variable {s r} in
theorem AsksForReport.startsAudit (h : s.AsksForReport r) : s.StartsAudit r := by
  obtain ⟨found, hroute⟩ := h.route
  exact (startsAudit_iff hroute).2 ⟨rfl, .inl h.method, h.query⟩

theorem snd_routeAnswer (query : List Char) (found : List PathArgument) (route : Route) :
    (s.routeAnswer m query found route).2 =
      if route = .results ∧ (overrideValues query).length ≤ 1 then
        m.record (s.audit (overrideValues query)) else m := by
  cases route with
  | results =>
    rw [routeAnswer, resultsAnswer]
    rcases overrideValues query with _ | ⟨value, _ | ⟨value', values⟩⟩ <;> simp
  | _ => rfl

/-- Whether it is the whole answer that is asked for or only its head is the same to the metrics. -/
theorem snd_answer_of_route {route : Route} {found : List PathArgument}
    (h : s.base.route? r.path = some (route, found)) :
    (s.answer m r).2 =
      if r.method = "GET" ∨ r.method = "HEAD" then (s.routeAnswer m r.query found route).2
      else m := by
  rw [answer, h]
  by_cases hget : r.method = "GET"
  · simp [hget]
  · by_cases hhead : r.method = "HEAD" <;> simp [hget, hhead]

/-- **Only an audit touches the metrics.** -/
theorem snd_answer : (s.answer m r).2 = (s.result? r).elim m m.record := by
  rcases hroute : s.base.route? r.path with _ | ⟨route, found⟩
  · have hnone : ¬s.StartsAudit r := by
      intro h
      rw [StartsAudit, hroute] at h
      cases h.1
    rw [result?, if_neg hnone, answer, hroute]
    rfl
  · rw [s.snd_answer_of_route m r hroute, snd_routeAnswer, result?]
    by_cases h : s.StartsAudit r
    · obtain ⟨hresults, hmethod, hquery⟩ := (startsAudit_iff hroute).1 h
      rw [if_pos hmethod, if_pos ⟨hresults, hquery⟩, if_pos h]
      rfl
    · rw [if_neg h]
      by_cases hmethod : r.method = "GET" ∨ r.method = "HEAD"
      · have hother : ¬(route = .results ∧ (overrideValues r.query).length ≤ 1) := by
          rintro ⟨hresults, hquery⟩
          exact h ((startsAudit_iff hroute).2 ⟨hresults, hmethod, hquery⟩)
        rw [if_pos hmethod, if_neg hother]
        rfl
      · rw [if_neg hmethod]
        rfl

/-- **Only a request for the metrics shows them.** What is answered to any other one does not depend
on them. -/
theorem fst_answer {r : ServedRequest} (h : ¬s.AsksForMetrics r) (m m' : Metrics) :
    (s.answer m r).1 = (s.answer m' r).1 := by
  rw [answer, answer]
  rcases hroute : s.base.route? r.path with _ | ⟨route, found⟩
  · rfl
  by_cases hmetrics : route = .metrics
  · -- the head of the answer is the same for all metrics
    subst hmetrics
    have hget : r.method ≠ "GET" := by
      intro hget
      exact h ⟨by rw [hroute]; rfl, hget⟩
    simp only [hget, if_false]
    split <;> rfl
  · have hsame : (s.routeAnswer m r.query found route).1 =
        (s.routeAnswer m' r.query found route).1 := by
      cases route with
      | metrics => exact absurd rfl hmetrics
      | results =>
        simp only [routeAnswer, resultsAnswer]
        split <;> rfl
      | _ => rfl
    by_cases hget : r.method = "GET"
    · simp only [hget, if_true, hsame]
    · by_cases hhead : r.method = "HEAD"
      · simp [hhead, hsame]
      · simp [hget, hhead]

theorem fst_answer_of_asksForMetrics {r : ServedRequest} (h : s.AsksForMetrics r) (m : Metrics) :
    (s.answer m r).1 = .text 200 m.render := by
  obtain ⟨hroute, hget⟩ := h
  obtain ⟨⟨route, found⟩, hfound, rfl⟩ := Option.map_eq_some_iff.1 hroute
  rw [answer, hfound]
  simp only [hget, if_true]
  rfl

end Service

/-! ### Many requests -/

/-- A request, and what the service can reach while it answers it. -/
structure Visit where
  /-- What the service can reach. -/
  surroundings : Surroundings
  /-- The request. -/
  request : ServedRequest

namespace Service

variable (s : Service) (m : Metrics) (l : List Visit)

/-- The service during a visit. -/
def during (s : Service) (v : Visit) : Service :=
  { s with surroundings := v.surroundings }

/-- What is answered to visits one after the other. -/
def visits (s : Service) (m : Metrics) : List Visit → List Answer × Metrics
  | [] => ([], m)
  | v :: l =>
    let (a, m) := (s.during v).answer m v.request
    let (as, m) := s.visits m l
    (a :: as, m)

/-- The result of the audit that a visit starts, if it starts one. -/
def visitResult? (s : Service) (v : Visit) : Option (Except AuditFault Report) :=
  (s.during v).result? v.request

/-- The results of the audits that visits start. -/
def results (s : Service) (l : List Visit) : List (Except AuditFault Report) :=
  l.filterMap s.visitResult?

/-- To be asked in surroundings that stay the same is to be visited in them. -/
theorem answers_eq_visits (rs : List ServedRequest) :
    s.answers m rs = s.visits m (rs.map (Visit.mk s.surroundings)) := by
  induction rs generalizing m with
  | nil => rfl
  | cons r rs ih =>
    simp only [answers, List.map_cons, visits, ih]
    rfl

/-- **The metrics after visits** are those of the audits that they start. -/
theorem snd_visits : (s.visits m l).2 = (s.results l).foldl Metrics.record m := by
  induction l generalizing m with
  | nil => rfl
  | cons v l ih =>
    have hstep : (s.visits m (v :: l)).2 =
        (s.visits ((s.visitResult? v).elim m m.record) l).2 := by
      rw [visitResult?, ← snd_answer]
      rfl
    rw [hstep, ih, results, results]
    cases hresult : s.visitResult? v with
    | none =>
      rw [List.filterMap_cons_none hresult]
      rfl
    | some result =>
      rw [List.filterMap_cons_some hresult, List.foldl_cons]
      rfl

/-- **Every visit is answered** with the metrics that the visits before it have left. -/
theorem getElem?_fst_visits (i : Nat) :
    (s.visits m l).1[i]? =
      l[i]?.map fun v => ((s.during v).answer (s.visits m (l.take i)).2 v.request).1 := by
  induction l generalizing m i with
  | nil => rfl
  | cons v l ih =>
    cases i with
    | zero => rfl
    | succ i => exact ih _ i

/-- What was found last stays as long as no other audit brings a report. -/
theorem shown_visits_concat {v : Visit} (h : ∀ r, s.visitResult? v ≠ some (.ok r)) :
    (s.visits m (l ++ [v])).2.score = (s.visits m l).2.score ∧
      (s.visits m (l ++ [v])).2.checks = (s.visits m l).2.checks := by
  rw [snd_visits, snd_visits, results, List.filterMap_append, List.foldl_append, ← results]
  rcases hresult : s.visitResult? v with _ | e | r
  · rw [List.filterMap_cons_none hresult]
    exact ⟨rfl, rfl⟩
  · rw [List.filterMap_cons_some hresult]
    exact ⟨rfl, rfl⟩
  · exact absurd hresult (h r)

/-- The report that an audit brings counts each of its checks once. -/
theorem counts_of_mem_results {r : Report} (h : .ok r ∈ s.results l) :
    r.overallSummary.counts = .ofVerdicts (r.checks.map Check.verdict) := by
  obtain ⟨v, -, hresult⟩ := List.mem_filterMap.1 h
  rw [visitResult?, result?] at hresult
  split at hresult
  · exact Audit.counts_of_run (Option.some.inj hresult)
  · cases hresult

/-- **What the service tells and remembers** of visits one after the other, when it remembers
nothing before. -/
structure Metered (s : Service) (l : List Visit) : Prop where
  /-- Whatever came before, a visit is answered as if it was the first one, unless it asks for the
  metrics. -/
  answered : ∀ (i : Nat) v, l[i]? = some v → ¬s.AsksForMetrics v.request →
    (s.visits {} l).1[i]? = some ((s.during v).answer {} v.request).1
  /-- One that asks for a report is answered with the result of the audit that it starts. -/
  reported : ∀ (i : Nat) v, l[i]? = some v → s.AsksForReport v.request →
    ∃ result, s.visitResult? v = some result ∧
      (s.visits {} l).1[i]? = some (auditAnswer result)
  /-- One that asks for the metrics is shown what the visits before it have left. -/
  shown : ∀ (i : Nat) v, l[i]? = some v → s.AsksForMetrics v.request →
    (s.visits {} l).1[i]? = some (.text 200 (s.visits {} (l.take i)).2.render)
  /-- Of this text a collector reads what they have left, and nothing else. -/
  collected : ∀ i : Nat, Metrics.collect (s.visits {} (l.take i)).2.render =
    (s.visits {} (l.take i)).2.samples
  /-- All audits are counted. -/
  runs : (s.visits {} l).2.runs = (s.results l).length
  /-- Those that fail are counted. -/
  failures : (s.visits {} l).2.failures = (s.results l).countP fun result => !result.isOk
  /-- There are not more failures than audits. -/
  failures_le : (s.visits {} l).2.failures ≤ (s.visits {} l).2.runs
  /-- The score and the counts are those of the last report. -/
  last : ∀ r, Metrics.lastReport? (s.results l) = some r →
    (s.visits {} l).2.score = r.cluster.score ∧
      (s.visits {} l).2.checks = some r.overallSummary.counts
  /-- These counts add up to the number of its checks, in words of 32 bits and, as long as these do
  not overflow, in numbers. -/
  sum : ∀ r, Metrics.lastReport? (s.results l) = some r →
    ∃ t, (s.visits {} l).2.checks = some t ∧ t.total = .ofNat r.checks.length ∧
      (r.checks.length < 2 ^ 32 →
        t.successes.toNat + t.warnings.toNat + t.errors.toNat + t.noData.toNat = r.checks.length)
  /-- Without any report the score is zero, and there are no counts. -/
  unset : Metrics.lastReport? (s.results l) = none →
    (s.visits {} l).2.score = 0 ∧ (s.visits {} l).2.checks = none
  /-- One visit more leaves the score and the counts alone, unless it brings a report. -/
  kept : ∀ v, (∀ r, s.visitResult? v ≠ some (.ok r)) →
    (s.visits {} (l ++ [v])).2.score = (s.visits {} l).2.score ∧
      (s.visits {} (l ++ [v])).2.checks = (s.visits {} l).2.checks

/-- **The metrics tell of the audits and of nothing else**, and nothing but the metrics tells of
what came before. This is so whatever others answer from one request to the next, and in particular
when they always answer the same. -/
theorem metered_visits (s : Service) :
    (∀ l, s.Metered l) ∧
      ∀ rs, s.answers {} rs = s.visits {} (rs.map (Visit.mk s.surroundings)) := by
  refine ⟨fun l => ?_, s.answers_eq_visits {}⟩
  have hmetrics : (s.visits {} l).2 = (s.results l).foldl Metrics.record {} := s.snd_visits {} l
  have hruns : (s.visits {} l).2.runs = (s.results l).length := by
    rw [hmetrics, Metrics.runs_foldl_record, Nat.zero_add]
  have hfailures : (s.visits {} l).2.failures =
      (s.results l).countP fun result => !result.isOk := by
    rw [hmetrics, Metrics.failures_foldl_record, Nat.zero_add]
  have hlast : ∀ r, Metrics.lastReport? (s.results l) = some r →
      (s.visits {} l).2.score = r.cluster.score ∧
        (s.visits {} l).2.checks = some r.overallSummary.counts := by
    intro r hr
    have hshown := Metrics.shown_foldl_record {} (s.results l)
    rw [hr, ← hmetrics] at hshown
    exact Prod.mk.inj hshown
  exact {
    answered := fun i v hv hother => by
      rw [getElem?_fst_visits, hv, Option.map_some]
      exact congrArg some ((s.during v).fst_answer hother _ _)
    reported := fun i v hv hreport => by
      have hreport : (s.during v).AsksForReport v.request :=
        ⟨⟨hreport.route, hreport.method⟩, hreport.query⟩
      refine ⟨_, if_pos hreport.startsAudit, ?_⟩
      rw [getElem?_fst_visits, hv, Option.map_some, answer_of_asksForReport hreport]
    shown := fun i v hv hasks => by
      rw [getElem?_fst_visits, hv, Option.map_some]
      exact congrArg some ((s.during v).fst_answer_of_asksForMetrics hasks _)
    collected := fun i => Metrics.collect_render _
    runs := hruns
    failures := hfailures
    failures_le := by
      rw [hruns, hfailures]
      exact List.countP_le_length
    last := hlast
    sum := fun r hr => by
      have hcounts := s.counts_of_mem_results l (Metrics.mem_of_lastReport? hr)
      refine ⟨_, (hlast r hr).2, ?_⟩
      rw [hcounts, Tally.total_ofVerdicts, List.length_map]
      exact ⟨rfl, Tally.sum_toNat_ofVerdicts_map Check.verdict⟩
    unset := fun hnone => by
      have hshown := Metrics.shown_foldl_record {} (s.results l)
      rw [hnone, ← hmetrics] at hshown
      exact Prod.mk.inj hshown
    kept := fun v => s.shown_visits_concat {} l }

/-- The scanner answers once and never again: the second audit fails, and the metrics still show
what the first one has found. -/
theorem metered_visits_scanner :
    let s : Service := {
      configuration := {}
      source := .static { deployments :=
        [⟨{}, some { containers := [{ name := "app", image := some "nginx" }] }⟩] }
      scanner := some ⟨{ scheme := "http", host := some (.name "scanner") }, rfl⟩ }
    let get : String → ServedRequest := fun path => { method := "GET", path := path.toList }
    let up : Surroundings := { network := fun q =>
      if q.method = "GET" then .response 200 "[]" else .unreachable }
    let l : List Visit := [⟨up, get "/results.json"⟩, ⟨{}, get "/results.json"⟩,
      ⟨{}, get "/image/nginx"⟩, ⟨up, get "/health"⟩]
    (s.visits {} l).2.runs = 2 ∧ (s.visits {} l).2.failures = 1 ∧
    (s.visits {} l).2.score = 100 ∧ (s.visits {} l).2.checks = some { noData := 1 } := by
  intro s get up l
  have h : s.Metered l := s.metered_visits.1 l
  obtain ⟨hscore, hchecks⟩ := h.last _ rfl
  refine ⟨h.runs.trans (by decide), h.failures.trans (by decide), hscore.trans (by decide), ?_⟩
  rw [hchecks]
  decide

end Service

end ClusterAudit
