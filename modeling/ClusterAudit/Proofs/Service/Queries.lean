import ClusterAudit.Proofs.Service.Metering
import ClusterAudit.Proofs.Url.Percent

/-!
# What a query asks for

A request for a report may have any query. Of all its fields only one counts, and of this one only
whether its value is one of two words (`ClusterAudit.Service.overrideOf_eq_some`): then the report
is made as if the configuration had the other setting, and otherwise it is made with the
configuration as it is. Nothing has to be well formed for that. Escapes that are none stand for
themselves, a field without a value has the empty one, and fields of other names are passed over
(`ClusterAudit.Service.overrideValues_append_cons`).

What is not passed over is a second field of that name. The reader of the query takes it for a
mistake before the values are looked at, so it is refused also when neither of the values would have
changed anything (`ClusterAudit.Service.exists_query_refused`).
-/

namespace ClusterAudit.Service

open Url

variable {s : Service} {m : Metrics} {r r' : ServedRequest}

/-! ### The values of the field -/

/-- The word that sets whether exemptions do not count. -/
def overrideWord (disallow : Bool) : String :=
  if disallow then "true" else "false"

/-- **Only two words override**, and only as the one value of the field. -/
theorem overrideOf_eq_some {values : List String} {b : Bool} :
    overrideOf values = some b ↔ values = [overrideWord b] := by
  rw [overrideOf.eq_def]
  split
  · cases b <;> simp [overrideWord]
  · cases b <;> simp [overrideWord]
  next htrue hfalse =>
    refine ⟨nofun, ?_⟩
    rintro rfl
    cases b with
    | false => exact absurd rfl hfalse
    | true => exact absurd rfl htrue

/-- The fields on both sides of an ampersand are read one after the other. -/
theorem overrideValues_append_cons (l k : List Char) :
    overrideValues (l ++ '&' :: k) = overrideValues l ++ overrideValues k := by
  rw [overrideValues, formFields_append_cons, List.filter_append, List.map_append]
  rfl

/-- Fields of other names have no values that count. -/
theorem overrideValues_eq_nil {q : List Char} (h : ∀ f ∈ formFields q, f.1 ≠ overrideField) :
    overrideValues q = [] := by
  rw [overrideValues, List.map_eq_nil_iff, List.filter_eq_nil_iff]
  intro f hf
  simpa using h f hf

/-! ### What is answered -/

/-- The report of a snapshot without anything about images. -/
def reportOf (whole : Snapshot) (c : Configuration) : Report :=
  Audit.report c (whole.restrictTo c.namespacesToScan) none

theorem configurationFor_eq (s : Service) (values : List String) :
    s.configurationFor values =
      { s.configuration with
        disallowExemptions :=
          (overrideOf values).getD s.configuration.disallowExemptions } := by
  rw [configurationFor, Configuration.override]
  rfl

/-- A query counts by the values of the field alone. -/
theorem answer_congr (hr : s.AsksForResults r) (hr' : s.AsksForResults r')
    (h : overrideValues r'.query = overrideValues r.query) : s.answer m r' = s.answer m r := by
  obtain ⟨⟨found, hroute⟩, hmethod⟩ := hr
  obtain ⟨⟨found', hroute'⟩, hmethod'⟩ := hr'
  rw [answer, answer, hroute, hroute']
  simp only [hmethod, hmethod', if_true, routeAnswer, resultsAnswer, h]

theorem answer_of_once {whole : Snapshot} (asks : s.AsksForResults r)
    (loads : s.snapshot = .ok whole) (unscanned : s.scanner = none)
    (once : (overrideValues r.query).length ≤ 1) :
    (s.answer m r).1 = .json (reportOf whole (s.configurationOf r)).toJson := by
  have hlookup : s.lookup = none := by rw [lookup, unscanned, Option.map_none]
  rw [answer_of_asksForReport ⟨asks, once⟩, loads, hlookup]
  rfl

/-- **What becomes of a request for a report** with any query, where there is a snapshot and no
scanner. -/
structure AnswersQuery (s : Service) (whole : Snapshot) (m : Metrics) (r : ServedRequest) :
    Prop where
  /-- When the field has one of the two words, the report is the one of the configuration with this
  setting. -/
  overridden : ∀ b, overrideValues r.query = [overrideWord b] →
    (s.answer m r).1 =
      .json (reportOf whole { s.configuration with disallowExemptions := b }).toJson
  /-- When it has another value or none, the report is the one of the configuration. -/
  ignored : (overrideValues r.query).length ≤ 1 →
    (∀ b, overrideValues r.query ≠ [overrideWord b]) →
      (s.answer m r).1 = .json (reportOf whole s.configuration).toJson
  /-- When it is given more than once, there is no report, whatever the values are, and no audit is
  counted. -/
  refused : 1 < (overrideValues r.query).length →
    s.answer m r =
      (.text 400 "Failed to deserialize query string: duplicate field \x60disallowExemptions\x60",
        m)
  /-- So there is a report exactly when it is not given more than once. -/
  status : (s.answer m r).1.status = 200 ↔ (overrideValues r.query).length ≤ 1
  /-- Nothing else of the query counts: with other fields in front of it or behind it, or with any
  query that has the same values of the field, the answer is the same. -/
  unrelated : ∀ r', s.AsksForResults r' →
    (overrideValues r'.query = overrideValues r.query ∨
      ∃ q, (∀ f ∈ formFields q, f.1 ≠ overrideField) ∧
        (r'.query = q ++ '&' :: r.query ∨ r'.query = r.query ++ '&' :: q)) →
      s.answer m r' = s.answer m r
  /-- The configuration stays: what is answered next is what would have been answered before, unless
  it is the metrics. -/
  shared : ∀ r', ¬s.AsksForMetrics r' → (s.answer (s.answer m r).2 r').1 = (s.answer m r').1

/-- **Every query is answered with a report that it changes by one field at most**, unless it gives
this field twice. -/
theorem results_of_query (s : Service) (whole : Snapshot) (m : Metrics) (r : ServedRequest)
    (asks : s.AsksForResults r) (loads : s.snapshot = .ok whole) (unscanned : s.scanner = none) :
    s.AnswersQuery whole m r where
  overridden b hvalues := by
    have hconfiguration : s.configurationOf r =
        { s.configuration with disallowExemptions := b } := by
      rw [configurationOf, configurationFor_eq, overrideOf_eq_some.2 hvalues]
      rfl
    rw [answer_of_once asks loads unscanned (by simp [hvalues]), hconfiguration]
  ignored once hvalues := by
    have hnone : overrideOf (overrideValues r.query) = none :=
      Option.eq_none_iff_forall_ne_some.2 fun b => mt overrideOf_eq_some.1 (hvalues b)
    have hconfiguration : s.configurationOf r = s.configuration := by
      rw [configurationOf, configurationFor_eq, hnone]
      rfl
    rw [answer_of_once asks loads unscanned once, hconfiguration]
  refused twice := answer_of_repeated asks twice
  status := by
    constructor
    · intro hstatus
      by_contra twice
      rw [answer_of_repeated asks (Nat.lt_of_not_le twice)] at hstatus
      cases hstatus
    · intro once
      rw [answer_of_once asks loads unscanned once]
      rfl
  unrelated r' asks' h := by
    refine answer_congr asks asks' ?_
    rcases h with hvalues | ⟨q, hq, hquery | hquery⟩
    · exact hvalues
    · rw [hquery, overrideValues_append_cons, overrideValues_eq_nil hq, List.nil_append]
    · rw [hquery, overrideValues_append_cons, overrideValues_eq_nil hq, List.append_nil]
  shared r' other := s.fst_answer other _ _

/-- Escapes that are none, an empty name and a field without a value do no harm, and an escaped word
is the word. -/
theorem results_of_query_escaped :
    let whole : Snapshot := { deployments :=
      [⟨{ name := some "web" }, some { hostIPC := some true, containers := [] }⟩] }
    let s : Service := {
      configuration := {
        security := .insert .empty "hostIPCSet" .error
        exemptions := [{ controllerNames := ["web"], rules := ["hostIPCSet"] }] }
      source := .static whole }
    let ask : String → ServedRequest := fun query =>
      { method := "GET", path := "/results.json".toList, query := query.toList }
    let strict : Configuration := { s.configuration with disallowExemptions := true }
    let r := ask "x=%zz&&=&disallowExemptions=tr%75e&flag"
    let r' := ask "disallowExemptions=%FF"
    ((s.answer {} r).1 = .json (reportOf whole strict).toJson ∧
      (reportOf whole strict).cluster.score = 0) ∧
    (s.answer {} r').1 = .json (reportOf whole s.configuration).toJson ∧
      (reportOf whole s.configuration).cluster.score = 100 := by
  intro whole s ask strict r r'
  have hasks (query : String) : s.AsksForResults (ask query) := ⟨⟨[], rfl⟩, rfl⟩
  have hvalues : overrideValues r.query = [overrideWord true] := by decide
  have hvalues' : overrideValues r'.query = ["\ufffd"] := by decide
  refine ⟨⟨(results_of_query s whole {} r (hasks _) rfl rfl).overridden true hvalues, by decide⟩,
    (results_of_query s whole {} r' (hasks _) rfl rfl).ignored (by simp [hvalues']) ?_, by decide⟩
  rw [hvalues']
  decide

/-- **A field that changes nothing is refused when it is given twice.** -/
theorem exists_query_refused : ∃ (s : Service) (whole : Snapshot) (r : ServedRequest),
    s.AsksForResults r ∧ s.snapshot = .ok whole ∧ s.scanner = none ∧
      (∀ v ∈ overrideValues r.query, v ≠ "true" ∧ v ≠ "false") ∧
      ∀ m, (s.answer m r).1.status = 400 := by
  let s : Service := { configuration := {}, source := .static {} }
  let r : ServedRequest := {
    method := "GET"
    path := "/results.json".toList
    query := "disallowExemptions=yes&disallowExemptions=yes".toList }
  have hvalues : overrideValues r.query = ["yes", "yes"] := by decide
  have hasks : s.AsksForResults r := ⟨⟨[], by decide⟩, rfl⟩
  refine ⟨s, {}, r, hasks, rfl, rfl, by simp [hvalues], fun m => ?_⟩
  rw [answer_of_repeated hasks (by simp [hvalues])]
  rfl

end ClusterAudit.Service
