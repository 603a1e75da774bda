import ClusterAudit.Proofs.Report.Lookup
import ClusterAudit.Proofs.Service.Gathering
import Mathlib.Logic.Function.Basic

/-!
# Audits that wait

`ClusterAudit.Audit.run` takes what others answer as given. In fact an audit waits for it, and while
it waits several requests are under way at once: the nine lists of a cluster are asked for together,
and the request to scan images is sent off and left to itself.

A `ClusterAudit.Session` is an audit in progress, and `ClusterAudit.Service.receive` says what
becomes of it when something comes back. What comes back, and in which order, is up to others: a run
of a session is any list of arrivals that it takes one after the other. The invariant of a run
is that all that the session holds was answered by the network (`ClusterAudit.Service.Agrees`). From
it follow

* that a session which has ended has the report that `ClusterAudit.Audit.run` makes, or a fault if
  that has a fault (`ClusterAudit.Service.agrees_receiveAll`);
* that a session which has not ended can always go on, and not for ever
  (`ClusterAudit.Service.exists_ended`).

The list that fails first ends the session, so *which* fault it has does depend on the order.
Nothing at all depends on the request to scan: leaving out what comes back from it, or putting it
somewhere else, changes no stage of the session (`ClusterAudit.Service.stage_receiveAll`).
-/

namespace ClusterAudit

/-! ### Sessions -/

/-- What an audit waits for. -/
inductive Stage where
  /-- The version of a server. -/
  | version (server : Uri)
  /-- The lists of a server that are missing. Those that came are kept by kind. -/
  | lists (server : Uri) (version : String) (missing : List ObjectKind)
    (came : ObjectKind → List ClusterObject)
  /-- The summaries of the images of a snapshot. -/
  | summaries (view : Snapshot)
  /-- Nothing: it has ended with this result. -/
  | ended (result : Except AuditFault Report)

/-- What has become of the request to scan images. -/
inductive ScanProgress where
  /-- It was not sent. -/
  | unsent
  /-- It was sent, and nothing came back yet. -/
  | sent (r : Request)
  /-- This came back. -/
  | settled (outcome : Except ScannerFault Unit)

/-- An audit in progress. -/
structure Session where
  /-- What it waits for. -/
  stage : Stage
  /-- What has become of the request to scan, which it does not wait for. -/
  scan : ScanProgress := .unsent

/-- What comes back while an audit is in progress. -/
inductive Arrival where
  /-- The version of the server, or why there is none. -/
  | version (result : Except ApiFault String)
  /-- The list of a kind, or why there is none. -/
  | list (kind : ObjectKind) (result : Except ApiFault (List ClusterObject))
  /-- The summaries of these images, or why there are none. -/
  | summaries (images : List String) (result : Except ScannerFault (List ScanSummary))
  /-- The outcome of the request to scan. -/
  | scan (outcome : Except ScannerFault Unit)

/-- Whether an audit waits for something of this sort. -/
def Arrival.isAwaited : Arrival → Bool
  | .scan _ => false
  | _ => true

namespace Service

variable (s : Service) (c : Configuration)

/-- The server of the cluster. -/
def server? : Option Uri :=
  s.surroundings.kubeconfig.bind Kubeconfig.server?

/-- What the server of the cluster answers. -/
def ask (server : Uri) : String → Except ApiFault Reply :=
  ClusterSource.ask s.surroundings.network server ""

/-- How an audit goes on once it has a snapshot or cannot have one. If there are images to ask the
scanner for, both requests are sent, and only the one for summaries is waited for. -/
def afterFetch (fetched : Except SnapshotFault Snapshot) : Session :=
  match Audit.view c fetched with
  | .error e => { stage := .ended (.error e) }
  | .ok v =>
    match s.scanner with
    | none => { stage := .ended (.ok (Audit.report c v none)) }
    | some sc =>
      if v.images = [] then { stage := .ended (.ok (Audit.report c v (some .empty))) }
      else { stage := .summaries v, scan := .sent (sc.scanRequest v.images) }

/-- **How an audit begins.** Only the server of a cluster is waited for. -/
def opening : Session :=
  match s.source, s.server? with
  | .cluster, some server => { stage := .version server }
  | _, _ => s.afterFetch c s.snapshot

/-- How an audit goes on once the server has answered what its version is. With the version all
lists are asked for at once. -/
def afterVersion (server : Uri) : Except ApiFault String → Session
  | .error e => s.afterFetch c (.error (.api e))
  | .ok version => { stage := .lists server version ClusterSource.kinds fun _ => [] }

/-- How an audit goes on once the server has answered with a list that was missing. The first list
that cannot be had is the last one that is waited for, and so is the last one that is missing. -/
def afterList (server : Uri) (version : String) (missing : List ObjectKind)
    (came : ObjectKind → List ClusterObject) (kind : ObjectKind) :
    Except ApiFault (List ClusterObject) → Session
  | .error e => s.afterFetch c (.error (.api e))
  | .ok l =>
    if missing.erase kind = [] then
      s.afterFetch c (.ok (Snapshot.ofLists server.text version (Function.update came kind l)))
    else { stage := .lists server version (missing.erase kind) (Function.update came kind l) }

/-- How an audit ends once the scanner has answered. -/
def afterSummaries (v : Snapshot) (result : Except ScannerFault (List ScanSummary)) :
    Except AuditFault Report :=
  ((result.map ScanSummary.tableOf).mapError .scanner).map fun t => Audit.report c v (some t)

/-- **How an audit goes on when something comes back**, unless it is nothing that was asked for. -/
def receive (σ : Session) (a : Arrival) : Option Session :=
  match σ.stage, a with
  | .version server, .version result => some (s.afterVersion c server result)
  | .lists server version missing came, .list kind result =>
    if kind ∈ missing then some (s.afterList c server version missing came kind result) else none
  | .summaries v, .summaries images result =>
    if images = v.images then some { σ with stage := .ended (afterSummaries c v result) } else none
  | _, .scan outcome =>
    match σ.scan with
    | .sent _ => some { σ with scan := .settled outcome }
    | _ => none
  | _, _ => none

/-- What becomes of an audit when all this comes back, in this order. -/
def receiveAll (σ : Session) (l : List Arrival) : Option Session :=
  l.foldlM (s.receive c) σ

/-- What becomes of an audit from its beginning on. -/
def progress (l : List Arrival) : Option Session :=
  s.receiveAll c (s.opening c) l

/-- All that can come back, and what becomes of the audit then. -/
inductive Takes : Session → Arrival → Session → Prop
  /-- The version comes. -/
  | version {server : Uri} {result : Except ApiFault String} {scan : ScanProgress} :
    Takes ⟨.version server, scan⟩ (.version result) (s.afterVersion c server result)
  /-- One of the lists comes that are missing. -/
  | list {server : Uri} {version : String} {missing : List ObjectKind}
      {came : ObjectKind → List ClusterObject} {kind : ObjectKind}
      {result : Except ApiFault (List ClusterObject)} {scan : ScanProgress}
      (hkind : kind ∈ missing) :
    Takes ⟨.lists server version missing came, scan⟩ (.list kind result)
      (s.afterList c server version missing came kind result)
  /-- The summaries come. -/
  | summaries {v : Snapshot} {result : Except ScannerFault (List ScanSummary)}
      {scan : ScanProgress} :
    Takes ⟨.summaries v, scan⟩ (.summaries v.images result)
      ⟨.ended (afterSummaries c v result), scan⟩
  /-- The outcome of the request to scan comes. -/
  | scan {stage : Stage} {r : Request} {outcome : Except ScannerFault Unit} :
    Takes ⟨stage, .sent r⟩ (.scan outcome) ⟨stage, .settled outcome⟩

variable {s c} in
/-- **What comes back is taken** in four ways and in no other. -/
theorem receive_eq_some {σ τ : Session} {a : Arrival} :
    s.receive c σ a = some τ ↔ s.Takes c σ a τ := by
  obtain ⟨stage, scan⟩ := σ
  constructor
  · intro h
    cases a with
    | scan outcome =>
      cases scan with
      -- the outcome is taken whatever the session waits for
      | sent r => cases stage <;> cases h <;> exact .scan
      | _ => cases stage <;> cases h
    | version result =>
      cases stage with
      | version server => cases h; exact .version
      | _ => cases h
    | list kind result =>
      cases stage with
      | lists server version missing came =>
        obtain ⟨hkind, h⟩ := Option.ite_none_right_eq_some.1 h
        cases h
        exact .list hkind
      | _ => cases h
    | summaries images result =>
      cases stage with
      | summaries v =>
        have htaken : (if images = v.images then some _ else none) = some τ := h
        obtain ⟨himages, h⟩ := Option.ite_none_right_eq_some.1 htaken
        cases h
        exact himages ▸ .summaries
      | _ => cases h
  · intro h
    cases h with
    | version => rfl
    | list hkind => exact if_pos hkind
    | summaries => exact if_pos rfl
    | @scan stage => cases stage <;> rfl

/-- Something comes back from the network of the service: what was asked for is answered as the
network answers it. From the request to scan anything may come back. -/
def Brings : Arrival → Prop
  | .version result =>
    ∃ server, s.server? = some server ∧ result = ClusterSource.versionOf (s.ask server)
  | .list kind result =>
    ∃ server, s.server? = some server ∧ result = ClusterSource.objectsOf (s.ask server) kind
  | .summaries images result =>
    ∃ sc, s.scanner = some sc ∧ result = sc.results s.surroundings.network images
  | .scan _ => True

/-! ### What a session holds was answered -/

/-- A stage that agrees with what the network answers. -/
def AgreesAt : Stage → Prop
  | .version server => s.source = .cluster ∧ s.server? = some server
  | .lists server version missing came =>
    s.source = .cluster ∧ s.server? = some server ∧
      ClusterSource.versionOf (s.ask server) = .ok version ∧ missing ≠ [] ∧ missing.Nodup ∧
      ∀ kind, kind ∉ missing → ClusterSource.objectsOf (s.ask server) kind = .ok (came kind)
  | .summaries v =>
    Audit.view c s.snapshot = .ok v ∧ s.scanner.isSome ∧ v.images ≠ []
  | .ended result => ∀ r, result = .ok r ↔ Audit.run c s.snapshot s.lookup = .ok r

/-- **A session agrees with what the network answers**: so do its stage and the request to scan. -/
structure Agrees (σ : Session) : Prop where
  /-- All that the stage holds was answered. -/
  stage : s.AgreesAt c σ.stage
  /-- The request that was sent is the one that an audit sends without waiting. -/
  scan : ∀ r, σ.scan = .sent r →
    ∃ sc, s.scanner = some sc ∧ Audit.background c s.snapshot sc = some r

variable {s c} {σ τ : Session} {a : Arrival}

/-- As long as no request to scan was sent only the stage matters. -/
theorem agrees_of_agreesAt {stage : Stage} (h : s.AgreesAt c stage) : s.Agrees c { stage } :=
  ⟨h, fun _ hsent => by cases hsent⟩

theorem snapshot_of_cluster {server : Uri} (hsource : s.source = .cluster)
    (hserver : s.server? = some server) :
    s.snapshot = (Snapshot.ofServer (s.ask server) server.text).mapError .api := by
  rw [snapshot, hsource, SnapshotSource.fetch]
  rw [server?] at hserver
  simp only [hserver, ask]

/-- Of a fault only that there is one matters: which one the server of a cluster is found to have
depends on what comes back first. -/
theorem agrees_afterFetch_error (h : ∀ whole, s.snapshot ≠ .ok whole) (e : SnapshotFault) :
    s.Agrees c (s.afterFetch c (.error e)) := by
  refine agrees_of_agreesAt fun r => iff_of_false (fun hr => by cases hr) fun hr => ?_
  obtain ⟨v, scans, hgathers, -⟩ := run_eq_ok.1 hr
  obtain ⟨whole, hwhole, -⟩ := hgathers.fetched
  exact h whole hwhole

theorem agrees_afterFetch_ok {whole : Snapshot} (h : s.snapshot = .ok whole) :
    s.Agrees c (s.afterFetch c (.ok whole)) := by
  set v := whole.restrictTo c.namespacesToScan with hv
  have hview : Audit.view c (.ok whole) = .ok v := rfl
  cases hscanner : s.scanner with
  | none =>
    have hrun : Audit.run c s.snapshot s.lookup = .ok (Audit.report c v none) := by
      rw [h, lookup, hscanner]
      rfl
    simp only [afterFetch, hview, hscanner]
    exact agrees_of_agreesAt fun r => by rw [hrun]
  | some sc =>
    by_cases himages : v.images = []
    · have hrun : Audit.run c s.snapshot s.lookup = .ok (Audit.report c v (some .empty)) := by
        rw [h, lookup_eq_some hscanner, Audit.run_ok, ← hv, himages]
        rfl
      simp only [afterFetch, hview, hscanner, himages, if_true]
      exact agrees_of_agreesAt fun r => by rw [hrun]
    · simp only [afterFetch, hview, hscanner, himages, if_false]
      refine ⟨⟨h ▸ hview, by rw [hscanner]; rfl, himages⟩, fun r hsent => ⟨sc, hscanner, ?_⟩⟩
      cases hsent
      rw [Audit.background, h, hview]
      exact if_neg (by simpa using himages)

/-- **The beginning of an audit agrees** with what the network answers. -/
theorem agrees_opening : s.Agrees c (s.opening c) := by
  rw [opening]
  split
  next server hsource hserver => exact agrees_of_agreesAt ⟨hsource, hserver⟩
  next =>
    cases hsnapshot : s.snapshot with
    | error e =>
      exact agrees_afterFetch_error (fun whole hok => by rw [hsnapshot] at hok; cases hok) e
    | ok whole => exact agrees_afterFetch_ok hsnapshot

/-- A snapshot of a cluster has the version and the lists that its server gives. -/
theorem exists_of_snapshot_eq_ok {server : Uri} (hsource : s.source = .cluster)
    (hserver : s.server? = some server) {whole : Snapshot} (h : s.snapshot = .ok whole) :
    ∃ (version : String) (lists : ObjectKind → List ClusterObject),
      ClusterSource.versionOf (s.ask server) = .ok version ∧
      ∀ kind, ClusterSource.objectsOf (s.ask server) kind = .ok (lists kind) := by
  rw [snapshot_of_cluster hsource hserver, mapError_eq_ok] at h
  obtain ⟨version, lists, hversion, hlists, -⟩ := Snapshot.ofServer_eq_ok_iff_ofLists.1 h
  exact ⟨version, lists, hversion, hlists⟩

/-- What the network says about the server of the cluster is said about the one that the session
asks. -/
theorem eq_of_server? {server server' : Uri} (h : s.server? = some server)
    (h' : s.server? = some server') : server = server' :=
  Option.some.inj (h.symm.trans h')

theorem agrees_afterVersion {server : Uri} (hsource : s.source = .cluster)
    (hserver : s.server? = some server) :
    s.Agrees c (s.afterVersion c server (ClusterSource.versionOf (s.ask server))) := by
  cases hversion : ClusterSource.versionOf (s.ask server) with
  | error e =>
    refine agrees_afterFetch_error (fun whole hwhole => ?_) _
    obtain ⟨version, -, hok, -⟩ := exists_of_snapshot_eq_ok hsource hserver hwhole
    rw [hversion] at hok
    cases hok
  | ok version =>
    exact agrees_of_agreesAt ⟨hsource, hserver, hversion, by decide, by decide,
      fun kind hkind => absurd (ClusterSource.mem_kinds kind) hkind⟩

theorem agrees_afterList {server : Uri} {version : String} {missing : List ObjectKind}
    {came : ObjectKind → List ClusterObject}
    (h : s.AgreesAt c (.lists server version missing came)) (kind : ObjectKind) :
    s.Agrees c (s.afterList c server version missing came kind
      (ClusterSource.objectsOf (s.ask server) kind)) := by
  obtain ⟨hsource, hserver, hversion, -, hnodup, hcame⟩ := h
  cases hlist : ClusterSource.objectsOf (s.ask server) kind with
  | error e =>
    refine agrees_afterFetch_error (fun whole hwhole => ?_) _
    obtain ⟨-, lists, -, hok⟩ := exists_of_snapshot_eq_ok hsource hserver hwhole
    rw [hok kind] at hlist
    cases hlist
  | ok l =>
    have hcame' : ∀ k, k ∉ missing.erase kind →
        ClusterSource.objectsOf (s.ask server) k = .ok (Function.update came kind l k) := by
      intro k hk
      -- the kind that came now is no longer missing, and of the others nothing changed
      by_cases heq : k = kind
      · rw [heq, Function.update_self, hlist]
      · rw [Function.update_of_ne heq]
        exact hcame k fun hmem => hk ((hnodup.mem_erase_iff).2 ⟨heq, hmem⟩)
    by_cases hlast : missing.erase kind = []
    · rw [afterList, if_pos hlast]
      -- the order in which the lists came is forgotten here
      have hwhole : Snapshot.ofServer (s.ask server) server.text =
          .ok (Snapshot.ofLists server.text version (Function.update came kind l)) :=
        Snapshot.ofServer_eq_ok_iff_ofLists.2
          ⟨version, _, hversion, fun k => hcame' k (hlast ▸ List.not_mem_nil), rfl⟩
      exact agrees_afterFetch_ok (by rw [snapshot_of_cluster hsource hserver, hwhole]; rfl)
    · rw [afterList, if_neg hlast]
      exact agrees_of_agreesAt
        ⟨hsource, hserver, hversion, hlast, hnodup.erase kind, hcame'⟩

theorem agreesAt_afterSummaries {sc : Scanner} (hscanner : s.scanner = some sc) {v : Snapshot}
    (h : s.AgreesAt c (.summaries v)) :
    s.AgreesAt c (.ended (afterSummaries c v (sc.results s.surroundings.network v.images))) := by
  obtain ⟨hview, -, himages⟩ := h
  obtain ⟨whole, hwhole, rfl⟩ := view_eq_ok.1 hview
  intro r
  have hasked : (whole.restrictTo c.namespacesToScan).images.isEmpty ≠ true := by
    simpa using himages
  rw [hwhole, lookup_eq_some hscanner, Audit.run_ok, Lookup.ofScanner, if_neg hasked,
    afterSummaries]

/-- **Whatever the network brings, a session that agreed with it agrees with it again.** -/
theorem agrees_receive (hσ : s.Agrees c σ) (ha : s.Brings a) (h : s.receive c σ a = some τ) :
    s.Agrees c τ := by
  cases receive_eq_some.1 h with
  | version =>
    obtain ⟨hsource, hserver⟩ := hσ.stage
    obtain ⟨server', hserver', rfl⟩ := ha
    rw [← eq_of_server? hserver hserver']
    exact agrees_afterVersion hsource hserver
  | @list _ _ _ _ kind _ _ hkind =>
    obtain ⟨server', hserver', rfl⟩ := ha
    rw [← eq_of_server? hσ.stage.2.1 hserver']
    exact agrees_afterList hσ.stage kind
  | summaries =>
    obtain ⟨sc, hsc, rfl⟩ := ha
    exact ⟨agreesAt_afterSummaries hsc hσ.stage, hσ.scan⟩
  | scan => exact ⟨hσ.stage, fun _ hsent => by cases hsent⟩

theorem receiveAll_cons {l : List Arrival} :
    s.receiveAll c σ (a :: l) = (s.receive c σ a).bind fun ρ => s.receiveAll c ρ l := by
  rw [receiveAll, List.foldlM_cons]
  rfl

theorem receiveAll_append {l l' : List Arrival} :
    s.receiveAll c σ (l ++ l') = (s.receiveAll c σ l).bind fun ρ => s.receiveAll c ρ l' := by
  rw [receiveAll, List.foldlM_append]
  rfl

/-- **All along a run a session agrees with what the network answers.** -/
theorem agrees_receiveAll {l : List Arrival} (hl : ∀ a ∈ l, s.Brings a)
    (h : s.progress c l = some τ) : s.Agrees c τ := by
  -- the run goes on from any session that agrees, so the beginning has to be forgotten first
  suffices hrun : ∀ σ, s.Agrees c σ → s.receiveAll c σ l = some τ → s.Agrees c τ from
    hrun _ agrees_opening h
  clear h
  induction l with
  | nil =>
    intro σ hσ h
    exact Option.some.inj h ▸ hσ
  | cons a l ih =>
    intro σ hσ h
    rw [receiveAll_cons] at h
    obtain ⟨ρ, ha, h⟩ := Option.bind_eq_some_iff.1 h
    have hρ := agrees_receive hσ (hl a List.mem_cons_self) ha
    exact ih (fun b hb => hl b (List.mem_cons_of_mem _ hb)) ρ hρ h

/-! ### Sessions come to an end -/

end Service

/-- How many answers an audit waits for at most. -/
def Stage.waiting : Stage → Nat
  | .version _ => ClusterSource.kinds.length + 2
  | .lists _ _ missing _ => missing.length + 1
  | .summaries _ => 1
  | .ended _ => 0

namespace Service

variable {s : Service} {c : Configuration} {σ τ : Session} {a : Arrival}

theorem waiting_afterFetch (fetched : Except SnapshotFault Snapshot) :
    (s.afterFetch c fetched).stage.waiting ≤ 1 := by
  rw [afterFetch]
  split
  · exact Nat.zero_le 1
  · split
    · exact Nat.zero_le 1
    · split
      · exact Nat.zero_le 1
      · exact Nat.le_refl 1

/-- What an audit waits for gets less when something of it comes. -/
theorem waiting_receive (ha : a.isAwaited = true) (h : s.receive c σ a = some τ) :
    τ.stage.waiting < σ.stage.waiting := by
  cases receive_eq_some.1 h with
  | @version server result =>
    have hmany : 1 < ClusterSource.kinds.length + 2 := by decide
    cases result with
    | error e => exact Nat.lt_of_le_of_lt (waiting_afterFetch _) hmany
    | ok version => exact Nat.lt_succ_self _
  | @list server version missing came kind result scan hkind =>
    have hmany : 1 < (Stage.lists server version missing came).waiting :=
      Nat.succ_lt_succ (List.length_pos_of_mem hkind)
    cases result with
    | error e => exact Nat.lt_of_le_of_lt (waiting_afterFetch _) hmany
    | ok l =>
      rw [afterList]
      split
      · exact Nat.lt_of_le_of_lt (waiting_afterFetch _) hmany
      · have hlength : (missing.erase kind).length < missing.length := by
          rw [List.length_erase_of_mem hkind]
          exact Nat.sub_lt (List.length_pos_of_mem hkind) Nat.one_pos
        exact Nat.succ_lt_succ hlength
  | summaries => exact Nat.one_pos
  | scan => cases ha

/-- **A session that has not ended can take something that the network brings.** -/
theorem exists_receive (hσ : s.Agrees c σ) (hopen : ∀ result, σ.stage ≠ .ended result) :
    ∃ a τ, s.Brings a ∧ a.isAwaited = true ∧ s.receive c σ a = some τ := by
  obtain ⟨stage, scan⟩ := σ
  cases stage with
  | version server =>
    exact ⟨.version _, _, ⟨server, hσ.stage.2, rfl⟩, rfl, receive_eq_some.2 .version⟩
  | lists server version missing came =>
    obtain ⟨-, hserver, -, hmissing, -⟩ := hσ.stage
    obtain ⟨kind, hkind⟩ := List.exists_mem_of_ne_nil missing hmissing
    exact ⟨.list kind _, _, ⟨server, hserver, rfl⟩, rfl, receive_eq_some.2 (.list hkind)⟩
  | summaries v =>
    obtain ⟨sc, hscanner⟩ := Option.isSome_iff_exists.1 hσ.stage.2.1
    exact ⟨.summaries v.images _, _, ⟨sc, hscanner, rfl⟩, rfl, receive_eq_some.2 .summaries⟩
  | ended result => exact absurd rfl (hopen result)

/-- **Every session can go on until it ends**, also if nothing comes back from the request to
scan. -/
theorem exists_ended (hσ : s.Agrees c σ) :
    ∃ l τ result, (∀ a ∈ l, s.Brings a ∧ a.isAwaited = true) ∧ s.receiveAll c σ l = some τ ∧
      τ.stage = .ended result := by
  -- by induction on what is still waited for, which every answer makes less
  induction hn : σ.stage.waiting using Nat.strongRecOn generalizing σ with
  | _ n ih =>
    by_cases hended : ∃ result, σ.stage = .ended result
    · obtain ⟨result, hresult⟩ := hended
      exact ⟨[], σ, result, List.forall_mem_nil _, rfl, hresult⟩
    · obtain ⟨a, ρ, hbrings, hawaited, ha⟩ :=
        exists_receive hσ fun result hresult => hended ⟨result, hresult⟩
      have hless : ρ.stage.waiting < n := hn ▸ waiting_receive hawaited ha
      obtain ⟨l, τ, result, hl, hrun, hresult⟩ :=
        ih _ hless (agrees_receive hσ hbrings ha) rfl
      refine ⟨a :: l, τ, result, List.forall_mem_cons.2 ⟨⟨hbrings, hawaited⟩, hl⟩, ?_, hresult⟩
      rw [receiveAll_cons, ha]
      exact hrun

/-! ### Nothing depends on the request to scan -/

theorem stage_receive_scan {outcome : Except ScannerFault Unit}
    (h : s.receive c σ (.scan outcome) = some τ) : τ.stage = σ.stage := by
  cases receive_eq_some.1 h
  rfl

/-- What a session waits for decides alone what becomes of it when something of that comes. -/
theorem exists_receive_of_stage_eq {σ' : Session} (hstage : σ.stage = σ'.stage)
    (ha : a.isAwaited = true) (h : s.receive c σ a = some τ) :
    ∃ τ', s.receive c σ' a = some τ' ∧ τ.stage = τ'.stage := by
  obtain ⟨stage, scan'⟩ := σ'
  cases receive_eq_some.1 h with
  | version => cases hstage; exact ⟨_, receive_eq_some.2 .version, rfl⟩
  | list hkind => cases hstage; exact ⟨_, receive_eq_some.2 (.list hkind), rfl⟩
  | summaries => cases hstage; exact ⟨_, receive_eq_some.2 .summaries, rfl⟩
  | scan => cases ha

/-- **Leaving out what comes back from the request to scan changes no stage** of a session. -/
theorem stage_receiveAll {l : List Arrival} {σ' : Session} (hstage : σ.stage = σ'.stage)
    (h : s.receiveAll c σ l = some τ) :
    ∃ τ', s.receiveAll c σ' (l.filter Arrival.isAwaited) = some τ' ∧ τ.stage = τ'.stage := by
  induction l generalizing σ σ' with
  | nil => exact ⟨σ', rfl, Option.some.inj h ▸ hstage⟩
  | cons a l ih =>
    rw [receiveAll_cons] at h
    obtain ⟨ρ, ha, hrest⟩ := Option.bind_eq_some_iff.1 h
    cases hawaited : a.isAwaited with
    | true =>
      -- both runs take the next arrival, and again they wait for the same
      obtain ⟨ρ', ha', hρ⟩ := exists_receive_of_stage_eq hstage hawaited ha
      obtain ⟨τ', hl, hτ⟩ := ih hρ hrest
      refine ⟨τ', ?_, hτ⟩
      rw [List.filter_cons_of_pos hawaited, receiveAll_cons, ha']
      exact hl
    | false =>
      cases a with
      | scan outcome =>
        -- one run takes the outcome and the other one stays where it is
        obtain ⟨τ', hl, hτ⟩ := ih ((stage_receive_scan ha).trans hstage) hrest
        exact ⟨τ', hl, hτ⟩
      | _ => cases hawaited

end Service

end ClusterAudit
