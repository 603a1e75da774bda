import ClusterAudit.Command.Run
import ClusterAudit.Proofs.FileTree
import ClusterAudit.Proofs.Service.Gathering

/-!
# How an audit ends

An audit from the command line takes five steps: it loads a configuration, finds the scanner, makes
the report, sends it and writes it. `ClusterAudit.Command.FailsAt` says for each of them when it is
the one that fails, and `ClusterAudit.Command.Completes` that none does, both in terms of what is
answered and of the files that there are. Every audit does exactly one of the two
(`ClusterAudit.Command.failsAt_or_completes`), and what is left of it can be read off
(`ClusterAudit.Command.runAudit_of_failsAt`, `ClusterAudit.Command.runAudit_of_completes`). This is
enough for all that `ClusterAudit.Command.Ending` states of the code, of what is printed and of the
files.

The code for errors looks at a counter of the report. That the counter is not zero exactly when a
check is an error is known from how reports are derived, as long as it does not overflow.
-/

namespace ClusterAudit

/-! ### The code of a report -/

namespace Report

variable {r : Report} {q : Requirement}

theorem exitCode_eq_exitHasErrors :
    r.exitCode q = exitHasErrors ↔ q.noErrors = true ∧ 0 < r.overallSummary.counts.errors := by
  rw [exitCode]
  by_cases herrors : q.noErrors && 0 < r.overallSummary.counts.errors
  · rw [if_pos herrors]
    simpa using herrors
  · rw [if_neg herrors]
    split
    · simpa [exitBelowScore, exitHasErrors] using herrors
    · simpa [exitFine, exitHasErrors] using herrors

theorem exitCode_mem (r : Report) (q : Requirement) :
    r.exitCode q = exitHasErrors ∨ r.exitCode q = exitBelowScore ∨ r.exitCode q = exitFine := by
  rw [exitCode]
  split
  · exact .inl rfl
  · split
    · exact .inr (.inl rfl)
    · exact .inr (.inr rfl)

theorem exitCode_eq_exitBelowScore :
    r.exitCode q = exitBelowScore ↔
      (∃ m, q.minScore = some m ∧ r.cluster.score < m) ∧ r.exitCode q ≠ exitHasErrors := by
  have hscore : (q.minScore.any fun m => r.cluster.score < m) = true ↔
      ∃ m, q.minScore = some m ∧ r.cluster.score < m := by
    simp [Option.any_eq_true]
  rw [← hscore, exitCode]
  by_cases herrors : q.noErrors && 0 < r.overallSummary.counts.errors
  · simp [herrors, exitHasErrors, exitBelowScore]
  · rw [if_neg herrors]
    split <;> simp_all [exitFine, exitHasErrors, exitBelowScore]

end Report

theorem AuditOptions.printsReport_iff {o : AuditOptions} :
    o.printsReport = true ↔ o.outputFile = none ∧ o.outputUrl = none := by
  simp [printsReport]

namespace Command

variable {env : Surroundings} {o : AuditOptions} {r : Report} {files : FileTree}

/-! ### The steps -/

/-- The steps of an audit. -/
inductive AuditStep where
  /-- Load the configuration. -/
  | loading
  /-- Find the scanner. -/
  | scanner
  /-- Make the report. -/
  | audit
  /-- Send the report. -/
  | upload
  /-- Write the report. -/
  | write

/-- The words for a step that failed. -/
def AuditStep.text (o : AuditOptions) : AuditStep → String
  | .loading => loadingStep
  | .scanner => scannerStep
  | .audit => "Audit failed"
  | .upload => "Failed to upload report to " ++ o.outputUrl.getD ""
  | .write => "Failed to write report to " ++ o.outputFile.getD ""

variable (env o)

/-- The configuration is loaded, and the options are applied to it. -/
def Loads (c : Configuration) : Prop :=
  ∃ loaded, Configuration.load env o.config = .ok loaded ∧ loaded.override o.overrides = c

/-- What an audit with a configuration and a scanner comes to. -/
def auditResult (c : Configuration) (scanner : Option Scanner) : Except AuditFault Report :=
  Audit.run c ((SnapshotSource.ofPath? o.auditPath).fetch env)
    (scanner.map (Lookup.ofScanner env.network))

/-- The configuration is loaded, its scanner is found, and the audit makes the report. -/
def Reports (r : Report) : Prop :=
  ∃ c scanner, Loads env o c ∧ c.scanner = .ok scanner ∧ auditResult env o c scanner = .ok r

/-- The report is sent if an address is given: the address is one, and the request with the rendered
text as its body is answered without failure. -/
def Sends (rendered : String) : Prop :=
  ∀ address, o.outputUrl = some address →
    ∃ url body, Url.parse address = .ok url ∧
      env.network.Brings
        { method := "POST", url, contentType := some o.format.contentType, body := rendered } body

/-- The report is written if a file is given: the rendered text with a newline. -/
def Writes (rendered : String) (files : FileTree) : Prop :=
  (o.outputFile = none → files = env.files) ∧
    ∀ path, o.outputFile = some path →
      env.files.write path (Utf8.encode (rendered ++ "\n").toList) = .ok files

/-- **No step fails**: there is a report, it is sent, and these are the files when it is written. -/
structure Completes (r : Report) (files : FileTree) : Prop where
  /-- The report is made. -/
  reports : Reports env o r
  /-- It is sent. -/
  sends : Sends env o (r.render o.format)
  /-- It is written. -/
  writes : Writes env o (r.render o.format) files

/-- **A step fails** after those before it have not. -/
inductive FailsAt : AuditStep → Prop
  /-- The configuration cannot be loaded. -/
  | loading {e : LoadingFault} (h : Configuration.load env o.config = .error e) : FailsAt .loading
  /-- The scanner has no address that it can have. -/
  | scanner {c : Configuration} {e : ScannerFault} (hloads : Loads env o c)
      (h : c.scanner = .error e) : FailsAt .scanner
  /-- The audit comes to no report. -/
  | audit {c : Configuration} {scanner : Option Scanner} {e : AuditFault} (hloads : Loads env o c)
      (hscanner : c.scanner = .ok scanner) (h : auditResult env o c scanner = .error e) :
      FailsAt .audit
  /-- The report cannot be sent. -/
  | upload {r : Report} (hreports : Reports env o r) (h : ¬Sends env o (r.render o.format)) :
      FailsAt .upload
  /-- The report cannot be written. -/
  | write {r : Report} (hreports : Reports env o r) (hsends : Sends env o (r.render o.format))
      (h : ∀ files, ¬Writes env o (r.render o.format) files) : FailsAt .write

variable {env o}

/-! ### What the steps come to -/

theorem prepare_eq_ok {c : Configuration} {scanner : Option Scanner} :
    prepare env o.config o.overrides = .ok (c, scanner) ↔
      Loads env o c ∧ c.scanner = .ok scanner := by
  rw [prepare, Loads]
  cases Configuration.load env o.config with
  | error e => simp
  | ok loaded =>
    simp only [Except.ok.injEq, exists_eq_left']
    cases hscanner : (loaded.override o.overrides).scanner with
    | error e =>
      simp only [reduceCtorEq, false_iff]
      rintro ⟨rfl, h⟩
      rw [hscanner] at h
      cases h
    | ok scanner' =>
      simp only [Except.ok.injEq, Prod.mk.injEq]
      constructor
      · rintro ⟨rfl, rfl⟩
        exact ⟨rfl, hscanner⟩
      · rintro ⟨rfl, h⟩
        exact ⟨rfl, Except.ok.inj (hscanner.symm.trans h)⟩

theorem auditReport_eq_ok : auditReport env o = .ok r ↔ Reports env o r := by
  simp only [Reports, ← and_assoc, ← prepare_eq_ok]
  rw [auditReport]
  cases prepare env o.config o.overrides with
  | error step => simp
  | ok prepared =>
    obtain ⟨c, scanner⟩ := prepared
    have hresult : auditResult env o c scanner =
        Audit.run c ((SnapshotSource.ofPath? o.auditPath).fetch env)
          (scanner.map (Lookup.ofScanner env.network)) := rfl
    simp only [← hresult, Except.ok.injEq, Prod.mk.injEq]
    constructor
    · intro h
      cases hrun : auditResult env o c scanner with
      | error e => simp [hrun] at h
      | ok r' => exact ⟨c, scanner, ⟨rfl, rfl⟩, hrun.trans (by simpa [hrun] using h)⟩
    · rintro ⟨_, _, ⟨rfl, rfl⟩, hrun⟩
      rw [hrun]

theorem Reports.unique {r' : Report} (h : Reports env o r) (h' : Reports env o r') : r = r' :=
  Except.ok.inj ((auditReport_eq_ok.2 h).symm.trans (auditReport_eq_ok.2 h'))

theorem upload_eq_ok {rendered : String} :
    upload env o rendered = .ok () ↔ Sends env o rendered := by
  rw [upload, Sends]
  cases o.outputUrl with
  | none => simp
  | some address =>
    simp only [Option.some.injEq, forall_eq']
    cases Url.parse address with
    | error e => simp
    | ok url =>
      simp only [Except.ok.injEq, exists_and_left, exists_eq_left']
      rw [← uploadRequest]
      simp only [← Network.send_eq_ok]
      cases env.network.send (uploadRequest url o.format rendered) <;> simp [Except.map]

theorem writeReport_eq_ok {rendered : String} :
    writeReport env o rendered = .ok files ↔ Writes env o rendered files := by
  rw [writeReport, Writes]
  cases o.outputFile <;> simp [eq_comm]

/-! ### Both ends -/

/-- **An audit fails at a step or completes.** -/
theorem failsAt_or_completes (env : Surroundings) (o : AuditOptions) :
    (∃ step, FailsAt env o step) ∨ ∃ r files, Completes env o r files := by
  by_cases hreports : ∃ r, Reports env o r
  · obtain ⟨r, hreports⟩ := hreports
    by_cases hsends : Sends env o (r.render o.format)
    · by_cases hwrites : ∃ files, Writes env o (r.render o.format) files
      · obtain ⟨files, hwrites⟩ := hwrites
        exact .inr ⟨r, files, hreports, hsends, hwrites⟩
      · exact .inl ⟨_, .write hreports hsends (not_exists.1 hwrites)⟩
    · exact .inl ⟨_, .upload hreports hsends⟩
  · left
    cases hload : Configuration.load env o.config with
    | error e => exact ⟨_, .loading hload⟩
    | ok loaded =>
      have hloads : Loads env o (loaded.override o.overrides) := ⟨loaded, hload, rfl⟩
      cases hscanner : (loaded.override o.overrides).scanner with
      | error e => exact ⟨_, .scanner hloads hscanner⟩
      | ok scanner =>
        cases hresult : auditResult env o (loaded.override o.overrides) scanner with
        | error e => exact ⟨_, .audit hloads hscanner hresult⟩
        | ok r => exact absurd ⟨r, _, scanner, hloads, hscanner, hresult⟩ hreports

theorem runAudit_of_completes (h : Completes env o r files) :
    runAudit env o = {
      code := r.exitCode o.requirement
      output := if o.printsReport then r.render o.format ++ "\n" else ""
      files } := by
  rw [runAudit, auditReport_eq_ok.2 h.reports]
  simp only [upload_eq_ok.2 h.sends, writeReport_eq_ok.2 h.writes]

/-- With a report, it is printed or not, whatever becomes of it. -/
theorem output_runAudit (h : Reports env o r) :
    (runAudit env o).output = if o.printsReport then r.render o.format ++ "\n" else "" := by
  rw [runAudit, auditReport_eq_ok.2 h]
  dsimp only
  split
  · rfl
  · split <;> rfl

/-- **A step that fails is the last**, and nothing has been written. -/
theorem runAudit_of_failsAt {step : AuditStep} (h : FailsAt env o step) :
    ∃ output, runAudit env o = .failed env.files output (step.text o) := by
  cases h with
  | loading h =>
    refine ⟨"", ?_⟩
    rw [runAudit, auditReport, prepare, h]
    rfl
  | scanner hloads h =>
    obtain ⟨loaded, hload, rfl⟩ := hloads
    refine ⟨"", ?_⟩
    rw [runAudit, auditReport, prepare, hload]
    simp only [h]
    rfl
  | audit hloads hscanner h =>
    refine ⟨"", ?_⟩
    rw [runAudit, auditReport, prepare_eq_ok.2 ⟨hloads, hscanner⟩]
    rw [auditResult] at h
    simp only [h]
    rfl
  | @upload r hreports h =>
    cases hupload : upload env o (r.render o.format) with
    | ok u => exact absurd (upload_eq_ok.1 hupload) h
    | error e =>
      refine ⟨if o.printsReport then r.render o.format ++ "\n" else "", ?_⟩
      rw [runAudit, auditReport_eq_ok.2 hreports]
      simp only [hupload]
      rfl
  | @write r hreports hsends h =>
    cases hwrite : writeReport env o (r.render o.format) with
    | ok files => exact absurd (writeReport_eq_ok.1 hwrite) (h files)
    | error e =>
      refine ⟨if o.printsReport then r.render o.format ++ "\n" else "", ?_⟩
      rw [runAudit, auditReport_eq_ok.2 hreports]
      simp only [upload_eq_ok.2 hsends, hwrite]
      rfl

/-- Without a report nothing is printed. -/
theorem output_runAudit_eq_empty (h : ¬∃ r, Reports env o r) : (runAudit env o).output = "" := by
  cases hreport : auditReport env o with
  | ok r => exact absurd ⟨r, auditReport_eq_ok.1 hreport⟩ h
  | error step =>
    rw [runAudit, hreport]
    rfl

/-! ### How an audit ends -/

variable (env o)

/-- **How an audit ends**, told from what is answered and from the files. -/
structure Ending (out : RunOutcome) : Prop where
  /-- The code is 1 exactly when a step fails. -/
  failed : out.code = 1 ↔ ∃ step, FailsAt env o step
  /-- The step that fails is named. -/
  fault : ∀ step, FailsAt env o step → out.fault = some (step.text o)
  /-- When none fails, all are done. -/
  completes : (¬∃ step, FailsAt env o step) ↔ ∃ r files, Completes env o r files
  /-- The code is 3 only when all steps are done, errors were to be told, and there is one. -/
  onlyErrors : out.code = 3 →
    ∃ r files, Completes env o r files ∧ o.requirement.noErrors = true ∧
      ∃ d ∈ r.checks, d.verdict = .error
  /-- It always is then, unless there are more checks than words of 32 bits can count. -/
  errors : (∀ r, Reports env o r → r.checks.length < 2 ^ 32) →
    (out.code = 3 ↔ ∃ r files, Completes env o r files ∧ o.requirement.noErrors = true ∧
      ∃ d ∈ r.checks, d.verdict = .error)
  /-- The code is 4 exactly when all steps are done, it is not 3, and the score is too low. -/
  belowScore : out.code = 4 ↔
    (∃ r files, Completes env o r files ∧
      ∃ m, o.requirement.minScore = some m ∧ r.cluster.score < m) ∧ out.code ≠ 3
  /-- In all other cases it is 0. -/
  fine : out.code = 0 ↔ out.code ≠ 1 ∧ out.code ≠ 3 ∧ out.code ≠ 4
  /-- The report is printed when it goes nowhere else. -/
  printed : ∀ r, Reports env o r → o.outputFile = none → o.outputUrl = none →
    out.output = r.render o.format ++ "\n"
  /-- Otherwise nothing is printed. -/
  silent : (¬∃ r, Reports env o r) ∨ o.outputFile ≠ none ∨ o.outputUrl ≠ none → out.output = ""
  /-- What is sent is the rendered text: sending fails unless this request is answered. -/
  uploaded : ∀ r address, Reports env o r → o.outputUrl = some address →
    (¬FailsAt env o .upload ↔ ∃ url body, Url.parse address = .ok url ∧
      env.network.Brings
        { method := "POST"
          url
          contentType := some o.format.contentType
          body := r.render o.format } body)
  /-- What stands in the file is the rendered text with a newline. -/
  written : ∀ r files path, Completes env o r files → o.outputFile = some path →
    out.files.at? path = .ok (.file (Utf8.encode (r.render o.format ++ "\n").toList))
  /-- When a step fails before it comes to writing, and in particular when the report cannot be
  sent, no file is written. -/
  untouched : ∀ step, FailsAt env o step → step ≠ .write → out.files = env.files

variable {env o}

theorem code_of_failsAt {step : AuditStep} (h : FailsAt env o step) :
    (runAudit env o).code = 1 := by
  obtain ⟨output, hfailed⟩ := runAudit_of_failsAt h
  rw [hfailed]
  rfl

theorem code_of_completes (h : Completes env o r files) :
    (runAudit env o).code = r.exitCode o.requirement := by
  rw [runAudit_of_completes h]

/-- **No audit does both.** -/
theorem Completes.not_failsAt (h : Completes env o r files) (step : AuditStep) :
    ¬FailsAt env o step := by
  intro hfails
  have hcode : r.exitCode o.requirement = 1 :=
    (code_of_completes h).symm.trans (code_of_failsAt hfails)
  rcases r.exitCode_mem o.requirement with hcode' | hcode' | hcode' <;>
    cases hcode'.symm.trans hcode

/-- A code other than 1 is the one of a report. -/
theorem code_eq_iff {n : Nat} (hn : n ≠ 1) :
    (runAudit env o).code = n ↔
      ∃ r files, Completes env o r files ∧ r.exitCode o.requirement = n := by
  constructor
  · intro h
    rcases failsAt_or_completes env o with ⟨step, hfails⟩ | ⟨r, files, hcompletes⟩
    · exact absurd (h.symm.trans (code_of_failsAt hfails)) hn
    · exact ⟨r, files, hcompletes, (code_of_completes hcompletes).symm.trans h⟩
  · rintro ⟨r, files, hcompletes, hcode⟩
    exact (code_of_completes hcompletes).trans hcode

theorem Reports.counts (h : Reports env o r) :
    r.overallSummary.counts = .ofVerdicts (r.checks.map Check.verdict) := by
  obtain ⟨c, scanner, -, -, hresult⟩ := h
  exact Audit.counts_of_run hresult

/-! ### What the code tells -/

theorem code_eq_one_iff : (runAudit env o).code = 1 ↔ ∃ step, FailsAt env o step := by
  constructor
  · intro h
    rcases failsAt_or_completes env o with hfails | ⟨r, files, hcompletes⟩
    · exact hfails
    · rw [code_of_completes hcompletes] at h
      rcases r.exitCode_mem o.requirement with hcode | hcode | hcode <;>
        cases hcode.symm.trans h
  · rintro ⟨step, hfails⟩
    exact code_of_failsAt hfails

theorem exists_error_of_code_eq_three (h : (runAudit env o).code = 3) :
    ∃ r files, Completes env o r files ∧ o.requirement.noErrors = true ∧
      ∃ d ∈ r.checks, d.verdict = .error := by
  obtain ⟨r, files, hcompletes, hcode⟩ := (code_eq_iff (by decide)).1 h
  obtain ⟨hasked, hpos⟩ := Report.exitCode_eq_exitHasErrors.1 hcode
  rw [hcompletes.reports.counts] at hpos
  exact ⟨r, files, hcompletes, hasked, Tally.exists_of_count_pos hpos⟩

theorem code_eq_three_iff (small : ∀ r, Reports env o r → r.checks.length < 2 ^ 32) :
    (runAudit env o).code = 3 ↔
      ∃ r files, Completes env o r files ∧ o.requirement.noErrors = true ∧
        ∃ d ∈ r.checks, d.verdict = .error := by
  refine ⟨exists_error_of_code_eq_three, ?_⟩
  rintro ⟨r, files, hcompletes, hasked, herror⟩
  have hsmall : r.checks.length < 2 ^ 32 := small r hcompletes.reports
  have hpos : 0 < r.overallSummary.counts.errors := by
    rw [hcompletes.reports.counts]
    exact Tally.count_pos_of_exists hsmall herror
  rw [code_of_completes hcompletes]
  exact Report.exitCode_eq_exitHasErrors.2 ⟨hasked, hpos⟩

theorem code_eq_four_iff :
    (runAudit env o).code = 4 ↔
      (∃ r files, Completes env o r files ∧
        ∃ m, o.requirement.minScore = some m ∧ r.cluster.score < m) ∧
      (runAudit env o).code ≠ 3 := by
  constructor
  · intro h
    obtain ⟨r, files, hcompletes, hcode⟩ := (code_eq_iff (by decide)).1 h
    obtain ⟨hscore, -⟩ := Report.exitCode_eq_exitBelowScore.1 hcode
    exact ⟨⟨r, files, hcompletes, hscore⟩, by rw [h]; decide⟩
  · rintro ⟨⟨r, files, hcompletes, hscore⟩, hother⟩
    rw [code_of_completes hcompletes] at hother ⊢
    exact Report.exitCode_eq_exitBelowScore.2 ⟨hscore, hother⟩

theorem code_eq_zero_iff :
    (runAudit env o).code = 0 ↔
      (runAudit env o).code ≠ 1 ∧ (runAudit env o).code ≠ 3 ∧ (runAudit env o).code ≠ 4 := by
  constructor
  · intro h
    simp [h]
  · rintro ⟨hone, hthree, hfour⟩
    rcases failsAt_or_completes env o with ⟨step, hfails⟩ | ⟨r, files, hcompletes⟩
    · exact absurd (code_of_failsAt hfails) hone
    · rw [code_of_completes hcompletes] at hthree hfour ⊢
      rcases r.exitCode_mem o.requirement with hcode | hcode | hcode
      · exact absurd hcode hthree
      · exact absurd hcode hfour
      · exact hcode

/-- **Every audit ends so**, whatever it is asked to do and whatever is answered. -/
theorem run_audit (env : Surroundings) (isFree : Nat → Bool) (o : AuditOptions) :
    ∃ out, run env isFree (.audit o) = .finished out ∧ Ending env o out := by
  refine ⟨runAudit env o, rfl, ?_⟩
  exact {
    failed := code_eq_one_iff
    fault := fun step h => by
      obtain ⟨output, hfailed⟩ := runAudit_of_failsAt h
      rw [hfailed]
      rfl
    completes := by
      constructor
      · exact (failsAt_or_completes env o).resolve_left
      · rintro ⟨r, files, h⟩ ⟨step, hfails⟩
        exact h.not_failsAt step hfails
    onlyErrors := exists_error_of_code_eq_three
    errors := code_eq_three_iff
    belowScore := code_eq_four_iff
    fine := code_eq_zero_iff
    printed := fun r h hfile hurl => by
      rw [output_runAudit h, AuditOptions.printsReport, hfile, hurl]
      rfl
    silent := fun h => by
      by_cases hreports : ∃ r, Reports env o r
      · obtain ⟨r, hr⟩ := hreports
        have hprints : o.printsReport ≠ true := by
          rw [Ne, AuditOptions.printsReport_iff]
          rintro ⟨hfile, hurl⟩
          rcases h with h | h | h
          · exact h ⟨r, hr⟩
          · exact h hfile
          · exact h hurl
        rw [output_runAudit hr, if_neg hprints]
      · exact output_runAudit_eq_empty hreports
    uploaded := fun r address h hurl => by
      constructor
      · intro hfine
        by_contra hnone
        exact hfine (.upload h fun hsends => hnone (hsends address hurl))
      · rintro hbrings (- | - | - | @⟨r', h', hnot⟩ | -)
        obtain rfl : r = r' := h.unique h'
        refine hnot fun address' hurl' => ?_
        obtain rfl : address = address' := Option.some.inj (hurl.symm.trans hurl')
        exact hbrings
    written := fun r files path h hfile => by
      rw [runAudit_of_completes h]
      exact FileTree.at?_of_write (h.writes.2 path hfile)
    untouched := fun step h _ => by
      obtain ⟨output, hfailed⟩ := runAudit_of_failsAt h
      rw [hfailed]
      rfl }

/-- The score of a cluster with nothing in it is written to a file, and it is less than what was
asked for. -/
theorem run_audit_score :
    let words := ["audit", "--audit-path", "manifests", "--output-file", "score.txt",
      "--output-format", "score", "--set-exit-code-below-score", "101"]
    let env : Surroundings := { files := .directory [("manifests", .directory [])] }
    ∃ out, runLine env (fun _ => true) words = .finished out ∧ out.code = 4 ∧ out.output = "" ∧
      ∃ r : Report, r.cluster.score < 101 ∧ out.files.at? "score.txt" =
        .ok (.file (Utf8.encode (Text.decimal r.cluster.score ++ "\n").toList)) := by
  intro words env
  let o : AuditOptions := {
    auditPath := some "manifests"
    format := .score
    outputFile := some "score.txt"
    requirement := { minScore := some 101 } }
  have hread : Invocation.read words = .ok { command := .audit o } := rfl
  obtain ⟨out, hrun, h⟩ := run_audit env (fun _ => true) o
  have hout : runAudit env o = out := Run.finished.inj hrun
  have hcode : out.code = 4 := by
    rw [← hout]
    decide +kernel
  obtain ⟨⟨r, files, hcompletes, m, hm, hscore⟩, -⟩ := h.belowScore.1 hcode
  obtain rfl : 101 = m := Option.some.inj hm
  refine ⟨out, ?_, hcode, h.silent (.inr (.inl (Option.some_ne_none _))), r, hscore,
    h.written r files _ hcompletes rfl⟩
  rw [runLine, hread]
  exact hrun

end Command

end ClusterAudit
