import ClusterAudit.Proofs.Command.Audit
import ClusterAudit.Proofs.Configuration.Faults
import ClusterAudit.Proofs.Url.Opaque

/-!
# Configurations that load but cannot be run

The address of the scanner is looked at twice. To be loaded, a configuration has to give an address;
to be run, it has to give one that other addresses can be put below. What lies between the two are
the opaque addresses (`ClusterAudit.Url.IsOpaque`): a configuration with one of these is accepted
and shown as every other, and it stops each audit and each service that is begun with it, whatever
their options are. No other accepted configuration does
(`ClusterAudit.Command.run_of_loaded`).

One way to write such a configuration is to leave out the scheme in front of a host with its port.
-/

namespace ClusterAudit

/-! ### The scanner at an address -/

namespace Scanner

theorem ofUrl?_of_isOpaque {text : String} (h : Url.IsOpaque text) :
    ofUrl? text = .error (.notABase text) := by
  obtain ⟨u, hparse, hnone⟩ := Url.parse_eq_ok_opaque.2 h
  rw [ofUrl?, hparse]
  simp [hnone]

theorem ofUrl?_of_not_isOpaque {text : String} {u : Url} (hparse : Url.parse text = .ok u)
    (h : ¬Url.IsOpaque text) : ∃ s, ofUrl? text = .ok s := by
  have hsegments : u.hasSegments = true := by
    by_contra hnone
    exact h (Url.parse_eq_ok_opaque.1 ⟨u, hparse, Bool.eq_false_iff.2 hnone⟩)
  refine ⟨⟨u, hsegments⟩, ?_⟩
  rw [ofUrl?, hparse]
  simp [hsegments]

end Scanner

namespace Configuration

variable {c : Configuration}

/-! ### What is loaded is accepted -/

theorem validate_of_read {text : String} (h : read text = .ok c) : c.validate = .ok () := by
  rw [read] at h
  split at h
  · cases h
  · split at h
    · cases h
    next hfault =>
      cases h
      rw [validate, hfault]

/-- **What is loaded is accepted**, be it read from a text or the recommended configuration. -/
theorem validate_of_load {env : Surroundings} {location : Option String}
    (h : load env location = .ok c) : c.validate = .ok () := by
  rw [load] at h
  split at h
  · cases h
    decide +kernel
  · split at h
    · cases h
    next text htext =>
      cases hread : read text with
      | error f =>
        rw [hread] at h
        cases h
      | ok c' =>
        rw [hread] at h
        cases h
        exact validate_of_read hread

/-! ### The scanner of a configuration -/

/-- **A configuration puts its scanner at an opaque address.** -/
def HasOpaqueScanner (c : Configuration) : Prop :=
  ∃ url ∈ c.scannerUrl, Url.IsOpaque url

instance (c : Configuration) : Decidable c.HasOpaqueScanner :=
  inferInstanceAs (Decidable (∃ url ∈ c.scannerUrl, Url.IsOpaque url))

theorem scanner_of_isOpaque {url : String} (hurl : c.scannerUrl = some url)
    (h : Url.IsOpaque url) : c.scanner = .error (.notABase url) := by
  rw [scanner, hurl]
  simp only [Scanner.ofUrl?_of_isOpaque h]
  rfl

/-- What nothing is wrong with has a scanner or does without one, unless the address is opaque. -/
theorem IsSound.exists_scanner (hsound : c.IsSound) (h : ¬c.HasOpaqueScanner) :
    ∃ s, c.scanner = .ok s := by
  rw [Configuration.scanner]
  cases hurl : c.scannerUrl with
  | none => exact ⟨none, rfl⟩
  | some url =>
    obtain ⟨address, hparse⟩ := hsound.scanner url hurl
    obtain ⟨s, hs⟩ := Scanner.ofUrl?_of_not_isOpaque hparse fun hopaque => h ⟨url, hurl, hopaque⟩
    exact ⟨some s, by simp only [hs]; rfl⟩

theorem IsSound.scanner_eq_error (hsound : c.IsSound) {f : ScannerFault} :
    c.scanner = .error f ↔
      ∃ url, c.scannerUrl = some url ∧ Url.IsOpaque url ∧ f = .notABase url := by
  constructor
  · intro hfault
    by_cases h : c.HasOpaqueScanner
    · obtain ⟨url, hurl, hopaque⟩ := h
      rw [scanner_of_isOpaque hurl hopaque] at hfault
      exact ⟨url, hurl, hopaque, (Except.error.inj hfault).symm⟩
    · obtain ⟨s, hs⟩ := hsound.exists_scanner h
      rw [hs] at hfault
      cases hfault
  · rintro ⟨url, hurl, hopaque, rfl⟩
    exact scanner_of_isOpaque hurl hopaque

end Configuration

/-! ### Runs -/

namespace Command

variable {c : Configuration} {env : Surroundings} {location : Option String}

/-- No option can change the scanner, so all of them fail together. -/
theorem prepare_of_hasOpaqueScanner (hload : Configuration.load env location = .ok c)
    (h : c.HasOpaqueScanner) (o : Configuration.Overrides) :
    prepare env location o = .error scannerStep := by
  obtain ⟨url, hurl, hopaque⟩ := h
  have hscanner : (c.override o).scanner = .error (.notABase url) :=
    Configuration.scanner_of_isOpaque hurl hopaque
  rw [prepare, hload]
  simp only [hscanner]

/-- **Every configuration that loads can be run, but for those whose scanner has an opaque
address.** An accepted configuration has its scanner, or does without one, unless its address is
opaque, and then that is the fault. What is loaded is accepted, and it is shown whatever its scanner
is; but where the address is opaque, an audit ends with the step of finding the scanner, and so does
a service, whatever their options are, and where it is not this step is done. -/
theorem run_of_loaded (c : Configuration) :
    (c.validate = .ok () →
      (∀ f, c.scanner = .error f ↔
        ∃ url, c.scannerUrl = some url ∧ Url.IsOpaque url ∧ f = .notABase url) ∧
      ((∃ s, c.scanner = .ok s) ↔ ¬c.HasOpaqueScanner)) ∧
    ∀ env isFree location, Configuration.load env location = .ok c →
      c.validate = .ok () ∧
      run env isFree (.configShow location) = .finished (.printed env.files c.render) ∧
      (c.HasOpaqueScanner →
        (∀ o : AuditOptions, o.config = location →
          run env isFree (.audit o) = .finished (.failed env.files "" scannerStep)) ∧
        ∀ o : ServeOptions, o.config = location →
          run env isFree (.serve o) = .finished (.failed env.files "" scannerStep)) ∧
      (¬c.HasOpaqueScanner →
        ∃ s, c.scanner = .ok s ∧ ∀ o, prepare env location o = .ok (c.override o, s)) := by
  refine ⟨fun accepted => ?_, fun env isFree location hload => ?_⟩
  · have hsound := Configuration.validate_eq_ok.1 accepted
    refine ⟨fun f => hsound.scanner_eq_error, ?_, hsound.exists_scanner⟩
    rintro ⟨s, hs⟩ ⟨url, hurl, hopaque⟩
    rw [Configuration.scanner_of_isOpaque hurl hopaque] at hs
    cases hs
  · have accepted := Configuration.validate_of_load hload
    refine ⟨accepted, ?_, fun h => ⟨?_, ?_⟩, fun h => ?_⟩
    · rw [run, showConfiguration, hload]
    · rintro o rfl
      rw [run, runAudit, auditReport, prepare_of_hasOpaqueScanner hload h]
    · rintro o rfl
      rw [run, serveAudits, prepare_of_hasOpaqueScanner hload h]
    · obtain ⟨s, hs⟩ := (Configuration.validate_eq_ok.1 accepted).exists_scanner h
      refine ⟨s, hs, fun o => ?_⟩
      have hscanner : (c.override o).scanner = .ok s := hs
      rw [prepare, hload]
      simp only [hscanner]

/-- A host and a port, with a scheme in front of them and without. -/
theorem run_of_loaded_host :
    let c : Configuration := { scannerUrl := some "http://[::1]:8081" }
    let c' : Configuration := { scannerUrl := some "scanner:8081" }
    c.validate = .ok () ∧ (∃ s, c.scanner = .ok s) ∧
    c'.validate = .ok () ∧ c'.scanner = .error (.notABase "scanner:8081") := by
  intro c c'
  have hvalid : c.validate = .ok () := by decide +kernel
  have hvalid' : c'.validate = .ok () := by decide +kernel
  have hpath : ¬c.HasOpaqueScanner := by decide +kernel
  have hopaque : Url.IsOpaque "scanner:8081" := by decide +kernel
  obtain ⟨-, hfound⟩ := (run_of_loaded c).1 hvalid
  obtain ⟨hfault, -⟩ := (run_of_loaded c').1 hvalid'
  exact ⟨hvalid, hfound.2 hpath, hvalid', (hfault _).2 ⟨"scanner:8081", rfl, hopaque, rfl⟩⟩

set_option maxRecDepth 4000 in
/-- **A configuration that loads and cannot be run.** It is shown, and its audit fails. -/
theorem exists_loaded_not_run :
    let env : Surroundings := {
      files := .directory [("config.yaml",
        .file (Utf8.encode "scanner:\n  url: scanner:8081\n".toList))] }
    let location := some "config.yaml"
    ∃ c, Configuration.load env location = .ok c ∧ c.validate = .ok () ∧
      (¬∃ s, c.scanner = .ok s) ∧
      run env (fun _ => true) (.configShow location) = .finished (.printed env.files c.render) ∧
      run env (fun _ => true) (.audit { config := location }) =
        .finished (.failed env.files "" scannerStep) := by
  intro env location
  have hread : (Configuration.load env location).toOption.any
      (fun c => c.scannerUrl == some "scanner:8081") = true := by decide +kernel
  cases hload : Configuration.load env location with
  | error e =>
    rw [hload] at hread
    cases hread
  | ok c =>
    rw [hload] at hread
    have hurl : c.scannerUrl = some "scanner:8081" := eq_of_beq hread
    have hopaque : Url.IsOpaque "scanner:8081" := by decide +kernel
    refine ⟨c, rfl, Configuration.validate_of_load hload, ?_, ?_, ?_⟩
    · rintro ⟨s, hs⟩
      rw [Configuration.scanner_of_isOpaque hurl hopaque] at hs
      cases hs
    · rw [run, showConfiguration, hload]
    · rw [run, runAudit, auditReport, prepare_of_hasOpaqueScanner hload ⟨_, hurl, hopaque⟩]

end Command

end ClusterAudit
