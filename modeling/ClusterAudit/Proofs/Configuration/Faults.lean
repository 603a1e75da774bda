import ClusterAudit.Configuration.Validation
import ClusterAudit.Proofs.Configuration.Active
import ClusterAudit.Proofs.Text.Bytes

/-!
# What is wrong with a configuration

Validation reports the first thing that is wrong and is silent about the rest. This file names
everything that is wrong, so that it can be said which of it comes first.

* `ClusterAudit.Configuration.HasFault` says of a single fault when a configuration has it, whatever
  else is wrong with it; a configuration without any is sound
  (`ClusterAudit.Configuration.isSound_iff`).
* `ClusterAudit.Configuration.faults` lists all faults that a configuration has, in the order in
  which they are looked for: group after group and in a table by the names of the rules, then the
  exemptions by number, and of each that it has no rules, that it has no targets, and the rules that
  do not exist, and last the address of the scanner.

Validation stops at the head of this list (`ClusterAudit.Configuration.fault?_eq_head?`), and so it
accepts what is sound and nothing else. What it accepts is what an audit can follow to the letter:
no entry of a table is lost on the way to the active rules, because there is a rule for every one.
-/

namespace ClusterAudit

/-! ### Sound configurations -/

/-- An exemption is for rules that exist, and not for everything. -/
structure Exemption.IsSound (e : Exemption) : Prop where
  /-- There are rules that do not count. -/
  rules : e.rules ≠ []
  /-- It is for certain controllers or for certain containers. -/
  targets : e.controllerNames ≠ [] ∨ e.containerNames ≠ []
  /-- The rules exist. -/
  names : ∀ id ∈ e.rules, Rule.IsName id

namespace Configuration

/-- **Nothing is wrong with a configuration.** -/
structure IsSound (c : Configuration) : Prop where
  /-- The tables name rules of their own groups. -/
  tables : ∀ g, ∀ id ∈ (c.rules g).keys, g.Has id
  /-- The exemptions are sound. -/
  exemptions : ∀ e ∈ c.exemptions, e.IsSound
  /-- The address of the scanner is one. -/
  scanner : ∀ url ∈ c.scannerUrl, ∃ address, Url.parse url = .ok address

/-- **A configuration has a fault**, whatever else is wrong with it. -/
inductive HasFault (c : Configuration) : ConfigurationFault → Prop where
  /-- A table names a rule that its group does not have. -/
  | unknownRule {g : RuleGroup} {id : String} (key : id ∈ (c.rules g).keys) (unknown : ¬g.Has id) :
    HasFault c (.unknownRule g id)
  /-- An exemption lists no rules. -/
  | exemptionWithoutRules {index : Nat} {e : Exemption} (numbered : c.exemptions[index]? = some e)
    (rules : e.rules = []) : HasFault c (.exemptionWithoutRules index)
  /-- An exemption is for everything. -/
  | exemptionWithoutTargets {index : Nat} {e : Exemption} (numbered : c.exemptions[index]? = some e)
    (controllers : e.controllerNames = []) (containers : e.containerNames = []) :
    HasFault c (.exemptionWithoutTargets index)
  /-- An exemption names a rule that does not exist. -/
  | unknownExemptionRule {index : Nat} {e : Exemption} {id : String}
    (numbered : c.exemptions[index]? = some e) (listed : id ∈ e.rules) (unknown : ¬Rule.IsName id) :
    HasFault c (.unknownExemptionRule index id)
  /-- The address of the scanner is none. -/
  | invalidScannerUrl {url : String} {cause : Url.Fault} (configured : c.scannerUrl = some url)
    (refused : Url.parse url = .error cause) : HasFault c (.invalidScannerUrl url cause)

/-! ### All faults in their order -/

/-- The faults of a table of rules, by the names of the rules. -/
def tableFaults (c : Configuration) (g : RuleGroup) : List ConfigurationFault :=
  ((c.rules g).keys.filter fun id => ¬g.Has id).map (.unknownRule g)

/-- The faults of an exemption: no rules, no targets, and the rules that do not exist in the order
in which they are listed. -/
def exemptionFaults (index : Nat) (e : Exemption) : List ConfigurationFault :=
  (if e.rules = [] then [.exemptionWithoutRules index] else [])
    ++ (if e.controllerNames = [] ∧ e.containerNames = [] then [.exemptionWithoutTargets index]
        else [])
    ++ (e.rules.filter fun id => ¬Rule.IsName id).map (.unknownExemptionRule index)

/-- The fault of the address of the scanner. -/
def scannerFaults (c : Configuration) : List ConfigurationFault :=
  match c.scannerUrl with
  | none => []
  | some url =>
    match Url.parse url with
    | .ok _ => []
    | .error cause => [.invalidScannerUrl url cause]

/-- **All faults of a configuration** in the order in which they are looked for: group after group,
exemption after exemption, and the address of the scanner. -/
def faults (c : Configuration) : List ConfigurationFault :=
  RuleGroup.all.flatMap c.tableFaults
    ++ c.exemptions.zipIdx.flatMap (fun (e, index) => exemptionFaults index e)
    ++ c.scannerFaults

/-! ### The list is complete -/

variable {c : Configuration}

theorem mem_tableFaults {g : RuleGroup} {f : ConfigurationFault} :
    f ∈ c.tableFaults g ↔ ∃ id, (id ∈ (c.rules g).keys ∧ ¬g.Has id) ∧ .unknownRule g id = f := by
  simp [tableFaults]

theorem mem_exemptionFaults {index : Nat} {e : Exemption} {f : ConfigurationFault} :
    f ∈ exemptionFaults index e ↔
      e.rules = [] ∧ f = .exemptionWithoutRules index ∨
      (e.controllerNames = [] ∧ e.containerNames = []) ∧ f = .exemptionWithoutTargets index ∨
      ∃ id, (id ∈ e.rules ∧ ¬Rule.IsName id) ∧ .unknownExemptionRule index id = f := by
  simp [exemptionFaults]

theorem mem_scannerFaults {f : ConfigurationFault} :
    f ∈ c.scannerFaults ↔
      ∃ url cause, c.scannerUrl = some url ∧ Url.parse url = .error cause ∧
        f = .invalidScannerUrl url cause := by
  rw [scannerFaults]
  cases hurl : c.scannerUrl with
  | none => simp
  | some url =>
    cases hparse : Url.parse url with
    | ok address => simp [hparse]
    | error cause => simp [hparse]

/-- **The list of all faults holds those that a configuration has** and no others. -/
theorem mem_faults {f : ConfigurationFault} : f ∈ c.faults ↔ c.HasFault f := by
  simp only [faults, List.mem_append, List.mem_flatMap, mem_tableFaults, mem_exemptionFaults,
    mem_scannerFaults, Prod.exists, List.mem_zipIdx_iff_getElem?]
  constructor
  · rintro ((⟨g, -, id, ⟨hkey, hunknown⟩, rfl⟩ | ⟨e, index, hat, hexemption⟩) |
      ⟨url, cause, hurl, hparse, rfl⟩)
    · exact .unknownRule hkey hunknown
    · obtain ⟨hrules, rfl⟩ | ⟨⟨hcontrollers, hcontainers⟩, rfl⟩ | ⟨id, ⟨hid, hunknown⟩, rfl⟩ :=
        hexemption
      · exact .exemptionWithoutRules hat hrules
      · exact .exemptionWithoutTargets hat hcontrollers hcontainers
      · exact .unknownExemptionRule hat hid hunknown
    · exact .invalidScannerUrl hurl hparse
  · intro h
    cases h with
    | unknownRule hkey hunknown =>
      exact .inl (.inl ⟨_, RuleGroup.mem_all _, _, ⟨hkey, hunknown⟩, rfl⟩)
    | exemptionWithoutRules hat hrules => exact .inl (.inr ⟨_, _, hat, .inl ⟨hrules, rfl⟩⟩)
    | exemptionWithoutTargets hat hcontrollers hcontainers =>
      exact .inl (.inr ⟨_, _, hat, .inr (.inl ⟨⟨hcontrollers, hcontainers⟩, rfl⟩)⟩)
    | unknownExemptionRule hat hid hunknown =>
      exact .inl (.inr ⟨_, _, hat, .inr (.inr ⟨_, ⟨hid, hunknown⟩, rfl⟩)⟩)
    | invalidScannerUrl hurl hparse => exact .inr ⟨_, _, hurl, hparse, rfl⟩

theorem isSound_iff : c.IsSound ↔ ∀ f, ¬c.HasFault f := by
  constructor
  · rintro h f hf
    cases hf with
    | unknownRule hkey hunknown => exact hunknown (h.tables _ _ hkey)
    | exemptionWithoutRules hat hrules =>
      exact (h.exemptions _ (List.mem_of_getElem? hat)).rules hrules
    | exemptionWithoutTargets hat hcontrollers hcontainers =>
      rcases (h.exemptions _ (List.mem_of_getElem? hat)).targets with hne | hne
      · exact hne hcontrollers
      · exact hne hcontainers
    | unknownExemptionRule hat hid hunknown =>
      exact hunknown ((h.exemptions _ (List.mem_of_getElem? hat)).names _ hid)
    | invalidScannerUrl hurl hparse =>
      obtain ⟨address, haddress⟩ := h.scanner _ hurl
      rw [hparse] at haddress
      cases haddress
  · intro h
    refine ⟨fun g id hkey => ?_, fun e he => ?_, fun url hurl => ?_⟩
    · by_contra hunknown
      exact h _ (.unknownRule hkey hunknown)
    · obtain ⟨index, hat⟩ := List.mem_iff_getElem?.1 he
      refine ⟨fun hrules => h _ (.exemptionWithoutRules hat hrules), ?_, fun id hid => ?_⟩
      · by_contra hnone
        obtain ⟨hcontrollers, hcontainers⟩ := not_or.1 hnone
        exact h _ (.exemptionWithoutTargets hat (not_not.1 hcontrollers) (not_not.1 hcontainers))
      · by_contra hunknown
        exact h _ (.unknownExemptionRule hat hid hunknown)
    · cases hparse : Url.parse url with
      | ok address => exact ⟨address, rfl⟩
      | error cause => exact absurd (.invalidScannerUrl hurl hparse) (h _)

/-! ### Validation stops at the head -/

theorem tableFault?_eq_head? (c : Configuration) (g : RuleGroup) :
    c.tableFault? g = (c.tableFaults g).head? := by
  have hsame : (fun id => (Rule.inGroup? g id).isNone) = fun id => decide ¬g.Has id :=
    funext fun id => Bool.eq_iff_iff.2 (by rw [Rule.isNone_inGroup?, decide_eq_true_eq])
  rw [tableFault?, tableFaults, List.head?_map, List.head?_filter, hsame]

theorem exemptionFault?_eq_head? (index : Nat) (e : Exemption) :
    exemptionFault? index e = (exemptionFaults index e).head? := by
  have hsame : (fun id => (Rule.named? id).isNone) = fun id => decide ¬Rule.IsName id :=
    funext fun id => Bool.eq_iff_iff.2 (by rw [Rule.isNone_named?, decide_eq_true_eq])
  rw [exemptionFault?, exemptionFaults, hsame]
  by_cases hrules : e.rules = []
  · simp [hrules]
  · by_cases htargets : e.controllerNames = [] ∧ e.containerNames = []
    · simp [hrules, htargets]
    · simp [hrules, htargets]

theorem exemptionsFault?_eq_head? (first : Nat) (l : List Exemption) :
    exemptionsFault? first l =
      ((l.zipIdx first).flatMap fun (e, index) => exemptionFaults index e).head? := by
  induction l generalizing first with
  | nil => rfl
  | cons e l ih =>
    rw [exemptionsFault?, List.zipIdx_cons, List.flatMap_cons, List.head?_append, ← ih,
      exemptionFault?_eq_head?]
    cases (exemptionFaults first e).head? <;> rfl

theorem scannerFault?_eq_head? (c : Configuration) : c.scannerFault? = c.scannerFaults.head? := by
  rw [scannerFault?, scannerFaults]
  cases c.scannerUrl with
  | none => rfl
  | some url => cases hparse : Url.parse url <;> simp [hparse]

/-- **What is reported is the first of all faults.** -/
theorem fault?_eq_head? (c : Configuration) : c.fault? = c.faults.head? := by
  have htables : c.tableFault? = fun g => (c.tableFaults g).head? := funext c.tableFault?_eq_head?
  rw [fault?, faults, List.head?_append, List.head?_append, List.head?_flatMap, Option.or_assoc,
    exemptionsFault?_eq_head?, scannerFault?_eq_head?, htables]

theorem validate_eq_error {f : ConfigurationFault} :
    c.validate = .error f ↔ c.faults.head? = some f := by
  rw [validate, fault?_eq_head?]
  cases c.faults.head? with
  | none => simp
  | some f' => simp

theorem validate_eq_ok : c.validate = .ok () ↔ c.IsSound := by
  have hnone : c.validate = .ok () ↔ c.faults = [] := by
    rw [validate, fault?_eq_head?]
    cases c.faults with
    | nil => simp
    | cons f l => simp
  rw [hnone, isSound_iff, List.eq_nil_iff_forall_not_mem]
  exact forall_congr' fun f => not_congr mem_faults

/-! ### What an accepted configuration says is followed -/

/-- **No entry of a sound configuration is lost**: every one that does something makes a rule
active. -/
theorem IsSound.perm_entry_activeRules (h : c.IsSound) :
    (c.activeRules.map ActiveRule.entry).Perm (c.entries.filter fun e => e.action ≠ .ignore) := by
  refine (Configuration.perm_entry_activeRules c).trans (.of_eq (List.filter_congr fun e he => ?_))
  have hkey : e.id ∈ (c.rules e.group).keys := Table.mem_keys.2 ⟨e.action, mem_entries.1 he⟩
  simp [h.tables e.group e.id hkey]

/-- **A configuration is accepted when nothing is wrong with it, and otherwise the first fault is
reported.** The list of all faults holds every fault that the configuration has, in the order in
which they are looked for, where the rules of a table are ordered by the bytes of their names. And
nothing that an accepted configuration says is lost: its active rules are its entries that are not
to ignore a rule, one rule for each entry and with the action of the entry. -/
theorem validate_first_fault (c : Configuration) :
    (c.validate = .ok () ↔ c.IsSound) ∧
    (∀ f, c.validate = .error f ↔ c.faults.head? = some f) ∧
    (∀ f, f ∈ c.faults ↔ c.HasFault f) ∧
    (∀ g, (c.rules g).keys.Pairwise fun id id' =>
      Utf8.encode id.toList < Utf8.encode id'.toList) ∧
    (c.validate = .ok () →
      (c.activeRules.map ActiveRule.entry).Perm (c.entries.filter fun e => e.action ≠ .ignore) ∧
      (c.activeRules.map ActiveRule.entry).Nodup ∧
      c.activeRules.length = c.entries.countP fun e => e.action ≠ .ignore) := by
  refine ⟨validate_eq_ok, fun f => validate_eq_error, fun f => mem_faults, fun g => ?_, fun h => ?_⟩
  · exact (c.rules g).pairwise_keys.imp Utf8.encode_lt_encode_iff.2
  · have hperm := (validate_eq_ok.1 h).perm_entry_activeRules
    refine ⟨hperm, c.nodup_entry_activeRules, ?_⟩
    rw [List.countP_eq_length_filter, ← hperm.length_eq, List.length_map]

/-- Five entries in four tables, two of them to ignore a rule: three rules are active. -/
theorem validate_first_fault_staging :
    let c : Configuration := {
      scannerUrl := some "http://[::1]:8081"
      security := (Table.insert .empty "runAsRootAllowed" .warning).insert "hostIPCSet" .error
      networking := .insert .empty "hostNetworkSet" .ignore
      images := .insert .empty "pullPolicyNotAlways" .ignore
      healthChecks := .insert .empty "livenessProbeMissing" .warning
      exemptions := [{ controllerNames := ["kube-proxy"], rules := ["hostNetworkSet"] }] }
    c.validate = .ok () ∧
    (c.activeRules.map ActiveRule.entry).Perm
      [⟨.security, "hostIPCSet", .error⟩, ⟨.security, "runAsRootAllowed", .warning⟩,
        ⟨.healthChecks, "livenessProbeMissing", .warning⟩] ∧
    c.activeRules.length = 3 := by
  intro c
  have h : c.validate = .ok () := by decide +kernel
  obtain ⟨hperm, -, hlength⟩ := (validate_first_fault c).2.2.2.2 h
  exact ⟨h, hperm.trans (.of_eq (by decide)), hlength.trans (by decide)⟩

end Configuration

end ClusterAudit
