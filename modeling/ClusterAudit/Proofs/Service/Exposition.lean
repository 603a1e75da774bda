import ClusterAudit.Metrics
import ClusterAudit.Proofs.Counting.Tally
import ClusterAudit.Proofs.Text.Pieces

/-!
# What collectors of metrics read

A collector cuts the text of the metrics into lines. A line that begins with a number sign is about
a family and is passed over; any other line is a sample, which has a name and behind a space a
value. `ClusterAudit.Metrics.collect` reads a text this way. Of the text of the metrics it reads
what is recorded, under the names that the families have, and nothing else
(`ClusterAudit.Metrics.collect_render`). All that has to be seen for this is that none of the three
characters that mean something to a collector is in a name, and that a number has no end of a line.
-/

namespace ClusterAudit.Metrics

open Text

/-! ### Reading a text -/

/-- The sample that stands in a line, if one does. -/
def sample? (line : List Char) : Option (String × Nat) :=
  if line.head? = some '#' then none
  else (cut ' ' line).bind fun (name, value) => (natIn 10 value).map (String.ofList name, ·)

/-- **What a collector reads** of a text: the samples in its lines. -/
def collect (text : String) : List (String × Nat) :=
  (pieces '\n' text.toList).filterMap sample?

/-- **The samples of the metrics.** -/
def samples (m : Metrics) : List (String × Nat) :=
  (match m.checks with
    | none => []
    | some t => [Verdict.error, .noData, .success, .warning].map fun v =>
        ("audit_checks\x7bresult=\"" ++ v.label ++ "\"\x7d", (t.count v).toNat))
    ++ [("audit_failures_total", m.failures), ("audit_runs_total", m.runs), ("audit_score", m.score)]

/-! ### Lines -/

/-- A text that means nothing to a collector but itself: a name, or a name with labels. -/
def IsName (name : String) : Prop :=
  ∀ c ∈ name.toList, c ≠ ' ' ∧ c ≠ '\n' ∧ c ≠ '#'

instance : DecidablePred IsName :=
  fun name => List.decidableBAll _ name.toList

variable {name help sort : String} {values : List (String × Nat)}

theorem collect_empty : collect "" = [] := rfl

/-- Lines are read one by one. -/
theorem collect_line {line : String} (h : '\n' ∉ line.toList) (rest : String) :
    collect (line ++ "\n" ++ rest) = (sample? line.toList).toList ++ collect rest := by
  have htext : (line ++ "\n" ++ rest).toList = line.toList ++ '\n' :: rest.toList := by
    simp
  rw [collect, htext, pieces_append_cons, pieces_of_notMem h, List.singleton_append,
    List.filterMap_cons, ← collect]
  cases sample? line.toList <;> rfl

theorem isDigit_of_mem_decimal {c : Char} {n : Nat} (h : c ∈ (decimal n).toList) :
    c.isDigit = true := by
  rw [decimal, Nat.repr_eq_ofList_toDigits, String.toList_ofList] at h
  exact Nat.isDigit_of_mem_toDigits (by decide) (by decide) h

theorem digitIn_of_isDigit {c : Char} (h : c.isDigit = true) :
    digitIn 10 c = some (c.toNat - '0'.toNat) := by
  have hrange : '0' ≤ c ∧ c ≤ '9' := by simpa [Char.isDigit, Char.le_def] using h
  have hbound : c.toNat ≤ '9'.toNat := UInt32.le_iff_toNat_le.1 hrange.2
  have hsmall : c.toNat - '0'.toNat < 10 := by
    have hnine : '9'.toNat = '0'.toNat + 9 := rfl
    omega
  rw [digitIn, hexValue, if_pos hrange, Option.filter_some, if_pos (decide_eq_true hsmall)]

/-- Digits are added up as the library does it. -/
theorem foldlM_digitIn {cs : List Char} (h : ∀ c ∈ cs, c.isDigit = true) (m : Nat) :
    cs.foldlM (fun n d => (digitIn 10 d).map (n * 10 + ·)) m =
      some (Nat.ofDigitChars 10 cs m) := by
  induction cs generalizing m with
  | nil => rfl
  | cons c cs ih =>
    obtain ⟨hc, hcs⟩ := List.forall_mem_cons.1 h
    rw [List.foldlM_cons, digitIn_of_isDigit hc, Option.map_some, Nat.ofDigitChars_cons,
      Nat.mul_comm 10]
    exact ih hcs _

/-- **A number is read back** from its decimal digits. -/
theorem natIn_decimal (n : Nat) : natIn 10 (decimal n).toList = some n := by
  have hvalue := foldlM_digitIn (fun _ => isDigit_of_mem_decimal (n := n)) 0
  rw [decimal, Nat.repr_eq_ofList_toDigits, String.toList_ofList] at hvalue ⊢
  rw [Nat.ofDigitChars_ten_toDigits] at hvalue
  obtain ⟨c, cs, hcons⟩ := List.exists_cons_of_ne_nil (Nat.toDigits_ne_nil (b := 10) (n := n))
  rw [hcons] at hvalue ⊢
  exact hvalue

/-! ### Samples and families -/

/-- **A name and its value are read back.** -/
theorem sample?_value (h : IsName name) (n : Nat) :
    sample? (name ++ " " ++ decimal n).toList = some (name, n) := by
  have hline : (name ++ " " ++ decimal n).toList = name.toList ++ ' ' :: (decimal n).toList := by
    simp
  have hhead : (name.toList ++ ' ' :: (decimal n).toList).head? ≠ some '#' := by
    cases hname : name.toList with
    | nil => simp
    | cons c cs =>
      have hc : c ≠ '#' := (h c (hname ▸ List.mem_cons_self)).2.2
      simpa using hc
  have hspace : ' ' ∉ name.toList := fun hc => (h _ hc).1 rfl
  rw [sample?, hline, if_neg hhead, cut_append_cons hspace, Option.bind_some]
  dsimp only
  rw [natIn_decimal, Option.map_some, String.ofList_toList]

/-- The samples of a family, each in a line of its own. -/
theorem collect_values (h : ∀ v ∈ values, IsName (name ++ v.1)) (rest : String) :
    collect (String.join (values.map fun v => name ++ v.1 ++ " " ++ decimal v.2 ++ "\n") ++ rest) =
      values.map (fun v => (name ++ v.1, v.2)) ++ collect rest := by
  induction values with
  | nil => simp
  | cons v values ih =>
    obtain ⟨hv, hvalues⟩ := List.forall_mem_cons.1 h
    have hline : '\n' ∉ (name ++ v.1 ++ " " ++ decimal v.2).toList := by
      intro hc
      rw [String.toList_append, String.toList_append, List.append_assoc, List.mem_append,
        List.mem_append] at hc
      rcases hc with hc | hc | hc
      · exact (hv _ hc).2.1 rfl
      · exact absurd hc (by decide)
      · exact absurd (isDigit_of_mem_decimal hc) (by decide)
    rw [List.map_cons, String.join_cons, String.append_assoc, collect_line hline,
      sample?_value hv, ih hvalues]
    rfl

/-- **Of a family the samples are read.** -/
theorem collect_family (hname : IsName name) (hhelp : '\n' ∉ help.toList)
    (hsort : '\n' ∉ sort.toList) (h : ∀ v ∈ values, IsName (name ++ v.1)) (rest : String) :
    collect (family name help sort values ++ rest) =
      values.map (fun v => (name ++ v.1, v.2)) ++ collect rest := by
  have hlines : family name help sort values ++ rest =
      ("# HELP " ++ name ++ " " ++ help) ++ "\n" ++ (("# TYPE " ++ name ++ " " ++ sort) ++ "\n" ++
        (String.join (values.map fun v => name ++ v.1 ++ " " ++ decimal v.2 ++ "\n") ++ rest)) := by
    unfold family
    simp only [String.append_assoc]
    rfl
  have hone : '\n' ∉ name.toList := fun hc => (hname _ hc).2.1 rfl
  have habout : '\n' ∉ ("# HELP " ++ name ++ " " ++ help).toList := by
    simp [hone, hhelp]
  have hkind : '\n' ∉ ("# TYPE " ++ name ++ " " ++ sort).toList := by
    simp [hone, hsort]
  have hpassed {about : String} (h : about.toList.head? = some '#') :
      sample? about.toList = none := if_pos h
  rw [hlines, collect_line habout, collect_line hkind, collect_values h, hpassed (by simp),
    hpassed (by simp)]
  rfl

/-- **A collector reads what is recorded**, and nothing else. -/
theorem collect_render (m : Metrics) : collect m.render = m.samples := by
  have hsingle {name : String} {n : Nat} (hname : IsName name) :
      ∀ v ∈ [("", n)], IsName (name ++ v.1) := by
    simpa using hname
  have hchecks : IsName "audit_checks" := by decide +kernel
  have hfailures : IsName "audit_failures_total" := by decide +kernel
  have hruns : IsName "audit_runs_total" := by decide +kernel
  have hscore : IsName "audit_score" := by decide +kernel
  have hrest : collect (family "audit_failures_total" "Total audit runs that failed" "counter"
        [("", m.failures)]
      ++ (family "audit_runs_total" "Total audit runs started" "counter" [("", m.runs)]
        ++ (family "audit_score" "Score of the most recent successful audit (0-100)" "gauge"
          [("", m.score)] ++ ""))) =
      [("audit_failures_total", m.failures), ("audit_runs_total", m.runs),
        ("audit_score", m.score)] := by
    rw [collect_family hfailures (by decide) (by decide) (hsingle hfailures),
      collect_family hruns (by decide) (by decide) (hsingle hruns),
      collect_family hscore (by decide) (by decide) (hsingle hscore), collect_empty]
    rfl
  rw [String.append_empty] at hrest
  rw [render, samples, String.append_assoc, String.append_assoc]
  cases m.checks with
  | none =>
    rw [String.empty_append, List.nil_append]
    exact hrest
  | some t =>
    have hlabelled (v : Verdict) (n : UInt32) : IsName ("audit_checks" ++ (labelled v n).1) := by
      change IsName ("audit_checks" ++ (labelled v 0).1)
      cases v <;> decide +kernel
    have hnames : ∀ v ∈ [labelled .error t.errors, labelled .noData t.noData,
        labelled .success t.successes, labelled .warning t.warnings],
          IsName ("audit_checks" ++ v.1) := by
      simp only [List.forall_mem_cons]
      exact ⟨hlabelled .error _, hlabelled .noData _, hlabelled .success _, hlabelled .warning _,
        nofun⟩
    dsimp only
    rw [collect_family hchecks (by decide) (by decide) hnames, hrest]
    rfl

end ClusterAudit.Metrics
