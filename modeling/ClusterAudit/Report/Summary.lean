import ClusterAudit.Report.Resource
import ClusterAudit.Verdict

/-!
# Checks and their summaries

A check is one line of a report: which check, of which group, about which resource, and how it
ended. Summaries count the checks of one group or of one namespace. There is one summary for
every name that occurs, in the order in which the names occur first, so no name is counted
twice and none is left out.

`SummaryIndex` keeps such summaries together with the place of every name, and its proof field
keeps the two in step, so that a place always lies within the summaries. `Summaries.ofChecks`
counts checks under all names at once.
-/

namespace ClusterAudit

/-- One line of a report. -/
structure Check where
  /-- Which check it is. -/
  id : String
  /-- The group it belongs to. -/
  group : String
  /-- The kind of the controller. -/
  category : String
  /-- The path of what it is about. -/
  resource : String
  /-- How it ended. -/
  verdict : Verdict
deriving DecidableEq, Inhabited

namespace Check

/-- The namespace that the path of a check begins with. -/
def namespaceName? (c : Check) : Option String :=
  Resource.namespaceOf? c.resource

/-- A check in JSON. -/
def toJson (c : Check) : Json :=
  .object [("id", .string c.id), ("group", .string c.group), ("category", .string c.category),
    ("resourceName", .string c.resource), ("result", .string c.verdict.label)]

end Check

/-- The counts of the checks of one name. -/
structure ResultSummary where
  /-- The name. -/
  name : String
  /-- The counts. -/
  counts : Tally := {}
deriving DecidableEq, Inhabited

namespace ResultSummary

/-- A summary in JSON. -/
def toJson (s : ResultSummary) : Json :=
  .object (("resultName", .string s.name) :: s.counts.fields)

/-- The summary with one more verdict counted. -/
def count (s : ResultSummary) (v : Verdict) : ResultSummary :=
  { s with counts := s.counts.add v }

/-- The name of the summary of all checks. -/
def overallName : String := "Overall Checks Summary"

end ResultSummary

/-! ### Summaries by name -/

/-- Summaries in the order in which their names occur first, with the place of every name, so that
the summary of a name is found without walking through the others. -/
structure SummaryIndex where
  /-- The summaries. -/
  entries : List ResultSummary
  /-- The place of every name. -/
  positions : Table Nat
  /-- A name has a place exactly when the summary that stands there has this name. -/
  inStep : ∀ name i, positions.get? name = some i ↔ entries[i]?.map ResultSummary.name = some name

namespace SummaryIndex

/-- The index without summaries. -/
def empty : SummaryIndex where
  entries := []
  positions := .empty
  inStep := by simp

theorem lt_length (x : SummaryIndex) {name : String} {i : Nat}
    (h : x.positions.get? name = some i) : i < x.entries.length := by
  obtain ⟨s, hs, -⟩ := Option.map_eq_some_iff.1 ((x.inStep name i).1 h)
  exact (List.getElem?_eq_some_iff.1 hs).1

theorem inStep_concat {entries : List ResultSummary} {positions : Table Nat} {name : String}
    (inStep : ∀ q i, positions.get? q = some i ↔ entries[i]?.map ResultSummary.name = some q)
    (new : positions.get? name = none) (q : String) (i : Nat) :
    (positions.insert name entries.length).get? q = some i ↔
      (entries ++ [{ name := name }])[i]?.map ResultSummary.name = some q := by
  rw [Table.get?_insert]
  have old := inStep q i
  by_cases hq : q = name
  · subst hq
    rcases Nat.lt_trichotomy i entries.length with hi | hi | hi
    · -- an older place never belongs to the new name
      have hno : entries[i]?.map ResultSummary.name ≠ some q := by
        rw [Ne, ← old, new]
        simp
      simp only [↓reduceIte, Option.some.injEq, List.getElem?_append_left hi]
      exact ⟨fun h => absurd h (by omega), fun h => absurd h hno⟩
    · simp [hi]
    · rw [List.getElem?_eq_none (by simp; omega)]
      simp
      omega
  · rw [if_neg hq]
    rcases Nat.lt_trichotomy i entries.length with hi | hi | hi
    · rw [List.getElem?_append_left hi, old]
    · subst hi
      rw [old]
      simp [Ne.symm hq]
    · rw [old, List.getElem?_eq_none (by omega), List.getElem?_eq_none (by simp; omega)]

/-- The index with an empty summary of a new name at the end. -/
def push (x : SummaryIndex) (name : String) (new : x.positions.get? name = none) :
    SummaryIndex where
  entries := x.entries ++ [{ name := name }]
  positions := x.positions.insert name x.entries.length
  inStep := inStep_concat x.inStep new

/-- The index with one more verdict counted by the summary at a place. -/
def countAt (x : SummaryIndex) (i : Fin x.entries.length) (v : Verdict) : SummaryIndex where
  entries := x.entries.set i (x.entries[i].count v)
  positions := x.positions
  inStep q j := by
    rw [x.inStep q j]
    by_cases hij : i.val = j
    · subst hij
      simp [ResultSummary.count]
    · rw [List.getElem?_set_ne hij]

/-- **The place of a name.** A name that is new gets one at the end. -/
def place (x : SummaryIndex) (name : String) : (y : SummaryIndex) × Fin y.entries.length :=
  match h : x.positions.get? name with
  | some i => ⟨x, i, x.lt_length h⟩
  | none => ⟨x.push name h, x.entries.length, by simp [push]⟩

/-- **Count a verdict under a name.** -/
def add (x : SummaryIndex) (name : String) (v : Verdict) : SummaryIndex :=
  let p := x.place name
  p.1.countAt p.2 v

end SummaryIndex

/-! ### All summaries of a report -/

/-- What is counted of checks: all of them, by group and by namespace. -/
structure Summaries where
  /-- The counts of all checks. -/
  overall : ResultSummary := { name := ResultSummary.overallName }
  /-- The counts by group. -/
  groups : SummaryIndex := .empty
  /-- The counts by namespace. -/
  namespaces : SummaryIndex := .empty

namespace Summaries

/-- Count a check. One without a namespace is counted under none. -/
def add (x : Summaries) (c : Check) : Summaries where
  overall := x.overall.count c.verdict
  groups := x.groups.add c.group c.verdict
  namespaces := match c.namespaceName? with
    | some n => x.namespaces.add n c.verdict
    | none => x.namespaces

/-- **The summaries of checks**, counted in one pass. -/
def ofChecks (l : List Check) : Summaries :=
  l.foldl add {}

end Summaries

end ClusterAudit
