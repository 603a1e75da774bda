import ClusterAudit.Text.Basic

/-!
# The order of severity labels

Scanners label a vulnerability with a word. Five words are known and ranked; the words come in
any ASCII case, and a word that is not known ranks behind all known ones. `Severity.compare`
orders labels by rank and, within a rank, by the label itself, so that only equal labels are
equal in the order.
-/

namespace ClusterAudit.Severity

/-- The rank of a label, most severe first; case does not count. -/
def rank (label : String) : Nat :=
  match Text.upper label with
  | "CRITICAL" => 0
  | "HIGH" => 20
  | "MEDIUM" => 40
  | "LOW" => 60
  | "UNKNOWN" => 80
  | _ => 1000

/-- Labels by rank, and by their characters within a rank. -/
def compare (a b : String) : Ordering :=
  (Ord.compare (rank a) (rank b)).then (Ord.compare a b)

/-- Whether `a` comes no later than `b`. -/
def le (a b : String) : Bool :=
  compare a b != .gt

/-- Whether a vulnerability with this label makes an image fail with an error. -/
def isBlocking (label : String) : Bool :=
  rank label ≤ rank "HIGH"

/-- Labels in order, equal ones as they came. -/
def sort (labels : List String) : List String :=
  labels.mergeSort le

end ClusterAudit.Severity
