import ClusterAudit.Text.Basic

/-!
# Properties of characters by runs

Most properties of characters hold for runs of them. A `Run` is such a run with a value, and a table
of a property is an array of runs in increasing order. In a text a run is its first and its last
character in base 16, with a hyphen between them, and then a colon and the value; a run of one
character is written without the second one. `Run.find?` looks a character up in the middle
of what is left of the table.
-/

namespace ClusterAudit.Text

/-- A run of characters with a value. -/
structure Run (α : Type) where
  /-- The first character. -/
  first : Nat
  /-- The last character. -/
  last : Nat
  /-- The value. -/
  value : α
deriving Repr, Inhabited

/-- The words of a text, which spaces and ends of line separate. -/
def words (s : String) : List (List Char) :=
  let flush (done : List (List Char)) (word : List Char) : List (List Char) :=
    if word.isEmpty then done else word.reverse :: done
  let (done, word) := s.toList.foldl (fun (done, word) c =>
    if c = ' ' || c = '\n' then (flush done word, []) else (done, c :: word)) ([], [])
  (flush done word).reverse

namespace Run

variable {α : Type}

/-! ### Reading -/

/-- The run that is written so. -/
def ofText? (read : List Char → Option α) (cs : List Char) : Option (Run α) := do
  let (bounds, value) := (cut ':' cs).getD (cs, [])
  let (first, last) := (cut '-' bounds).getD (bounds, bounds)
  return { first := ← natIn 16 first, last := ← natIn 16 last, value := ← read value }

/-- The runs that are written in a text. -/
def table (read : List Char → Option α) (s : String) : Array (Run α) :=
  ((words s).filterMap (ofText? read)).toArray

/-- The runs without values that are written in a text. -/
def marks (s : String) : Array (Run Unit) :=
  table (fun _ => some ()) s

/-! ### Looking up -/

/-- The run of a character among those from the place `low` to in front of the place `high`. -/
def search (runs : Array (Run α)) (n : Nat) : Nat → Nat → Nat → Option (Run α)
  | 0, _, _ => none
  | fuel + 1, low, high =>
    if low < high then
      let middle := (low + high) / 2
      match runs[middle]? with
      | none => none
      | some r =>
        if n < r.first then search runs n fuel low middle
        else if r.last < n then search runs n fuel (middle + 1) high
        else some r
    else none

/-- **The run of a character.** -/
def find? (runs : Array (Run α)) (c : Char) : Option (Run α) :=
  search runs c.toNat (runs.size + 1) 0 runs.size

/-- Whether a character belongs to one of the runs. -/
def anyHolds (runs : Array (Run α)) (c : Char) : Bool :=
  (find? runs c).isSome

end Run

end ClusterAudit.Text
