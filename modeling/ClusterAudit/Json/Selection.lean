import ClusterAudit.Json.Number
import ClusterAudit.Json.Reader

/-!
# Reading JSON text

A written document is read as the document it stands for, or as the parts of it that a `Selection`
names. What is read has to make sense: no half of a surrogate pair stands alone, numbers fit, and
lists and objects are nested less than 128 deep. What is left out only has the form of a document;
of a field that is left out the name is read all the same.

`Json.select?` reads the wanted parts of a text and `Json.parse?` all of it.
-/

namespace ClusterAudit.Json

/-- Which parts of a document are read. -/
inductive Selection where
  /-- All of them. -/
  | everything
  /-- These parts of every item of a list. -/
  | items (item : Selection)
  /-- These parts of the fields with these names and of the others, which may be left out. The names
  stand in an order, in which the values may be given as a list. -/
  | fields (known : List (String × Selection)) (other : Option Selection)
deriving Inhabited

namespace Selection

/-- The fields with these names as a whole, and no others. -/
def ofNames (names : List String) : Selection :=
  .fields (names.map (·, .everything)) none

/-- The parts of a field that are read, unless it is left out. -/
def field? : Selection → String → Option Selection
  | .fields known other, name =>
    match known.find? fun f => f.1 == name with
    | some f => some f.2
    | none => other
  | _, _ => some .everything

/-- The parts of the first item of a list that are read, and those of the list of the others. -/
def next : Selection → Selection × Selection
  | .items item => (item, .items item)
  | .fields ((_, wanted) :: known) other => (wanted, .fields known other)
  | _ => (.everything, .everything)

end Selection

/-! ### What is written -/

namespace Letter

/-- Whether a unit is the first half of a surrogate pair. -/
def isHigh (u : UInt16) : Bool :=
  0xD800 ≤ u && u < 0xDC00

/-- Whether a unit is the second half of a surrogate pair. -/
def isLow (u : UInt16) : Bool :=
  0xDC00 ≤ u && u < 0xE000

/-- The character of a surrogate pair. -/
def ofPair (high low : UInt16) : Char :=
  Char.ofNat (0x10000 + (high.toNat - 0xD800) * 0x400 + (low.toNat - 0xDC00))

/-- The text of letters behind the characters in `done`, which are in reverse. The first half of a
surrogate pair needs the second half behind it, and a second half nothing else in front of it. -/
def textAfter (done : List Char) : List Letter → Option String
  | [] => some (String.ofList done.reverse)
  | .char c :: rest => textAfter (c :: done) rest
  | .unit high :: .unit low :: rest =>
    if isHigh high then
      if isLow low then textAfter (ofPair high low :: done) rest else none
    else if isLow high then none
    else textAfter (Char.ofNat high.toNat :: done) (.unit low :: rest)
  | .unit u :: rest =>
    if isHigh u || isLow u then none else textAfter (Char.ofNat u.toNat :: done) rest

/-- **The text of letters.** -/
def text? (s : List Letter) : Option String :=
  textAfter [] s

end Letter

/-- **The number that is written**, unless it is too large. -/
def Numeral.value? (n : Numeral) : Option Json :=
  number? n.negative n.whole n.fraction n.exponent

namespace Written

mutual

/-- **Read the wanted parts of a written document**; `depth` more levels may be opened. -/
def select (wanted : Selection) (depth : Nat) : Written → Option Json
  | .null => some .null
  | .bool b => some (.bool b)
  | .number n => n.value?
  | .string s => (Letter.text? s).map .string
  | .array items =>
    if depth ≤ 1 then none else (selectItems wanted (depth - 1) items).map .array
  | .object fields =>
    if depth ≤ 1 then none else (selectFields wanted (depth - 1) fields).map .object

/-- Read the wanted parts of the items of a list. -/
def selectItems (wanted : Selection) (depth : Nat) : List Written → Option (List Json)
  | [] => some []
  | x :: items => do
    let first ← select wanted.next.1 depth x
    let others ← selectItems wanted.next.2 depth items
    some (first :: others)

/-- Read the wanted parts of the fields of an object. -/
def selectFields (wanted : Selection) (depth : Nat) :
    List (List Letter × Written) → Option (List (String × Json))
  | [] => some []
  | f :: fields => do
    let first ← selectField wanted depth f
    let others ← selectFields wanted depth fields
    some (first ++ others)

/-- Read the wanted parts of a field of an object: the field, or nothing if it is left out. -/
def selectField (wanted : Selection) (depth : Nat) :
    List Letter × Written → Option (List (String × Json))
  | (s, x) => do
    let name ← Letter.text? s
    match wanted.field? name with
    | some part => (select part depth x).map fun y => [(name, y)]
    | none => some []

end

end Written

/-! ### Texts -/

/-- How deep lists and objects may be nested, and one more. -/
def depthBound : Nat := 128

/-- **Read the wanted parts of a text** that is one document. -/
def select? (wanted : Selection) (s : String) : Option Json :=
  (Written.ofText? s).bind (Written.select wanted depthBound)

/-- **Read a text as one document.** -/
def parse? (s : String) : Option Json :=
  select? .everything s

end ClusterAudit.Json
