import ClusterAudit.Json.Selection

/-!
# Image scans and their JSON form

A scan lists, for every target inside an image, the vulnerabilities found there. Its JSON form
names the fields of a target and of a vulnerability with capital letters and those of the scan
itself without.

`ImageScan.toJson` and `ImageScan.ofJson?` are the two directions. Reading is lenient where
scanners differ: unknown fields are skipped, lists may be missing or null, a missing text is
empty, any unknown status counts as no data, and a record may be given as the list of its field
values in their order. A field of a record that is given twice is refused.
-/

namespace ClusterAudit

/-! ### Records in JSON -/

/-- A field of a record that is being read: absent, or present with its value. -/
abbrev Json.Slot := Option Json

namespace Json.Record

/-- Whether none of `names` is the name of two fields. -/
def isDistinct (names : List String) (fields : List (String × Json)) : Bool :=
  names.all fun n => (fields.filter fun f => f.1 == n).length ≤ 1

/-- The values of the fields called `names`, in that order, from an object or from a list of field
values. An object's fields of other names do not count, and none of these may be given twice; a
list must not be longer. -/
def slots? (names : List String) : Json → Option (List Json.Slot)
  | .object fields =>
    if isDistinct names fields then some (names.map fun n => (Json.object fields).field? n)
    else none
  | .array items =>
    if items.length ≤ names.length then
      some (items.map some ++ List.replicate (names.length - items.length) none)
    else none
  | _ => none

/-- A text that must be there. -/
def text? : Json.Slot → Option String
  | some (.string s) => some s
  | _ => none

/-- A text that is empty when it is absent. -/
def textOr? : Json.Slot → Option String
  | none => some ""
  | some (.string s) => some s
  | some _ => none

/-- A count that must be there. -/
def count? : Json.Slot → Option UInt32
  | some x => x.asCount?
  | none => none

/-- A list whose items are read by `item`; absent and null are the empty list. -/
def listOr? {α : Type} (item : Json → Option α) : Json.Slot → Option (List α)
  | none => some []
  | some .null => some []
  | some (.array items) => items.mapM item
  | some _ => none

end Json.Record

open Json.Record

/-! ### The status of a scan -/

/-- What the scanner knows about an image. -/
inductive ScanStatus where
  /-- The image was scanned. -/
  | succeeded
  /-- The scan failed. -/
  | failed
  /-- There is no result. -/
  | noData
deriving DecidableEq, Repr, Inhabited

namespace ScanStatus

/-- The status a word stands for; every word but two means that there is no result. -/
def ofLabel : String → ScanStatus
  | "Succeeded" => .succeeded
  | "Failed" => .failed
  | _ => .noData

/-- The word for a status. -/
def label : ScanStatus → String
  | .succeeded => "Succeeded"
  | .failed => "Failed"
  | .noData => "NoData"

/-- The status in JSON. -/
def toJson (s : ScanStatus) : Json := .string s.label

/-- The status of a field; there is no result when it is absent. -/
def ofSlot? : Json.Slot → Option ScanStatus
  | none => some .noData
  | some (.string s) => some (ofLabel s)
  | some _ => none

end ScanStatus

/-! ### Vulnerabilities, targets, scans -/

/-- A vulnerability of a package. -/
structure Vulnerability where
  /-- Its identifier in the catalogue of vulnerabilities. -/
  identifier : String := ""
  /-- The package it was found in. -/
  package : String := ""
  /-- The version found. -/
  installedVersion : String := ""
  /-- The version without it. -/
  fixedVersion : String := ""
  /-- A short description. -/
  title : String := ""
  /-- A long description. -/
  description : String := ""
  /-- Its severity label. -/
  severity : String := ""
  /-- Where to read about it. -/
  references : List String := []
deriving DecidableEq, Inhabited

namespace Vulnerability

/-- The names of the fields in JSON. -/
def fieldNames : List String :=
  ["VulnerabilityID", "PkgName", "InstalledVersion", "FixedVersion", "Title", "Description",
    "Severity", "References"]

/-- The parts of a document that are read as a vulnerability. -/
def selection : Json.Selection := .ofNames fieldNames

/-- A vulnerability in JSON. -/
def toJson (v : Vulnerability) : Json :=
  .object
    [("VulnerabilityID", .string v.identifier), ("PkgName", .string v.package),
      ("InstalledVersion", .string v.installedVersion), ("FixedVersion", .string v.fixedVersion),
      ("Title", .string v.title), ("Description", .string v.description),
      ("Severity", .string v.severity), ("References", Json.strings v.references)]

/-- Read a vulnerability; every field may be absent. -/
def ofJson? (x : Json) : Option Vulnerability := do
  match ← slots? fieldNames x with
  | [identifier, package, installed, fixed, title, description, severity, references] =>
    some {
      identifier := ← textOr? identifier
      package := ← textOr? package
      installedVersion := ← textOr? installed
      fixedVersion := ← textOr? fixed
      title := ← textOr? title
      description := ← textOr? description
      severity := ← textOr? severity
      references := ← listOr? Json.asString? references }
  | _ => none

end Vulnerability

/-- One target inside an image and what was found there. -/
structure ScanTarget where
  /-- The name of the target. -/
  name : String := ""
  /-- What was found. -/
  vulnerabilities : List Vulnerability := []
deriving DecidableEq, Inhabited

namespace ScanTarget

/-- The parts of a document that are read as a target. -/
def selection : Json.Selection :=
  .fields [("Target", .everything), ("Vulnerabilities", .items Vulnerability.selection)] none

/-- A target in JSON. -/
def toJson (t : ScanTarget) : Json :=
  .object [("Target", .string t.name),
    ("Vulnerabilities", .array (t.vulnerabilities.map Vulnerability.toJson))]

/-- Read a target; both fields may be absent. -/
def ofJson? (x : Json) : Option ScanTarget := do
  match ← slots? ["Target", "Vulnerabilities"] x with
  | [name, vulnerabilities] =>
    some {
      name := ← textOr? name
      vulnerabilities := ← listOr? Vulnerability.ofJson? vulnerabilities }
  | _ => none

end ScanTarget

/-- The scan of one image. -/
structure ImageScan where
  /-- The image. -/
  image : String
  /-- Whether it could be scanned. -/
  status : ScanStatus := .noData
  /-- What the scanner says about it. -/
  description : String := ""
  /-- The targets inside it. -/
  targets : List ScanTarget := []
deriving DecidableEq, Inhabited

namespace ImageScan

/-- All vulnerabilities of all targets. -/
def vulnerabilities (s : ImageScan) : List Vulnerability :=
  s.targets.flatMap (·.vulnerabilities)

/-- The parts of a document that are read as a scan. -/
def selection : Json.Selection :=
  .fields [("image", .everything), ("scanResult", .everything), ("description", .everything),
    ("targets", .items ScanTarget.selection)] none

/-- A scan in JSON. -/
def toJson (s : ImageScan) : Json :=
  .object [("image", .string s.image), ("scanResult", s.status.toJson),
    ("description", .string s.description), ("targets", .array (s.targets.map ScanTarget.toJson))]

/-- **Read a scan**; only the image must be there. -/
def ofJson? (x : Json) : Option ImageScan := do
  match ← slots? ["image", "scanResult", "description", "targets"] x with
  | [image, status, description, targets] =>
    some {
      image := ← text? image
      status := ← ScanStatus.ofSlot? status
      description := ← textOr? description
      targets := ← listOr? ScanTarget.ofJson? targets }
  | _ => none

end ImageScan

end ClusterAudit
