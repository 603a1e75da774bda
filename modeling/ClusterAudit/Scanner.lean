import ClusterAudit.Exchange
import ClusterAudit.Json.Printer
import ClusterAudit.Url.Extend
import ClusterAudit.Vulnerability.Summary

/-!
# The scanner service

The scanner is a service below a base address. It is asked to scan images, for the summaries of
images and for the whole scan of one image, and each of the three has an address of its own below
the base.

A lookup asks for the summaries of images and keeps the last one of each; without images there is
nothing to ask. What it brings never depends on the request to scan, which is sent without
waiting for its answer.
-/

namespace ClusterAudit

/-- Why the scanner does not answer. -/
inductive ScannerFault where
  /-- Its address is none. -/
  | invalidUrl (url : String) (cause : Url.Fault)
  /-- Nothing can be below its address. -/
  | notABase (url : String)
  /-- A request failed. -/
  | exchange (cause : ExchangeFault)
deriving DecidableEq, Inhabited

/-- The words for a scanner that does not answer. -/
def ScannerFault.message : ScannerFault → String
  | .invalidUrl url cause => "invalid scanner url '" ++ url ++ "': " ++ cause.message
  | .notABase url => "scanner url '" ++ url ++ "' cannot carry path segments"
  | .exchange cause => "scanner request failed: " ++ cause.message

/-- The scanner service. -/
structure Scanner where
  /-- The address that all others are below. -/
  base : Url
  /-- Addresses can be below it. -/
  hasSegments : base.hasSegments = true

namespace Scanner

/-- **The scanner at an address.** -/
def ofUrl? (text : String) : Except ScannerFault Scanner :=
  match Url.parse text with
  | .error e => .error (.invalidUrl text e)
  | .ok base => if h : base.hasSegments = true then .ok ⟨base, h⟩ else .error (.notABase text)

/-! ### Requests -/

/-- The address with these segments below the base. -/
def endpoint (s : Scanner) (segments : List String) : Url :=
  match s.base.extend? segments with
  | some u => u
  | none => s.base

/-- The request to scan images. -/
def scanRequest (s : Scanner) (images : List String) : Request where
  method := "POST"
  url := s.endpoint ["scan", "images"]
  contentType := some "application/json"
  body := (Json.strings images).compact

/-- The address of the summaries of images. -/
def resultsUrl (s : Scanner) (images : List String) : Url :=
  (s.endpoint ["scan-results", "trivy"]).appendFields (images.map fun i => ("images", i))

/-- The address of the scan of an image. -/
def detailsUrl (s : Scanner) (image : String) : Url :=
  s.endpoint ["scan-results", "trivy", image]

/-! ### Answers -/

/-- The summaries of a document. -/
def summaries? (x : Json) : Option (List ScanSummary) := do
  let items ← x.asArray?
  items.mapM ScanSummary.ofJson?

/-- The parts of a list of summaries that are read. -/
def listSelection : Json.Selection := .items ScanSummary.selection

/-- What an answer has to be, as far as it is read. -/
def decoded {α : Type} (wanted : Json.Selection) (read : Json → Option α) :
    Except ExchangeFault String → Except ScannerFault α
  | .error e => .error (.exchange e)
  | .ok body =>
    match (Json.select? wanted body).bind read with
    | some a => .ok a
    | none => .error (.exchange .undecodable)

/-- Ask for a scan of images and wait until the request is accepted. -/
def requestScan (s : Scanner) (net : Network) (images : List String) : Except ScannerFault Unit :=
  match net.send (s.scanRequest images) with
  | .error e => .error (.exchange e)
  | .ok _ => .ok ()

/-- **The summaries of images**, as the scanner lists them and each with its counters in order. -/
def results (s : Scanner) (net : Network) (images : List String) :
    Except ScannerFault (List ScanSummary) :=
  (decoded listSelection summaries? (net.send { method := "GET", url := s.resultsUrl images })).map
    (·.map ScanSummary.sortCounters)

/-- **The whole scan of an image.** -/
def details (s : Scanner) (net : Network) (image : String) : Except ScannerFault ImageScan :=
  decoded ImageScan.selection ImageScan.ofJson?
    (net.send { method := "GET", url := s.detailsUrl image })

end Scanner

/-! ### Lookups -/

/-- Summaries by image; of two summaries of one image the last one counts. -/
def ScanSummary.tableOf (l : List ScanSummary) : Table ScanSummary :=
  .ofList (l.map fun s => (s.image, s))

/-- What brings the summaries of the images it is asked for. -/
abbrev Lookup := List String → Except ScannerFault (Table ScanSummary)

namespace Lookup

/-- The lookup in a table of summaries, which answers only for what it is asked. -/
def ofTable (t : Table ScanSummary) : Lookup := fun images =>
  .ok (.ofList (images.filterMap fun i => (t.get? i).map fun s => (i, s)))

/-- The lookup in the summaries of a scanner. -/
def ofScanner (net : Network) (s : Scanner) : Lookup := fun images =>
  if images.isEmpty then .ok .empty
  else (s.results net images).map ScanSummary.tableOf

end Lookup

end ClusterAudit
