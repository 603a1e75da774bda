import ClusterAudit.Metrics
import ClusterAudit.Uri
import ClusterAudit.Url.Percent
import ClusterAudit.Vulnerability.Details

/-!
# The service

Served over HTTP, every request for a report runs an audit of its own. `BasePath.route?` says what a
path below the base asks for, and `Service.answer` what is answered and what becomes of the
metrics. Nothing else is kept between requests, so an answer other than that of the metrics
depends on nothing but the request and what the service is made of.
-/

namespace ClusterAudit

/-! ### Requests and answers -/

/-- A request to the service. -/
structure ServedRequest where
  /-- The method. -/
  method : String
  /-- The path, still encoded. -/
  path : List Char
  /-- What stands behind the question mark. -/
  query : List Char := []
deriving DecidableEq, Inhabited

/-- The request with a method for a target. Of the target only the path and the query count. -/
def ServedRequest.ofTarget (method : String) (target : Uri) : ServedRequest where
  method := method
  path := target.path.toList
  query := (target.query.getD "").toList

/-- An answer of the service. -/
structure Answer where
  /-- The status. -/
  status : Nat
  /-- The type of the body, unless there is none. -/
  contentType : Option String := none
  /-- The body. -/
  body : String := ""
deriving DecidableEq, Inhabited

namespace Answer

/-- An answer in words. -/
def text (status : Nat) (body : String) : Answer where
  status := status
  contentType := some "text/plain; charset=utf-8"
  body := body

/-- An answer with a document. -/
def json (x : Json) : Answer where
  status := 200
  contentType := some "application/json"
  body := x.compact

/-- The answer that there is nothing at a path. -/
def notFound : Answer where
  status := 404

/-- The answer that a method does not fit what is at a path. -/
def methodNotAllowed : Answer where
  status := 405

/-- The answer without its body. -/
def withoutBody (a : Answer) : Answer :=
  { a with body := "" }

end Answer

/-! ### Routes -/

/-- What a path asks for. -/
inductive Route where
  /-- Whether the service is alive. -/
  | health
  /-- A report. -/
  | results
  /-- The usages of images. -/
  | images
  /-- The details of an image, whose name is still encoded. -/
  | image (tag : List Char)
  /-- The metrics. -/
  | metrics
deriving DecidableEq, Inhabited

namespace Route

/-- Where the details of images are. -/
def imagePath : List Char := "/image/".toList

/-- What a path asks for, without the base path in front. -/
def ofTail? (path : List Char) : Option Route :=
  if path = "/health".toList then some .health
  else if path = "/results.json".toList then some .results
  else if path = "/images.json".toList then some .images
  else if path = "/metrics".toList then some .metrics
  else if imagePath.isPrefixOf path && imagePath.length < path.length then
    some (.image (path.drop imagePath.length))
  else none

end Route

/-! ### Base paths -/

/-- A name in a path and what stands there, still encoded. -/
abbrev PathArgument := List Char × List Char

/-- A segment of the base path: a text, behind which a name may stand for anything. -/
structure BaseSegment where
  /-- The text. -/
  start : List Char
  /-- The name. -/
  name : Option (List Char) := none
deriving DecidableEq, Inhabited

namespace BaseSegment

/-- The segment that is written so. A colon is in front of the name, which must not be empty and
must not hold another colon. -/
def ofText? (cs : List Char) : Option BaseSegment :=
  match Text.cut ':' cs with
  | none => some { start := cs }
  | some (start, name) =>
    if name.isEmpty || name.contains ':' then none else some { start, name := some name }

/-- What a segment of a path gives for the name, if it fits. -/
def arguments? (s : BaseSegment) (cs : List Char) : Option (List PathArgument) :=
  match s.name with
  | none => if cs = s.start then some [] else none
  | some n => if s.start.isPrefixOf cs then some [(n, cs.drop s.start.length)] else none

end BaseSegment

/-- What stands in front of all paths. -/
abbrev BasePath := List BaseSegment

namespace BasePath

/-- How many names a base path can hold, and one more. -/
def nameBound : Nat := 26

/-- **The base path that is written so.** Slashes at the end do not count, any other base path
begins with one, and no star stands in it. -/
def ofText? (base : String) : Option BasePath :=
  match Text.dropTail (· == '/') base.toList with
  | [] => some []
  | '/' :: cs =>
    if cs.contains '*' then none
    else ((Text.pieces '/' cs).mapM BaseSegment.ofText?).filter fun b =>
      (b.filterMap BaseSegment.name).length < nameBound
  | _ => none

/-- What the segments of a path give for the names, and the segments behind the base path. -/
def below? : BasePath → List (List Char) → Option (List PathArgument × List (List Char))
  | [], l => some ([], l)
  | _ :: _, [] => none
  | s :: b, cs :: l =>
    match s.arguments? cs, below? b l with
    | some found, some (more, rest) => some (found ++ more, rest)
    | _, _ => none

/-- **What a path below the base path asks for**, and what it gives for the names. -/
def route? (b : BasePath) (path : List Char) : Option (Route × List PathArgument) :=
  match Text.pieces '/' path with
  | [] :: segments =>
    match b.below? segments with
    | some (found, rest) => (Route.ofTail? (rest.flatMap ('/' :: ·))).map fun r => (r, found)
    | none => none
  | _ => none

end BasePath

/-! ### The service -/

/-- What the service is made of. -/
structure Service where
  /-- The configuration. -/
  configuration : Configuration
  /-- Where snapshots are taken from. -/
  source : SnapshotSource
  /-- The scanner, if there is one. -/
  scanner : Option Scanner := none
  /-- What the service can reach. -/
  surroundings : Surroundings := {}
  /-- What stands in front of all paths. -/
  base : BasePath := []

namespace Service

/-- The snapshot of the moment. -/
def snapshot (s : Service) : Except SnapshotFault Snapshot :=
  s.source.fetch s.surroundings

/-- The lookup of the scanner. -/
def lookup (s : Service) : Option Lookup :=
  s.scanner.map (Lookup.ofScanner s.surroundings.network)

/-- The name of the field that overrides whether exemptions count. -/
def overrideField : String := "disallowExemptions"

/-- What the value of the field overrides. Only two words do. -/
def overrideOf : List String → Option Bool
  | ["true"] => some true
  | ["false"] => some false
  | _ => none

/-- The values of the field in a query. -/
def overrideValues (query : List Char) : List String :=
  ((Url.formFields query).filter fun f => f.1 == overrideField).map (·.2)

/-- The configuration for a request with these values of the field. -/
def configurationFor (s : Service) (values : List String) : Configuration :=
  s.configuration.override { disallowExemptions := overrideOf values }

/-- The audit for a request with these values of the field. -/
def audit (s : Service) (values : List String) : Except AuditFault Report :=
  Audit.run (s.configurationFor values) s.snapshot s.lookup

/-- The answer with the result of an audit. -/
def auditAnswer : Except AuditFault Report → Answer
  | .ok r => .json r.toJson
  | .error e => .text 500 ("audit failed: " ++ e.message)

/-- The answer to a request for a report. The field must not stand twice in the query. -/
def resultsAnswer (s : Service) (m : Metrics) (query : List Char) : Answer × Metrics :=
  match overrideValues query with
  | _ :: _ :: _ =>
    (.text 400
      ("Failed to deserialize query string: duplicate field \x60" ++ overrideField ++ "\x60"), m)
  | values =>
    let result := s.audit values
    (auditAnswer result, m.record result)

/-- The answer when there is no scanner. -/
def noScanner : Answer := .text 404 "vulnerability scanner is not configured"

/-- The answer to a request for the usages of images. -/
def imagesAnswer (s : Service) : Answer :=
  match s.lookup with
  | none => noScanner
  | some lookup =>
    match Audit.imageUsage s.configuration s.snapshot lookup with
    | .ok l => .json (ImageUsage.listToJson l)
    | .error e => .text 500 ("image summary failed: " ++ e.message)

/-- The answer to a request for the details of an image. -/
def detailsAnswer (s : Service) (image : String) : Answer :=
  match s.scanner with
  | none => noScanner
  | some scanner =>
    match scanner.details s.surroundings.network image with
    | .ok scan => .json (ScanDetails.ofScan scan).toJson
    | .error e => .text 502 ("scanner request failed: " ++ e.message)

/-- What stands for a name in a path, as text, or the name if it is none. -/
def argumentText (a : PathArgument) : Except (List Char) String :=
  match Utf8.decode? (Url.decode a.2) with
  | some s => .ok s
  | none => .error a.1

/-- The answer to a request for the details of an image whose path gives this for its names. The
name of the image must be the only one. -/
def imageAnswer (s : Service) (arguments : List PathArgument) : Answer :=
  match arguments.mapM argumentText with
  | .error name =>
    .text 400 ("Invalid URL: Invalid UTF-8 in \x60" ++ String.ofList name ++ "\x60")
  | .ok [image] => s.detailsAnswer image
  | .ok l =>
    .text 500 ("Wrong number of path arguments for \x60Path\x60. Expected 1 but got "
      ++ Text.decimal l.length ++ ". Note that multiple parameters must be extracted with a tuple "
      ++ "\x60Path<(_, _)>\x60 or a struct \x60Path<YourParams>\x60")

/-- What is answered on a route, whose path gives this for the names in the base path. -/
def routeAnswer (s : Service) (m : Metrics) (query : List Char) (arguments : List PathArgument) :
    Route → Answer × Metrics
  | .health => (.text 200 "OK", m)
  | .results => s.resultsAnswer m query
  | .images => (s.imagesAnswer, m)
  | .image tag => (s.imageAnswer (arguments ++ [("tag".toList, tag)]), m)
  | .metrics => (.text 200 m.render, m)

/-- **What is answered to a request, and what becomes of the metrics.** A request for the head of an
answer gets it without its body. -/
def answer (s : Service) (m : Metrics) (r : ServedRequest) : Answer × Metrics :=
  match s.base.route? r.path with
  | none => (.notFound, m)
  | some (route, found) =>
    if r.method = "GET" then s.routeAnswer m r.query found route
    else if r.method = "HEAD" then
      let (a, m) := s.routeAnswer m r.query found route
      (a.withoutBody, m)
    else (.methodNotAllowed, m)

/-- What is answered to requests one after the other. -/
def answers (s : Service) (m : Metrics) : List ServedRequest → List Answer × Metrics
  | [] => ([], m)
  | r :: rs =>
    let (a, m) := s.answer m r
    let (l, m) := s.answers m rs
    (a :: l, m)

end Service

end ClusterAudit
