import ClusterAudit.Url.Reader

/-!
# Adding to addresses

Requests are sent to addresses below a given one: segments are added to its path and fields to
its query. A segment is encoded so that it stays one segment. Tabs and ends of line in a segment
do not count, as everywhere in an address, and segments that mean a directory are left out.
-/

namespace ClusterAudit.Url

/-- The segments without an empty one at the end; a path of a single empty segment stays. -/
def popEmpty (l : List String) : List String :=
  if 1 < l.length && l.getLast? == some "" then l.dropLast else l

/-- Add a segment to a path. The path of a single empty segment is as good as none. -/
def pushSegment (special : Bool) (l : List String) (segment : String) : List String :=
  if segment == "." || segment == ".." then l
  else
    let cs := segment.toList.filter fun c => c ≠ '\t' && c ≠ '\n' && c ≠ '\r'
    let l := if l = [""] then [] else l
    let s := String.ofList (encode (inSegment special) cs)
    if s == ".." then l.dropLast ++ [""] else if s == "." then l ++ [""] else l ++ [s]

/-- The address below `u` with these segments behind its own, if it has segments at all. -/
def extend? (u : Url) (added : List String) : Option Url :=
  match u.path with
  | .opaqueText _ => none
  | .segments l =>
    some { u with path := .segments (added.foldl (pushSegment (isSpecial u.scheme)) (popEmpty l)) }

/-- A field of a form as text. -/
def fieldText (name value : String) : String :=
  String.ofList (formEncode name ++ '=' :: formEncode value)

/-- The address with fields added to its query. -/
def appendFields (u : Url) (fields : List (String × String)) : Url :=
  let added := fields.map fun f => fieldText f.1 f.2
  let old := match u.query with
    | none => []
    | some "" => []
    | some q => [q]
  { u with query := some (Text.join "&" (old ++ added)) }

end ClusterAudit.Url
