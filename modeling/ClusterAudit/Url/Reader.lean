import ClusterAudit.Url.Basic

/-!
# Reading addresses

An address must have a scheme; nothing is taken from elsewhere. Control characters and spaces
around it and tabs and ends of line inside it do not count. In addresses of special schemes a
backslash is a slash, any number of slashes may stand in front of the host, and dots are
resolved in the path.
-/

namespace ClusterAudit.Url

open Text

/-- The text without what does not count in an address. -/
def clean (s : String) : List Char :=
  (trim (fun c => c.toNat ≤ 0x20) s.toList).filter fun c => c ≠ '\t' && c ≠ '\n' && c ≠ '\r'

/-- The scheme in lower case and the text behind its colon. -/
def scheme? (cs : List Char) : Option (String × List Char) :=
  match cut ':' cs with
  | some (c :: name, rest) =>
    if c.isAlpha && name.all (fun d => d.isAlphanum || d = '+' || d = '-' || d = '.') then
      some (lower (String.ofList (c :: name)), rest)
    else none
  | _ => none

/-- Whether a character ends the part of an address that holds the host. -/
def endsAuthority (special : Bool) (c : Char) : Bool :=
  c = '/' || c = '?' || c = '#' || (special && c = '\\')

/-! ### Users, hosts and ports -/

/-- The name and password of a user, encoded; an empty password counts as none. -/
def userinfo (cs : List Char) : String × Option String :=
  match cut ':' cs with
  | none => (String.ofList (encode inUserinfo cs), none)
  | some (name, password) =>
    (String.ofList (encode inUserinfo name),
      if password.isEmpty then none else some (String.ofList (encode inUserinfo password)))

/-- What stands in front of the last at sign, if there is one, and what stands behind it. -/
def splitUserinfo (cs : List Char) : Option (List Char) × List Char :=
  if cs.contains '@' then
    let host := lastPiece '@' cs
    (some (cs.take (cs.length - host.length - 1)), host)
  else (none, cs)

/-- The host and what stands behind the colon after it. A colon between brackets does not count. -/
def splitPort : Bool → List Char → List Char × Option (List Char)
  | _, [] => ([], none)
  | inside, c :: cs =>
    if c = ':' && !inside then ([], some cs)
    else
      let (host, port) := splitPort (if c = '[' then true else if c = ']' then false else inside) cs
      (c :: host, port)

/-- The port of a run of digits; nothing is no port. -/
def port? (scheme : String) (cs : List Char) : Except Fault (Option Nat) :=
  if cs.isEmpty then .ok none
  else match natIn 10 cs with
    | some n =>
      if 65535 < n then .error .invalidPort
      else .ok (if defaultPort scheme = some n then none else some n)
    | none => .error .invalidPort

/-- The part of an address that holds the host, and what of it belongs to the path: a port ends at a
backslash. An at sign with no user in front of it needs something behind it, unless it is the
`last` character of the address. -/
def authority (scheme : String) (last : Bool) (cs : List Char) :
    Except Fault (Url × List Char) := do
  let special := isSpecial scheme
  let (user, cs) := splitUserinfo cs
  let (name, password) := userinfo (user.getD [])
  if user == some [] && cs.isEmpty && !last then throw .emptyHost
  let (hostText, portText) := splitPort false cs
  if special && hostText.isEmpty then throw .emptyHost
  let host ← if special then Host.ofSpecial? hostText else Host.ofOther? hostText
  if hostText.isEmpty && (portText.isSome || !name.isEmpty || password.isSome) then throw .emptyHost
  let (digits, behind) := (portText.getD []).span (· ≠ '\\')
  let port ← port? scheme digits
  return ({ scheme, username := name, password, host := some host, port }, behind)

/-! ### Paths -/

/-- Whether a segment means this directory. -/
def isDot (cs : List Char) : Bool :=
  let s := lower (String.ofList cs)
  s == "." || s == "%2e"

/-- Whether a segment means the directory above. -/
def isDoubleDot (cs : List Char) : Bool :=
  let s := lower (String.ofList cs)
  s == ".." || s == ".%2e" || s == "%2e." || s == "%2e%2e"

/-- Whether a segment is the letter of a drive. -/
def isDrive (s : String) : Bool :=
  match s.toList with
  | [c, d] => c.isAlpha && (d = ':' || d = '|')
  | _ => false

/-- Whether a segment is the letter of a drive in front of a backslash or nothing. -/
def beginsWithDrive (s : String) : Bool :=
  isDrive (String.ofList (s.toList.takeWhile (· ≠ '\\')))

/-- A segment as it is written: encoded, and the letter of a drive gets a colon where a file's path
begins. -/
def writtenSegment (file : Bool) (done : List String) (s : List Char) : String :=
  if file && done.isEmpty && isDrive (String.ofList s) then String.ofList (s.take 1 ++ [':'])
  else String.ofList (encode inPath s)

/-- The segments, in reverse, of the directory above one; no directory is above a drive. -/
def above : List String → List String
  | [] => []
  | d :: up => if beginsWithDrive d then d :: up else up

/-- Follow the segments of a path from the segments in `done`, which are in reverse. -/
def followSegments (file : Bool) : List (List Char) → List String → List String
  | [], done => done.reverse
  | s :: rest, done =>
    let final := rest.isEmpty
    if isDoubleDot s then
      let done := above done
      followSegments file rest (if final then "" :: done else done)
    else if isDot s then followSegments file rest (if final then "" :: done else done)
    else followSegments file rest (writtenSegment file done s :: done)

/-- The segments of a path, with all separators between them; in special schemes a backslash is one
too. -/
def relativePath (special file : Bool) (cs : List Char) : List String :=
  followSegments file
    (pieces '/' (if special then cs.map fun c => if c = '\\' then '/' else c else cs)) []

/-- The segments of a path. The separator that it starts with, if it does, is none between
segments. -/
def pathOf (special file : Bool) (cs : List Char) : List String :=
  relativePath special file (match cs with
    | c :: rest => if c = '/' || (special && c = '\\') then rest else cs
    | [] => [])

/-- The path of a file: empty segments in front do not count. -/
def filePath (segments : List String) : UrlPath :=
  match segments.dropWhile (· == "") with
  | [] => .segments [""]
  | path => .segments path

/-! ### Whole addresses -/

/-- The text in front of the query and the fragment, the query and the fragment. -/
def splitTail (cs : List Char) : List Char × Option (List Char) × Option (List Char) :=
  let (front, fragment) := match cut '#' cs with
    | some (a, b) => (a, some b)
    | none => (cs, none)
  match cut '?' front with
  | some (a, b) => (a, some b, fragment)
  | none => (front, none, fragment)

/-- The address of a special scheme behind its colon. -/
def ofSpecial (scheme : String) (front : List Char) : Except Fault Url := do
  let cs := front.dropWhile fun c => c = '/' || c = '\\'
  let (u, _) ← authority scheme false (cs.takeWhile fun c => !endsAuthority true c)
  let path := cs.dropWhile fun c => !endsAuthority true c
  return { u with path := .segments (pathOf true false path) }

/-- The address of a file behind the colon of its scheme. A path that begins with the letter of a
drive takes the place of the host. -/
def ofFile (front : List Char) : Except Fault Url := do
  let slash (c : Char) : Bool := c = '/' || c = '\\'
  let noHost (segments : List String) : Url :=
    { scheme := "file", host := some (.name ""), path := filePath segments }
  match front with
  | a :: b :: rest =>
    if slash a && slash b then
      let hostText := rest.takeWhile fun c => !endsAuthority true c
      let behind := rest.dropWhile fun c => !endsAuthority true c
      if isDrive (String.ofList hostText) then return noHost (relativePath true true rest)
      if hostText.isEmpty then return noHost (relativePath true true behind)
      let host ← Host.ofSpecial? hostText
      if host = .name "localhost" then return noHost (relativePath true true behind)
      let segments := pathOf true true behind
      if segments.head?.any isDrive then return noHost segments
      return { scheme := "file", host := some host, path := filePath segments }
    else return noHost (pathOf true true front)
  | _ => return noHost (pathOf true true front)

/-- The address of another scheme behind its colon; `last` tells whether neither a query nor a
fragment follows. -/
def ofOther (scheme : String) (last : Bool) (front : List Char) : Except Fault Url :=
  match front with
  | '/' :: '/' :: rest => do
    let path := rest.dropWhile fun c => !endsAuthority false c
    let (u, behind) ← authority scheme (last && path.isEmpty)
      (rest.takeWhile fun c => !endsAuthority false c)
    let path := behind ++ path
    return { u with path := .segments (if path.isEmpty then [] else pathOf false false path) }
  | '/' :: _ => .ok { scheme, path := .segments (pathOf false false front) }
  | _ => .ok { scheme, path := .opaqueText (String.ofList (encode isControl front)) }

/-- **Read an address.** -/
def parse (s : String) : Except Fault Url := do
  match scheme? (clean s) with
  | none => throw .noScheme
  | some (scheme, rest) =>
    let (front, query, fragment) := splitTail rest
    let u ←
      if scheme == "file" then ofFile front
      else if isSpecial scheme then ofSpecial scheme front
      else ofOther scheme (query.isNone && fragment.isNone) front
    let special := isSpecial scheme
    return { u with
      query := query.map fun q => String.ofList (encode (inQuery special) q)
      fragment := fragment.map fun f => String.ofList (encode inFragment f) }

end ClusterAudit.Url
