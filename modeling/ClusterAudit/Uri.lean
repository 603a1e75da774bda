import ClusterAudit.Text.Basic

/-!
# References to services

A reference says where a request goes, in the form in which requests carry it: either a scheme, an
authority and a path, or a path alone, or an authority alone. Nothing in it is decoded or put into
another form, and a character that has no place in it makes it no reference. What stands behind a
number sign does not belong to it. A sender has to encode characters outside ASCII in paths and
queries, and a receiver takes them as they are.
-/

namespace ClusterAudit

/-- A reference. -/
structure Uri where
  /-- The scheme as it is written. -/
  scheme : Option String := none
  /-- The authority: a host with what stands around it. -/
  authority : Option String := none
  /-- The path. It is empty only next to a lone authority. -/
  path : String := ""
  /-- What stands behind the question mark. -/
  query : Option String := none
deriving DecidableEq, Repr, Inhabited

namespace Uri

/-! ### Characters -/

/-- Whether a character may stand in an authority. -/
def isAuthorityChar (c : Char) : Bool :=
  c.isAlphanum || "!#$&\x27()*+,-./:;=?@[]_~".toList.contains c

/-- Who reads a reference. -/
inductive Side where
  /-- Who sends requests. -/
  | sender
  /-- Who receives them. -/
  | receiver
deriving DecidableEq, Repr, Inhabited

/-- Whether a character may stand in some part of a reference. -/
def isSpelled (side : Side) (c : Char) : Bool :=
  decide (0x21 ≤ c.toNat) && (side == .receiver || decide (c.toNat ≤ 0x7E))

/-- Whether a character may stand in a path. -/
def isPathChar (side : Side) (c : Char) : Bool :=
  isSpelled side c && !"#<>?\x60".toList.contains c

/-- Whether a character may stand in a query. -/
def isQueryChar (side : Side) (c : Char) : Bool :=
  isSpelled side c && !"\x22#<>".toList.contains c

/-- Whether a character may stand in a scheme. -/
def isSchemeChar (c : Char) : Bool :=
  c.isAlphanum || c == '+' || c == '-' || c == '.'

/-! ### Parts -/

/-- The longest scheme, unless it is one for requests. -/
def longestScheme : Nat := 64

/-- The scheme in front of a text, if one is there, and the text behind its colon and slashes. The
answer is none when it is too long. -/
def readScheme (cs : List Char) : Option (Option String × List Char) :=
  let scheme := cs.takeWhile isSchemeChar
  match cs.drop scheme.length with
  | ':' :: '/' :: '/' :: rest =>
    if scheme.length ≤ longestScheme then some (some (String.ofList scheme), rest) else none
  | _ => some (none, cs)

/-- What has been seen of an authority. -/
structure Authority where
  /-- How many colons stand in it that may be in front of a port. -/
  colons : Nat := 0
  /-- Whether a bracket has been opened. -/
  opened : Bool := false
  /-- Whether a bracket has been closed. -/
  closed : Bool := false
  /-- Whether a percent sign stands where none may stay. -/
  percent : Bool := false
  /-- Whether an at sign is the last character. -/
  atSign : Bool := false
deriving Inhabited

namespace Authority

/-- How many colons there may be at most, those between brackets included. -/
def mostColons : Nat := 8

/-- Look at one more character. Behind an at sign or a bracket what stood in front of it is no
longer looked at. -/
def push? (a : Authority) (c : Char) : Option Authority :=
  let a := { a with atSign := false }
  if c = ':' then
    if mostColons ≤ a.colons then none else some { a with colons := a.colons + 1 }
  else if c = '[' then if a.percent || a.opened then none else some { a with opened := true }
  else if c = ']' then
    if !a.opened || a.closed then none
    else some { a with closed := true, colons := 0, percent := false }
  else if c = '@' then some { a with colons := 0, percent := false, atSign := true }
  else if c = '%' then some { a with percent := true }
  else if isAuthorityChar c then some a else none

/-- Whether an authority may end so. -/
def isComplete (a : Authority) : Bool :=
  a.opened == a.closed && decide (a.colons ≤ 1) && !a.atSign && !a.percent

end Authority

/-- The authority in front of a path, a query or a fragment, and the text behind it. -/
def readAuthority (cs : List Char) : Option (List Char × List Char) :=
  let text := cs.takeWhile fun c => c ≠ '/' && c ≠ '?' && c ≠ '#'
  match text.foldlM Authority.push? {} with
  | some a => if a.isComplete then some (text, cs.drop text.length) else none
  | none => none

/-- A path and a query. -/
def readPath (side : Side) (cs : List Char) : Option (List Char × Option (List Char)) :=
  let sent := cs.takeWhile (· ≠ '#')
  let (path, query) := match Text.cut '?' sent with
    | some (path, query) => (path, some query)
    | none => (sent, none)
  if path.all (isPathChar side) && (query.getD []).all (isQueryChar side) then some (path, query)
  else none

/-! ### References -/

/-- A reference that is a path with a query. -/
def ofPath? (side : Side) (cs : List Char) : Option Uri :=
  (readPath side cs).map fun (path, query) =>
    { path := String.ofList path, query := query.map String.ofList }

/-- The longest reference in bytes. -/
def longest : Nat := 65534

/-- **Read a reference.** -/
def parse? (side : Side) (s : String) : Option Uri :=
  if longest < s.utf8ByteSize then none
  else match s.toList with
    | [] => none
    | ['*'] => some { path := "*" }
    | '/' :: cs => ofPath? side ('/' :: cs)
    | cs => do
      let (scheme, rest) ← readScheme cs
      let (authority, rest) ← readAuthority rest
      let authorityText := String.ofList authority
      match scheme with
      | none => if rest.isEmpty then some { authority := some authorityText } else none
      | some scheme =>
        if authority.isEmpty then none
        else
          let u ← ofPath? side rest
          let path := if u.path.isEmpty then "/" else u.path
          some { scheme := some scheme, authority := some authorityText, path, query := u.query }

/-- **The text of a reference.** -/
def text (u : Uri) : String :=
  (match u.scheme with
    | some s => s ++ "://"
    | none => "")
    ++ u.authority.getD "" ++ u.path
    ++ (match u.query with
      | some q => "?" ++ q
      | none => "")

/-- The path without slashes at its end. -/
def trimmedPath (u : Uri) : String :=
  String.ofList (Text.dropTail (· == '/') u.path.toList)

/-- Whether requests can be sent to what has this scheme. -/
def isRequestScheme (scheme : String) : Bool :=
  Text.lower scheme == "http" || Text.lower scheme == "https"

end Uri

end ClusterAudit
