import ClusterAudit.Url.Host

/-!
# Addresses

An address has a scheme and then either a host with everything around it and a path of
segments, or just a text that only its scheme understands. Addresses of the second sort cannot
carry segments. `Url.text` is the canonical text of an address.
-/

namespace ClusterAudit

open Url

/-- The path of an address. -/
inductive UrlPath where
  /-- Segments between slashes. -/
  | segments (l : List String)
  /-- A text that is no path. -/
  | opaqueText (s : String)
deriving DecidableEq, Inhabited

/-- An address. -/
structure Url where
  /-- The scheme, in lower case. -/
  scheme : String
  /-- The name of a user. -/
  username : String := ""
  /-- The password of a user. -/
  password : Option String := none
  /-- The host. -/
  host : Option Host := none
  /-- The port, unless it is the one of the scheme. -/
  port : Option Nat := none
  /-- The path. -/
  path : UrlPath := .segments []
  /-- What stands behind the question mark. -/
  query : Option String := none
  /-- What stands behind the number sign. -/
  fragment : Option String := none
deriving DecidableEq, Inhabited

namespace Url

/-- The port that a special scheme stands for; none for other schemes. -/
def defaultPort : String → Option Nat
  | "http" => some 80
  | "ws" => some 80
  | "https" => some 443
  | "wss" => some 443
  | "ftp" => some 21
  | _ => none

/-- Whether addresses of a scheme always have a host and a path. -/
def isSpecial (scheme : String) : Bool :=
  scheme == "file" || (defaultPort scheme).isSome

/-- Whether the address has a path of segments. -/
def hasSegments (u : Url) : Bool :=
  match u.path with
  | .segments _ => true
  | .opaqueText _ => false

/-- The segments of the path, none if the path is no path. -/
def pathSegments (u : Url) : List String :=
  match u.path with
  | .segments l => l
  | .opaqueText _ => []

/-- The name and password of a user, as they stand in front of the host. -/
def userinfoText (u : Url) : String :=
  match u.username, u.password with
  | "", none => ""
  | name, none => name ++ "@"
  | name, some p => name ++ ":" ++ p ++ "@"

/-- The host with what stands around it. A path without a host must not start with two slashes. -/
def authorityText (u : Url) : String :=
  match u.host with
  | some h => "//" ++ u.userinfoText ++ h.text ++ (match u.port with
    | some p => ":" ++ Text.decimal p
    | none => "")
  | none => match u.pathSegments with
    | "" :: _ :: _ => "/."
    | _ => ""

/-- The path as text. -/
def pathText (u : Url) : String :=
  match u.path with
  | .segments l => String.join (l.map ("/" ++ ·))
  | .opaqueText s => s

/-- **The text of an address.** -/
def text (u : Url) : String :=
  u.scheme ++ ":" ++ u.authorityText ++ u.pathText
    ++ (match u.query with
      | some q => "?" ++ q
      | none => "")
    ++ (match u.fragment with
      | some f => "#" ++ f
      | none => "")

/-- The address without the name and password of a user, which requests carry apart. What is no
text when it is decoded cannot be carried so, and stays. -/
def withoutUserinfo (u : Url) : Url :=
  let carried? (s : String) : Option String := Utf8.decode? (decode s.toList)
  match carried? u.username with
  | none => u
  | some name =>
    if name.isEmpty && (u.password.bind carried?).isNone then u
    else { u with username := "", password := none }

end Url

end ClusterAudit
