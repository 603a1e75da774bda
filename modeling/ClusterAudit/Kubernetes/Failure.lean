import ClusterAudit.Exchange
import ClusterAudit.Json.Selection
import ClusterAudit.Text.Shown
import ClusterAudit.Vulnerability.Scan

/-!
# When the server of a cluster refuses

A server that refuses a request explains itself in a record. `ApiFailure.ofReply` reads the record
from the body of the answer; when the body is none, the record is made up from the status, with the
body itself, between quotes, as the message.
-/

namespace ClusterAudit

open Json.Record

/-- How a server explains that it refuses a request. -/
structure ApiFailure where
  /-- Its status. -/
  status : String
  /-- What it says. -/
  message : String
  /-- The reason in a word. -/
  reason : String
  /-- The number of the status. -/
  code : Nat
deriving DecidableEq, Inhabited

namespace ApiFailure

/-- A character of a text between quotes. -/
def quotedChar (c : Char) : List Char :=
  if c = '\x22' then ['\\', '\x22']
  else if c = '\\' then ['\\', '\\']
  else if c = '\n' then ['\\', 'n']
  else if c = '\r' then ['\\', 'r']
  else if c = '\t' then ['\\', 't']
  else if c = '\x00' then ['\\', '0']
  else if Text.isShown c then [c]
  else '\\' :: 'u' :: '{' :: Nat.toDigits 16 c.toNat ++ ['}']

/-- A text between quotes, with what cannot be shown escaped. -/
def quoted (s : String) : String :=
  String.ofList ('\x22' :: s.toList.flatMap quotedChar ++ ['\x22'])

/-- The explanation in words, and then field by field. -/
def text (f : ApiFailure) : String :=
  "ApiError: " ++ f.message ++ ": " ++ f.reason ++ " (ErrorResponse \x7b status: "
    ++ quoted f.status ++ ", message: " ++ quoted f.message ++ ", reason: " ++ quoted f.reason
    ++ ", code: " ++ Text.decimal f.code ++ " \x7d)"

/-- The reason when a refusal does not explain itself. -/
def unexplained : String := "Failed to parse error data"

/-- The fields of the record. -/
def fieldNames : List String := ["status", "message", "reason", "code"]

/-- The explanation that a document gives. -/
def ofJson? (x : Json) : Option ApiFailure := do
  match ← slots? fieldNames x with
  | [status, message, reason, code] =>
    let code ← count? code
    if code.toNat < UInt16.size then
      some {
        status := ← text? status
        message := ← textOr? message
        reason := ← textOr? reason
        code := code.toNat }
    else none
  | _ => none

/-- **The explanation of a refusal** with this status and body. -/
def ofReply (status : Nat) (body : String) : ApiFailure :=
  match (Json.select? (.ofNames fieldNames) body).bind ofJson? with
  | some f => f
  | none =>
    { status := failureText status, message := quoted body, reason := unexplained, code := status }

end ApiFailure

/-- Why the server of a cluster did not give what it was asked for. -/
inductive ApiFault where
  /-- It refused. -/
  | refused (f : ApiFailure)
  /-- It sent something that is no answer. -/
  | undecodable
  /-- It cannot be reached. -/
  | unreachable
  /-- Its address is a path. -/
  | incomplete
  /-- Its address has no scheme. -/
  | withoutScheme
  /-- Its address has a scheme that is not for requests. -/
  | otherScheme (scheme : String)
deriving DecidableEq, Inhabited

/-- The words for what the server of a cluster did not give. -/
def ApiFault.message : ApiFault → String
  | .refused f => f.text
  | .undecodable => "Error deserializing response"
  | .unreachable =>
    "HyperError: error trying to connect: tcp connect error: Network is unreachable (os error 101)"
  | .incomplete => "HyperError: client requires absolute-form URIs"
  | .withoutScheme => "ServiceError: buffer's worker closed unexpectedly"
  | .otherScheme scheme => "HyperError: error trying to connect: Unsupported scheme " ++ scheme

end ClusterAudit
