import ClusterAudit.Json.Basic
import ClusterAudit.Number.Shortest
import ClusterAudit.Text.Basic

/-!
# Writing JSON text

`Json.compact` writes a document on one line without blank space; `Json.pretty` writes every
item and field on a line of its own, two spaces deeper than the bracket it stands in, with
empty lists and objects closed at once.

Strings escape the quote, the backslash and the control characters below the space, and
nothing else.
-/

namespace ClusterAudit.Json

/-! ### Strings and numbers -/

/-- The written form of one character inside a string. -/
def escape (c : Char) : List Char :=
  if c = '\x22' then ['\\', '\x22']
  else if c = '\\' then ['\\', '\\']
  else if c = '\x08' then ['\\', 'b']
  else if c = '\x0c' then ['\\', 'f']
  else if c = '\n' then ['\\', 'n']
  else if c = '\r' then ['\\', 'r']
  else if c = '\t' then ['\\', 't']
  else if c.toNat < 0x20 then '\\' :: 'u' :: Text.hexPadded 4 c.toNat
  else [c]

/-- A string between its quotes. -/
def quoted (s : String) : String :=
  String.ofList ('\x22' :: s.toList.flatMap escape ++ ['\x22'])

/-- A positive decimal in positional form as long as its point lies within 16 digits after the first
one or within five before it, and with an exponent otherwise. -/
def decimalText (d : Binary64.Decimal) : String :=
  let ds := (Text.decimal d.digits).toList
  let trimmed := Text.dropTail (· == '0') ds
  let exponent := d.exponent + (ds.length - trimmed.length : Nat)
  let n : Int := trimmed.length
  let point := n + exponent
  String.ofList <|
    if 0 ≤ exponent ∧ point ≤ 16 then
      trimmed ++ List.replicate exponent.toNat '0' ++ ['.', '0']
    else if 0 < point ∧ point ≤ 16 then
      trimmed.take point.toNat ++ '.' :: trimmed.drop point.toNat
    else if -5 < point ∧ point ≤ 0 then
      '0' :: '.' :: List.replicate (-point).toNat '0' ++ trimmed
    else
      let e := (toString (point - 1)).toList
      match trimmed with
      | [c] => c :: 'e' :: e
      | c :: rest => c :: '.' :: rest ++ 'e' :: e
      | [] => []

/-- A number that is no integer. Only finite numbers have a text; the others are written as null. -/
def realText : Binary64 → String
  | .finite negative m e =>
    let body := if m = 0 then "0.0" else decimalText (Binary64.shortest m e)
    if negative then "-" ++ body else body
  | _ => "null"

/-- A value that holds no other value. -/
def atomText : Json → String
  | .null => "null"
  | .bool true => "true"
  | .bool false => "false"
  | .int n => toString n
  | .real x => realText x
  | .string s => quoted s
  | .array _ => "[]"
  | .object _ => "\x7b\x7d"

/-! ### Documents -/

mutual

/-- A document on one line. -/
def compact : Json → String
  | .array xs => "[" ++ Text.join "," (compactItems xs) ++ "]"
  | .object fs => "\x7b" ++ Text.join "," (compactFields fs) ++ "\x7d"
  | .null => "null"
  | .bool b => atomText (.bool b)
  | .int n => atomText (.int n)
  | .real x => atomText (.real x)
  | .string s => quoted s

/-- The items of a list on one line. -/
def compactItems : List Json → List String
  | [] => []
  | x :: xs => compact x :: compactItems xs

/-- The fields of an object on one line. -/
def compactFields : List (String × Json) → List String
  | [] => []
  | (k, x) :: fs => (quoted k ++ ":" ++ compact x) :: compactFields fs

end

/-- A new line, `depth` levels deep. -/
def newLine (depth : Nat) : String :=
  String.ofList ('\n' :: List.replicate (2 * depth) ' ')

/-- Lines between brackets, each one level deeper than `depth`. -/
def bracketed (depth : Nat) (opening closing : String) : List String → String
  | [] => opening ++ closing
  | l => opening ++ newLine (depth + 1) ++ Text.join ("," ++ newLine (depth + 1)) l
      ++ newLine depth ++ closing

mutual

/-- A document over several lines, `depth` levels deep. -/
def prettyAt (depth : Nat) : Json → String
  | .array xs => bracketed depth "[" "]" (prettyItems (depth + 1) xs)
  | .object fs => bracketed depth "\x7b" "\x7d" (prettyFields (depth + 1) fs)
  | .null => "null"
  | .bool b => atomText (.bool b)
  | .int n => atomText (.int n)
  | .real x => atomText (.real x)
  | .string s => quoted s

/-- The items of a list, `depth` levels deep. -/
def prettyItems (depth : Nat) : List Json → List String
  | [] => []
  | x :: xs => prettyAt depth x :: prettyItems depth xs

/-- The fields of an object, `depth` levels deep. -/
def prettyFields (depth : Nat) : List (String × Json) → List String
  | [] => []
  | (k, x) :: fs => (quoted k ++ ": " ++ prettyAt depth x) :: prettyFields depth fs

end

/-- **A document over several lines.** -/
def pretty (x : Json) : String :=
  prettyAt 0 x

end ClusterAudit.Json
