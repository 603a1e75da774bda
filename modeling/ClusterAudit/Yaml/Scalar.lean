import ClusterAudit.Number.Binary64
import ClusterAudit.Text.Basic
import ClusterAudit.Yaml.Node

/-!
# What a plain scalar stands for

Text without quotes may be null, a truth value, an integer, a number or just text. The rules are
those of the core schema, with three points that matter here: digits behind a leading zero are
text, an integer may be written in base 16, 8 or 2 behind a mark, and a number must be finite
unless it is one of the words for infinity and for no number.
-/

namespace ClusterAudit.Yaml

open Text

/-- What a scalar stands for. -/
inductive Scalar where
  /-- Null. -/
  | null
  /-- A truth value. -/
  | bool (b : Bool)
  /-- An integer. -/
  | int (n : Int)
  /-- A number that is no integer. -/
  | real (x : Binary64)
  /-- Text. -/
  | text (s : String)
deriving DecidableEq, Inhabited

namespace Scalar

/-- Whether a text is one of the words for null. -/
def isNull (s : String) : Bool :=
  s == "null" || s == "Null" || s == "NULL" || s == "~"

/-- The truth value of a word. -/
def bool? (s : String) : Option Bool :=
  if s == "true" || s == "True" || s == "TRUE" then some true
  else if s == "false" || s == "False" || s == "FALSE" then some false
  else none

/-- The text behind a sign, if there is one. -/
def unsigned : List Char → List Char
  | '-' :: cs => cs
  | '+' :: cs => cs
  | cs => cs

/-- Whether a text is a zero with more digits behind it. -/
def isZeroPadded (cs : List Char) : Bool :=
  match unsigned cs with
  | '0' :: d :: ds => (d :: ds).all Char.isDigit
  | _ => false

/-- The number of a text with a mark for its base, or of decimal digits. -/
def nat? : List Char → Option Nat
  | '0' :: 'x' :: cs => natIn 16 cs
  | '0' :: 'o' :: cs => natIn 8 cs
  | '0' :: 'b' :: cs => natIn 2 cs
  | cs => natIn 10 cs

/-- The integer that a text stands for, of any size. -/
def int? (cs : List Char) : Option Int :=
  if isZeroPadded cs then none
  else match cs with
    | '-' :: cs => (nat? cs).map fun n => -(n : Int)
    | '+' :: cs => (nat? cs).map fun n => (n : Int)
    | cs => (nat? cs).map fun n => (n : Int)

/-- The digits of a decimal with at most one point, and how many of them stand behind it. -/
def decimal? (cs : List Char) : Option (Nat × Nat) :=
  let whole := cs.takeWhile Char.isDigit
  match cs.dropWhile Char.isDigit with
  | [] => (natIn 10 whole).map (·, 0)
  | '.' :: frac =>
    if frac.all Char.isDigit then (natIn 10 (whole ++ frac)).map (·, frac.length) else none
  | _ => none

/-- The exponent of a number. -/
def exponent? : List Char → Option Int
  | '-' :: cs => (natIn 10 cs).map fun n => -(n : Int)
  | '+' :: cs => (natIn 10 cs).map fun n => (n : Int)
  | cs => (natIn 10 cs).map fun n => (n : Int)

/-- The finite number of a text without a sign. -/
def magnitude? (cs : List Char) : Option Binary64 := do
  let mantissa := cs.takeWhile fun c => c != 'e' && c != 'E'
  let (digits, places) ← decimal? mantissa
  let e ← match cs.drop mantissa.length with
    | [] => some 0
    | _ :: e => exponent? e
  match Binary64.ofDecimal digits (e - places) with
  | .finite s m x => some (.finite s m x)
  | _ => none

/-- The number that a text stands for. -/
def real? (cs : List Char) : Option Binary64 :=
  let word := String.ofList cs
  let infinity (w : String) : Bool := w == ".inf" || w == ".Inf" || w == ".INF"
  match cs with
  | '-' :: rest =>
    if infinity (String.ofList rest) then some (.infinite true)
    else (magnitude? rest).map Binary64.neg
  | '+' :: rest => if infinity (String.ofList rest) then some (.infinite false) else magnitude? rest
  | _ =>
    if infinity word then some (.infinite false)
    else if word == ".nan" || word == ".NaN" || word == ".NAN" then some .nan
    else magnitude? cs

/-- The least integer of 128 bits with a sign. -/
def leastWide : Int := -170141183460469231731687303715884105728

/-- The first integer above those of 128 bits without a sign. -/
def wideBound : Int := 340282366920938463463374607431768211456

/-- **What a plain scalar stands for.** An integer has to fit 128 bits to count as one. -/
def ofPlain (s : String) : Scalar :=
  if s.isEmpty || isNull s then .null
  else match bool? s with
    | some b => .bool b
    | none =>
      let cs := s.toList
      let int := (int? cs).filter fun n => leastWide ≤ n && n < wideBound
      match int with
      | some n => .int n
      | none =>
        if isZeroPadded cs then .text s
        else match real? cs with
          | some x => .real x
          | none => .text s

/-- Whether an integer fits 64 bits. -/
def fits (n : Int) : Bool :=
  -9223372036854775808 ≤ n && n < 18446744073709551616

end Scalar

namespace Style

/-- The way to write a text so that it reads back as text: lines after a bar when it has several,
single quotes when it would be taken for something else, and plain otherwise. -/
def forText (s : String) : Style :=
  if s.toList.contains '\n' then .literal
  else if Scalar.isZeroPadded s.toList then .singleQuoted
  else match Scalar.ofPlain s with
    | .text _ => .plain
    | _ => .singleQuoted

end Style

end ClusterAudit.Yaml
