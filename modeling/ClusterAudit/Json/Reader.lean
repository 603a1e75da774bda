import ClusterAudit.Json.Basic
import ClusterAudit.Text.Basic

/-!
# Taking JSON text apart

`Json.Written.ofText?` takes a text apart that has the form of a document, or refuses it. What comes
out is the document as it is written: a string is still its letters, so that half of a surrogate
pair may stand alone in it, and a number is still its digits, so that it may be too large for any
double. What these mean is for the readers of a written document to say.

The text is read from the front, one token at a time. What is open around a place is kept in a list,
so that lists and objects may be nested as deep as they like.
-/

namespace ClusterAudit.Json

/-! ### Written documents -/

/-- A letter of a string, as it is written. -/
inductive Letter where
  /-- A character, written as it is or by the escape of one letter. -/
  | char (c : Char)
  /-- A unit of 16 bits, written by the escape of four digits. -/
  | unit (u : UInt16)
deriving DecidableEq, Inhabited

/-- A number, as it is written. -/
structure Numeral where
  /-- Whether a minus stands in front. -/
  negative : Bool
  /-- The digits in front of the point. -/
  whole : List Char
  /-- The digits behind the point, if there is one. -/
  fraction : Option (List Char)
  /-- The power of ten, if there is one. -/
  exponent : Option Int
deriving DecidableEq, Inhabited

/-- **A document as it is written.** -/
inductive Written where
  /-- The null value. -/
  | null
  /-- A truth value. -/
  | bool (b : Bool)
  /-- A number. -/
  | number (n : Numeral)
  /-- A string. -/
  | string (s : List Letter)
  /-- A list. -/
  | array (items : List Written)
  /-- An object with its fields in writing order. -/
  | object (fields : List (List Letter × Written))
deriving Inhabited

namespace Reader

open Text

/-- Whether a character is blank space between tokens. -/
def isBlank (c : Char) : Bool :=
  c = ' ' || c = '\n' || c = '\r' || c = '\t'

/-- The text without the blank space at its start. -/
def skipBlank (cs : List Char) : List Char :=
  cs.dropWhile isBlank

/-! ### Strings -/

/-- The character of a one-letter escape. -/
def simpleEscape : Char → Option Char
  | '\x22' => some '\x22'
  | '\\' => some '\\'
  | '/' => some '/'
  | 'b' => some '\x08'
  | 'f' => some '\x0c'
  | 'n' => some '\n'
  | 'r' => some '\r'
  | 't' => some '\t'
  | _ => none

/-- The letters of a string up to its closing quote, behind those in `done`, which are in reverse,
and the text behind the quote. -/
def letters (done : List Letter) : List Char → Option (List Letter × List Char)
  | [] => none
  | '\x22' :: rest => some (done.reverse, rest)
  | '\\' :: 'u' :: a :: b :: c :: d :: rest =>
    match natIn 16 [a, b, c, d] with
    | some n => letters (.unit (UInt16.ofNat n) :: done) rest
    | none => none
  | '\\' :: e :: rest =>
    match simpleEscape e with
    | some c => letters (.char c :: done) rest
    | none => none
  | c :: rest => if c.toNat < 0x20 || c = '\\' then none else letters (.char c :: done) rest

/-! ### Numbers -/

/-- A run of decimal digits and the text behind it. -/
def digits (cs : List Char) : List Char × List Char :=
  (cs.takeWhile Char.isDigit, cs.dropWhile Char.isDigit)

/-- The digits behind a decimal point, if there is one; a point needs a digit behind it. -/
def fraction : List Char → Option (Option (List Char) × List Char)
  | '.' :: rest =>
    let (ds, rest) := digits rest
    if ds.isEmpty then none else some (some ds, rest)
  | cs => some (none, cs)

/-- The sign of an exponent and the text behind it. -/
def sign : List Char → Bool × List Char
  | '-' :: rest => (true, rest)
  | '+' :: rest => (false, rest)
  | rest => (false, rest)

/-- The exponent of a number, if there is one; a mark needs a digit behind it. -/
def exponent : List Char → Option (Option Int × List Char)
  | [] => some (none, [])
  | c :: rest =>
    if c = 'e' || c = 'E' then
      let (negative, rest) := sign rest
      let (ds, rest) := digits rest
      match natIn 10 ds with
      | none => none
      | some n => some (some (if negative then -(n : Int) else n), rest)
    else some (none, c :: rest)

/-- A number behind its sign, and the text behind the number. -/
def numeral (negative : Bool) (cs : List Char) : Option (Numeral × List Char) := do
  let (whole, rest) := digits cs
  if whole.isEmpty || (decide (1 < whole.length) && whole.head? == some '0') then none
  else
    let (fraction, rest) ← fraction rest
    let (exponent, rest) ← exponent rest
    some (⟨negative, whole, fraction, exponent⟩, rest)

/-! ### Values -/

/-- The text behind `word`, if the text starts with it. -/
def after (word : List Char) (cs : List Char) : Option (List Char) :=
  if word.isPrefixOf cs then some (cs.drop word.length) else none

/-- A value that is no list and no object, and the text behind it. -/
def atom : List Char → Option (Written × List Char)
  | '\x22' :: rest => (letters [] rest).map fun (s, rest) => (.string s, rest)
  | 'n' :: rest => (after ['u', 'l', 'l'] rest).map (.null, ·)
  | 't' :: rest => (after ['r', 'u', 'e'] rest).map (.bool true, ·)
  | 'f' :: rest => (after ['a', 'l', 's', 'e'] rest).map (.bool false, ·)
  | '-' :: rest => (numeral true rest).map fun (n, rest) => (.number n, rest)
  | cs => (numeral false cs).map fun (n, rest) => (.number n, rest)

/-- What is open around a place in a text, with what has been read of it, the last first. -/
inductive Enclosure where
  /-- A list with the items so far. -/
  | list (items : List Written)
  /-- An object with the fields so far and the name of the one that is read. -/
  | field (fields : List (List Letter × Written)) (name : List Letter)
deriving Inhabited

/-- A place in a text. -/
inductive Place where
  /-- In front of a value. -/
  | value
  /-- In front of the name of a field, behind the fields so far. -/
  | name (fields : List (List Letter × Written))
  /-- Behind a value. -/
  | behind (x : Written)
deriving Inhabited

/-- One token, or two where a bracket closes at once and where a colon follows a name. -/
def step : Place → List Enclosure → List Char → Option (Place × List Enclosure × List Char)
  | .value, around, cs =>
    match skipBlank cs with
    | '[' :: rest =>
      match skipBlank rest with
      | ']' :: rest => some (.behind (.array []), around, rest)
      | _ => some (.value, .list [] :: around, rest)
    | '\x7b' :: rest =>
      match skipBlank rest with
      | '\x7d' :: rest => some (.behind (.object []), around, rest)
      | _ => some (.name [], around, rest)
    | cs => (atom cs).map fun (x, rest) => (.behind x, around, rest)
  | .name fields, around, cs =>
    match skipBlank cs with
    | '\x22' :: rest =>
      match letters [] rest with
      | some (name, rest) =>
        match skipBlank rest with
        | ':' :: rest => some (.value, .field fields name :: around, rest)
        | _ => none
      | none => none
    | _ => none
  | .behind _, [], _ => none
  | .behind x, .list items :: around, cs =>
    match skipBlank cs with
    | ',' :: rest => some (.value, .list (x :: items) :: around, rest)
    | ']' :: rest => some (.behind (.array (x :: items).reverse), around, rest)
    | _ => none
  | .behind x, .field fields name :: around, cs =>
    match skipBlank cs with
    | ',' :: rest => some (.name ((name, x) :: fields), around, rest)
    | '\x7d' :: rest => some (.behind (.object ((name, x) :: fields).reverse), around, rest)
    | _ => none

/-- The document that is complete at the end of the text, after at most so many steps. -/
def run : Nat → Place → List Enclosure → List Char → Option Written
  | _, .behind x, [], cs => if (skipBlank cs).isEmpty then some x else none
  | 0, _, _, _ => none
  | fuel + 1, place, around, cs =>
    match step place around cs with
    | some (place, around, cs) => run fuel place around cs
    | none => none

end Reader

/-- **Take a text apart.** Every step takes a character at least, so there are no more steps than
characters. -/
def Written.ofText? (s : String) : Option Written :=
  Reader.run s.toList.length .value [] s.toList

end ClusterAudit.Json
