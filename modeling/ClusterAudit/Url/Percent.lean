import ClusterAudit.Text.Basic
import ClusterAudit.Text.Utf8

/-!
# Percent encoding

Every part of an address has characters of its own that must not stand there as they are. They
are written as the bytes of their encoding, each as a percent sign and two digits. All
characters outside ASCII are written that way in every part.

Form encoding is the variant for the fields of a query: only letters, digits and four marks
stay, and a space becomes a plus sign.
-/

namespace ClusterAudit.Url

open Text

/-! ### What is encoded where -/

/-- Control characters. -/
def isControl (c : Char) : Bool :=
  c.toNat < 0x20 || c.toNat = 0x7F

/-- What is encoded behind the number sign. -/
def inFragment (c : Char) : Bool :=
  isControl c || [' ', '\x22', '<', '>', '\x60'].contains c

/-- What is encoded in a path. -/
def inPath (c : Char) : Bool :=
  inFragment c || ['#', '?', '{', '}'].contains c

/-- What is encoded in a single segment of a path; in addresses of `special` schemes a backslash
would be a separator too. -/
def inSegment (special : Bool) (c : Char) : Bool :=
  inPath c || c = '/' || c = '%' || (special && c = '\\')

/-- What is encoded in the name and password of a user. -/
def inUserinfo (c : Char) : Bool :=
  inPath c || ['/', ':', ';', '=', '@', '[', '\\', ']', '^', '|'].contains c

/-- What is encoded in a query. -/
def inQuery (special : Bool) (c : Char) : Bool :=
  isControl c || [' ', '\x22', '#', '<', '>'].contains c || (special && c = '\x27')

/-! ### Encoding and decoding -/

/-- A byte as a percent sign and two digits. -/
def percentByte (b : UInt8) : List Char :=
  '%' :: hexPaddedUpper 2 b.toNat

/-- A character, encoded if it is outside ASCII or in the set. -/
def encodeChar (set : Char → Bool) (c : Char) : List Char :=
  if 0x80 ≤ c.toNat || set c then (Utf8.encodeChar c).flatMap percentByte else [c]

/-- A text with the characters of a set encoded. -/
def encode (set : Char → Bool) (cs : List Char) : List Char :=
  cs.flatMap (encodeChar set)

/-- The bytes of a text in which a percent sign with two digits stands for a byte. -/
def decode : List Char → List UInt8
  | [] => []
  | '%' :: a :: b :: rest =>
    match hexValue a, hexValue b with
    | some x, some y => UInt8.ofNat (x * 16 + y) :: decode rest
    | _, _ => 0x25 :: decode (a :: b :: rest)
  | c :: rest => Utf8.encodeChar c ++ decode rest

/-! ### Forms -/

/-- Whether a byte stands in a form as it is. -/
def isFormSafe (b : UInt8) : Bool :=
  let c := Char.ofNat b.toNat
  c.isAlphanum || c = '*' || c = '-' || c = '.' || c = '_'

/-- A byte in a form. -/
def formByte (b : UInt8) : List Char :=
  if b = 0x20 then ['+'] else if isFormSafe b then [Char.ofNat b.toNat] else percentByte b

/-- A text in a form. -/
def formEncode (s : String) : List Char :=
  (Utf8.encode s.toList).flatMap formByte

/-- The text of a name or value in a form. -/
def formDecode (cs : List Char) : String :=
  Utf8.decodeLossy (decode (cs.map fun c => if c = '+' then ' ' else c))

/-- The fields of a form: names and values between ampersands. -/
def formFields (cs : List Char) : List (String × String) :=
  ((pieces '&' cs).filter fun p => !p.isEmpty).map fun p =>
    match cut '=' p with
    | some (name, value) => (formDecode name, formDecode value)
    | none => (formDecode p, "")

end ClusterAudit.Url
