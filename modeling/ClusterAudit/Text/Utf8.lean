/-!
# UTF-8

Files, request targets and percent-encoded text are bytes. `Utf8.encode` is the byte sequence of
a text, `Utf8.decode?` reads bytes that must be well formed, and `Utf8.decodeLossy` reads any
bytes: each longest run that starts a character without finishing it becomes one replacement
character.
-/

namespace ClusterAudit.Utf8

/-- The bytes of a character. -/
def encodeChar (c : Char) : List UInt8 :=
  let n := c.toNat
  if n < 0x80 then [UInt8.ofNat n]
  else if n < 0x800 then [UInt8.ofNat (0xC0 + n / 64), UInt8.ofNat (0x80 + n % 64)]
  else if n < 0x10000 then
    [UInt8.ofNat (0xE0 + n / 4096), UInt8.ofNat (0x80 + n / 64 % 64), UInt8.ofNat (0x80 + n % 64)]
  else
    [UInt8.ofNat (0xF0 + n / 262144), UInt8.ofNat (0x80 + n / 4096 % 64),
      UInt8.ofNat (0x80 + n / 64 % 64), UInt8.ofNat (0x80 + n % 64)]

/-- The bytes of a text. -/
def encode (cs : List Char) : List UInt8 :=
  cs.flatMap encodeChar

/-- What the first byte of a character says: how many bytes follow, the range of the second byte,
and the bits it holds itself. -/
def lead (b : UInt8) : Option (Nat × Nat × Nat × Nat) :=
  let n := b.toNat
  if n < 0x80 then some (0, 0, 0, n)
  else if n < 0xC2 then none
  else if n < 0xE0 then some (1, 0x80, 0xBF, n - 0xC0)
  else if n = 0xE0 then some (2, 0xA0, 0xBF, 0)
  else if n = 0xED then some (2, 0x80, 0x9F, 0xD)
  else if n < 0xF0 then some (2, 0x80, 0xBF, n - 0xE0)
  else if n = 0xF0 then some (3, 0x90, 0xBF, 0)
  else if n < 0xF4 then some (3, 0x80, 0xBF, n - 0xF0)
  else if n = 0xF4 then some (3, 0x80, 0x8F, 4)
  else none

/-- The character made of the bits `bits` and the next `more` bytes, the first of them between `low`
and `high`; when there is none, how many bytes could have belonged to it. -/
def tail : Nat → Nat → Nat → Nat → List UInt8 → Nat → Except Nat (Char × List UInt8)
  | 0, _, _, bits, bs, _ => .ok (Char.ofNat bits, bs)
  | more + 1, low, high, bits, b :: bs, read =>
    if low ≤ b.toNat ∧ b.toNat ≤ high then
      tail more 0x80 0xBF (bits * 64 + b.toNat % 64) bs (read + 1)
    else .error read
  | _ + 1, _, _, _, [], read => .error read

/-- The first character of a byte sequence and the bytes after it, or how many bytes are no
character. -/
def decodeFirst (b : UInt8) (bs : List UInt8) : Except Nat (Char × List UInt8) :=
  match lead b with
  | none => .error 1
  | some (more, low, high, bits) => tail more low high bits bs 1

/-- The characters of `n` bytes at most, or none when some byte belongs to no character. -/
def decodeFrom? : Nat → List Char → List UInt8 → Option (List Char)
  | _, done, [] => some done.reverse
  | 0, _, _ :: _ => none
  | fuel + 1, done, b :: bs =>
    match decodeFirst b bs with
    | .ok (c, rest) => decodeFrom? fuel (c :: done) rest
    | .error _ => none

/-- **The text of well-formed bytes.** -/
def decode? (bs : List UInt8) : Option String :=
  (decodeFrom? bs.length [] bs).map String.ofList

/-- The characters of `n` bytes at most, with replacement characters. -/
def decodeLossyFrom : Nat → List Char → List UInt8 → List Char
  | _, done, [] => done.reverse
  | 0, done, _ :: _ => done.reverse
  | fuel + 1, done, b :: bs =>
    match decodeFirst b bs with
    | .ok (c, rest) => decodeLossyFrom fuel (c :: done) rest
    | .error n => decodeLossyFrom fuel ('\ufffd' :: done) ((b :: bs).drop n)

/-- The text of any bytes. -/
def decodeLossy (bs : List UInt8) : String :=
  String.ofList (decodeLossyFrom bs.length [] bs)

end ClusterAudit.Utf8
