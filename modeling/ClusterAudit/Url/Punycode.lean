/-!
# Labels in ASCII letters

A label of a host name with characters outside ASCII is sent as its ASCII characters followed by
a coded list of insertions: going through the other characters in increasing order, each step
says how far to advance in the sequence of all possible insertions. Distances are written in
base 36 with digits whose ranges adapt to the distances seen.
-/

namespace ClusterAudit.Url.Punycode

/-- The digit of value `d`: letters first, then figures. -/
def digit (d : Nat) : Char :=
  if d < 26 then Char.ofNat ('a'.toNat + d) else Char.ofNat ('0'.toNat + (d - 26))

/-- The value of a digit. -/
def value? (c : Char) : Option Nat :=
  if 'a' ≤ c ∧ c ≤ 'z' then some (c.toNat - 'a'.toNat)
  else if 'A' ≤ c ∧ c ≤ 'Z' then some (c.toNat - 'A'.toNat)
  else if '0' ≤ c ∧ c ≤ '9' then some (c.toNat - '0'.toNat + 26)
  else none

/-- From what value on the digit at place `k` is not the last one. -/
def threshold (k bias : Nat) : Nat :=
  if k ≤ bias + 1 then 1 else if bias + 26 ≤ k then 26 else k - bias

/-- Halve a distance as often as needed for the next bias, counting places. -/
def settle : Nat → Nat → Nat → Nat
  | 0, delta, k => k + 36 * delta / (delta + 38)
  | n + 1, delta, k => if 455 < delta then settle n (delta / 35) (k + 36)
    else k + 36 * delta / (delta + 38)

/-- The bias after a distance, with `n` characters in place now. -/
def adapt (delta n : Nat) (first : Bool) : Nat :=
  let delta := if first then delta / 700 else delta / 2
  settle 16 (delta + delta / n) 0

/-! ### Encoding -/

/-- The digits of a distance from the place `k` on. -/
def digitsFrom : Nat → Nat → Nat → Nat → List Char
  | 0, q, _, _ => [digit q]
  | n + 1, q, k, bias =>
    let t := threshold k bias
    if q < t then [digit q]
    else digit (t + (q - t) % (36 - t)) :: digitsFrom n ((q - t) / (36 - t)) (k + 36) bias

/-- What the encoder knows: the distance since the last insertion, the bias, how many characters are
in place, and the digits so far, in reverse. -/
structure Encoder where
  /-- The distance. -/
  delta : Nat
  /-- The bias. -/
  bias : Nat
  /-- How many characters are in place. -/
  placed : Nat
  /-- Whether nothing has been inserted yet. -/
  first : Bool
  /-- The digits so far, in reverse. -/
  digits : List Char

/-- Go past the characters of a label once, inserting those that are the character `m`. -/
def sweep (m : Nat) (label : List Char) (e : Encoder) : Encoder :=
  label.foldl (fun e c =>
    if c.toNat < m then { e with delta := e.delta + 1 }
    else if c.toNat = m then
      { delta := 0
        bias := adapt e.delta (e.placed + 1) e.first
        placed := e.placed + 1
        first := false
        digits := (digitsFrom 40 e.delta 36 e.bias).reverse ++ e.digits }
    else e) e

/-- Insert the characters from `n` on, smallest first. -/
def insertAll (label : List Char) : Nat → Nat → Encoder → Encoder
  | 0, _, e => e
  | fuel + 1, n, e =>
    match (label.filter fun c => n ≤ c.toNat).map Char.toNat with
    | [] => e
    | c :: cs =>
      let m := cs.foldl min c
      let e := sweep m label { e with delta := e.delta + (m - n) * (e.placed + 1) }
      insertAll label fuel (m + 1) { e with delta := e.delta + 1 }

/-- The coded form of a label. -/
def encode (label : List Char) : List Char :=
  let basic := label.filter fun c => c.toNat < 0x80
  let e := insertAll label label.length 0x80
    { delta := 0, bias := 72, placed := basic.length, first := true, digits := [] }
  (if basic.isEmpty then [] else basic ++ ['-']) ++ e.digits.reverse

/-! ### Decoding -/

/-- The distance written at the start of a text, from the place `k` with the weight `w` on, and the
text behind it. -/
def distance : Nat → Nat → Nat → Nat → List Char → Option (Nat × List Char)
  | _, _, _, _, [] => none
  | i, w, k, bias, c :: cs => do
    let d ← value? c
    let i := i + d * w
    let t := threshold k bias
    if UInt32.size ≤ i then none
    else if d < t then some (i, cs)
    else if UInt32.size ≤ w * (36 - t) then none
    else distance i (w * (36 - t)) (k + 36) bias cs

/-- Insert the characters that a text describes. -/
def decodeFrom : Nat → Nat → Nat → Nat → List Char → List Char → Option (List Char)
  | _, _, _, _, out, [] => some out
  | 0, _, _, _, _, _ => none
  | fuel + 1, n, i, bias, out, cs => do
    let (j, rest) ← distance i 1 36 bias cs
    let size := out.length + 1
    let n := n + j / size
    if n < 0xD800 ∨ (0xE000 ≤ n ∧ n < 0x110000) then
      decodeFrom fuel n (j % size + 1) (adapt (j - i) size (i = 0))
        (out.insertIdx (j % size) (Char.ofNat n)) rest
    else none

/-- The label of a coded form. A hyphen in front of the digits separates nothing. -/
def decode? (cs : List Char) : Option (List Char) :=
  let tail := (cs.reverse.takeWhile (· != '-')).reverse
  match cs.take (cs.length - tail.length) with
  | ['-'] => none
  | front => decodeFrom (cs.length + 1) 0x80 0 72 front.dropLast tail

end ClusterAudit.Url.Punycode
