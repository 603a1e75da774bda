/-!
# Binary floating point, exactly

A score is a quotient rounded twice: once to the nearest binary number of 53 significant
bits, and once to the nearest integer. Numbers in documents are rounded the same way when
they are read. This file describes the first rounding in exact integer arithmetic.

`Binary64.ofRatio` is the nearest double of a quotient of natural numbers, ties to an even
significand; `Binary64.ofDecimal` reads decimal digits with it, and `Binary64.roundNat` is
the second rounding, where a half goes up.
-/

namespace ClusterAudit

/-- A double-precision number. A finite one has the magnitude `significand * 2 ^ exponent` with
the significand below `2 ^ 53`; it is normalised, that is, it has 53 bits unless the exponent is
the least one, and zero has the exponent 0. -/
inductive Binary64 where
  /-- A finite number. -/
  | finite (negative : Bool) (significand : Nat) (exponent : Int)
  /-- An infinite number. -/
  | infinite (negative : Bool)
  /-- No number at all. -/
  | nan
deriving DecidableEq, Repr, Inhabited

namespace Binary64

/-- The least exponent of a finite number. -/
def minExponent : Int := -1074

/-- The greatest exponent of a finite number. -/
def maxExponent : Int := 971

/-- The number zero. -/
def zero : Binary64 := .finite false 0 0

/-- The integer nearest to `num / den`, a half going to the even neighbour. -/
def divEven (num den : Nat) : Nat :=
  let q := num / den
  let r := num % den
  if 2 * r < den then q
  else if 2 * r = den then (if q % 2 = 0 then q else q + 1)
  else q + 1

/-- The integer nearest to `num / (den * 2 ^ e)`, a half going to the even neighbour. -/
def scaled (num den : Nat) : Int → Nat
  | .ofNat e => divEven num (den <<< e)
  | .negSucc e => divEven (num <<< (e + 1)) den

/-- Whether `num / den` is at least `2 ^ (52 + e)`, that is, has 53 significant bits or more when
`2 ^ e` is the unit. -/
def fills (num den : Nat) : Int → Bool
  | .ofNat e => den <<< (e + 52) ≤ num
  | .negSucc e => den <<< 52 ≤ num <<< (e + 1)

/-- The exponent at which `num / den` has exactly 53 significant bits, or the least one. -/
def unitExponent (num den : Nat) : Int :=
  let e : Int := (Nat.log2 num : Int) - (Nat.log2 den : Int) - 52
  let e := if fills num den e then e else e - 1
  max e minExponent

/-- The least significand with 53 bits. -/
def leastFull : Nat := 1 <<< 52

/-- The number that stands for `significand * 2 ^ e` once rounding has carried the significand up
to `2 ^ 53` at most. -/
def normalise (significand : Nat) (e : Int) : Binary64 :=
  if significand = 0 then zero
  else
    let (m, e) := if significand = 2 * leastFull then (leastFull, e + 1) else (significand, e)
    if maxExponent < e then .infinite false else .finite false m e

/-- **The double nearest to `num / den`**, of two that are equally near the one with an even
significand. The quotient by zero is taken as zero. -/
def ofRatio (num den : Nat) : Binary64 :=
  if num = 0 ∨ den = 0 then zero
  else
    let e := unitExponent num den
    normalise (scaled num den e) e

/-- The double nearest to `digits * 10 ^ exponent`. Exponents so far out that the answer is zero or
infinite anyway are not computed with. -/
def ofDecimal (digits : Nat) (exponent : Int) : Binary64 :=
  if digits = 0 then zero
  else
    let magnitude : Int := (Nat.log2 digits : Int) * 30103 / 100000 + exponent
    if 400 < magnitude then .infinite false
    else if magnitude < -400 then zero
    else match exponent with
      | .ofNat e => ofRatio (digits * Nat.pow 10 e) 1
      | .negSucc e => ofRatio digits (Nat.pow 10 (e + 1))

/-- The number with the other sign. -/
def neg : Binary64 → Binary64
  | .finite s m e => .finite (!s) m e
  | .infinite s => .infinite (!s)
  | .nan => .nan

/-- The sign of a finite number, and its magnitude as a quotient. -/
def ratio? : Binary64 → Option (Bool × Nat × Nat)
  | .finite s m (.ofNat e) => some (s, m <<< e, 1)
  | .finite s m (.negSucc e) => some (s, m, 1 <<< (e + 1))
  | _ => none

/-- The number with the other sign, if `negative` says so. -/
def signed (negative : Bool) (x : Binary64) : Binary64 :=
  if negative then x.neg else x

/-- The double nearest to the product of two finite numbers. -/
def mul (x y : Binary64) : Binary64 :=
  match x.ratio?, y.ratio? with
  | some (s, a, b), some (t, c, d) => signed (s != t) (ofRatio (a * c) (b * d))
  | _, _ => .nan

/-- The double nearest to the quotient of two finite numbers, the second of which is not zero. -/
def div (x y : Binary64) : Binary64 :=
  match x.ratio?, y.ratio? with
  | some (s, a, b), some (t, c, d) => signed (s != t) (ofRatio (a * d) (b * c))
  | _, _ => .nan

/-- Whether a number is zero, of either sign. -/
def isZero : Binary64 → Bool
  | .finite _ m _ => m == 0
  | _ => false

/-- Whether a number is finite. -/
def isFinite : Binary64 → Bool
  | .finite _ _ _ => true
  | _ => false

/-- The magnitude of a finite number rounded to the nearest integer, a half going up; infinite
numbers and no number give 0. -/
def roundNat : Binary64 → Nat
  | .finite _ m (.ofNat e) => m <<< e
  | .finite _ m (.negSucc e) => (2 * m + 1 <<< (e + 1)) >>> (e + 2)
  | _ => 0

/-- Whether two numbers are the same key of a table: zeros of either sign are, and no number is the
same as itself. -/
def sameKey : Binary64 → Binary64 → Bool
  | .finite _ 0 _, .finite _ 0 _ => true
  | x, y => x == y

end Binary64

end ClusterAudit
