import ClusterAudit.Json.Basic

/-!
# Numbers in JSON text

A number is an integer as long as it has no fraction and no exponent and fits 64 bits, and a double
otherwise. The double is found in three steps. The digits make an integer of 64 bits, and once one
of them does not fit, those behind it count no more, except that a digit in front of the point still
counts as a power of ten. This integer is rounded to a double. The double is multiplied by the power
of ten or divided by it, which rounds a second time. So the answer may be a neighbour of the nearest
double, and a number just below the greatest double may be too large to be read.
-/

namespace ClusterAudit.Json

/-- The digits of a number as an integer and a power of ten. -/
structure Significand where
  /-- The integer, of 64 bits. -/
  value : Nat := 0
  /-- The power of ten. -/
  exponent : Int := 0
  /-- Whether a digit did not fit. -/
  full : Bool := false
deriving DecidableEq, Inhabited

namespace Significand

/-- The value of a digit behind those so far, if it fits. -/
def next? (s : Significand) (d : Char) : Option Nat :=
  let n := s.value * 10 + (d.toNat - '0'.toNat)
  if s.full || UInt64.size ≤ n then none else some n

/-- The digits with one more in front of the point. -/
def pushWhole (s : Significand) (d : Char) : Significand :=
  match s.next? d with
  | some n => { s with value := n }
  | none => { s with exponent := s.exponent + 1, full := true }

/-- The digits with one more behind the point. -/
def pushFraction (s : Significand) (d : Char) : Significand :=
  match s.next? d with
  | some n => { s with value := n, exponent := s.exponent - 1 }
  | none => { s with full := true }

/-- The digits in front of a point. -/
def ofWhole (ds : List Char) : Significand :=
  ds.foldl pushWhole {}

/-- The digits with those behind the point. -/
def withFraction (s : Significand) (ds : List Char) : Significand :=
  ds.foldl pushFraction { s with full := false }

end Significand

/-- The greatest power of ten that one step multiplies by. -/
def longestStep : Nat := 308

/-- The double nearest to a power of ten. -/
def powerOfTen (n : Nat) : Binary64 := .ofDecimal 1 n

/-- A number divided by a power of ten, in steps. -/
def shrink (x : Binary64) (n : Nat) : Binary64 :=
  if n ≤ longestStep then x.div (powerOfTen n)
  else if x.isZero then x
  else shrink (x.div (powerOfTen longestStep)) (n - longestStep)
termination_by n
decreasing_by
  simp only [longestStep] at *
  omega

/-- A number times a power of ten, unless that is too large. -/
def scale? (x : Binary64) : Int → Option Binary64
  | .ofNat n =>
    if n ≤ longestStep then some (x.mul (powerOfTen n)) |>.filter Binary64.isFinite
    else if x.isZero then some x else none
  | .negSucc n => some (shrink x (n + 1))

/-- The first exponent that is not looked at. -/
def exponentBound : Nat := 2147483648

/-- The double of digits with a sign and a further power of ten, unless it is too large. -/
def real? (negative : Bool) (s : Significand) (exponent : Int) : Option Binary64 :=
  if exponentBound ≤ exponent.natAbs then
    if s.value = 0 ∨ exponent < 0 then some (Binary64.zero.signed negative) else none
  else (scale? (.ofRatio s.value 1) (s.exponent + exponent)).map (Binary64.signed negative)

/-- The number of a sign and digits without fraction and exponent. The negative zero is no
integer. -/
def whole? (negative : Bool) (s : Significand) : Option Json :=
  if s.full then (real? negative s 0).map .real
  else if negative then
    if 0 < s.value ∧ s.value ≤ 9223372036854775808 then some (.int (-(s.value : Int)))
    else (real? true s 0).map .real
  else some (.int s.value)

/-- **The number** of a sign, digits in front of a point, digits behind it and an exponent, unless
it is too large. -/
def number? (negative : Bool) (whole : List Char) (fraction : Option (List Char))
    (exponent : Option Int) : Option Json :=
  let s := Significand.ofWhole whole
  match fraction, exponent with
  | none, none => whole? negative s
  | fraction, exponent =>
    (real? negative (s.withFraction (fraction.getD [])) (exponent.getD 0)).map .real

end ClusterAudit.Json
