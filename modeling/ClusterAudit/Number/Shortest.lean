import ClusterAudit.Number.Binary64

/-!
# The shortest decimal text of a double

A double is written with the fewest decimal digits that read back as the same double; of
several such decimals the nearest one is taken. The reals that read back as
`m * 2 ^ e` form an interval around it, its ends included when `m` is even. On the decimal
grid of each exponent, coarsest first, the neighbours of the number on either side are tried
against that interval.
-/

namespace ClusterAudit.Binary64

/-- A positive decimal: `digits * 10 ^ exponent`. -/
structure Decimal where
  /-- The significant digits. -/
  digits : Nat
  /-- The power of ten they are multiplied by. -/
  exponent : Int
deriving DecidableEq, Repr, Inhabited

/-- `a * 10 ^ x` and `b * 2 ^ y` as natural numbers over one common unit. -/
def common (a : Nat) (x : Int) (b : Nat) (y : Int) : Nat × Nat :=
  let up : Int → Nat := fun i => i.toNat
  ((a * Nat.pow 10 (up x)) <<< up (-y), (b <<< up y) * Nat.pow 10 (up (-x)))

/-- Whether `d` reads back as `m * 2 ^ e`: it lies no farther than half a unit away, above towards
the next double and below towards the last one, which is half as far when `m` is a power of two. -/
def readsBack (m : Nat) (e : Int) (d : Decimal) : Bool :=
  let even := m % 2 == 0
  let (x, high) := common d.digits d.exponent (4 * m + 2) (e - 2)
  let below := if m = leastFull ∧ minExponent < e then 4 * m - 1 else 4 * m - 2
  let (x', low) := common d.digits d.exponent below (e - 2)
  (if even then x ≤ high else x < high) && (if even then low ≤ x' else low < x')

/-- The decimal of the grid `10 ^ g` that reads back as `m * 2 ^ e` and is nearest to it, a tie
going to the even digit, if there is one. -/
def onGrid (m : Nat) (e : Int) (g : Int) : Option Decimal :=
  let (unit, value) := common 1 g m e
  let q := value / unit
  let low : Decimal := ⟨q, g⟩
  let high : Decimal := ⟨q + 1, g⟩
  match decide (0 < q) && readsBack m e low, readsBack m e high with
  | true, true =>
    let r := value % unit
    if 2 * r < unit then some low
    else if 2 * r = unit then (if q % 2 = 0 then some low else some high)
    else some high
  | true, false => some low
  | false, true => some high
  | false, false => none

/-- The first decimal found on the grids from `g` downwards. -/
def searchGrids (m : Nat) (e : Int) : Nat → Int → Decimal
  | 0, g => (onGrid m e g).getD ⟨m, e⟩
  | n + 1, g =>
    match onGrid m e g with
    | some d => d
    | none => searchGrids m e n (g - 1)

/-- **The shortest decimal** that reads back as `m * 2 ^ e`, for `m` positive. -/
def shortest (m : Nat) (e : Int) : Decimal :=
  let top : Int := ((Nat.log2 m : Int) + e) * 30103 / 100000 + 2
  searchGrids m e 40 top

end ClusterAudit.Binary64
