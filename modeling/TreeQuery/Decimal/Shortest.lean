set_option autoImplicit false

/-! # The shortest decimal of a binary number

A positive binary floating-point number stands for all reals that round to it. Among the decimals in
that interval the shortest is the one on the coarsest grid of multiples of a power of ten; of two on
that grid the nearer is taken, and of two equally near the even one. All arithmetic is exact. -/

namespace TreeQuery.Decimal

/-- The positive number `significand * 2 ^ exponent` as a floating-point number: at a power of two
the neighbour below is only half as far away as the one above. -/
structure Binary where
  significand : Nat
  exponent : Int
  /-- The number is the least of its binade and has a finer binade below it. -/
  atBinade : Bool
  deriving DecidableEq, Repr

namespace Binary

/-- The lower end of the rounding interval, in quarter units of the significand. -/
def low (b : Binary) : Nat := 4 * b.significand - if b.atBinade then 1 else 2

/-- The upper end of the rounding interval, in quarter units of the significand. -/
def high (b : Binary) : Nat := 4 * b.significand + 2

/-- What a quarter unit counts on the grid of multiples of `10 ^ k`, as a fraction. -/
def quarter (b : Binary) (k : Int) : Nat × Nat :=
  (Nat.pow 2 (b.exponent - 2).toNat * Nat.pow 10 (-k).toNat,
    Nat.pow 2 (2 - b.exponent).toNat * Nat.pow 10 k.toNat)

/-- Whether the grid point `a * 10 ^ k` lies in the rounding interval; its ends belong to it exactly
if the significand is even. -/
def covers (b : Binary) (k : Int) (a : Nat) : Bool :=
  let (num, den) := b.quarter k
  if b.significand % 2 = 0 then b.low * num ≤ a * den && a * den ≤ b.high * num
  else b.low * num < a * den && a * den < b.high * num

/-- The grid point to take on the grid of multiples of `10 ^ k`, if one of the two next to the
number lies in the interval. -/
def gridPoint? (b : Binary) (k : Int) : Option Nat :=
  let (num, den) := b.quarter k
  let value := 4 * b.significand * num
  let below := value / den
  let middle := (2 * below + 1) * den
  match b.covers k below, b.covers k (below + 1) with
  | true, true =>
    -- The number may lie in the middle between the two.
    if 2 * value < middle || (2 * value = middle && below % 2 = 0) then some below
    else some (below + 1)
  | true, false => some below
  | false, true => some (below + 1)
  | false, false => none

/-- The first grid with a point in the interval among `count` grids, from the one of `10 ^ k` on to
the finer ones. -/
def search (b : Binary) (k : Int) : Nat → Option (Nat × Int)
  | 0 => none
  | count + 1 =>
    match b.gridPoint? k with
    | some a => some (a, k)
    | none => search b (k - 1) count

end Binary

/-- The shortest decimal `digits * 10 ^ k` of a number of binary64, as the pair `(digits, k)`.
Seventeen digits always suffice, so the search ends before the grid of `10 ^ (-350)`. -/
def shortest (b : Binary) : Nat × Int := (b.search 309 660).getD (0, 0)

end TreeQuery.Decimal
