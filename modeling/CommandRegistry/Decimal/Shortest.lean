/-
The shortest decimal that reads back as a given binary fraction.  A positive
finite number is `significand * 2 ^ exponent`; the reals that round to it form
an interval around it, and the first decimal grid, coarsest first, with a point
in that interval gives the digits.
-/

namespace CommandRegistry

/-- The number `digits * 10 ^ exponent`. -/
structure Decimal where
  digits : Nat
  exponent : Int
deriving Repr, DecidableEq

/-- The number `significand * 2 ^ exponent`.  At a binade's lower end the
neighbour below is at half the distance of the one above. -/
structure BinaryFraction where
  significand : Nat
  exponent : Int
  atBinadeStart : Bool
deriving Repr, DecidableEq

/-- A double stores 52 bits of its significand; one more bit is implied. -/
def BinaryFraction.impliedBit : Nat := 4503599627370496

/-- The fraction behind the 63 magnitude bits of a double. -/
def BinaryFraction.ofDouble (bits : UInt64) : BinaryFraction :=
  let biased : Nat := bits.toNat / BinaryFraction.impliedBit % 2048
  let stored : Nat := bits.toNat % BinaryFraction.impliedBit
  if biased = 0 then ⟨stored, -1074, false⟩
  else ⟨BinaryFraction.impliedBit + stored, (biased : Int) - 1075, stored = 0 ∧ 1 < biased⟩

/-- A value, the bounds of the reals that round to it, and the distance of two
neighbours on a decimal grid, all over one common denominator. -/
structure DecimalGrid where
  low : Nat
  value : Nat
  high : Nat
  unit : Nat

def BinaryFraction.onGrid (fraction : BinaryFraction) (step : Int) : DecimalGrid :=
  let scale := Nat.pow 2 (fraction.exponent - 2).toNat * Nat.pow 10 (-step).toNat
  let below := if fraction.atBinadeStart then 1 else 2
  { low := (4 * fraction.significand - below) * scale
    value := 4 * fraction.significand * scale
    high := (4 * fraction.significand + 2) * scale
    unit := Nat.pow 2 (2 - fraction.exponent).toNat * Nat.pow 10 step.toNat }

/-- A point of the grid reads back if it lies in the interval; the ends of the
interval belong to an even significand. -/
def DecimalGrid.holds (grid : DecimalGrid) (even : Bool) (point : Nat) : Bool :=
  if even then decide (grid.low ≤ point * grid.unit ∧ point * grid.unit ≤ grid.high)
  else decide (grid.low < point * grid.unit ∧ point * grid.unit < grid.high)

/-- The nearer of the value's two neighbours on the grid that reads back; a tie
goes to the even one. -/
def DecimalGrid.nearest? (grid : DecimalGrid) (even : Bool) : Option Nat :=
  let below := grid.value / grid.unit
  let toBelow := grid.value - below * grid.unit
  let toAbove := (below + 1) * grid.unit - grid.value
  match grid.holds even below, grid.holds even (below + 1) with
  | false, false => none
  | true, false => some below
  | false, true => some (below + 1)
  | true, true =>
      if toBelow < toAbove ∨ (toBelow = toAbove ∧ below % 2 = 0) then some below
      else some (below + 1)

/-- Search the grids `10 ^ step`, `10 ^ (step - 1)`, and so on. -/
def BinaryFraction.shortestFrom (fraction : BinaryFraction) : Nat → Int → Decimal
  | 0, step => ⟨fraction.significand, step⟩
  | left + 1, step =>
      match (fraction.onGrid step).nearest? (fraction.significand % 2 = 0) with
      | some digits => ⟨digits, step⟩
      | none => fraction.shortestFrom left (step - 1)

/-- No double is above `10 ^ 309`, and the grid `10 ^ (-325)` is finer than the
distance between the two smallest ones. -/
def BinaryFraction.shortest (fraction : BinaryFraction) : Decimal :=
  fraction.shortestFrom 635 309

end CommandRegistry
