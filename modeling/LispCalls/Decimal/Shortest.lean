import LispCalls.Decimal.Binary64

namespace LispCalls

structure Decimal where
  coefficient : Nat
  exponent : Int
deriving Repr,DecidableEq

-- The decimals that round to a binary magnitude, its own value among them, in units of
-- 10^unit. The ends are midways to the neighbours; they belong to it when rounding half to
-- even chooses it.
structure Rounding where
  unit : Int
  low : Nat
  value : Nat
  high : Nat
  closed : Bool
deriving Repr,DecidableEq

namespace Rounding

-- A quarter of a step of the significand is a whole number of units: two to a negative
-- power is that power of five in units of ten to the same power.
def ofBinary (significand : Nat) (exponent : Int) (narrow : Bool) : Rounding :=
  let quarter := exponent - 2
  let scale := Nat.pow 2 quarter.toNat * Nat.pow 5 (-quarter).toNat
  ⟨min quarter 0,(4 * significand - (if narrow then 1 else 2)) * scale,4 * significand * scale,
    (4 * significand + 2) * scale,significand % 2 = 0⟩

def contains (r : Rounding) (n : Nat) : Bool :=
  if r.closed then r.low ≤ n && n ≤ r.high else r.low < n && n < r.high

-- Of the multiples of a grid only the two beside the value need a test: a multiple further
-- off rounds to it only if the one between does. Of two that do the nearer is taken, and of
-- two equally near the upper.
def onGrid (r : Rounding) (grid : Nat) : Option Nat :=
  let below := r.value / grid
  let above := below + 1
  match r.contains (below * grid),r.contains (above * grid) with
  | true,true => some (if r.value - below * grid < above * grid - r.value then below else above)
  | true,false => some below
  | false,true => some above
  | false,false => none

def coarsest (r : Rounding) : Nat → Decimal
  | 0 => ⟨r.value,r.unit⟩
  | places+1 => match r.onGrid (Nat.pow 10 (places + 1)) with
    | some n => ⟨n,r.unit + (places + 1)⟩
    | none => r.coarsest places

def shortest (r : Rounding) : Decimal := r.coarsest (Nat.toDigits 10 r.value).length

end Rounding
end LispCalls
