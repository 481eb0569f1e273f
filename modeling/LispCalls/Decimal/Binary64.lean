namespace LispCalls

inductive Magnitude where
  | nan
  | infinite
  | zero
  | binary (significand : Nat) (exponent : Int) (narrow : Bool)
deriving Repr,DecidableEq

structure Signed where
  negative : Bool
  magnitude : Magnitude
deriving Repr,DecidableEq

-- The number of a biased exponent and a fraction is significand · 2^exponent. The lowest
-- exponent field has no hidden bit and shares its scale with the next one. A power of two
-- above that is narrow: the gap below it is half the gap above it.
def Magnitude.ofFields (biased fraction : Nat) : Magnitude :=
  if biased = 2047 then (if fraction = 0 then .infinite else .nan)
  else if biased = 0 then (if fraction = 0 then .zero else .binary fraction (-1074) false)
  else .binary (Nat.pow 2 52 + fraction) ((biased : Int) - 1075) (fraction = 0 && 1 < biased)

def Signed.ofBits (bits : Nat) : Signed :=
  let exponent := bits / Nat.pow 2 52 % Nat.pow 2 11
  ⟨bits / Nat.pow 2 63 = 1,Magnitude.ofFields exponent (bits % Nat.pow 2 52)⟩

def Signed.ofFloat (x : Float) : Signed := .ofBits x.toBits.toNat

end LispCalls
