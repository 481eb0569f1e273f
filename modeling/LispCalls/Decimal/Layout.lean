import LispCalls.Decimal.Shortest

namespace LispCalls

def Decimal.digits (d : Decimal) : List Char := Nat.toDigits 10 d.coefficient

def Decimal.leading (d : Decimal) : Int := d.exponent + d.digits.length - 1

-- What a written form decides: which powers of the first digit are written with an
-- exponent, and what follows an integer written without one.
structure Layout where
  scientific : Int → Bool
  whole : List Char

namespace Layout

-- Zeros in front give every form at least one digit before the point.
def positional (layout : Layout) (d : Decimal) : List Char :=
  if 0 ≤ d.exponent then d.digits ++ List.replicate d.exponent.toNat '0' ++ layout.whole
  else
    let places := (-d.exponent).toNat
    let padded := List.replicate (places + 1 - d.digits.length) '0' ++ d.digits
    let front := padded.length - places
    padded.take front ++ '.' :: padded.drop front

def exponential (d : Decimal) : List Char :=
  let point := if d.digits.length = 1 then [] else ['.']
  d.digits.take 1 ++ point ++ d.digits.drop 1 ++ 'e' :: (toString d.leading).toList

def decimal (layout : Layout) (d : Decimal) : List Char :=
  if layout.scientific d.leading then exponential d else layout.positional d

def magnitude (layout : Layout) : Magnitude → List Char
  | .nan => ['N','a','N']
  | .infinite => ['i','n','f']
  | .zero => layout.decimal ⟨0,0⟩
  | .binary significand exponent narrow =>
    layout.decimal (Rounding.ofBinary significand exponent narrow).shortest

def signed (layout : Layout) (x : Signed) : List Char :=
  if x.negative ∧ x.magnitude ≠ .nan then '-' :: layout.magnitude x.magnitude
  else layout.magnitude x.magnitude

def float (layout : Layout) (x : Float) : String := String.ofList (layout.signed (.ofFloat x))

end Layout
end LispCalls
