import LispCalls.Decimal.Binary64
import LispCalls.Proofs.Binary64.Equality

namespace LispCalls

namespace Magnitude

-- The form in which a word holds a finite number that is not zero. The hidden bit is missing at
-- the lowest exponent only, and there no number is narrow.
structure Canonical (significand : Nat) (exponent : Int) (narrow : Bool) : Prop where
  positive : 0 < significand
  fits : significand < 2 ^ 53
  lowest : -1074 ≤ exponent
  hidden : -1074 < exponent → 2 ^ 52 ≤ significand
  narrows : narrow = true ↔ significand = 2 ^ 52 ∧ -1074 < exponent

theorem ofFields_canonical {biased fraction significand : Nat} {exponent : Int} {narrow : Bool}
    (short : fraction < 2 ^ 52)
    (held : ofFields biased fraction = .binary significand exponent narrow) :
    Canonical significand exponent narrow := by
  have bit : Nat.pow 2 52 = 2 ^ 52 := rfl
  unfold ofFields at held
  rw [bit] at held
  split at held
  · split at held <;> cases held
  · split at held
    · split at held
      · cases held
      · cases held
        exact ⟨by omega,by omega,by omega,by omega,by simp⟩
    · cases held
      refine ⟨by omega,by omega,by omega,by omega,?_⟩
      rw [Bool.and_eq_true,decide_eq_true_eq,decide_eq_true_eq]
      omega

theorem ofFields_nan {biased fraction : Nat} (held : ofFields biased fraction = .nan) :
    biased = 2047 ∧ fraction ≠ 0 := by
  unfold ofFields at held
  split at held
  · rename_i top
    split at held
    · cases held
    · rename_i filled
      exact ⟨top,filled⟩
  · split at held
    · split at held <;> cases held
    · cases held

def fields : Magnitude → Nat × Nat
  | .nan => (2047,2 ^ 51)
  | .infinite => (2047,0)
  | .zero => (0,0)
  | .binary significand exponent _ =>
    if significand < 2 ^ 52 then (0,significand)
    else ((exponent + 1075).toNat,significand - 2 ^ 52)

theorem fields_ofFields {biased fraction : Nat} (short : fraction < 2 ^ 52)
    (number : ofFields biased fraction ≠ .nan) :
    (ofFields biased fraction).fields = (biased,fraction) := by
  have bit : Nat.pow 2 52 = 2 ^ 52 := rfl
  unfold ofFields at number ⊢
  rw [bit]
  split
  · rename_i top
    split
    · rename_i empty
      rw [top,empty]
      rfl
    · rename_i filled
      simp [top,filled] at number
  · split
    · rename_i bottom
      split
      · rename_i empty
        rw [bottom,empty]
        rfl
      · rw [fields,if_pos short,bottom]
    · rw [fields,if_neg (by omega),Prod.mk.injEq]
      omega

end Magnitude

namespace Signed

open Float.Model Float.Model.UnpackedFloat Binary64

theorem exponent_field (b : Bits) :
    (unpackExponent b).toNat = b.toNat / Nat.pow 2 52 % Nat.pow 2 11 := by
  have exponent : unpackExponent b = b.extractLsb' 52 11 := rfl
  rw [exponent,BitVec.extractLsb'_toNat,Nat.shiftRight_eq_div_pow]
  rfl

theorem fraction_field (b : Bits) : (unpackMantissa b).toNat = b.toNat % Nat.pow 2 52 := by
  have mantissa : unpackMantissa b = b.extractLsb' 0 52 := rfl
  rw [mantissa,BitVec.extractLsb'_toNat]
  rfl

theorem bits_inj {x y : Float} (same : x.toBits = y.toBits) : x = y := by
  obtain ⟨⟨bits,valid⟩⟩ := x
  obtain ⟨⟨word,held⟩⟩ := y
  cases same
  rfl

theorem nan_word {x : Float} (number : (ofFloat x).magnitude = .nan) :
    x.toBits.toBitVec = packedNaN .binary64 := by
  obtain ⟨top,filled⟩ := Magnitude.ofFields_nan number
  have exponent := exponent_field x.toBits.toBitVec
  have fraction := fraction_field x.toBits.toBitVec
  refine x.toModel.valid.eq_packedNaN (BitVec.eq_of_toNat_eq ?_) fun empty => filled ?_
  · exact exponent.trans top
  · exact fraction.symm.trans (congrArg BitVec.toNat empty)

theorem nan_inj {x y : Float} (first : (ofFloat x).magnitude = .nan)
    (second : (ofFloat y).magnitude = .nan) : x = y :=
  bits_inj (UInt64.toBitVec_inj.1 ((nan_word first).trans (nan_word second).symm))

theorem ofBits_inj {bits word : Nat} (short : bits < 2 ^ 64) (fits : word < 2 ^ 64)
    (number : (ofBits bits).magnitude ≠ .nan) (same : ofBits bits = ofBits word) : bits = word := by
  have unlike : (ofBits word).magnitude ≠ .nan := same ▸ number
  have first := Magnitude.fields_ofFields (Nat.mod_lt bits (by decide)) number
  have second := Magnitude.fields_ofFields (Nat.mod_lt word (by decide)) unlike
  have magnitudes := congrArg (fun s : Signed => s.magnitude.fields) same
  have fields := first.symm.trans (magnitudes.trans second)
  have signs := congrArg Signed.negative same
  unfold ofBits at signs
  rw [decide_eq_decide] at signs
  rw [Prod.mk.injEq] at fields
  simp only [Nat.pow_eq] at fields signs
  omega

theorem ofFloat_inj {x y : Float} (same : ofFloat x = ofFloat y) : x = y := by
  by_cases number : (ofFloat x).magnitude = .nan
  · exact nan_inj number (same ▸ number)
  · have words := ofBits_inj x.toBits.toNat_lt y.toBits.toNat_lt number same
    exact bits_inj (UInt64.toNat_inj.1 words)

theorem ofFloat_canonical {x : Float} {significand : Nat} {exponent : Int} {narrow : Bool}
    (held : (ofFloat x).magnitude = .binary significand exponent narrow) :
    Magnitude.Canonical significand exponent narrow :=
  Magnitude.ofFields_canonical (Nat.mod_lt x.toBits.toNat (by decide)) held

end Signed
end LispCalls
