import LispCalls.Proofs.Binary64.Words

namespace LispCalls.Binary64

open Float.Model Float.Model.UnpackedFloat

def word (x : Float) : Bits := x.toBits.toBitVec

def minus : Sign → Bool
  | .negative => true
  | .positive => false

structure Filled (b : Bits) (s : Sign) (m : Nat) (e : Int) : Prop where
  sign : Sign.ofBitVec (unpackSign b) = s
  fields : (unpackExponent b).toNat = 0 ∧ m = (unpackMantissa b).toNat ∧ 0 < m ∧ e = -1074 ∨
    0 < (unpackExponent b).toNat ∧ (unpackExponent b).toNat < 2047 ∧
      m = 2 ^ 52 + (unpackMantissa b).toNat ∧ e = (unpackExponent b).toNat - 1075

theorem unpack_finite {b : Bits} {s : Sign} {m : Nat} {e : Int} {positive : 0 < m}
    (number : UnpackedFloat.unpack .binary64 b = .finite s m e positive) : Filled b s m e := by
  unfold UnpackedFloat.unpack at number
  by_cases top : unpackExponent b = -1#11
  · rw [if_pos top] at number
    split at number <;> cases number
  · rw [if_neg top] at number
    have below : (unpackExponent b).toNat ≠ 2047 := fun full => top (BitVec.eq_of_toNat_eq full)
    have short : (unpackExponent b).toNat < 2 ^ 11 := (unpackExponent b).isLt
    by_cases bottom : unpackExponent b = 0#11
    · rw [if_pos bottom] at number
      split at number
      · cases number
      · cases number
        refine ⟨rfl,.inl ⟨?_,rfl,positive,?_⟩⟩ <;> rw [bottom] <;> rfl
    · rw [if_neg bottom] at number
      have above : (unpackExponent b).toNat ≠ 0 := fun zero => bottom (BitVec.eq_of_toNat_eq zero)
      cases number
      exact ⟨rfl,.inr ⟨by omega,by omega,hidden_bit _,rfl⟩⟩

theorem unpack_zero {b : Bits} {s : Sign}
    (number : UnpackedFloat.unpack .binary64 b = .zero s) :
    Sign.ofBitVec (unpackSign b) = s ∧ (unpackExponent b).toNat = 0 ∧
      (unpackMantissa b).toNat = 0 := by
  unfold UnpackedFloat.unpack at number
  by_cases top : unpackExponent b = -1#11
  · rw [if_pos top] at number
    split at number <;> cases number
  · rw [if_neg top] at number
    by_cases bottom : unpackExponent b = 0#11
    · rw [if_pos bottom] at number
      split at number
      · rename_i empty
        cases number
        exact ⟨rfl,congrArg BitVec.toNat bottom,congrArg BitVec.toNat empty⟩
      · cases number
    · rw [if_neg bottom] at number
      cases number

theorem sign_field (b : Bits) :
    minus (Sign.ofBitVec (unpackSign b)) = decide (b.toNat / Nat.pow 2 63 = 1) := by
  have sign : unpackSign b = b.extractLsb' 63 1 := rfl
  have short : b.toNat < 2 ^ 64 := b.isLt
  have bit : (unpackSign b).toNat = b.toNat / 2 ^ 63 := by
    rw [sign,BitVec.extractLsb'_toNat,Nat.shiftRight_eq_div_pow]
    exact Nat.mod_eq_of_lt (by omega)
  rw [Nat.pow_eq,← bit]
  rcases BitVec.eq_zero_or_eq_one (unpackSign b) with zero | one
  · rw [zero]
    rfl
  · rw [one]
    rfl

theorem ofFloat_fields (x : Float) : Signed.ofFloat x =
    ⟨minus (Sign.ofBitVec (unpackSign (word x))),
      Magnitude.ofFields (unpackExponent (word x)).toNat (unpackMantissa (word x)).toNat⟩ := by
  rw [Signed.exponent_field,Signed.fraction_field,sign_field]
  rfl

theorem ofFloat_zero {x : Float} {s : Sign} (number : parts x = .zero s) :
    Signed.ofFloat x = ⟨minus s,.zero⟩ := by
  obtain ⟨sign,exponent,mantissa⟩ : _ ∧ (unpackExponent (word x)).toNat = 0 ∧
    (unpackMantissa (word x)).toNat = 0 := unpack_zero number
  rw [ofFloat_fields,exponent,mantissa,← sign]
  rfl

theorem ofFloat_finite {x : Float} {s : Sign} {m : Nat} {e : Int} {positive : 0 < m}
    (number : parts x = .finite s m e positive) :
    Signed.ofFloat x = ⟨minus s,.binary m e (decide (m = 2 ^ 52 ∧ -1074 < e))⟩ := by
  obtain ⟨sign,fields⟩ : Filled (word x) s m e := unpack_finite number
  rw [ofFloat_fields,sign]
  generalize (unpackExponent (word x)).toNat = biased at fields ⊢
  generalize (unpackMantissa (word x)).toNat = fraction at fields ⊢
  unfold Magnitude.ofFields
  rcases fields with ⟨rfl,rfl,filled,rfl⟩ | ⟨above,below,rfl,rfl⟩
  · rw [if_neg (by decide),if_pos rfl,if_neg (Nat.ne_of_gt filled)]
    simp
  · have narrow : (decide (fraction = 0) && decide (1 < biased)) =
        decide (2 ^ 52 + fraction = 2 ^ 52 ∧ -1074 < (biased : Int) - 1075) := by
      rw [← Bool.decide_and,decide_eq_decide]
      omega
    rw [if_neg (Nat.ne_of_lt below),if_neg (Nat.ne_of_gt above),narrow]
    rfl

theorem parts_small {x : Float} {s : Sign} {m : Nat} {e : Int} {positive : 0 < m}
    (number : parts x = .finite s m e positive) : e ≤ 971 := by
  obtain ⟨-,fields⟩ : Filled (word x) s m e := unpack_finite number
  omega

theorem parts_parity {x : Float} {s : Sign} {m : Nat} {e : Int} {positive : 0 < m}
    (number : parts x = .finite s m e positive) : x.toBits.toNat % 2 = m % 2 := by
  obtain ⟨-,fields⟩ : Filled (word x) s m e := unpack_finite number
  have fraction : (unpackMantissa (word x)).toNat = x.toBits.toNat % 2 ^ 52 :=
    Signed.fraction_field (word x)
  omega

theorem sign_bit_set (x : Float) : (Signed.ofFloat x).negative = true ↔ 2 ^ 63 ≤ x.toBits.toNat := by
  have short := x.toBits.toNat_lt
  have bit : (Signed.ofFloat x).negative = decide (x.toBits.toNat / 2 ^ 63 = 1) := rfl
  rw [bit,decide_eq_true_eq]
  omega

end LispCalls.Binary64
