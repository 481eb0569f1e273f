import LispCalls.Proofs.Binary64.Sums

namespace LispCalls.Binary64

open Float.Model Float.Model.UnpackedFloat

theorem shift_scaled (m places : Nat) :
    (ExtendedMantissa.ofMantissaAndAccuracy (m * 2 ^ places) .exact >>> places) =
      ⟨m,false,false⟩ := by
  induction places generalizing m with
  | zero =>
    rw [Nat.pow_zero,Nat.mul_one]
    rfl
  | succ places ih =>
    have doubled : m * 2 ^ (places + 1) = m * 2 * 2 ^ places := by
      rw [Nat.pow_succ',Nat.mul_assoc]
    have last : (ExtendedMantissa.ofMantissaAndAccuracy (m * 2 * 2 ^ places) .exact >>> (places + 1)) =
        (ExtendedMantissa.ofMantissaAndAccuracy (m * 2 * 2 ^ places) .exact >>> places).shiftRightOne :=
      rfl
    rw [doubled,last,ih]
    simp [ExtendedMantissa.shiftRightOne]

theorem log2_scaled {m : Nat} (positive : 0 < m) (places : Nat) :
    (m * 2 ^ places).log2 = m.log2 + places := by
  have nonzero : m * 2 ^ places ≠ 0 := Nat.ne_of_gt (Nat.mul_pos positive (Nat.two_pow_pos places))
  have low : 2 ^ m.log2 ≤ m := Nat.log2_self_le (Nat.ne_of_gt positive)
  have high : m < 2 ^ (m.log2 + 1) := Nat.lt_log2_self
  rw [Nat.log2_eq_iff nonzero,Nat.add_right_comm,Nat.pow_add,Nat.pow_add]
  exact ⟨Nat.mul_le_mul_right _ low,Nat.mul_lt_mul_of_pos_right high (Nat.two_pow_pos places)⟩

theorem target_scaled {m : Nat} {e : Int} (held : Held m e) (places : Nat) :
    Format.binary64.targetExponent (totalExponent (m * 2 ^ places) (e - places)) = e := by
  have log := log2_scaled held.positive places
  have high : m.log2 < 53 := (Nat.log2_lt (Nat.ne_of_gt held.positive)).2 held.fits
  have lowest := held.lowest
  change max (((m * 2 ^ places).log2 : Int) + 1 + (e - places) - 53) (-1074) = e
  by_cases above : -1074 < e
  · have low : 52 ≤ m.log2 := (Nat.le_log2 (Nat.ne_of_gt held.positive)).2 (held.hidden above)
    omega
  · omega

theorem shift_held {m : Nat} {e : Int} (held : Held m e) (places : Nat) :
    shiftToTargetExponent .binary64 (m * 2 ^ places) (e - places) .exact =
      (⟨m,false,false⟩,e) := by
  have distance : (e - (e - (places : Int))).toNat = places := by omega
  simp only [shiftToTargetExponent,shiftToExponent,target_scaled held,distance,shift_scaled,
    Int.sub_add_cancel]

theorem round_held (s : Sign) {m : Nat} {e : Int} (held : Held m e) (places : Nat) :
    roundWithAccuracy .binary64 s (m * 2 ^ places) (e - places) .exact =
      .finite s m e held.positive := by
  have rounded : (ExtendedMantissa.mk m false false).roundedMantissa = m := rfl
  have again := shift_held held 0
  simp only [Nat.pow_zero,Nat.mul_one,Int.ofNat_zero,Int.sub_zero] at again
  unfold roundWithAccuracy
  simp only [shift_held held places,rounded,again]
  exact dif_neg (Nat.ne_of_gt held.positive)

theorem plus_zero {x : Float} (other : x ≠ -0.0) : x + 0.0 = x := by
  change ofParts (UnpackedFloat.add .binary64 (parts x) (.zero .positive)) = x
  apply ofParts_eq
  cases number : parts x with
  | zero s =>
    cases s with
    | positive => rfl
    | negative => exact absurd (parts_inj number) other
  | _ => rfl

@[simp] theorem plus_negativeZero (x : Float) : x + -0.0 = x := by
  change ofParts (UnpackedFloat.add .binary64 (parts x) (.zero .negative)) = x
  apply ofParts_eq
  cases parts x with
  | zero s => cases s <;> rfl
  | _ => rfl

@[simp] theorem negativeZero_plus (x : Float) : -0.0 + x = x := by
  change ofParts (UnpackedFloat.add .binary64 (.zero .negative) (parts x)) = x
  apply ofParts_eq
  cases parts x with
  | zero s => cases s <;> rfl
  | _ => rfl

@[simp] theorem minus_zero (x : Float) : x - 0.0 = x := by
  change ofParts (UnpackedFloat.sub .binary64 (parts x) (.zero .positive)) = x
  apply ofParts_eq
  cases parts x with
  | zero s => cases s <;> rfl
  | _ => rfl

theorem parts_one : parts 1.0 = .finite .positive (2 ^ 52) (-52) (by decide) := rfl

theorem sign_kept (s : Sign) : s * .positive = s ∧ s / .positive = s := by
  cases s <;> exact ⟨rfl,rfl⟩

@[simp] theorem times_one (x : Float) : x * 1.0 = x := by
  change ofParts (UnpackedFloat.mul .binary64 (parts x) (parts 1.0)) = x
  apply ofParts_eq
  rw [parts_one]
  cases number : parts x with
  | notANumber => rfl
  | infinity s | zero s => simp only [UnpackedFloat.mul,sign_kept]
  | finite s m e positive =>
    simp only [UnpackedFloat.mul,sign_kept]
    exact round_held s (parts_held number) 52

theorem times_comm (x y : Float) : x * y = y * x := by
  have signs : ∀ s t : Sign, s * t = t * s := by
    intro s t
    cases s <;> cases t <;> rfl
  change ofParts (UnpackedFloat.mul .binary64 (parts x) (parts y)) =
    ofParts (UnpackedFloat.mul .binary64 (parts y) (parts x))
  congr 1
  cases parts x <;> cases parts y <;>
    simp only [UnpackedFloat.mul,signs,Nat.mul_comm,Int.add_comm]

@[simp] theorem one_times (x : Float) : 1.0 * x = x := by
  rw [times_comm,times_one]

-- A quotient by one is the dividend, with one more place below it where there is room.
theorem divCore_one {m : Nat} {e : Int} (held : Held m e) :
    ∃ places : Nat, divCore .binary64 m e (2 ^ 52) (-52) = (m * 2 ^ places,e - places,.exact) := by
  have high : m.log2 < 53 := (Nat.log2_lt (Nat.ne_of_gt held.positive)).2 held.fits
  have lowest := held.lowest
  have target : ∃ places : Nat, min (e - -52) (Format.binary64.targetExponent
      (totalExponent m e - totalExponent (2 ^ 52) (-52))) = e - places := by
    have one : totalExponent (2 ^ 52) (-52) = 1 := by
      rw [totalExponent,Nat.log2_two_pow]
      rfl
    rw [one]
    change ∃ places : Nat, min (e - -52) (max (((m.log2 : Int) + 1 + e - 1) - 53) (-1074)) = e - places
    by_cases above : -1074 < e
    · have low : 52 ≤ m.log2 := (Nat.le_log2 (Nat.ne_of_gt held.positive)).2 (held.hidden above)
      exact ⟨1,by omega⟩
    · exact ⟨0,by omega⟩
  obtain ⟨places,reached⟩ := target
  have distance : (e - -52 - (e - (places : Int))).toNat = places + 52 := by omega
  refine ⟨places,?_⟩
  have shifted : m <<< (places + 52) = m * 2 ^ places * 2 ^ 52 := by
    rw [Nat.shiftLeft_eq,Nat.pow_add,Nat.mul_assoc]
  simp only [divCore,reached,distance,shifted,Nat.mul_div_cancel _ (Nat.two_pow_pos 52),
    Nat.mul_mod_left,accuracyOfFraction,if_true]

@[simp] theorem over_one (x : Float) : x / 1.0 = x := by
  change ofParts (UnpackedFloat.div .binary64 (parts x) (parts 1.0)) = x
  apply ofParts_eq
  rw [parts_one]
  cases number : parts x with
  | notANumber => rfl
  | infinity s | zero s => simp only [UnpackedFloat.div,sign_kept]
  | finite s m e positive =>
    obtain ⟨places,quotient⟩ := divCore_one (parts_held number)
    simp only [UnpackedFloat.div,sign_kept,quotient]
    exact round_held s (parts_held number) places

end LispCalls.Binary64
