import LispCalls.Proofs.Binary64.Packing

namespace LispCalls.Binary64

open Float.Model Float.Model.UnpackedFloat

theorem shifted_mantissa (em : ExtendedMantissa) (places : Nat) :
    (em >>> places).mantissa = em.mantissa / 2 ^ places := by
  induction places with
  | zero => exact (Nat.div_one _).symm
  | succ places ih =>
    change (em >>> places).mantissa / 2 = _
    rw [ih,Nat.div_div_eq_div_mul,← Nat.pow_succ]

theorem initial_mantissa (m : Nat) (accuracy : Accuracy) :
    (ExtendedMantissa.ofMantissaAndAccuracy m accuracy).mantissa = m := by
  rcases accuracy with _ | order
  · rfl
  · cases order <;> rfl

theorem rounded_ge (em : ExtendedMantissa) : em.mantissa ≤ em.roundedMantissa := by
  obtain ⟨m,round,sticky⟩ := em
  cases round <;> cases sticky <;>
    simp [ExtendedMantissa.roundedMantissa,ExtendedMantissa.accuracy,Accuracy.roundToNearestEven]

theorem fit_exact (m : Nat) {e : Int} (accuracy : Accuracy) (lowest : -1074 ≤ e) :
    shiftToTargetExponent .binary64 m e accuracy =
      (ExtendedMantissa.ofMantissaAndAccuracy m accuracy >>> (m.log2 - 52),
        e + (m.log2 - 52 : Nat)) := by
  have distance : (Format.binary64.targetExponent (totalExponent m e) - e).toNat = m.log2 - 52 := by
    change (max ((m.log2 : Int) + 1 + e - 53) (-1074) - e).toNat = m.log2 - 52
    omega
  simp only [shiftToTargetExponent,shiftToExponent,distance]

theorem fitted_bounds {m : Nat} (positive : 0 < m) :
    0 < m / 2 ^ (m.log2 - 52) ∧ m / 2 ^ (m.log2 - 52) < 2 ^ 53 := by
  have low : 2 ^ m.log2 ≤ m := Nat.log2_self_le (Nat.ne_of_gt positive)
  have high : m < 2 ^ (m.log2 + 1) := Nat.lt_log2_self
  constructor
  · have lost : 2 ^ (m.log2 - 52) ≤ 2 ^ m.log2 := Nat.pow_le_pow_right Nat.two_pos (Nat.sub_le _ _)
    exact Nat.div_pos (Nat.le_trans lost low) (Nat.two_pow_pos _)
  · rw [Nat.div_lt_iff_lt_mul (Nat.two_pow_pos _),← Nat.pow_add]
    exact Nat.lt_of_lt_of_le high (Nat.pow_le_pow_right Nat.two_pos (by omega))

def Kept (u : UnpackedFloat) : Prop :=
  ∃ s m e positive, u = .finite s m e positive ∧ m < 2 ^ 53 ∧ -1074 ≤ e

theorem carry_kept (s : Sign) {m : Nat} {e : Int} (positive : 0 < m) (lowest : -1074 ≤ e) :
    let (em,exponent) := shiftToTargetExponent .binary64 m e .exact
    Kept (if empty : em.mantissa = 0 then .zero s
      else .finite s em.mantissa exponent (Nat.pos_of_ne_zero empty)) := by
  obtain ⟨nonzero,fits⟩ := fitted_bounds positive
  rw [fit_exact m .exact lowest]
  simp only [shifted_mantissa,initial_mantissa]
  rw [dif_neg (Nat.ne_of_gt nonzero)]
  exact ⟨s,_,_,nonzero,rfl,fits,by omega⟩

theorem roundWithAccuracy_kept (s : Sign) {m : Nat} {e : Int} (accuracy : Accuracy)
    (positive : 0 < m) (lowest : -1074 ≤ e) :
    Kept (roundWithAccuracy .binary64 s m e accuracy) := by
  unfold roundWithAccuracy
  rw [fit_exact m accuracy lowest]
  apply carry_kept
  · apply Nat.lt_of_lt_of_le _ (rounded_ge _)
    rw [shifted_mantissa,initial_mantissa]
    exact (fitted_bounds positive).1
  · omega

theorem round_kept (s : Sign) {m : Nat} {e : Int} (positive : 0 < m) (lowest : -1074 ≤ e) :
    Kept (UnpackedFloat.round .binary64 s m e) := by
  have target : -1074 ≤ Format.binary64.targetExponent (totalExponent m e) := by
    change -1074 ≤ max ((m.log2 : Int) + 1 + e - 53) (-1074)
    omega
  unfold UnpackedFloat.round decreaseExponent
  apply roundWithAccuracy_kept
  · rw [Nat.shiftLeft_eq]
    exact Nat.mul_pos positive (Nat.two_pow_pos _)
  · omega

theorem pack_kept {u : UnpackedFloat} (kept : Kept u) (s : Sign) :
    UnpackedFloat.pack .binary64 u ≠ packedZero .binary64 s := by
  obtain ⟨t,m,e,positive,rfl,fits,lowest⟩ := kept
  have bias : e + Format.binary64.exponentBias + Format.binary64.mantissaBitsWithoutImplicit =
      e + 1075 := Int.add_assoc e 1023 52
  intro same
  unfold UnpackedFloat.pack at same
  simp only [packedZero,bias] at same
  split at same
  · have exponent := congrArg unpackExponent same
    rw [packedInfinity,unpackExponent_packComponents,unpackExponent_packComponents] at exponent
    exact absurd exponent (by decide)
  · rename_i small
    split at same
    · have exponent := congrArg (fun b => (unpackExponent b).toNat) same
      simp only [unpackExponent_packComponents,BitVec.toNat_ofNat] at exponent
      change (e + 1075).toNat % 2048 = 0 at exponent
      change ¬2048 ≤ (e + 1075).toNat + 1 at small
      omega
    · rename_i notNormal
      change m.log2 + 1 ≠ 53 at notNormal
      have short : m.log2 < 53 := (Nat.log2_lt (Nat.ne_of_gt positive)).2 fits
      have subnormal : m < 2 ^ 52 := (Nat.log2_lt (Nat.ne_of_gt positive)).1 (by omega)
      have mantissa := congrArg (fun b => (unpackMantissa b).toNat) same
      simp only [unpackMantissa_packComponents,BitVec.toNat_ofNat] at mantissa
      change m % 2 ^ 52 = 0 at mantissa
      omega

theorem pack_signedZero {s t : Sign}
    (same : UnpackedFloat.pack .binary64 (.zero s) = packedZero .binary64 t) : s = t := by
  cases s <;> cases t <;> first | rfl | exact absurd same (by decide)

theorem pack_infinity (s t : Sign) :
    UnpackedFloat.pack .binary64 (.infinity s) ≠ packedZero .binary64 t := by
  cases s <;> cases t <;> decide

theorem normalize_zero {m e : Int} {s : Sign} (lowest : -1074 ≤ e)
    (same : UnpackedFloat.pack .binary64 (UnpackedFloat.normalize .binary64 m e .positive) =
      packedZero .binary64 s) : s = .positive := by
  unfold UnpackedFloat.normalize at same
  split at same
  · rename_i negative
    have nonzero := Int.compare_eq_lt.1 negative
    exact absurd same (pack_kept (round_kept _ (by omega) lowest) s)
  · exact (pack_signedZero same).symm
  · rename_i positive
    have nonzero := Int.compare_eq_gt.1 positive
    exact absurd same (pack_kept (round_kept _ (by omega) lowest) s)

theorem parts_signedZero {x : Float} {s : Sign}
    (packed : UnpackedFloat.pack .binary64 (parts x) = packedZero .binary64 s) :
    parts x = .zero s := by
  have word : x.toModel.toBits.toBitVec = packedZero .binary64 s :=
    (pack_unpack x.toModel.valid).symm.trans packed
  have read : parts x = UnpackedFloat.unpack .binary64 (packedZero .binary64 s) :=
    congrArg (UnpackedFloat.unpack .binary64) word
  rw [read]
  cases s <;> rfl

theorem zero_plus {x : Float} (other : x ≠ -0.0) : 0.0 + x = x := by
  change ofParts (UnpackedFloat.add .binary64 (.zero .positive) (parts x)) = x
  apply ofParts_eq
  cases number : parts x with
  | zero s =>
    cases s with
    | positive => rfl
    | negative => exact absurd (parts_inj number) other
  | notANumber => rfl
  | infinity s => rfl
  | finite s m e positive => rfl

theorem add_eq_negativeZero {x y : Float} (sum : x + y = -0.0) : x = -0.0 ∧ y = -0.0 := by
  have packed : UnpackedFloat.pack .binary64 (UnpackedFloat.add .binary64 (parts x) (parts y)) =
      packedZero .binary64 .negative := congrArg (·.toModel.toBits.toBitVec) sum
  have notNaN : UnpackedFloat.pack .binary64 .notANumber ≠ packedZero .binary64 .negative := by
    decide
  cases first : parts x <;> cases second : parts y <;>
    simp only [first,second,UnpackedFloat.add] at packed
  case zero.zero s t =>
    split at packed
    · rename_i agree
      have negative := pack_signedZero packed
      subst negative
      have same : t = .negative := by cases t <;> first | rfl | cases agree
      subst same
      exact ⟨parts_inj first,parts_inj second⟩
    · cases pack_signedZero packed
  case zero.finite => cases second.symm.trans (parts_signedZero (second ▸ packed))
  case finite.zero => cases first.symm.trans (parts_signedZero (first ▸ packed))
  case finite.finite =>
    have lowestFirst := (parts_held first).lowest
    have lowestSecond := (parts_held second).lowest
    cases normalize_zero (by omega) packed
  case infinity.infinity =>
    split at packed
    · exact absurd packed (pack_infinity _ _)
    · exact absurd packed notNaN
  case infinity.zero | infinity.finite | zero.infinity | finite.infinity =>
    exact absurd packed (pack_infinity _ _)
  all_goals exact absurd packed notNaN

end LispCalls.Binary64
