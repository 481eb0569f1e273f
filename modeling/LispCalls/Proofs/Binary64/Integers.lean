import LispCalls.Proofs.Binary64.Equality
import LispCalls.Proofs.Binary64.Units

namespace LispCalls.Binary64

open Float.Model Float.Model.UnpackedFloat

def rational? : UnpackedFloat → Option ℚ
  | .zero _ => some 0
  | .finite s m e _ => some ((s.apply m : ℤ) * 2 ^ e)
  | .infinity _ | .notANumber => none

def Whole (x : Float) (n : ℤ) : Prop := rational? (parts x) = some (n : ℚ)

theorem scale_apart {e f : ℤ} (less : f ≤ e) : (2 : ℚ) ^ e = 2 ^ (e - f).toNat * 2 ^ f := by
  rw [← zpow_natCast,Int.toNat_of_nonneg (by omega),← zpow_add₀ (by norm_num),Int.sub_add_cancel]

theorem same_scale {m n : ℕ} {e f : ℤ} (less : f ≤ e)
    (same : (n : ℚ) * 2 ^ f = m * 2 ^ e) : n = m * 2 ^ (e - f).toNat := by
  have scale : (0 : ℚ) < 2 ^ f := zpow_pos (by norm_num) f
  rw [scale_apart less,← mul_assoc] at same
  exact_mod_cast mul_right_cancel₀ scale.ne' same

theorem Held.exponent_le {m n : ℕ} {e f : ℤ} (first : Held m e) (second : Held n f)
    (same : (m : ℚ) * 2 ^ e = n * 2 ^ f) : e ≤ f := by
  by_contra above
  have scaled : n = m * 2 ^ (e - f).toNat := same_scale (by omega) same.symm
  have hidden := first.hidden (by have := second.lowest; omega)
  have doubled : 2 ^ 1 ≤ 2 ^ (e - f).toNat := Nat.pow_le_pow_right Nat.two_pos (by omega)
  have large : 2 ^ 52 * 2 ^ 1 ≤ m * 2 ^ (e - f).toNat := Nat.mul_le_mul hidden doubled
  have fits := second.fits
  omega

theorem Held.unique {m n : ℕ} {e f : ℤ} (first : Held m e) (second : Held n f)
    (same : (m : ℚ) * 2 ^ e = n * 2 ^ f) : m = n ∧ e = f := by
  have exponents : e = f :=
    Int.le_antisymm (first.exponent_le second same) (second.exponent_le first same.symm)
  subst exponents
  have scale : (2 : ℚ) ^ e ≠ 0 := zpow_ne_zero e (by norm_num)
  exact ⟨by exact_mod_cast mul_right_cancel₀ scale same,rfl⟩

theorem totalExponent_scaled {m : ℕ} (positive : 0 < m) (places : ℕ) (e : ℤ) :
    totalExponent (m * 2 ^ places) e = totalExponent m (e + places) := by
  rw [totalExponent,totalExponent,log2_scaled positive]
  push_cast
  ring

theorem target_held {m : ℕ} {e : ℤ} (held : Held m e) :
    Format.binary64.targetExponent (totalExponent m e) = e := by
  simpa using target_scaled held 0

-- Rounding leaves a rational that can be held as it is, in whatever way it is written.
theorem round_exact (s : Sign) {m n : ℕ} {e f : ℤ} (held : Held m e)
    (same : (n : ℚ) * 2 ^ f = m * 2 ^ e) :
    UnpackedFloat.round .binary64 s n f = .finite s m e held.positive := by
  unfold UnpackedFloat.round
  rcases Int.le_total f e with less | more
  · obtain ⟨places,rfl⟩ : ∃ places : ℕ, f = e - places := ⟨(e - f).toNat,by omega⟩
    have distance : (e - (e - (places : ℤ))).toNat = places := by omega
    have kept : (e - (places : ℤ) - e).toNat = 0 := by omega
    have scaled : n = m * 2 ^ places := distance ▸ same_scale less same
    subst scaled
    simp only [target_scaled held,decreaseExponent,kept,Nat.shiftLeft_zero,Int.ofNat_zero,
      Int.sub_zero]
    exact round_held s held places
  · obtain ⟨places,rfl⟩ : ∃ places : ℕ, f = e + places := ⟨(f - e).toNat,by omega⟩
    have distance : (e + (places : ℤ) - e).toNat = places := by omega
    have scaled : m = n * 2 ^ places := distance ▸ same_scale more same.symm
    subst scaled
    have positive : 0 < n := Nat.pos_of_mul_pos_right held.positive
    have target : Format.binary64.targetExponent (totalExponent n (e + places)) = e := by
      rw [← totalExponent_scaled positive,target_held held]
    simp only [target,decreaseExponent,distance,Nat.shiftLeft_eq,Int.add_sub_cancel]
    simpa using round_held s held 0

theorem integer_held {n : ℕ} (positive : 0 < n) (small : n ≤ 2 ^ 53) :
    ∃ (m : ℕ) (e : ℤ), Held m e ∧ e ≤ 971 ∧ (m : ℚ) * 2 ^ e = n := by
  by_cases top : n = 2 ^ 53
  · subst top
    have held : Held (2 ^ 52) 1 := ⟨by norm_num,by norm_num,by norm_num,fun _ => Nat.le_refl _⟩
    exact ⟨2 ^ 52,1,held,by norm_num,by norm_num⟩
  · have low : 2 ^ n.log2 ≤ n := Nat.log2_self_le (Nat.ne_of_gt positive)
    have high : n < 2 ^ (n.log2 + 1) := Nat.lt_log2_self
    have short : n.log2 < 53 := (Nat.log2_lt (Nat.ne_of_gt positive)).2 (by omega)
    obtain ⟨places,whole⟩ : ∃ places : ℕ, n.log2 + places = 52 := ⟨52 - n.log2,by omega⟩
    have scale : 0 < 2 ^ places := Nat.two_pow_pos places
    have hidden : 2 ^ 52 ≤ n * 2 ^ places := by
      rw [← whole,Nat.pow_add]
      exact Nat.mul_le_mul_right _ low
    have fits : n * 2 ^ places < 2 ^ 53 := by
      have next : n.log2 + 1 + places = 53 := by omega
      rw [← next,Nat.pow_add]
      exact Nat.mul_lt_mul_of_pos_right high scale
    refine ⟨n * 2 ^ places,-places,⟨Nat.mul_pos positive scale,fits,by omega,fun _ => hidden⟩,
      by omega,?_⟩
    have back : (2 : ℚ) ^ places * 2 ^ (-(places : ℤ)) = 1 := by
      rw [← zpow_natCast,← zpow_add₀ (by norm_num),Int.add_right_neg,zpow_zero]
    push_cast
    rw [mul_assoc,back,mul_one]

theorem apply_scaled (s : Sign) {m n : ℕ} {e : ℤ} (same : (m : ℚ) * 2 ^ e = n) :
    ((s.apply m : ℤ) : ℚ) * 2 ^ e = (s.apply n : ℤ) := by
  cases s <;> simp [Sign.apply,same]

theorem round_whole (s : Sign) {m n : ℕ} {e : ℤ} (positive : 0 < n) (small : n ≤ 2 ^ 53)
    (same : (m : ℚ) * 2 ^ e = n) :
    Whole (ofParts (UnpackedFloat.round .binary64 s m e)) (s.apply n) := by
  obtain ⟨k,f,held,top,value⟩ := integer_held positive small
  have rounded := round_exact s held (same.trans value.symm)
  rw [Whole,rounded,parts_ofParts s held top,rational?,apply_scaled s value]

theorem zero_whole (s : Sign) : Whole (ofParts (.zero s)) 0 := by
  cases s <;> exact congrArg some Int.cast_zero.symm

theorem normalize_whole {m n e : ℤ} (small : n.natAbs ≤ 2 ^ 53) (same : (m : ℚ) * 2 ^ e = n)
    (s : Sign) : Whole (ofParts (UnpackedFloat.normalize .binary64 m e s)) n := by
  have scale : (0 : ℚ) < 2 ^ e := zpow_pos (by norm_num) e
  unfold UnpackedFloat.normalize
  split
  · rename_i order
    have below : (m : ℚ) < 0 := by exact_mod_cast Int.compare_eq_lt.1 order
    have negative : n < 0 := by exact_mod_cast same ▸ mul_neg_of_neg_of_pos below scale
    obtain ⟨k,rfl⟩ : ∃ k : ℕ, n = -k := ⟨n.natAbs,by omega⟩
    obtain ⟨j,rfl⟩ : ∃ j : ℕ, m = -j := ⟨m.natAbs,by have := Int.compare_eq_lt.1 order; omega⟩
    rw [neg_neg,Int.toNat_natCast]
    exact round_whole .negative (by omega) (by omega) (by simpa using same)
  · rename_i order
    have none := Int.compare_eq_eq.1 order
    rw [none,Int.cast_zero,zero_mul] at same
    have zero : n = 0 := by exact_mod_cast same.symm
    rw [zero]
    exact zero_whole s
  · rename_i order
    have above : (0 : ℚ) < m := by exact_mod_cast Int.compare_eq_gt.1 order
    have positive : 0 < n := by exact_mod_cast same ▸ mul_pos above scale
    obtain ⟨k,rfl⟩ : ∃ k : ℕ, n = k := ⟨n.natAbs,by omega⟩
    obtain ⟨j,rfl⟩ : ∃ j : ℕ, m = j := ⟨m.natAbs,by have := Int.compare_eq_gt.1 order; omega⟩
    rw [Int.toNat_natCast]
    exact round_whole .positive (by omega) (by omega) same

theorem magnitude_whole {s : Sign} {m : ℕ} {e n : ℤ}
    (value : ((s.apply m : ℤ) : ℚ) * 2 ^ e = n) :
    (m : ℚ) * 2 ^ e = n.natAbs ∧ s.apply n.natAbs = n := by
  have nonnegative : (0 : ℚ) ≤ (m : ℚ) * 2 ^ e := by positivity
  cases s with
  | positive =>
    have same : (m : ℚ) * 2 ^ e = n := value
    have above : 0 ≤ n := by exact_mod_cast same ▸ nonnegative
    obtain ⟨k,rfl⟩ := Int.eq_ofNat_of_zero_le above
    exact ⟨same,rfl⟩
  | negative =>
    have same : (m : ℚ) * 2 ^ e = (-n : ℤ) := by
      rw [Int.cast_neg,← value]
      simp [Sign.apply]
    have above : 0 ≤ -n := by exact_mod_cast same ▸ nonnegative
    obtain ⟨k,negated⟩ := Int.eq_ofNat_of_zero_le above
    obtain rfl : n = -k := by omega
    refine ⟨?_,?_⟩
    · simpa using same
    · simp [Sign.apply]

theorem Whole.parts_cases {x : Float} {n : ℤ} (whole : Whole x n) :
    (∃ s, parts x = .zero s) ∧ n = 0 ∨
      ∃ s m e, ∃ held : Held m e, parts x = .finite s m e held.positive ∧
        (m : ℚ) * 2 ^ e = n.natAbs ∧ s.apply n.natAbs = n := by
  unfold Whole at whole
  cases number : parts x with
  | zero s =>
    rw [number,rational?,Option.some.injEq] at whole
    exact .inl ⟨⟨s,rfl⟩,by exact_mod_cast whole.symm⟩
  | finite s m e positive =>
    rw [number,rational?,Option.some.injEq] at whole
    exact .inr ⟨s,m,e,parts_held number,rfl,magnitude_whole whole⟩
  | infinity s =>
    rw [number] at whole
    cases whole
  | notANumber =>
    rw [number] at whole
    cases whole

theorem lowered_whole (s : Sign) {m k : ℕ} {e f : ℤ} (less : f ≤ e)
    (value : (m : ℚ) * 2 ^ e = k) :
    ((s.apply (m <<< (e - f).toNat : ℕ) : ℤ) : ℚ) * 2 ^ f = (s.apply k : ℤ) := by
  apply apply_scaled
  rw [Nat.shiftLeft_eq,Nat.cast_mul,Nat.cast_pow,Nat.cast_ofNat,mul_assoc,← scale_apart less,value]

theorem finite_whole (s : Sign) {m : ℕ} {e : ℤ} (held : Held m e) {n : ℕ} (small : n ≤ 2 ^ 53)
    (value : (m : ℚ) * 2 ^ e = n) :
    Whole (ofParts (.finite s m e held.positive)) (s.apply n) := by
  have above : (0 : ℚ) < (m : ℚ) * 2 ^ e :=
    mul_pos (Nat.cast_pos.2 held.positive) (zpow_pos (by norm_num) e)
  have positive : 0 < n := by exact_mod_cast value ▸ above
  rw [← round_exact s held rfl]
  exact round_whole s positive small value

theorem apply_mul (s t : Sign) (m n : ℤ) : (s * t).apply (m * n) = s.apply m * t.apply n := by
  cases s with
  | positive =>
    cases t with
    | positive => rfl
    | negative => exact (mul_neg m n).symm
  | negative =>
    cases t with
    | positive => exact (neg_mul m n).symm
    | negative => exact (neg_mul_neg m n).symm

-- The product of two held significands has no fewer places below it than the number it is rounded
-- to: it is large, or both exponents are the lowest.
theorem product_exponent {m n k : ℕ} {e f g : ℤ} (first : Held m e) (second : Held n f)
    (whole : Held k g) (value : ((m * n : ℕ) : ℚ) * 2 ^ (e + f) = k * 2 ^ g) : e + f ≤ g := by
  by_contra above
  have scaled : k = m * n * 2 ^ (e + f - g).toNat := same_scale (by omega) value.symm
  have doubled : 2 ^ 1 ≤ 2 ^ (e + f - g).toNat := Nat.pow_le_pow_right Nat.two_pos (by omega)
  have large : m * n * 2 ^ 1 ≤ k := scaled ▸ Nat.mul_le_mul_left (m * n) doubled
  have fits := whole.fits
  have left : m ≤ m * n := Nat.le_mul_of_pos_right m second.positive
  have right : n ≤ m * n := Nat.le_mul_of_pos_left n first.positive
  have lowest : ¬-1074 < e := fun more => by have := first.hidden more; omega
  have bottom : ¬-1074 < f := fun more => by have := second.hidden more; omega
  have floor := whole.lowest
  omega

theorem product_whole (s : Sign) {m n k : ℕ} {e f : ℤ} (first : Held m e) (second : Held n f)
    (small : k ≤ 2 ^ 53) (value : ((m * n : ℕ) : ℚ) * 2 ^ (e + f) = k) :
    Whole (ofParts (roundWithAccuracy .binary64 s (m * n) (e + f) .exact)) (s.apply k) := by
  have above : (0 : ℚ) < ((m * n : ℕ) : ℚ) * 2 ^ (e + f) :=
    mul_pos (Nat.cast_pos.2 (Nat.mul_pos first.positive second.positive)) (zpow_pos (by norm_num) _)
  have positive : 0 < k := by exact_mod_cast value ▸ above
  obtain ⟨l,g,held,top,same⟩ := integer_held positive small
  have scale := value.trans same.symm
  have less : e + f ≤ g := product_exponent first second held scale
  obtain ⟨places,lower⟩ : ∃ places : ℕ, e + f = g - places := ⟨(g - (e + f)).toNat,by omega⟩
  have distance : (g - (g - (places : ℤ))).toNat = places := by omega
  rw [lower] at scale less ⊢
  have scaled : m * n = l * 2 ^ places := distance ▸ same_scale less scale
  have rounded := round_held s held places
  rw [scaled,Whole,rounded,parts_ofParts s held top,rational?,apply_scaled s same]

section Operations

variable {x y : Float} {a b : ℤ} (first : Whole x a) (second : Whole y b)

include first second

theorem add_whole (small : (a + b).natAbs ≤ 2 ^ 53) : Whole (x + y) (a + b) := by
  change Whole (ofParts (UnpackedFloat.add .binary64 (parts x) (parts y))) (a + b)
  rcases first.parts_cases with ⟨⟨s,left⟩,rfl⟩ | ⟨s,m,e,held,left,size,signed⟩
  · rcases second.parts_cases with ⟨⟨t,right⟩,rfl⟩ | ⟨t,n,f,also,right,-,-⟩
    · rw [left,right]
      cases s <;> cases t <;> exact zero_whole _
    · have kept : UnpackedFloat.add .binary64 (parts x) (parts y) = parts y := by
        rw [left,right]
        rfl
      simpa [kept] using second
  · rcases second.parts_cases with ⟨⟨t,right⟩,rfl⟩ | ⟨t,n,f,also,right,length,marked⟩
    · have kept : UnpackedFloat.add .binary64 (parts x) (parts y) = parts x := by
        rw [left,right]
        rfl
      simpa [kept] using first
    · rw [left,right]
      refine normalize_whole small ?_ .positive
      rw [Int.cast_add,add_mul,lowered_whole s (Int.min_le_left e f) size,
        lowered_whole t (Int.min_le_right e f) length,signed,marked,Int.cast_add]

theorem sub_whole (small : (a - b).natAbs ≤ 2 ^ 53) : Whole (x - y) (a - b) := by
  change Whole (ofParts (UnpackedFloat.sub .binary64 (parts x) (parts y))) (a - b)
  rcases first.parts_cases with ⟨⟨s,left⟩,rfl⟩ | ⟨s,m,e,held,left,size,signed⟩
  · rcases second.parts_cases with ⟨⟨t,right⟩,rfl⟩ | ⟨t,n,f,also,right,length,marked⟩
    · rw [left,right]
      cases s <;> cases t <;> exact zero_whole _
    · have turned : (-t).apply b.natAbs = 0 - b := by
        rw [zero_sub]
        nth_rewrite 2 [← marked]
        cases t <;> first | rfl | exact (neg_neg _).symm
      rw [left,right,← turned]
      exact finite_whole (-t) also (by omega) length
  · rcases second.parts_cases with ⟨⟨t,right⟩,rfl⟩ | ⟨t,n,f,also,right,length,marked⟩
    · have kept : UnpackedFloat.sub .binary64 (parts x) (parts y) = parts x := by
        rw [left,right]
        rfl
      simpa [kept] using first
    · rw [left,right]
      refine normalize_whole small ?_ .positive
      rw [Int.cast_sub,sub_mul,lowered_whole s (Int.min_le_left e f) size,
        lowered_whole t (Int.min_le_right e f) length,signed,marked,Int.cast_sub]

theorem mul_whole (small : (a * b).natAbs ≤ 2 ^ 53) : Whole (x * y) (a * b) := by
  change Whole (ofParts (UnpackedFloat.mul .binary64 (parts x) (parts y))) (a * b)
  rcases first.parts_cases with ⟨⟨s,left⟩,rfl⟩ | ⟨s,m,e,held,left,size,signed⟩
  · rw [zero_mul]
    rcases second.parts_cases with ⟨⟨t,right⟩,-⟩ | ⟨t,n,f,also,right,-,-⟩ <;>
    · rw [left,right]
      exact zero_whole _
  · rcases second.parts_cases with ⟨⟨t,right⟩,rfl⟩ | ⟨t,n,f,also,right,length,marked⟩
    · rw [left,right,mul_zero]
      exact zero_whole _
    · have value : ((m * n : ℕ) : ℚ) * 2 ^ (e + f) = (a * b).natAbs := by
        rw [Int.natAbs_mul,Nat.cast_mul,Nat.cast_mul,← size,← length,zpow_add₀ (by norm_num)]
        ring
      have turned : (s * t).apply (a * b).natAbs = a * b := by
        rw [Int.natAbs_mul,Nat.cast_mul,apply_mul,signed,marked]
      rw [left,right,← turned]
      exact product_whole (s * t) held also small value

end Operations

theorem Whole.alike {x y : Float} {n : ℤ} (first : Whole x n) (second : Whole y n) : Alike x y := by
  have counted {m : ℕ} {e : ℤ} (held : Held m e) (size : (m : ℚ) * 2 ^ e = n.natAbs) : n ≠ 0 := by
    rintro rfl
    have scale : (0 : ℚ) < 2 ^ e := zpow_pos (by norm_num) e
    have positive : (0 : ℚ) < m := Nat.cast_pos.2 held.positive
    have above := mul_pos positive scale
    rw [size,Int.natAbs_zero,Nat.cast_zero] at above
    exact lt_irrefl 0 above
  rcases first.parts_cases with ⟨zero,none⟩ | ⟨s,m,e,held,left,size,signed⟩
  · rcases second.parts_cases with ⟨also,-⟩ | ⟨t,k,f,held,-,length,-⟩
    · exact .inr ⟨zero,also⟩
    · exact absurd none (counted held length)
  · have nonzero := counted held size
    rcases second.parts_cases with ⟨-,none⟩ | ⟨t,k,f,other,right,length,marked⟩
    · exact absurd none nonzero
    · obtain ⟨rfl,rfl⟩ := held.unique other (size.trans length.symm)
      have sign : s = t := by
        cases s <;> cases t <;> first | rfl | (simp only [Sign.apply] at signed marked; omega)
      subst sign
      exact .inl (left.trans right.symm)

theorem Whole.unique {x y : Float} {n : ℤ} (first : Whole x n) (second : Whole y n)
    (signed : x ≠ -0.0) (also : y ≠ -0.0) : x = y := by
  rcases (alike_exact x y).1 (first.alike second) with same | ⟨left,right⟩
  · exact same
  · have zero := ((beq_zero_iff x).1 left).resolve_right signed
    exact zero.trans (((beq_zero_iff y).1 right).resolve_right also).symm

end LispCalls.Binary64
