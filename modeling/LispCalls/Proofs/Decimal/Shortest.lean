import LispCalls.Proofs.Decimal.Rounding

namespace LispCalls

structure Decimal.Coarsest (inside : ℚ → Prop) (d : Decimal) : Prop where
  member : inside d.value
  alone : ∀ (c : ℕ) (e : ℤ), d.exponent < e → ¬inside (c * 10 ^ e)

namespace Rounding

variable {r : Rounding}

structure Proper (r : Rounding) : Prop where
  within : r.contains r.value = true
  nonzero : r.contains 0 = false
  bounded : r.high ≤ 2 * r.value

theorem contains_between {a b n : Nat} (first : r.contains a = true) (last : r.contains b = true)
    (above : a ≤ n) (below : n ≤ b) : r.contains n = true := by
  unfold contains at first last ⊢
  split <;> rename_i closed <;>
    simp only [closed,if_true,if_false,Bool.false_eq_true,Bool.and_eq_true,decide_eq_true_eq]
      at first last ⊢ <;> omega

theorem contains_le_high {n : Nat} (held : r.contains n = true) : n ≤ r.high := by
  unfold contains at held
  split at held <;> simp only [Bool.and_eq_true,decide_eq_true_eq] at held <;> omega

theorem holds_contains {n : Nat} (held : r.Holds (n * 10 ^ r.unit)) : r.contains n = true := by
  have positive := r.unit_pos
  obtain ⟨above,below,inner⟩ := held
  unfold contains
  split
  · have low : (r.low : ℚ) ≤ n := le_of_mul_le_mul_right above positive
    have high : (n : ℚ) ≤ r.high := le_of_mul_le_mul_right below positive
    simp only [Bool.and_eq_true,decide_eq_true_eq]
    exact ⟨Nat.cast_le.1 low,Nat.cast_le.1 high⟩
  · rename_i opened
    obtain ⟨strict,short⟩ := inner (Bool.not_eq_true _ ▸ opened)
    have low : (r.low : ℚ) < n := lt_of_mul_lt_mul_right strict positive.le
    have high : (n : ℚ) < r.high := lt_of_mul_lt_mul_right short positive.le
    simp only [Bool.and_eq_true,decide_eq_true_eq]
    exact ⟨Nat.cast_lt.1 low,Nat.cast_lt.1 high⟩

-- The multiples beside the value are between it and any other multiple on their side.
theorem onGrid_none {grid : Nat} (positive : 0 < grid) (within : r.contains r.value = true)
    (none : r.onGrid grid = none) (k : Nat) : r.contains (k * grid) = false := by
  rw [← Bool.not_eq_true]
  intro held
  simp only [onGrid] at none
  rcases Nat.lt_or_ge r.value (k * grid) with above | below
  · have beyond : r.value < (r.value / grid + 1) * grid := by
      rw [Nat.mul_comm]
      exact Nat.lt_mul_div_succ r.value positive
    have beside : (r.value / grid + 1) * grid ≤ k * grid :=
      Nat.mul_le_mul_right grid (Nat.div_lt_of_lt_mul (Nat.mul_comm k grid ▸ above))
    rw [contains_between within held beyond.le beside] at none
    split at none <;> simp_all
  · have beside : k * grid ≤ r.value / grid * grid :=
      Nat.mul_le_mul_right grid ((Nat.le_div_iff_mul_le positive).2 below)
    rw [contains_between held within beside (Nat.div_mul_le_self _ _)] at none
    split at none <;> simp_all

theorem coarsest_alone (within : r.contains r.value = true) (top : Nat) :
    ∃ places : Nat, (r.coarsest top).exponent = r.unit + places ∧
      ∀ higher, places < higher → higher ≤ top → ∀ k, r.contains (k * 10 ^ higher) = false := by
  induction top with
  | zero => exact ⟨0,(Int.add_zero _).symm,fun higher more less => absurd more (by omega)⟩
  | succ top ih =>
    unfold coarsest
    split
    · exact ⟨top + 1,rfl,fun higher more less => absurd more (by omega)⟩
    · rename_i none
      obtain ⟨places,exponent,alone⟩ := ih
      refine ⟨places,exponent,fun higher more less k => ?_⟩
      rcases Nat.lt_or_eq_of_le less with lower | rfl
      · exact alone higher more (by omega) k
      · exact onGrid_none (Nat.pow_pos (by decide)) within none k

theorem Proper.beyond (proper : r.Proper) {places : Nat}
    (more : (Nat.toDigits 10 r.value).length < places) (k : Nat) :
    r.contains (k * 10 ^ places) = false := by
  rw [← Bool.not_eq_true]
  intro held
  have small : r.value < 10 ^ (Nat.toDigits 10 r.value).length :=
    (Nat.length_toDigits_le_iff (by decide) Nat.length_toDigits_pos).1 (Nat.le_refl _)
  have power : 10 ^ ((Nat.toDigits 10 r.value).length + 1) ≤ 10 ^ places :=
    Nat.pow_le_pow_right (by decide) more
  have bounded := proper.bounded
  have high := contains_le_high held
  rw [Nat.pow_succ] at power
  rcases Nat.eq_zero_or_pos k with rfl | positive
  · rw [Nat.zero_mul,proper.nonzero] at held
    cases held
  · have least : 10 ^ places ≤ k * 10 ^ places := Nat.le_mul_of_pos_left _ positive
    omega

theorem shortest_coarsest (proper : r.Proper) : r.shortest.Coarsest r.Holds where
  member := coarsest_holds proper.within _
  alone c e higher held := by
    obtain ⟨places,exponent,alone⟩ := coarsest_alone proper.within (Nat.toDigits 10 r.value).length
    have above : r.unit + places < e := exponent ▸ higher
    obtain ⟨k,rfl⟩ : ∃ k : ℕ, e = r.unit + k := ⟨(e - r.unit).toNat,by omega⟩
    have multiple : (c : ℚ) * 10 ^ (r.unit + (k : ℤ)) = ((c * 10 ^ k : ℕ) : ℚ) * 10 ^ r.unit := by
      rw [zpow_add₀ (by norm_num),zpow_natCast]
      push_cast
      ring
    rw [multiple] at held
    have contained := holds_contains held
    rcases Nat.lt_or_ge (Nat.toDigits 10 r.value).length k with beyond | scanned
    · rw [proper.beyond beyond c] at contained
      cases contained
    · rw [alone k (by omega) scanned c] at contained
      cases contained

end Rounding

namespace Decimal.Coarsest

variable {inside : ℚ → Prop} {d : Decimal} (coarsest : d.Coarsest inside)

include coarsest

theorem positive : 0 < d.coefficient := by
  rw [Nat.pos_iff_ne_zero]
  intro zero
  refine coarsest.alone 0 (d.exponent + 1) (by omega) ?_
  have value := coarsest.member
  rw [Decimal.value,zero] at value
  rwa [Nat.cast_zero,zero_mul] at value ⊢

-- A last digit of zero would be left to the exponent.
theorem last : d.coefficient % 10 ≠ 0 := by
  intro zero
  refine coarsest.alone (d.coefficient / 10) (d.exponent + 1) (by omega) ?_
  have whole : d.coefficient = d.coefficient / 10 * 10 := by omega
  have value := coarsest.member
  rw [Decimal.value,whole,Nat.cast_mul,Nat.cast_ofNat,mul_assoc] at value
  rwa [zpow_add₀ (by norm_num),zpow_one,mul_comm ((10 : ℚ) ^ d.exponent)]

-- If one of the others had fewer digits, a power of ten would lie between the two.
theorem fewest (convex : ∀ a b x, inside a → inside b → a ≤ x → x ≤ b → inside x) {c n : ℕ} {e : ℤ}
    (also : inside (c * 10 ^ e)) (few : c < 10 ^ n) : d.coefficient < 10 ^ n := by
  by_contra many
  have exponent : e ≤ d.exponent := not_lt.1 fun higher => coarsest.alone c e higher also
  cases n with
  | zero =>
    obtain rfl : c = 0 := by simpa using few
    refine coarsest.alone 0 (d.exponent + 1) (by omega) ?_
    rwa [Nat.cast_zero,zero_mul] at also ⊢
  | succ n =>
    refine coarsest.alone 1 (d.exponent + (n + 1 : ℕ)) (by omega) ?_
    have scale : (0 : ℚ) < 10 ^ d.exponent := zpow_pos (by norm_num) _
    rw [Nat.cast_one,one_mul,zpow_add₀ (by norm_num),zpow_natCast,mul_comm]
    refine convex _ _ _ also coarsest.member ?_ ?_
    · calc (c : ℚ) * 10 ^ e ≤ 10 ^ (n + 1) * 10 ^ e := by
            have less : (c : ℚ) ≤ 10 ^ (n + 1) := by exact_mod_cast few.le
            exact mul_le_mul_of_nonneg_right less (zpow_pos (by norm_num) e).le
        _ ≤ 10 ^ (n + 1) * 10 ^ d.exponent := by
            have higher : (10 : ℚ) ^ e ≤ 10 ^ d.exponent := zpow_le_zpow_right₀ (by norm_num) exponent
            exact mul_le_mul_of_nonneg_left higher (by positivity)
    · have more : ((10 : ℚ)) ^ (n + 1) ≤ d.coefficient := by exact_mod_cast not_lt.1 many
      exact mul_le_mul_of_nonneg_right more scale.le

end Decimal.Coarsest

namespace Magnitude

theorem ofBinary_proper {significand : Nat} (exponent : Int) (narrow : Bool)
    (positive : 0 < significand) : (Rounding.ofBinary significand exponent narrow).Proper := by
  have scale : 0 < Nat.pow 2 (exponent - 2).toNat * Nat.pow 5 (-(exponent - 2)).toNat :=
    Nat.mul_pos (Nat.pow_pos Nat.two_pos) (Nat.pow_pos (by decide))
  refine ⟨ofBinary_value exponent narrow positive,?_,?_⟩
  · have step : 0 < 4 * significand - (if narrow then 1 else 2) := by split <;> omega
    have low : 0 < (Rounding.ofBinary significand exponent narrow).low := Nat.mul_pos step scale
    rw [← Bool.not_eq_true]
    intro held
    unfold Rounding.contains at held
    split at held <;> simp only [Bool.and_eq_true,decide_eq_true_eq] at held <;> omega
  · simp only [Rounding.ofBinary,← Nat.mul_assoc 2]
    exact Nat.mul_le_mul_right _ (by omega)

theorem Around.between {significand : Nat} {exponent : Int} {narrow : Bool} {a b x : ℚ}
    (first : Around significand exponent narrow a) (last : Around significand exponent narrow b)
    (above : a ≤ x) (below : x ≤ b) : Around significand exponent narrow x where
  above := first.above.trans above
  below := below.trans last.below
  odd uneven := ⟨(first.odd uneven).1.trans_le above,below.trans_lt (last.odd uneven).2⟩

theorem around_coarsest {significand : Nat} (exponent : Int) (narrow : Bool)
    (positive : 0 < significand) :
    (Rounding.ofBinary significand exponent narrow).shortest.Coarsest
      (Around significand exponent narrow) where
  member := shortest_around exponent narrow positive
  alone c e higher around :=
    (Rounding.shortest_coarsest (ofBinary_proper exponent narrow positive)).alone c e higher
      (around.holds positive)

end Magnitude
end LispCalls
