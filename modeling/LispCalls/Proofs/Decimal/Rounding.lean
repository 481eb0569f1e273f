import Mathlib
import LispCalls.Decimal.Shortest
import LispCalls.Proofs.Binary64.Words

namespace LispCalls

def Decimal.value (d : Decimal) : ℚ := d.coefficient * 10 ^ d.exponent

namespace Rounding

structure Holds (r : Rounding) (x : ℚ) : Prop where
  above : r.low * 10 ^ r.unit ≤ x
  below : x ≤ r.high * 10 ^ r.unit
  inner : r.closed = false → r.low * 10 ^ r.unit < x ∧ x < r.high * 10 ^ r.unit

theorem unit_pos (r : Rounding) : (0 : ℚ) < 10 ^ r.unit := zpow_pos (by norm_num) r.unit

theorem contains_holds {r : Rounding} {n : Nat} (held : r.contains n = true) :
    r.Holds (n * 10 ^ r.unit) := by
  have positive := r.unit_pos
  unfold contains at held
  split at held
  · rename_i closed
    simp only [Bool.and_eq_true,decide_eq_true_eq] at held
    have low : (r.low : ℚ) ≤ n := Nat.cast_le.2 held.1
    have high : (n : ℚ) ≤ r.high := Nat.cast_le.2 held.2
    refine ⟨by gcongr,by gcongr,fun opened => ?_⟩
    rw [closed] at opened
    cases opened
  · simp only [Bool.and_eq_true,decide_eq_true_eq] at held
    have low : (r.low : ℚ) < n := Nat.cast_lt.2 held.1
    have high : (n : ℚ) < r.high := Nat.cast_lt.2 held.2
    exact ⟨by gcongr,by gcongr,fun _ => ⟨by gcongr,by gcongr⟩⟩

theorem onGrid_contains {r : Rounding} {grid n : Nat} (found : r.onGrid grid = some n) :
    r.contains (n * grid) = true := by
  simp only [onGrid] at found
  split at found
  · rename_i below above
    cases found
    split
    · exact below
    · exact above
  · rename_i below _
    cases found
    exact below
  · rename_i _ above
    cases found
    exact above
  · cases found

theorem coarsest_holds {r : Rounding} (within : r.contains r.value = true) (places : Nat) :
    r.Holds (r.coarsest places).value := by
  induction places with
  | zero => exact contains_holds within
  | succ places ih =>
    unfold coarsest
    split
    · rename_i n found
      have held := contains_holds (onGrid_contains found)
      have scaled : (⟨n,r.unit + (places + 1)⟩ : Decimal).value =
          ((n * Nat.pow 10 (places + 1) : ℕ) : ℚ) * 10 ^ r.unit := by
        have exponent : (places : ℤ) + 1 = (places + 1 : ℕ) := (Nat.cast_succ places).symm
        rw [Decimal.value,zpow_add₀ (by norm_num),exponent,zpow_natCast,Nat.pow_eq]
        push_cast
        ring
      rw [scaled]
      exact held
    · exact ih

end Rounding

namespace Magnitude

-- The rationals that round to significand · 2^exponent: the significand counts whole steps, and an
-- end that lies midway between two numbers goes to the one whose significand is even.
structure Around (significand : Nat) (exponent : Int) (narrow : Bool) (x : ℚ) : Prop where
  above : (4 * significand - (if narrow then 1 else 2)) * 2 ^ (exponent - 2) ≤ x
  below : x ≤ (4 * significand + 2) * 2 ^ (exponent - 2)
  odd : significand % 2 = 1 →
    (4 * significand - (if narrow then 1 else 2)) * 2 ^ (exponent - 2) < x ∧
      x < (4 * significand + 2) * 2 ^ (exponent - 2)

theorem scale_exact (quarter : ℤ) :
    ((Nat.pow 2 quarter.toNat * Nat.pow 5 (-quarter).toNat : ℕ) : ℚ) * 10 ^ min quarter 0 =
      2 ^ quarter := by
  simp only [Nat.pow_eq]
  rcases Int.le_total 0 quarter with whole | part
  · obtain ⟨n,rfl⟩ := Int.eq_ofNat_of_zero_le whole
    have none : (-(n : ℤ)).toNat = 0 := by omega
    rw [min_eq_right whole,none]
    simp
  · obtain ⟨n,rfl⟩ : ∃ n : ℕ, quarter = -(n : ℤ) := ⟨(-quarter).toNat,by omega⟩
    have none : (-(n : ℤ)).toNat = 0 := by omega
    rw [min_eq_left part,none,neg_neg,Int.toNat_natCast,zpow_neg,zpow_neg,zpow_natCast,zpow_natCast]
    have parts : (10 : ℚ) ^ n = 2 ^ n * 5 ^ n := by
      rw [← mul_pow]
      norm_num
    push_cast
    rw [parts]
    field_simp

theorem scaled_exact (k : ℕ) (exponent : ℤ) :
    ((k * (Nat.pow 2 (exponent - 2).toNat * Nat.pow 5 (-(exponent - 2)).toNat) : ℕ) : ℚ) *
      10 ^ min (exponent - 2) 0 = k * 2 ^ (exponent - 2) := by
  rw [Nat.cast_mul,mul_assoc,scale_exact]

theorem ofBinary_low {significand : Nat} (exponent : Int) (narrow : Bool)
    (positive : 0 < significand) :
    ((Rounding.ofBinary significand exponent narrow).low : ℚ) *
      10 ^ (Rounding.ofBinary significand exponent narrow).unit =
      (4 * significand - (if narrow then 1 else 2)) * 2 ^ (exponent - 2) := by
  have step : ((4 * significand - (if narrow then 1 else 2) : ℕ) : ℚ) =
      4 * significand - (if narrow then 1 else 2) := by
    have less : (if narrow then 1 else 2) ≤ 4 * significand := by split <;> omega
    rw [Nat.cast_sub less]
    split <;> push_cast <;> rfl
  rw [← step]
  exact scaled_exact _ exponent

theorem ofBinary_high (significand : Nat) (exponent : Int) (narrow : Bool) :
    ((Rounding.ofBinary significand exponent narrow).high : ℚ) *
      10 ^ (Rounding.ofBinary significand exponent narrow).unit =
      (4 * significand + 2) * 2 ^ (exponent - 2) := by
  refine (scaled_exact (4 * significand + 2) exponent).trans ?_
  push_cast
  rfl

theorem ofBinary_around {significand : Nat} {exponent : Int} {narrow : Bool} {x : ℚ}
    (positive : 0 < significand)
    (held : (Rounding.ofBinary significand exponent narrow).Holds x) :
    Around significand exponent narrow x := by
  obtain ⟨above,below,inner⟩ := held
  rw [ofBinary_low exponent narrow positive] at above inner
  rw [ofBinary_high] at below inner
  refine ⟨above,below,fun odd => inner ?_⟩
  change decide (significand % 2 = 0) = false
  rw [odd]
  rfl

theorem Around.holds {significand : Nat} {exponent : Int} {narrow : Bool} {x : ℚ}
    (positive : 0 < significand) (around : Around significand exponent narrow x) :
    (Rounding.ofBinary significand exponent narrow).Holds x := by
  obtain ⟨above,below,odd⟩ := around
  rw [← ofBinary_low exponent narrow positive] at above odd
  rw [← ofBinary_high significand exponent narrow] at below odd
  refine ⟨above,below,fun opened => odd ?_⟩
  have uneven : ¬significand % 2 = 0 := of_decide_eq_false opened
  omega

theorem ofBinary_value {significand : Nat} (exponent : Int) (narrow : Bool)
    (positive : 0 < significand) :
    let r := Rounding.ofBinary significand exponent narrow
    r.contains r.value = true := by
  intro r
  have scale : 0 < Nat.pow 2 (exponent - 2).toNat * Nat.pow 5 (-(exponent - 2)).toNat :=
    Nat.mul_pos (Nat.pow_pos Nat.two_pos) (Nat.pow_pos (by decide))
  have step : 0 < (if narrow then 1 else 2) := by split <;> decide
  have low : r.low < r.value :=
    Nat.mul_lt_mul_of_pos_right (Nat.sub_lt (Nat.mul_pos (by decide) positive) step) scale
  have high : r.value < r.high :=
    Nat.mul_lt_mul_of_pos_right (Nat.lt_add_of_pos_right Nat.two_pos) scale
  unfold Rounding.contains
  split <;> simp only [Bool.and_eq_true,decide_eq_true_eq] <;> omega

theorem shortest_around {significand : Nat} (exponent : Int) (narrow : Bool)
    (positive : 0 < significand) :
    Around significand exponent narrow
      (Rounding.ofBinary significand exponent narrow).shortest.value :=
  ofBinary_around positive (Rounding.coarsest_holds (ofBinary_value exponent narrow positive) _)

theorem Around.positive {significand : Nat} {exponent : Int} {narrow : Bool} {x : ℚ}
    (around : Around significand exponent narrow x) (counts : 0 < significand) : 0 < x := by
  have whole : (1 : ℚ) ≤ significand := Nat.one_le_cast.2 counts
  have step : (if narrow then 1 else 2 : ℚ) ≤ 2 := by split <;> norm_num
  have scale : (0 : ℚ) < 2 ^ (exponent - 2) := zpow_pos (by norm_num) _
  calc (0 : ℚ) < (4 * significand - (if narrow then 1 else 2)) * 2 ^ (exponent - 2) := by
        apply mul_pos _ scale
        linarith
    _ ≤ x := around.above

section Apart

variable {significand other : Nat} {exponent scale : Int} {narrow tight : Bool} {x : ℚ}

-- Above the lowest exponent nothing reaches below the last number of the exponent before, and
-- the midway to that one belongs to the other side.
theorem Around.exponent_le (first : Canonical significand exponent narrow)
    (second : Canonical other scale tight) (around : Around significand exponent narrow x)
    (also : Around other scale tight x) : scale ≤ exponent := by
  by_contra higher
  have larger : exponent + 1 ≤ scale := by omega
  have unit : (0 : ℚ) < 2 ^ (exponent - 2) := zpow_pos (by norm_num) _
  have doubled : 2 * (2 : ℚ) ^ (exponent - 2) ≤ 2 ^ (scale - 2) := by
    have next : (2 : ℚ) ^ (exponent - 2 + 1) ≤ 2 ^ (scale - 2) :=
      zpow_le_zpow_right₀ (by norm_num) (by omega)
    rwa [zpow_add₀ (by norm_num),zpow_one,mul_comm] at next
  have top : (2 ^ 54 - 1 : ℚ) ≤ 4 * other - (if tight then 1 else 2) := by
    have lowest := first.lowest
    have hidden := second.hidden (by omega)
    cases tight with
    | true =>
      have held : (2 ^ 52 : ℚ) ≤ other := by exact_mod_cast hidden
      simp only [if_true]
      linarith
    | false =>
      have wide : other ≠ 2 ^ 52 := fun same => by
        have narrows := second.narrows.2 ⟨same,by omega⟩
        cases narrows
      have held : (2 ^ 52 + 1 : ℚ) ≤ other := by exact_mod_cast (by omega : 2 ^ 52 + 1 ≤ other)
      simp only [Bool.false_eq_true,if_false]
      linarith
  have reached : (2 ^ 54 - 1) * (2 * (2 : ℚ) ^ (exponent - 2)) ≤ x := calc
    (2 ^ 54 - 1) * (2 * (2 : ℚ) ^ (exponent - 2)) ≤ (2 ^ 54 - 1) * 2 ^ (scale - 2) :=
      mul_le_mul_of_nonneg_left doubled (by norm_num)
    _ ≤ (4 * other - (if tight then 1 else 2)) * 2 ^ (scale - 2) :=
      mul_le_mul_of_nonneg_right top (by positivity)
    _ ≤ x := also.above
  have fits := first.fits
  rcases Nat.mod_two_eq_zero_or_one significand with even | odd
  · have less : (significand : ℚ) ≤ 2 ^ 53 - 2 := by
      have whole : significand + 2 ≤ 2 ^ 53 := by omega
      have cast : (significand : ℚ) + 2 ≤ 2 ^ 53 := by exact_mod_cast whole
      linarith
    have below := around.below
    nlinarith
  · have less : (significand : ℚ) ≤ 2 ^ 53 - 1 := by
      have cast : (significand : ℚ) + 1 ≤ 2 ^ 53 := by exact_mod_cast fits
      linarith
    have below := (around.odd odd).2
    nlinarith

theorem Around.significand_le (first : Canonical significand exponent narrow)
    (second : Canonical other exponent tight) (around : Around significand exponent narrow x)
    (also : Around other exponent tight x) : other ≤ significand := by
  by_contra larger
  have unit : (0 : ℚ) < 2 ^ (exponent - 2) := zpow_pos (by norm_num) _
  have wide : tight = false := by
    cases found : tight with
    | false => rfl
    | true =>
      obtain ⟨lowest,above⟩ := second.narrows.1 found
      have hidden := first.hidden above
      omega
  have bounds := also.above
  have strict := also.odd
  rw [wide] at bounds strict
  simp only [Bool.false_eq_true,if_false] at bounds strict
  rcases Nat.lt_or_ge (significand + 1) other with far | near
  · have gap : (significand : ℚ) + 2 ≤ other := by exact_mod_cast far
    have below := around.below
    nlinarith
  · have next : other = significand + 1 := by omega
    subst next
    push_cast at bounds strict
    rcases Nat.mod_two_eq_zero_or_one significand with even | odd
    · have above := (strict (by omega)).1
      have below := around.below
      nlinarith
    · have below := (around.odd odd).2
      nlinarith

theorem Around.unique (first : Canonical significand exponent narrow)
    (second : Canonical other scale tight) (around : Around significand exponent narrow x)
    (also : Around other scale tight x) :
    Magnitude.binary significand exponent narrow = .binary other scale tight := by
  have exponents : exponent = scale :=
    Int.le_antisymm (also.exponent_le second first around) (around.exponent_le first second also)
  subst exponents
  have significands : significand = other :=
    Nat.le_antisymm (also.significand_le second first around)
      (around.significand_le first second also)
  subst significands
  have narrows : narrow = tight := Bool.eq_iff_iff.2 (first.narrows.trans second.narrows.symm)
  rw [narrows]

end Apart

end Magnitude
end LispCalls
