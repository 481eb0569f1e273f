import LispCalls.Proofs.Binary64.Fields
import LispCalls.Proofs.Binary64.Integers
import LispCalls.Proofs.Decimal.Rounding

namespace LispCalls.Binary64

open Float.Model Float.Model.UnpackedFloat Magnitude

def rational (x : Float) : ℚ := (rational? (parts x)).getD 0

-- A rational rounds to the finite number nearest to it, and midway between two of them to the one
-- whose significand is even. From midway between the largest number and the next power of two on,
-- it rounds to infinity.
structure Nearest (q : ℚ) (x : Float) : Prop where
  finite : x.isFinite = true
  bounded : |q| < 2 ^ 1024 - 2 ^ 970
  nearest : ∀ y : Float, y.isFinite = true → |q - rational x| ≤ |q - rational y|
  even : ∀ y : Float, y.isFinite = true → |q - rational x| = |q - rational y| →
    rational y ≠ rational x → x.toBits.toNat % 2 = 0

inductive Sized : ℚ → Prop where
  | zero : Sized 0
  | held {m : ℕ} {e : ℤ} (held : Held m e) (small : e ≤ 971) : Sized (m * 2 ^ e)

def unit (s : Sign) : ℚ := (s.apply 1 : ℤ)

@[simp] theorem unit_square (s : Sign) : unit s * unit s = 1 := by
  cases s <;> norm_num [unit,Sign.apply]

@[simp] theorem unit_abs (s : Sign) (q : ℚ) : |unit s * q| = |q| := by
  cases s <;> simp [unit,Sign.apply]

theorem unit_sub (s : Sign) (q v : ℚ) : |q - unit s * v| = |unit s * q - v| := by
  rw [← unit_abs s (q - unit s * v),mul_sub,← mul_assoc,unit_square,one_mul]

section Numbers

variable {x : Float}

theorem finite_cases (finite : x.isFinite = true) : (∃ s, parts x = .zero s) ∨
    ∃ s m e, ∃ held : Held m e, parts x = .finite s m e held.positive := by
  have known : (parts x).isFinite = true := finite
  cases number : parts x with
  | notANumber | infinity =>
    rw [number] at known
    cases known
  | zero s => exact .inl ⟨s,rfl⟩
  | finite s m e => exact .inr ⟨s,m,e,parts_held number,rfl⟩

theorem rational_zero {s : Sign} (number : parts x = .zero s) :
    x.isFinite = true ∧ rational x = 0 := by
  have known : x.isFinite = (parts x).isFinite := rfl
  rw [known,rational,number]
  exact ⟨rfl,rfl⟩

theorem rational_finite {s : Sign} {m : ℕ} {e : ℤ} {positive : 0 < m}
    (number : parts x = .finite s m e positive) :
    x.isFinite = true ∧ rational x = unit s * (m * 2 ^ e) := by
  have known : x.isFinite = (parts x).isFinite := rfl
  rw [known,rational,number]
  refine ⟨rfl,?_⟩
  cases s <;> simp [rational?,unit,Sign.apply]

theorem rational_sized (finite : x.isFinite = true) : Sized |rational x| := by
  rcases finite_cases finite with ⟨s,number⟩ | ⟨s,m,e,held,number⟩
  · rw [(rational_zero number).2,abs_zero]
    exact .zero
  · have size : (0 : ℚ) ≤ m * 2 ^ e := by positivity
    rw [(rational_finite number).2,unit_abs,abs_of_nonneg size]
    exact .held held (parts_small number)

end Numbers

theorem Sized.number {w : ℚ} (sized : Sized w) (s : Sign) :
    ∃ y : Float, y.isFinite = true ∧ rational y = unit s * w := by
  cases sized with
  | zero =>
    have number : parts (ofParts (.zero s)) = .zero s := by cases s <;> rfl
    rw [mul_zero]
    exact ⟨_,rational_zero number⟩
  | held held small => exact ⟨_,rational_finite (parts_ofParts s held small)⟩

theorem Held.canonical {m : ℕ} {e : ℤ} (held : Held m e) :
    Canonical m e (decide (m = 2 ^ 52 ∧ -1074 < e)) :=
  ⟨held.positive,held.fits,held.lowest,held.hidden,decide_eq_true_iff⟩

theorem quarters (e : ℤ) : (2 : ℚ) ^ e = 4 * 2 ^ (e - 2) := by
  have exponent : e = e - 2 + 2 := by omega
  nth_rewrite 1 [exponent]
  rw [zpow_add₀ (by norm_num)]
  norm_num
  ring

theorem top_midway :
    (2 : ℚ) ^ 1024 - 2 ^ 970 = (4 * (2 ^ 53 - 1 : ℕ) + 2) * 2 ^ (971 - 2 : ℤ) := by
  have scale : (2 : ℚ) ^ (971 - 2 : ℤ) = 2 ^ 969 := zpow_natCast 2 969
  rw [scale,pow_add 2 55 969,pow_add 2 1 969]
  generalize (2 : ℚ) ^ 969 = top
  norm_num
  ring

section Midway

variable {a v w : ℚ} (less : v < w)

include less

theorem nearer_lower : |a - v| ≤ |a - w| ↔ 2 * a ≤ v + w := by
  rw [← sq_le_sq]
  constructor <;> intro bound <;> nlinarith

theorem nearer_upper : |a - w| ≤ |a - v| ↔ v + w ≤ 2 * a := by
  rw [← sq_le_sq]
  constructor <;> intro bound <;> nlinarith

theorem midway : |a - v| = |a - w| ↔ 2 * a = v + w := by
  rw [le_antisymm_iff,nearer_lower less,nearer_upper less,le_antisymm_iff]

end Midway

section Neighbours

variable {m : ℕ} {e : ℤ} {narrow : Bool} (canonical : Canonical m e narrow)

theorem around_itself : Around m e narrow (m * 2 ^ e) := by
  have scale : (0 : ℚ) < 2 ^ (e - 2) := zpow_pos (by norm_num) _
  have gap : (0 : ℚ) < if narrow then 1 else 2 := by split <;> norm_num
  have apart := mul_pos gap scale
  rw [quarters e]
  exact ⟨by linarith,by linarith,fun _ => ⟨by linarith,by linarith⟩⟩

include canonical

theorem wide_above (wide : narrow = false) (above : -1074 < e) : 2 ^ 52 + 1 ≤ m := by
  have hidden := canonical.hidden above
  have other : m ≠ 2 ^ 52 := by
    rintro rfl
    rw [canonical.narrows.2 ⟨rfl,above⟩] at wide
    cases wide
  omega

theorem Sized.apart {w : ℚ} (sized : Sized w) : w = m * 2 ^ e ∨
    (4 * m + 4) * 2 ^ (e - 2) ≤ w ∨ w ≤ (4 * m - (if narrow then 2 else 4)) * 2 ^ (e - 2) := by
  have scale : (0 : ℚ) < 2 ^ (e - 2) := zpow_pos (by norm_num) _
  have positive : (1 : ℚ) ≤ m := by exact_mod_cast canonical.positive
  have step : (if narrow then 2 else 4 : ℚ) ≤ 4 := by split <;> norm_num
  cases sized with
  | zero => exact .inr (.inr (mul_nonneg (by linarith) scale.le))
  | @held n f held small =>
    rcases lt_or_ge f e with less | more
    · right; right
      have top : (n : ℚ) ≤ 2 ^ 53 - 1 := by
        have fits : n + 1 ≤ 2 ^ 53 := held.fits
        have cast : (n : ℚ) + 1 ≤ 2 ^ 53 := by exact_mod_cast fits
        linarith
      have lower : (2 : ℚ) ^ f ≤ 2 * 2 ^ (e - 2) := by
        rw [← zpow_one_add₀ (by norm_num)]
        exact zpow_le_zpow_right₀ (by norm_num) (by omega)
      have high : (2 ^ 54 - 2 : ℚ) ≤ 4 * m - (if narrow then 2 else 4) := by
        have lowest := held.lowest
        cases wide : narrow with
        | true =>
          have hidden : (2 ^ 52 : ℚ) ≤ m := by exact_mod_cast canonical.hidden (by omega)
          simp only [if_true]
          linarith
        | false =>
          have hidden : (2 ^ 52 + 1 : ℚ) ≤ m := by
            exact_mod_cast wide_above canonical wide (by omega)
          simp only [Bool.false_eq_true,if_false]
          linarith
      calc (n : ℚ) * 2 ^ f ≤ (2 ^ 53 - 1) * (2 * 2 ^ (e - 2)) :=
            mul_le_mul top lower (zpow_pos (by norm_num) f).le (by norm_num)
        _ = (2 ^ 54 - 2) * 2 ^ (e - 2) := by ring
        _ ≤ (4 * m - (if narrow then 2 else 4)) * 2 ^ (e - 2) :=
            mul_le_mul_of_nonneg_right high scale.le
    · obtain ⟨k,whole⟩ : ∃ k : ℕ, (n : ℚ) * 2 ^ f = k * 2 ^ e :=
        ⟨n * 2 ^ (f - e).toNat,by rw [scale_apart more]; push_cast; ring⟩
      rw [whole]
      rcases Nat.lt_trichotomy k m with below | rfl | above
      · right; right
        have next : (k : ℚ) + 1 ≤ m := by exact_mod_cast below
        rw [quarters e,← mul_assoc]
        exact mul_le_mul_of_nonneg_right (by linarith) scale.le
      · exact .inl rfl
      · right; left
        have next : (m : ℚ) + 1 ≤ k := by exact_mod_cast above
        rw [quarters e,← mul_assoc]
        exact mul_le_mul_of_nonneg_right (by linarith) scale.le

theorem above_sized (small : e ≤ 971) (room : m + 1 < 2 ^ 53 ∨ e < 971) :
    Sized ((4 * m + 4) * 2 ^ (e - 2)) := by
  have lowest := canonical.lowest
  have fits := canonical.fits
  by_cases short : m + 1 < 2 ^ 53
  · have held : Held (m + 1) e :=
      ⟨Nat.succ_pos m,short,lowest,fun above => (canonical.hidden above).trans (Nat.le_succ m)⟩
    have size : (4 * m + 4) * (2 : ℚ) ^ (e - 2) = (m + 1 : ℕ) * 2 ^ e := by
      rw [quarters e]
      push_cast
      ring
    rw [size]
    exact .held held small
  · obtain rfl : m = 2 ^ 53 - 1 := by omega
    have held : Held (2 ^ 52) (e + 1) := ⟨by norm_num,by norm_num,by omega,fun _ => Nat.le_refl _⟩
    have size : (4 * ((2 ^ 53 - 1 : ℕ) : ℚ) + 4) * 2 ^ (e - 2) = (2 ^ 52 : ℕ) * 2 ^ (e + 1) := by
      rw [zpow_add₀ (by norm_num),quarters e]
      norm_num
      ring
    rw [size]
    exact .held held (by omega)

theorem below_sized (small : e ≤ 971) :
    Sized ((4 * m - (if narrow then 2 else 4)) * 2 ^ (e - 2)) := by
  have lowest := canonical.lowest
  have fits := canonical.fits
  have positive := canonical.positive
  cases wide : narrow with
  | true =>
    obtain ⟨rfl,above⟩ := canonical.narrows.1 wide
    have held : Held (2 ^ 53 - 1) (e - 1) :=
      ⟨by norm_num,by norm_num,by omega,fun _ => by norm_num⟩
    have size : (4 * ((2 ^ 52 : ℕ) : ℚ) - (if true = true then 2 else 4)) * 2 ^ (e - 2) =
        (2 ^ 53 - 1 : ℕ) * 2 ^ (e - 1) := by
      have exponent : e - 1 = 1 + (e - 2) := by omega
      rw [exponent,zpow_one_add₀ (by norm_num)]
      norm_num
      ring
    rw [size]
    exact .held held (by omega)
  | false =>
    have size : (4 * (m : ℚ) - (if false = true then 2 else 4)) * 2 ^ (e - 2) =
        (m - 1 : ℕ) * 2 ^ e := by
      rw [Nat.cast_sub positive,quarters e]
      norm_num
      ring
    rw [size]
    rcases Nat.lt_or_ge 1 m with more | single
    · refine .held ⟨by omega,by omega,lowest,fun above => ?_⟩ small
      have hidden := wide_above canonical wide above
      omega
    · obtain rfl : m = 1 := by omega
      simpa using Sized.zero

-- What rounds to a number is no nearer to another one, and as near only if its significand is even.
theorem around_nearest {a w : ℚ} (around : Around m e narrow a) (sized : Sized w) :
    |a - m * 2 ^ e| ≤ |a - w| ∧
      (|a - m * 2 ^ e| = |a - w| → w ≠ m * 2 ^ e → m % 2 = 0) := by
  have scale : (0 : ℚ) < 2 ^ (e - 2) := zpow_pos (by norm_num) _
  have value := quarters e
  have step : (if narrow then 2 else 4 : ℚ) = 2 * (if narrow then 1 else 2) := by
    split <;> norm_num
  have gap : (0 : ℚ) < if narrow then 1 else 2 := by split <;> norm_num
  obtain ⟨low,high,strict⟩ := around
  rcases sized.apart canonical with rfl | above | below
  · exact ⟨le_rfl,fun _ other => absurd rfl other⟩
  · have less : m * 2 ^ e < w := by rw [value]; linarith
    refine ⟨(nearer_lower less).2 (by rw [value]; linarith),fun tie _ => ?_⟩
    have middle := (midway less).1 tie
    by_contra odd
    have short := (strict (by omega)).2
    rw [value] at middle
    linarith
  · rw [step] at below
    have apart := mul_pos gap scale
    have less : w < m * 2 ^ e := by rw [value]; linarith
    refine ⟨(nearer_upper less).2 (by rw [value]; linarith),fun tie _ => ?_⟩
    have middle := (midway less).1 tie.symm
    by_contra odd
    have short := (strict (by omega)).1
    rw [value] at middle
    linarith

theorem nearest_around {a : ℚ} (small : e ≤ 971) (bounded : |a| < 2 ^ 1024 - 2 ^ 970)
    (nearest : ∀ w, Sized w → |a - m * 2 ^ e| ≤ |a - w|)
    (even : ∀ w, Sized w → |a - m * 2 ^ e| = |a - w| → w ≠ m * 2 ^ e → m % 2 = 0) :
    Around m e narrow a := by
  have scale : (0 : ℚ) < 2 ^ (e - 2) := zpow_pos (by norm_num) _
  have value := quarters e
  have step : (if narrow then 2 else 4 : ℚ) = 2 * (if narrow then 1 else 2) := by
    split <;> norm_num
  have gap : (0 : ℚ) < if narrow then 1 else 2 := by split <;> norm_num
  have high : a ≤ (4 * m + 2) * 2 ^ (e - 2) ∧
      (m % 2 = 1 → a ≠ (4 * m + 2) * 2 ^ (e - 2)) := by
    by_cases room : m + 1 < 2 ^ 53 ∨ e < 971
    · have above := above_sized canonical small room
      have less : m * 2 ^ e < (4 * m + 4) * (2 : ℚ) ^ (e - 2) := by rw [value]; linarith
      have bound := (nearer_lower less).1 (nearest _ above)
      rw [value] at bound
      refine ⟨by linarith,fun odd same => ?_⟩
      have middle : 2 * a = m * 2 ^ e + (4 * m + 4) * 2 ^ (e - 2) := by
        rw [value,same]
        ring
      have parity := even _ above ((midway less).2 middle) less.ne'
      omega
    · have fits := canonical.fits
      obtain rfl : m = 2 ^ 53 - 1 := by omega
      obtain rfl : e = 971 := by omega
      have short := (le_abs_self a).trans_lt bounded
      rw [top_midway] at short
      exact ⟨short.le,fun _ => short.ne⟩
  have low : (4 * m - (if narrow then 1 else 2)) * 2 ^ (e - 2) ≤ a ∧
      (m % 2 = 1 → a ≠ (4 * m - (if narrow then 1 else 2)) * 2 ^ (e - 2)) := by
    have below := below_sized canonical small
    rw [step] at below
    have apart := mul_pos gap scale
    have less : (4 * m - 2 * (if narrow then 1 else 2)) * (2 : ℚ) ^ (e - 2) < m * 2 ^ e := by
      rw [value]
      linarith
    have bound := (nearer_upper less).1 (nearest _ below)
    rw [value] at bound
    refine ⟨by linarith,fun odd same => ?_⟩
    have middle : 2 * a = (4 * m - 2 * (if narrow then 1 else 2)) * 2 ^ (e - 2) + m * 2 ^ e := by
      rw [value,same]
      ring
    have parity := even _ below ((midway less).2 middle).symm less.ne
    omega
  exact ⟨low.1,high.1,fun odd => ⟨low.1.lt_of_ne (low.2 odd).symm,high.1.lt_of_ne (high.2 odd)⟩⟩

theorem around_bounded {a : ℚ} (small : e ≤ 971) (around : Around m e narrow a) :
    a < 2 ^ 1024 - 2 ^ 970 := by
  rw [top_midway]
  have scale : (0 : ℚ) < 2 ^ (e - 2) := zpow_pos (by norm_num) _
  have wider : (2 : ℚ) ^ (e - 2) ≤ 2 ^ (971 - 2 : ℤ) :=
    zpow_le_zpow_right₀ (by norm_num) (by omega)
  have fits := canonical.fits
  by_cases even : m % 2 = 0
  · have less : (4 * m + 2 : ℚ) < 4 * (2 ^ 53 - 1 : ℕ) + 2 := by
      have below : (m : ℚ) < (2 ^ 53 - 1 : ℕ) := by exact_mod_cast (by omega : m < 2 ^ 53 - 1)
      linarith
    calc a ≤ (4 * m + 2) * 2 ^ (e - 2) := around.below
      _ < (4 * (2 ^ 53 - 1 : ℕ) + 2) * 2 ^ (e - 2) := mul_lt_mul_of_pos_right less scale
      _ ≤ _ := mul_le_mul_of_nonneg_left wider (by positivity)
  · have most : (4 * m + 2 : ℚ) ≤ 4 * (2 ^ 53 - 1 : ℕ) + 2 := by
      have below : (m : ℚ) ≤ (2 ^ 53 - 1 : ℕ) := by exact_mod_cast (by omega : m ≤ 2 ^ 53 - 1)
      linarith
    calc a < (4 * m + 2) * 2 ^ (e - 2) := (around.odd (by omega)).2
      _ ≤ (4 * (2 ^ 53 - 1 : ℕ) + 2) * 2 ^ (e - 2) := mul_le_mul_of_nonneg_right most scale.le
      _ ≤ _ := mul_le_mul_of_nonneg_left wider (by positivity)

theorem around_half {a : ℚ} (around : Around m e narrow a) : m * 2 ^ e < 2 * a := by
  have scale : (0 : ℚ) < 2 ^ (e - 2) := zpow_pos (by norm_num) _
  have low := around.above
  rw [quarters e]
  cases wide : narrow with
  | true =>
    have counts : (1 : ℚ) ≤ m := by exact_mod_cast canonical.positive
    simp only [wide,if_true] at low
    nlinarith
  | false =>
    simp only [wide,Bool.false_eq_true,if_false] at low
    rcases Nat.lt_or_ge 1 m with more | single
    · have counts : (2 : ℚ) ≤ m := by exact_mod_cast more
      nlinarith
    · obtain rfl : m = 1 := Nat.le_antisymm single canonical.positive
      have strict := (around.odd rfl).1
      simp only [wide,Bool.false_eq_true,if_false] at strict
      norm_num at strict ⊢
      linarith

-- A number with places behind the point is the only one that an integer could be taken for, if it is
-- taken for it at all: the integer is a number itself.
theorem around_integer {n : ℕ} (part : e < 0) (around : Around m e narrow n) :
    (m : ℚ) * 2 ^ e = n := by
  have positive : 0 < n := by exact_mod_cast around.positive canonical.positive
  have small : n ≤ 2 ^ 53 := by
    have fits : (m : ℚ) ≤ 2 ^ 53 - 1 := by
      have cast : (m : ℚ) + 1 ≤ 2 ^ 53 := by exact_mod_cast canonical.fits
      linarith
    have scale : (2 : ℚ) ^ (e - 2) ≤ 2 ^ (-3 : ℤ) := zpow_le_zpow_right₀ (by norm_num) (by omega)
    have bound : (n : ℚ) ≤ 2 ^ 53 := calc
      (n : ℚ) ≤ (4 * m + 2) * 2 ^ (e - 2) := around.below
      _ ≤ (4 * (2 ^ 53 - 1) + 2) * 2 ^ (-3 : ℤ) :=
        mul_le_mul (by linarith) scale (by positivity) (by norm_num)
      _ ≤ 2 ^ 53 := by norm_num
    exact_mod_cast bound
  obtain ⟨k,f,held,top,value⟩ := integer_held positive small
  have closest := (around_nearest canonical around (.held held top)).1
  rw [value,sub_self,abs_zero] at closest
  exact (sub_eq_zero.1 (abs_nonpos_iff.1 closest)).symm

end Neighbours

theorem nearest_zero {x : Float} {s : Sign} (number : parts x = .zero s) : Nearest 0 x := by
  obtain ⟨finite,zero⟩ := rational_zero number
  refine ⟨finite,?_,fun y _ => ?_,fun y _ tie other => ?_⟩
  · rw [abs_zero,top_midway]
    positivity
  · rw [zero,sub_zero,abs_zero]
    exact abs_nonneg _
  · rw [zero,sub_zero,abs_zero,zero_sub,abs_neg] at tie
    exact absurd (abs_eq_zero.1 tie.symm) (zero ▸ other)

theorem nearest_exact {x : Float} {s : Sign} {m : ℕ} {e : ℤ} {positive : 0 < m}
    (number : parts x = .finite s m e positive) (q : ℚ) :
    Nearest q x ↔ Around m e (decide (m = 2 ^ 52 ∧ -1074 < e)) (unit s * q) := by
  have canonical := (parts_held number).canonical
  have small := parts_small number
  have parity := parts_parity number
  obtain ⟨finite,value⟩ := rational_finite number
  constructor
  · intro nearest
    refine nearest_around canonical small ?_ (fun w sized => ?_) (fun w sized tie other => ?_)
    · rw [unit_abs]
      exact nearest.bounded
    · obtain ⟨y,known,same⟩ := sized.number s
      have closer := nearest.nearest y known
      rwa [value,same,unit_sub,unit_sub] at closer
    · obtain ⟨y,known,same⟩ := sized.number s
      rw [← unit_sub,← unit_sub,← value,← same] at tie
      rw [← parity]
      refine nearest.even y known tie fun equal => other ?_
      rw [value,same] at equal
      exact mul_left_cancel₀ (left_ne_zero_of_mul_eq_one (unit_square s)) equal
  · intro around
    have above := around.positive positive
    have size : (0 : ℚ) < m * 2 ^ e :=
      mul_pos (Nat.cast_pos.2 positive) (zpow_pos (by norm_num) e)
    have same : unit s * q = |q| := by rw [← unit_abs s q,abs_of_pos above]
    have distance : |q - rational x| = |unit s * q - m * 2 ^ e| := by rw [value,unit_sub]
    have turned (y : Float) : |unit s * q - (|rational y|)| ≤ |q - rational y| := by
      rw [same]
      exact abs_abs_sub_abs_le q (rational y)
    refine ⟨finite,?_,fun y known => ?_,fun y known tie other => ?_⟩
    · rw [← same]
      exact around_bounded canonical small around
    · rw [distance]
      exact (around_nearest canonical around (rational_sized known)).1.trans (turned y)
    · obtain ⟨nearer,even⟩ := around_nearest canonical around (rational_sized known)
      rw [distance] at tie
      rw [parity]
      refine even (nearer.antisymm ((turned y).trans_eq tie.symm)) fun equal => ?_
      have opposite : rational y = -rational x := by
        rw [← abs_of_pos size,← unit_abs s (m * 2 ^ e),← value] at equal
        exact (abs_eq_abs.1 equal).resolve_left other
      rw [opposite,value,sub_neg_eq_add,← sub_neg_eq_add,← mul_neg,unit_sub,sub_neg_eq_add,
        abs_of_pos (add_pos above size)] at tie
      rcases abs_cases (unit s * q - m * 2 ^ e) with ⟨whole,-⟩ | ⟨whole,-⟩ <;> linarith

theorem nearest_apart {x y : Float} {q : ℚ} {s t : Sign} {m : ℕ} {e : ℤ} {positive : 0 < m}
    (zero : parts x = .zero s) (number : parts y = .finite t m e positive) (first : Nearest q x) :
    ¬Nearest q y := by
  intro second
  obtain ⟨finite,value⟩ := rational_finite number
  have around := (nearest_exact number q).1 second
  have half := around_half (parts_held number).canonical around
  have above := around.positive positive
  have closer := first.nearest y finite
  rw [(rational_zero zero).2,sub_zero,← unit_abs t q,abs_of_pos above,value,unit_sub] at closer
  have size : (0 : ℚ) < m * 2 ^ e := mul_pos (Nat.cast_pos.2 positive) (zpow_pos (by norm_num) e)
  rcases abs_cases (unit t * q - m * 2 ^ e) with ⟨whole,-⟩ | ⟨whole,-⟩ <;> linarith

theorem minus_inj {s t : Sign} (same : minus s = minus t) : s = t := by
  cases s <;> cases t <;> first | rfl | cases same

theorem nearest_unique {x y : Float} {q : ℚ} (first : Nearest q x) (second : Nearest q y)
    (signs : (Signed.ofFloat x).negative = (Signed.ofFloat y).negative) : x = y := by
  rcases finite_cases first.finite with ⟨s,zero⟩ | ⟨s,m,e,held,number⟩
  · rcases finite_cases second.finite with ⟨t,also⟩ | ⟨t,n,f,form,other⟩
    · rw [ofFloat_zero zero,ofFloat_zero also] at signs
      exact parts_inj (by rw [zero,also,minus_inj signs])
    · exact absurd second (nearest_apart zero other first)
  · rcases finite_cases second.finite with ⟨t,also⟩ | ⟨t,n,f,form,other⟩
    · exact absurd first (nearest_apart also number second)
    · have left := (nearest_exact number q).1 first
      have right := (nearest_exact other q).1 second
      rw [ofFloat_finite number,ofFloat_finite other] at signs
      cases minus_inj signs
      cases left.unique held.canonical form.canonical right
      exact parts_inj (number.trans other.symm)

end LispCalls.Binary64
