import LispCalls.Proofs.Binary64.Nearest
import LispCalls.Proofs.Decimal.Positional
import LispCalls.Proofs.Decimal.Shortest
import LispCalls.Proofs.PrintedValues

namespace LispCalls

open Float.Model.UnpackedFloat Binary64

namespace Numeral

def marked (negative : Bool) (cs : List Char) : List Char := if negative then '-' :: cs else cs

def signed : List Char → ℚ
  | '-' :: cs => -read cs
  | cs => read cs

structure RoundsTo (cs : List Char) (x : Float) : Prop where
  sign : cs.head? = some '-' ↔ 2 ^ 63 ≤ x.toBits.toNat
  nearest : Nearest (signed cs) x

section Unsigned

variable {cs : List Char} (unsigned : cs.head? ≠ some '-')

include unsigned

theorem marked_head (negative : Bool) :
    (marked negative cs).head? = some '-' ↔ negative = true := by
  cases negative with
  | false => exact iff_of_false unsigned Bool.false_ne_true
  | true => exact iff_of_true rfl rfl

theorem marked_signed (s : Sign) : signed (marked (minus s) cs) = unit s * read cs := by
  cases s with
  | negative => exact (neg_one_mul (read cs)).symm
  | positive =>
    have plain : signed cs = read cs := by
      unfold signed
      split
      · exact absurd rfl unsigned
      · rfl
    exact plain.trans (one_mul (read cs)).symm

end Unsigned

@[simp] theorem marked_significant (negative : Bool) (cs : List Char) :
    significant (marked negative cs) = significant cs := by
  cases negative <;> rfl

theorem pointed_unsigned {front places : List Char} (plain : Plain front places) :
    (pointed front places).head? ≠ some '-' := by
  obtain ⟨c,rest,begins⟩ := List.exists_cons_of_ne_nil plain.starts
  have digit := plain.ahead c (begins ▸ List.mem_cons_self)
  have head : (pointed front places).head? = some c := by
    rw [pointed,begins]
    split <;> rfl
  rw [head]
  rintro same
  cases Option.some.inj same
  cases digit

end Numeral

open Numeral

structure Written (x : Float) (text front places : List Char) : Prop where
  parts : text = marked (Signed.ofFloat x).negative (pointed front places)
  plain : Plain front places
  integral : places = [] ↔ ∃ n, Whole x n
  nearest : Nearest (signed text) x
  fewest : ∀ (n : ℕ) (c e : ℤ), c.natAbs < 10 ^ n → Nearest (c * 10 ^ e) x → significant text ≤ n

theorem number_text {x : Float} {d : Decimal}
    (written : (Signed.ofFloat x).magnitude.decimal? = some d) :
    (Value.number x).text.toList =
      marked (Signed.ofFloat x).negative (plainNumber.positional d) := by
  have number : (Signed.ofFloat x).magnitude ≠ .nan := by
    intro nan
    rw [nan] at written
    cases written
  have positional : plainNumber.magnitude (Signed.ofFloat x).magnitude = plainNumber.positional d :=
    Layout.magnitude_decimal written
  rw [Value.text,Layout.float,String.toList_ofList,Layout.signed,positional]
  cases (Signed.ofFloat x).negative with
  | false => rfl
  | true => exact if_pos ⟨rfl,number⟩

theorem zero_written {x : Float} {s : Sign} (number : parts x = .zero s) :
    Written x (Value.number x).text.toList ['0'] [] := by
  have form := ofFloat_zero number
  have text : (Value.number x).text.toList =
      marked (Signed.ofFloat x).negative (pointed ['0'] []) := by
    rw [number_text (d := ⟨0,0⟩) (by rw [form]; rfl)]
    rfl
  have plain : Plain ['0'] [] := ⟨.zeros 1,nofun,nofun,fun _ => rfl,nofun⟩
  have nothing : significant (pointed ['0'] []) = 0 := rfl
  have value : read (pointed ['0'] []) = 0 :=
    (Layout.positional_read plainNumber_neutral ⟨0,0⟩).trans (by simp [Decimal.value])
  refine ⟨text,plain,iff_of_true rfl ⟨0,?_⟩,?_,fun n c e _ _ => ?_⟩
  · rw [Whole,number]
    exact congrArg some Int.cast_zero.symm
  · rw [text,form,marked_signed (pointed_unsigned plain),value,mul_zero]
    exact nearest_zero number
  · rw [text,marked_significant,nothing]
    exact Nat.zero_le n

section Finite

variable {x : Float} {s : Sign} {m : ℕ} {e : ℤ} {positive : 0 < m} {d : Decimal}
  (number : parts x = .finite s m e positive)
  (coarsest : d.Coarsest (Magnitude.Around m e (decide (m = 2 ^ 52 ∧ -1074 < e))))

include number coarsest

theorem exponent_whole : 0 ≤ d.exponent ↔ ∃ n, Whole x n := by
  constructor
  · intro whole
    obtain ⟨k,same⟩ : ∃ k : ℕ, (m : ℚ) * 2 ^ e = k := by
      rcases lt_or_ge e 0 with part | large
      · obtain ⟨places,exponent⟩ := Int.eq_ofNat_of_zero_le whole
        have around := coarsest.member
        rw [Decimal.value,exponent,zpow_natCast] at around
        refine ⟨d.coefficient * 10 ^ places,?_⟩
        exact around_integer (parts_held number).canonical part (by exact_mod_cast around)
      · obtain ⟨places,rfl⟩ := Int.eq_ofNat_of_zero_le large
        exact ⟨m * 2 ^ places,by push_cast; rfl⟩
    exact ⟨s.apply k,by rw [Whole,number,rational?,apply_scaled s same]⟩
  · rintro ⟨n,whole⟩
    by_contra part
    rw [Whole,number] at whole
    have size := (magnitude_whole (Option.some.inj whole)).1
    refine coarsest.alone n.natAbs 0 (by omega) ?_
    rw [zpow_zero,mul_one,← size]
    exact around_itself

theorem digits_fewest {n : ℕ} {c f : ℤ} (few : c.natAbs < 10 ^ n)
    (nearest : Nearest (c * 10 ^ f) x) : d.digits.length ≤ n := by
  have around := (nearest_exact number _).1 nearest
  have size : unit s * (c * 10 ^ f) = (c.natAbs : ℚ) * 10 ^ f := by
    have power : (0 : ℚ) < 10 ^ f := zpow_pos (by norm_num) f
    rw [← abs_of_pos (around.positive positive),unit_abs,abs_mul,abs_of_pos power,Nat.cast_natAbs,
      Int.cast_abs]
  rw [size] at around
  have less := coarsest.fewest (fun _ _ _ => Magnitude.Around.between) around few
  have counts := coarsest.positive
  have some : 0 < n := by
    rw [Nat.pos_iff_ne_zero]
    rintro rfl
    omega
  exact (Nat.length_toDigits_le_iff (by decide) some).2 less

end Finite

theorem finite_written {x : Float} {s : Sign} {m : ℕ} {e : ℤ} {positive : 0 < m}
    (number : parts x = .finite s m e positive) :
    ∃ front places, Written x (Value.number x).text.toList front places := by
  have form := ofFloat_finite number
  have coarsest := Magnitude.around_coarsest e (decide (m = 2 ^ 52 ∧ -1074 < e)) positive
  have text := number_text (x := x) (by rw [form]; rfl)
  obtain ⟨front,places,before,behind,written,plain,length,digits⟩ :=
    Layout.positional_plain coarsest.last
  have value := Layout.positional_read plainNumber_neutral
    (Rounding.ofBinary m e (decide (m = 2 ^ 52 ∧ -1074 < e))).shortest
  rw [written] at text value
  refine ⟨front,places,text,plain,?_,?_,fun n c f few nearest => ?_⟩
  · rw [← exponent_whole number coarsest,← List.length_eq_zero_iff,length]
    omega
  · rw [text,form,marked_signed (pointed_unsigned plain),value,nearest_exact number,← mul_assoc,
      unit_square,one_mul]
    exact coarsest.member
  · rw [text,marked_significant,significant,filter_pointed plain,digits,Decimal.digits,
      significant_digits coarsest.last]
    exact digits_fewest number coarsest few nearest

-- A finite number is written as a decimal without an exponent, without digits to spare and with a
-- point only if it is no integer. No other number is read back from it, and no decimal with fewer
-- digits is read back as the number.
theorem printed_numbers_read_back {x : Float} (finite : x.isFinite = true) :
    let text := (Value.number x).text.toList
    (∃ front places, text = marked (2 ^ 63 ≤ x.toBits.toNat) (pointed front places) ∧
      Plain front places ∧ (places = [] ↔ ∃ n, Whole x n)) ∧
    (∀ y, RoundsTo text y ↔ y = x) ∧
    (∀ (n : ℕ) (c e : ℤ), c.natAbs < 10 ^ n → Nearest (c * 10 ^ e) x → significant text ≤ n) ∧
    ∀ y : Float, y.toBits ≠ x.toBits → (Value.number y).text ≠ (Value.number x).text := by
  intro text
  obtain ⟨front,places,written⟩ : ∃ front places, Written x text front places := by
    rcases finite_cases finite with ⟨s,zero⟩ | ⟨s,m,e,held,number⟩
    · exact ⟨_,_,zero_written zero⟩
    · exact finite_written number
  have sign : text.head? = some '-' ↔ (Signed.ofFloat x).negative = true := by
    rw [written.parts]
    exact marked_head (pointed_unsigned written.plain) _
  refine ⟨⟨front,places,?_,written.plain,written.integral⟩,fun y => ⟨fun rounds => ?_,?_⟩,
    written.fewest,fun y other same => ?_⟩
  · rw [written.parts]
    congr 1
    exact Bool.eq_iff_iff.2 ((sign_bit_set x).trans decide_eq_true_iff.symm)
  · have signs : (Signed.ofFloat y).negative = (Signed.ofFloat x).negative :=
      Bool.eq_iff_iff.2 ((sign_bit_set y).trans (rounds.sign.symm.trans sign))
    exact nearest_unique rounds.nearest written.nearest signs
  · rintro rfl
    exact ⟨sign.trans (sign_bit_set y),written.nearest⟩
  · exact other (congrArg Float.toBits (Layout.float_inj plainNumber_neutral same))

-- The number below 10^23 is written as 10^23, which lies midway between it and the next one.
theorem printed_numbers_read_back_midway :
    let x := Float.ofBits 0x44B52D02C7E14AF6
    let text := "100000000000000000000000"
    x.isFinite = true ∧ (Value.number x).text = text ∧ ∀ y, RoundsTo text.toList y ↔ y = x := by
  intro x text
  have finite : x.isFinite = true := by decide
  have written : (Value.number x).text = text := by decide +kernel
  refine ⟨finite,written,?_⟩
  rw [← written]
  exact (printed_numbers_read_back finite).2.1

end LispCalls
