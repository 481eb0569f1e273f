import LispCalls.Proofs.Decimal.Numerals
import LispCalls.Value.Text

namespace LispCalls

namespace Numeral

def pointed (front places : List Char) : List Char :=
  if places = [] then front else front ++ '.' :: places

structure Plain (front places : List Char) : Prop where
  ahead : Layout.Digits front
  behind : Layout.Digits places
  starts : front ≠ []
  leading : front.head? = some '0' → front = ['0']
  ending : places.getLast? ≠ some '0'

def isZero (c : Char) : Bool := c == '0'

def significant (cs : List Char) : Nat :=
  (((cs.filter Char.isDigit).dropWhile isZero).rdropWhile isZero).length

theorem digits_head {n : Nat} (positive : 0 < n) : (Nat.toDigits 10 n).head? ≠ some '0' := by
  induction n using Nat.strongRecOn with
  | ind n ih =>
    rw [Nat.toDigits_eq_if (by decide)]
    split
    · rename_i small
      rw [List.head?_cons,ne_eq,Option.some.injEq,Nat.digitChar_eq_zero]
      omega
    · rename_i large
      have some : Nat.toDigits 10 (n / 10) ≠ [] := Nat.toDigits_ne_nil
      obtain ⟨c,rest,written⟩ := List.exists_cons_of_ne_nil some
      have first := ih (n / 10) (by omega) (by omega)
      rw [written] at first ⊢
      exact first

theorem digits_last (n : Nat) : (Nat.toDigits 10 n).getLast? = some (n % 10).digitChar := by
  rw [Nat.toDigits_eq_if (by decide)]
  split
  · rename_i small
    rw [Nat.mod_eq_of_lt small]
    rfl
  · exact List.getLast?_concat

theorem filter_pointed {front places : List Char} (plain : Plain front places) :
    (pointed front places).filter Char.isDigit = front ++ places := by
  have point : Char.isDigit '.' = false := rfl
  have first := List.filter_eq_self.2 plain.ahead
  have second := List.filter_eq_self.2 plain.behind
  unfold pointed
  split
  · rename_i whole
    rw [whole,first,List.append_nil]
  · rw [List.filter_append,List.filter_cons,first,second,point]
    rfl

theorem significant_digits {n : Nat} (last : n % 10 ≠ 0) (before behind : Nat) :
    ((List.replicate before '0' ++ Nat.toDigits 10 n ++ List.replicate behind '0').dropWhile
      isZero).rdropWhile isZero = Nat.toDigits 10 n := by
  have zeros : ∀ c ∈ List.replicate before '0', isZero c = true := by
    intro c member
    rw [List.eq_of_mem_replicate member]
    rfl
  have positive : 0 < n := by omega
  have first := digits_head positive
  have some : Nat.toDigits 10 n ≠ [] := Nat.toDigits_ne_nil
  obtain ⟨c,rest,written⟩ := List.exists_cons_of_ne_nil some
  have head : ¬isZero c = true := by
    rw [written] at first
    exact fun zero => first (congrArg Option.some (beq_iff_eq.1 zero))
  rw [List.append_assoc,List.dropWhile_append_of_pos zeros,written,List.cons_append,
    List.dropWhile_cons_of_neg head,← List.cons_append,← written]
  induction behind with
  | zero =>
    rw [List.replicate_zero,List.append_nil,List.rdropWhile_eq_self_iff]
    intro filled zero
    have ending := digits_last n
    rw [List.getLast?_eq_getLast_of_ne_nil filled,beq_iff_eq.1 zero,Option.some.injEq,
      Nat.zero_eq_digitChar] at ending
    exact last ending
  | succ behind ih =>
    rw [List.replicate_succ',← List.append_assoc,List.rdropWhile_concat_pos _ _ _ rfl]
    exact ih

end Numeral

namespace Layout

open Numeral

variable {d : Decimal} {front places : List Char}

theorem Pointed.filled (pointed : Pointed d front places) (part : ¬0 ≤ d.exponent) :
    places ≠ [] := by
  rintro rfl
  exact part (le_of_eq pointed.exponent.symm)

variable (last : d.coefficient % 10 ≠ 0)

include last

theorem digits_unpadded : d.digits.head? ≠ some '0' :=
  digits_head (Nat.pos_of_ne_zero fun zero => last (by rw [zero]))

theorem whole_plain (places : Nat) : Plain (d.digits ++ List.replicate places '0') [] where
  ahead := (Digits.coefficient d).append (.zeros places)
  behind := nofun
  starts := List.append_ne_nil_of_left_ne_nil d.digits_ne_nil _
  leading zero := by
    rw [List.head?_append_of_ne_nil _ d.digits_ne_nil] at zero
    exact absurd zero (digits_unpadded last)
  ending := nofun

theorem Pointed.plain (pointed : Pointed d front places) (part : ¬0 ≤ d.exponent) :
    Plain front places where
  ahead := pointed.ahead
  behind := pointed.behind
  starts := pointed.starts
  leading zero := by
    obtain ⟨zeros,padded,rfl | single⟩ := pointed.padded
    · have digits : d.digits = front ++ places := padded.symm
      have first := digits_unpadded last
      rw [digits,List.head?_append_of_ne_nil _ pointed.starts] at first
      exact absurd zero first
    · obtain ⟨c,rfl⟩ := List.length_eq_one_iff.1 single
      rw [Option.some.inj zero]
  ending := by
    obtain ⟨zeros,padded,-⟩ := pointed.padded
    have ending : (front ++ places).getLast? = some (d.coefficient % 10).digitChar := by
      rw [padded,List.getLast?_append,Decimal.digits,digits_last]
      rfl
    rw [List.getLast?_append_of_ne_nil _ (pointed.filled part)] at ending
    rw [ending,ne_eq,Option.some.injEq,Nat.digitChar_eq_zero]
    exact last

theorem positional_plain :
    ∃ front places before behind, plainNumber.positional d = pointed front places ∧
      Plain front places ∧ places.length = (-d.exponent).toNat ∧
      front ++ places = List.replicate before '0' ++ d.digits ++ List.replicate behind '0' := by
  by_cases whole : 0 ≤ d.exponent
  · refine ⟨d.digits ++ List.replicate d.exponent.toNat '0',[],0,d.exponent.toNat,?_,
      whole_plain last _,?_,List.append_nil _⟩
    · rw [plainNumber.positional_whole whole]
      exact List.append_nil _
    · rw [List.length_nil]
      omega
  · obtain ⟨front,places,written,form⟩ := plainNumber.positional_pointed whole
    obtain ⟨zeros,padded,-⟩ := form.padded
    have length := form.exponent
    refine ⟨front,places,zeros,0,?_,form.plain last whole,by omega,?_⟩
    · rw [written,pointed,if_neg (form.filled whole)]
    · rw [padded]
      exact (List.append_nil _).symm

end Layout
end LispCalls
