import LispCalls.Fault

namespace LispCalls

namespace Text

theorem cut_inj {c : Char} {front other word last : List Char}
    (same : front ++ c :: word = other ++ c :: last) (unbroken : c ∉ word)
    (single : c ∉ last) : front = other ∧ word = last := by
  rcases List.append_eq_append_iff.1 same with ⟨between,longer,rest⟩ | ⟨between,longer,rest⟩
  · cases between with
    | nil =>
      cases rest
      exact ⟨by simpa using longer.symm,rfl⟩
    | cons _ later =>
      simp only [List.cons_append,List.cons.injEq] at rest
      exact absurd (rest.2 ▸ List.mem_append_right later List.mem_cons_self) unbroken
  · cases between with
    | nil =>
      cases rest
      exact ⟨by simpa using longer,rfl⟩
    | cons _ later =>
      simp only [List.cons_append,List.cons.injEq] at rest
      exact absurd (rest.2 ▸ List.mem_append_right later List.mem_cons_self) single

theorem firstCut_inj {c : Char} {word last rest other : List Char}
    (same : word ++ c :: rest = last ++ c :: other) (unbroken : c ∉ word) (single : c ∉ last) :
    word = last ∧ rest = other := by
  have backwards : rest.reverse ++ c :: word.reverse = other.reverse ++ c :: last.reverse := by
    simpa using congrArg List.reverse same
  obtain ⟨rests,words⟩ := cut_inj backwards (mt List.mem_reverse.1 unbroken)
    (mt List.mem_reverse.1 single)
  exact ⟨List.reverse_inj.1 words,List.reverse_inj.1 rests⟩

theorem lastWord_inj {front other word last : String}
    (same : front ++ " " ++ word = other ++ " " ++ last) (unbroken : ' ' ∉ word.toList)
    (single : ' ' ∉ last.toList) : front = other ∧ word = last := by
  have lists := congrArg String.toList same
  have blank : " ".toList = [' '] := rfl
  simp only [String.toList_append,blank,List.append_assoc,List.singleton_append] at lists
  obtain ⟨fronts,words⟩ := cut_inj lists unbroken single
  exact ⟨String.toList_inj.1 fronts,String.toList_inj.1 words⟩

theorem digits_isDigit {n : Nat} {c : Char} (member : c ∈ (toString n).toList) : c.isDigit := by
  rw [Nat.toString_eq_repr,Nat.toList_repr] at member
  exact Nat.isDigit_of_mem_toDigits (by decide) (Nat.le_refl 10) member

theorem digits_free {c : Char} (other : c.isDigit = false) (n : Nat) :
    c ∉ (toString n).toList := by
  intro member
  rw [digits_isDigit member] at other
  cases other

theorem digits_unbroken (n : Nat) : ' ' ∉ (toString n).toList := digits_free rfl n

theorem digits_inj {m n : Nat} (same : toString m = toString n) : m = n := by
  have digits := congrArg String.toList same
  simp only [Nat.toString_eq_repr,Nat.toList_repr] at digits
  rw [← @Nat.ofDigitChars_ten_toDigits m,digits,Nat.ofDigitChars_ten_toDigits]

theorem digits_last (n : Nat) :
    ∃ c rest, (toString n).toList.reverse = c :: rest ∧ c.isDigit = true := by
  cases digits : (toString n).toList.reverse with
  | nil =>
    have empty : (toString n).toList = [] := List.reverse_eq_nil_iff.1 digits
    rw [Nat.toString_eq_repr,Nat.toList_repr] at empty
    exact absurd empty Nat.toDigits_ne_nil
  | cons c rest =>
    refine ⟨c,rest,rfl,digits_isDigit (n := n) (List.mem_reverse.1 ?_)⟩
    rw [digits]
    exact List.mem_cons_self

end Text

namespace Arity

theorem noun_unbroken (arity : Arity) : ' ' ∉ (arity.noun ++ ",").toList := by
  unfold noun
  split <;> decide

def lastWord : Arity → String
  | .exactly count => toString count
  | .any => "of"

theorem lastWord_unbroken (arity : Arity) : ' ' ∉ arity.lastWord.toList := by
  cases arity with
  | exactly count => exact Text.digits_unbroken count
  | any => decide

theorem lastWord_inj {declared other : Arity} (same : declared.lastWord = other.lastWord) :
    declared = other := by
  have letters : ∀ count : Nat, toString count ≠ "of" := by
    intro count digits
    have member : 'o' ∈ (toString count).toList := by rw [digits]; decide
    exact Text.digits_free rfl count member
  cases declared with
  | exactly count =>
    cases other with
    | exactly more => rw [Text.digits_inj same]
    | any => exact absurd same (letters count)
  | any =>
    cases other with
    | exactly count => exact absurd same.symm (letters count)
    | any => rfl

end Arity

namespace Fault

theorem argumentCount_message (name : String) (declared : Arity) (given : Nat) :
    (argumentCount name declared given).message =
      "'" ++ name ++ "' expects " ++ declared.text ++ " " ++ declared.noun ++ ", got " ++
        toString given := rfl

-- The words that tell the counts, from the end of the message.
theorem argumentCount_words (name : String) (declared : Arity) (given : Nat) :
    ∃ front, (argumentCount name declared given).message =
      front ++ " " ++ declared.lastWord ++ " " ++ (declared.noun ++ ",") ++ " " ++ "got" ++ " " ++
        toString given := by
  have expects : "' expects " = "' expects" ++ " " := rfl
  have got : ", got " = "," ++ " " ++ "got" ++ " " := rfl
  rw [argumentCount_message,expects,got]
  cases declared with
  | exactly count =>
    refine ⟨"'" ++ name ++ "' expects",?_⟩
    simp only [Arity.text,Arity.lastWord,String.append_assoc]
  | any =>
    have number : "any number of" = "any number" ++ " " ++ "of" := rfl
    refine ⟨"'" ++ name ++ "' expects" ++ " " ++ "any number",?_⟩
    rw [Arity.text,Arity.lastWord,number]
    simp only [String.append_assoc]

theorem argumentCount_told {name other : String} {declared expected : Arity} {given count : Nat}
    (same : (argumentCount name declared given).message =
      (argumentCount other expected count).message) : declared = expected ∧ given = count := by
  obtain ⟨front,words⟩ := argumentCount_words name declared given
  obtain ⟨before,others⟩ := argumentCount_words other expected count
  rw [words,others] at same
  obtain ⟨same,counts⟩ := Text.lastWord_inj same (Text.digits_unbroken given)
    (Text.digits_unbroken count)
  obtain ⟨same,-⟩ := Text.lastWord_inj same (by decide) (by decide)
  obtain ⟨same,-⟩ := Text.lastWord_inj same declared.noun_unbroken expected.noun_unbroken
  obtain ⟨-,arities⟩ := Text.lastWord_inj same declared.lastWord_unbroken expected.lastWord_unbroken
  exact ⟨Arity.lastWord_inj arities,Text.digits_inj counts⟩

end Fault
end LispCalls
