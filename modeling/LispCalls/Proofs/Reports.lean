import LispCalls.Proofs.Messages
import LispCalls.Report

namespace LispCalls

namespace Text

theorem between_inj {front word other back : String}
    (same : front ++ word ++ back = front ++ other ++ back) : word = other :=
  (String.append_right_inj front).1 ((String.append_left_inj back).1 same)

theorem numbered_inj {line other : Nat} {s t : String}
    (same : "line " ++ toString line ++ ": " ++ s = "line " ++ toString other ++ ": " ++ t) :
    line = other ∧ s = t := by
  simp only [String.append_assoc,String.append_right_inj] at same
  have lists := congrArg String.toList same
  have colon : ": ".toList = [':',' '] := rfl
  simp only [String.toList_append,colon,List.cons_append,List.nil_append] at lists
  obtain ⟨lines,rests⟩ := firstCut_inj lists (digits_free rfl line) (digits_free rfl other)
  exact ⟨digits_inj (String.toList_inj.1 lines),String.toList_inj.1 (List.cons.inj rests).2⟩

end Text

namespace FaultKind

def told : List Char → Option FaultKind
  | [] => none
  | c :: rest =>
    if c.isDigit then some .argumentCount
    else match c with
      | 'o' => some .divisionByZero
      | '\'' => some .undefinedSymbol
      | 'e' => some .notCallable
      | _ => if rest.head? = some 't' then some .arity else some .type

theorem told_ending (front : String) {ending : String} {kind : FaultKind}
    (read : ∀ more, told (ending.toList.reverse ++ more) = some kind) :
    told (front ++ ending).toList.reverse = some kind := by
  rw [String.toList_append,List.reverse_append]
  exact read front.toList.reverse

end FaultKind

namespace Fault

theorem kind_told (fault : Fault) :
    FaultKind.told fault.message.toList.reverse = some fault.kind := by
  cases fault with
  | tooFewArguments symbol => exact FaultKind.told_ending ("'" ++ symbol) fun _ => rfl
  | notANumber symbol => exact FaultKind.told_ending ("'" ++ symbol) fun _ => rfl
  | divisionByZero => rfl
  | undefinedSymbol symbol =>
    exact FaultKind.told_ending ("undefined symbol '" ++ symbol) fun _ => rfl
  | notCallable typeName => exact FaultKind.told_ending typeName fun _ => rfl
  | argumentCount name declared given =>
    rw [argumentCount_message]
    obtain ⟨c,rest,digits,digit⟩ := Text.digits_last given
    refine FaultKind.told_ending _ fun more => ?_
    rw [digits,List.cons_append]
    exact if_pos digit

-- The kind fixes the words around a name, and the name is what is left.
theorem message_inj {f g : Fault} (same : f.message = g.message) : f = g := by
  have kinds : f.kind = g.kind := by
    have told := kind_told f
    rw [same,kind_told g] at told
    exact (Option.some.inj told).symm
  cases f <;> cases g <;> cases kinds
  case tooFewArguments.tooFewArguments symbol other => rw [Text.between_inj same]
  case notANumber.notANumber symbol other => rw [Text.between_inj same]
  case divisionByZero.divisionByZero => rfl
  case undefinedSymbol.undefinedSymbol symbol other => rw [Text.between_inj same]
  case notCallable.notCallable typeName other => rw [(String.append_left_inj _).1 same]
  case argumentCount.argumentCount name declared given other expected count =>
    obtain ⟨rfl,rfl⟩ := argumentCount_told same
    rw [argumentCount_message,argumentCount_message] at same
    simp only [String.append_left_inj,String.append_right_inj] at same
    rw [same]

end Fault

theorem plain_reports_unambiguous (f g : Fault) (line other : Nat) :
    ReportStyle.plain.render (f.onLine line) = ReportStyle.plain.render (g.onLine other) ↔
      f = g ∧ line = other := by
  constructor
  · intro same
    obtain ⟨lines,messages⟩ := Text.numbered_inj same
    exact ⟨Fault.message_inj messages,lines⟩
  · rintro ⟨rfl,rfl⟩
    rfl

end LispCalls
