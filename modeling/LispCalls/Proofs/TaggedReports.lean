import LispCalls.Interpreter
import LispCalls.Proofs.Reports

namespace LispCalls

namespace Text

-- The first place of a mark in a text: what stands in front of any other place is not shorter.
structure FirstAt (mark text front rest : String) : Prop where
  parts : text = front ++ mark ++ rest
  first : ∀ other more, text = other ++ mark ++ more → front.length ≤ other.length

theorem unbroken_first {mark front : String} {c : Char} {later : List Char}
    (begins : mark.toList = c :: later) (unbroken : c ∉ front.toList) (rest : String) :
    FirstAt mark (front ++ mark ++ rest) front rest where
  parts := rfl
  first other more same := by
    have lists := congrArg String.toList same
    simp only [String.toList_append,begins,List.append_assoc] at lists
    rw [← String.length_toList,← String.length_toList]
    rcases List.append_eq_append_iff.1 lists with ⟨between,longer,-⟩ | ⟨between,shorter,after⟩
    · rw [longer,List.length_append]
      exact Nat.le_add_right _ _
    · cases between with
      | nil => exact Nat.le_of_eq (by rw [shorter,List.append_nil])
      | cons d others =>
        cases (List.cons.inj after).1
        exact absurd (shorter ▸ List.mem_append_right _ List.mem_cons_self) unbroken

end Text

namespace FaultKind

theorem label_found (kind : FaultKind) : all.find? (·.label == kind.label) = some kind := by
  cases kind <;> decide

theorem label_inj {kind other : FaultKind} (same : kind.label = other.label) : kind = other := by
  have found := kind.label_found
  rw [same,other.label_found] at found
  exact (Option.some.inj found).symm

theorem label_unbroken (kind : FaultKind) : ']' ∉ kind.label.toList := by
  cases kind <;> decide

end FaultKind

namespace CallError

def place (e : CallError) : String := "line " ++ toString e.line

theorem place_unbroken (e : CallError) : ':' ∉ e.place.toList := by
  rw [place,String.toList_append,List.mem_append]
  exact not_or.2 ⟨by decide,Text.digits_free rfl e.line⟩

def tag (e : CallError) : String := "[" ++ e.kind.label ++ "] "

theorem plain_text (e : CallError) : ReportStyle.plain.render e = e.place ++ ": " ++ e.message := rfl

theorem tagged_text (e : CallError) :
    ReportStyle.tagged.render e = e.place ++ ": " ++ (e.tag ++ e.message) := by
  have opening : ": [" = ": " ++ "[" := rfl
  simp only [ReportStyle.render,place,tag,opening,String.append_assoc]

-- No label has a bracket in it, so the first one that closes ends the label, whatever the
-- message holds.
theorem tag_inj {e f : CallError} (same : e.tag ++ e.message = f.tag ++ f.message) :
    e.kind = f.kind ∧ e.message = f.message := by
  have lists := congrArg String.toList same
  have bracket : "] ".toList = [']',' '] := rfl
  simp only [tag,String.append_assoc,String.toList_append,bracket,List.append_cancel_left_eq,
    List.cons_append,List.nil_append] at lists
  obtain ⟨labels,rests⟩ := Text.firstCut_inj lists e.kind.label_unbroken f.kind.label_unbroken
  exact ⟨FaultKind.label_inj (String.toList_inj.1 labels),
    String.toList_inj.1 (List.cons.inj rests).2⟩

theorem tagged_inj {e f : CallError}
    (same : ReportStyle.tagged.render e = ReportStyle.tagged.render f) : e = f := by
  rw [tagged_text,tagged_text] at same
  obtain ⟨lines,rests⟩ := Text.numbered_inj same
  obtain ⟨kinds,messages⟩ := tag_inj rests
  cases e
  cases f
  cases lines
  cases kinds
  cases messages
  rfl

theorem plain_inj {e f : CallError}
    (same : ReportStyle.plain.render e = ReportStyle.plain.render f) :
    e.line = f.line ∧ e.message = f.message := Text.numbered_inj same

end CallError

theorem tagged_reports_faithful (e f : CallError) :
    (ReportStyle.tagged.render e = ReportStyle.tagged.render f ↔ e = f) ∧
    (ReportStyle.plain.render e = ReportStyle.plain.render f ↔
      e.line = f.line ∧ e.message = f.message) ∧
    (∃ front rest, Text.FirstAt ": " (ReportStyle.plain.render e) front rest ∧
      ReportStyle.tagged.render e = front ++ ": " ++ ("[" ++ e.kind.label ++ "] ") ++ rest) ∧
    ∀ (check : Bool) (style : ReportStyle) (table : Table),
      (Interpreter.mk ⟨check,style⟩ table).report e = style.render e := by
  refine ⟨⟨CallError.tagged_inj,congrArg _⟩,⟨CallError.plain_inj,?_⟩,?_,fun _ _ _ => rfl⟩
  · rintro ⟨lines,messages⟩
    rw [CallError.plain_text,CallError.plain_text,CallError.place,CallError.place,lines,messages]
  · have begins : (": " : String).toList = [':',' '] := rfl
    refine ⟨e.place,e.message,Text.unbroken_first begins e.place_unbroken e.message,?_⟩
    exact e.tagged_text.trans String.append_assoc.symm

end LispCalls
