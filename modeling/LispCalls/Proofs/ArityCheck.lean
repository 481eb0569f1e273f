import LispCalls.Proofs.Calls

namespace LispCalls

namespace Interpreter

theorem entered_admitted {i : Interpreter} {callee : Value} {line other : Nat}
    {args given : List Value} {p : Procedure} {inner : List Trace} {outcome : Outcome}
    (ran : i.apply callee line args = .entered p other given inner outcome) :
    i.admits p given.length = true := by
  cases callee with
  | procedure q =>
    cases admitted : i.admits q args.length with
    | false =>
      rw [i.apply_miscounted admitted] at ran
      cases ran
    | true =>
      unfold apply at ran
      simp only [admitted,if_true] at ran
      cases ran
      exact admitted
  | _ =>
    rw [i.apply_uncallable rfl] at ran
    cases ran

theorem checked_admits (i : Interpreter) (checks : i.settings.checkArity = true) (p : Procedure)
    (count : Nat) : i.admits p count = p.arity.accepts count := by
  simp [admits,checks]

theorem unchecked_admits {i : Interpreter} (trusts : i.settings.checkArity = false) (p : Procedure)
    (count : Nat) : i.admits p count = true := by
  simp [admits,trusts]

end Interpreter

def Trace.Miscounted (call : Trace) : Prop :=
  ∃ callee line args name declared given,
    call = .refused callee line args (.argumentCount name declared given)

namespace Interpreter

-- Where the check refuses nothing, an interpreter that makes it and one that does not run alike.
theorem unchecked_same (checked : Interpreter) {unchecked : Interpreter}
    (trusts : unchecked.settings.checkArity = false) (callee : Value) (line : Nat)
    (args : List Value)
    (counted : ∀ call ∈ (checked.apply callee line args).calls, ¬call.Miscounted) :
    unchecked.apply callee line args = checked.apply callee line args := by
  induction callee, line, args using checked.apply_induction with
  | uncallable callee line args other =>
    rw [unchecked.apply_uncallable other,checked.apply_uncallable other]
  | miscounted p line args rejected =>
    have root := checked.apply_miscounted rejected line
    exact absurd ⟨_,_,_,_,_,_,root⟩ (counted _ (Trace.calls_self _))
  | operator op line args => rw [unchecked.apply_operator,checked.apply_operator]
  | primitive name arity action line args admitted inner =>
    have free := unchecked_admits trusts (.primitive name arity action) args.length
    rw [checked.apply_primitive admitted] at counted ⊢
    rw [unchecked.apply_primitive free,Script.perform_congr]
    intro callee other given made
    apply inner callee other given made
    intro call within
    exact counted call (List.mem_cons_of_mem _ (Trace.mem_callsOf.2 ⟨_,made,within⟩))

theorem apply_settings (i j : Interpreter)
    (same : j.settings.checkArity = i.settings.checkArity) (callee : Value) (line : Nat)
    (args : List Value) : j.apply callee line args = i.apply callee line args := by
  have admits_same : ∀ p count, j.admits p count = i.admits p count := by
    intro p count
    simp only [admits,same]
  induction callee, line, args using i.apply_induction with
  | uncallable callee line args other =>
    rw [j.apply_uncallable other,i.apply_uncallable other]
  | miscounted p line args rejected =>
    rw [i.apply_miscounted rejected,j.apply_miscounted ((admits_same _ _).trans rejected)]
  | operator op line args => rw [j.apply_operator,i.apply_operator]
  | primitive name arity action line args admitted inner =>
    rw [i.apply_primitive admitted,j.apply_primitive ((admits_same _ _).trans admitted),
      Script.perform_congr _ inner]

end Interpreter

theorem arity_check_only_rejects (table : Table) (style : ReportStyle) (callee : Value)
    (line : Nat) (args : List Value) :
    let checked : Interpreter := ⟨⟨true,style⟩,table⟩
    let unchecked : Interpreter := ⟨⟨false,style⟩,table⟩
    (∀ p other given inner outcome,
      .entered p other given inner outcome ∈ (checked.apply callee line args).calls →
      p.arity.accepts given.length = true) ∧
    ((∀ call ∈ (checked.apply callee line args).calls, ¬call.Miscounted) →
      (unchecked.apply callee line args).outcome = (checked.apply callee line args).outcome ∧
      (unchecked.apply callee line args).log = (checked.apply callee line args).log) ∧
    ∀ (check : Bool) (other : ReportStyle),
      (Interpreter.mk ⟨check,other⟩ table).apply callee line args =
        (Interpreter.mk ⟨check,style⟩ table).apply callee line args := by
  intro checked unchecked
  refine ⟨?_,?_,?_⟩
  · intro p other given inner outcome member
    rcases checked.calls_exact callee line args member with ⟨_,_,_,same⟩ | ⟨_,_,_,same⟩
    · cases same
    · rw [← checked.checked_admits rfl]
      exact Interpreter.entered_admitted same.symm
  · intro counted
    rw [checked.unchecked_same rfl callee line args counted]
    exact ⟨rfl,rfl⟩
  · intro check other
    exact Interpreter.apply_settings ⟨⟨check,style⟩,table⟩ ⟨⟨check,other⟩,table⟩ rfl callee line args

end LispCalls
