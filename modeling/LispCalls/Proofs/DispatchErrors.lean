import LispCalls.Proofs.Confinement
import LispCalls.Proofs.Messages

namespace LispCalls

namespace Operator

theorem refusal_fault {op : Operator} {arg : Value} {fault : Fault}
    (refused : op.refusal? arg = some fault) :
    fault = .notANumber op.symbol ∨ fault = .divisionByZero := by
  unfold refusal? at refused
  split at refused
  · cases refused
    exact .inl rfl
  · split at refused
    · cases refused
      exact .inr rfl
    · cases refused

theorem evaluate_fault {op : Operator} {args : List Value} {fault : Fault}
    (failed : op.evaluate args = .error fault) :
    fault = .tooFewArguments op.symbol ∨ fault = .notANumber op.symbol ∨
      fault = .divisionByZero := by
  rcases Nat.lt_or_ge args.length 2 with few | enough
  · rw [evaluate_few few] at failed
    cases failed
    exact .inl rfl
  · obtain ⟨first,rest,rfl,more⟩ := enough_parts enough
    rw [evaluate_exact op first more] at failed
    cases number : first.number? with
    | none =>
      rw [number] at failed
      cases failed
      exact .inr (.inl rfl)
    | some x =>
      simp only [number,foldFrom_exact] at failed
      cases found : rest.findSome? op.refusal? with
      | none =>
        rw [found] at failed
        cases failed
      | some refusal =>
        rw [found] at failed
        cases failed
        obtain ⟨arg,-,refused⟩ := List.exists_of_findSome?_eq_some found
        exact .inr (refusal_fault refused)

end Operator

inductive DispatchError (checks : Bool) : CallError → Prop where
  | notCallable (line : Nat) (v : Value) (other : v.procedure? = none) :
      DispatchError checks ((Fault.notCallable v.typeName).onLine line)
  | argumentCount (line : Nat) (name : String) (expected given : Nat) (checked : checks = true)
      (differ : expected ≠ given) :
      DispatchError checks ((Fault.argumentCount name (.exactly expected) given).onLine line)
  | tooFewArguments (line : Nat) (op : Operator) :
      DispatchError checks ((Fault.tooFewArguments op.symbol).onLine line)
  | notANumber (line : Nat) (op : Operator) :
      DispatchError checks ((Fault.notANumber op.symbol).onLine line)
  | divisionByZero (line : Nat) : DispatchError checks (Fault.divisionByZero.onLine line)

namespace DispatchError

variable {checks : Bool} {e : CallError}

theorem defined (error : DispatchError checks e) : e.kind ≠ .undefinedSymbol := by
  cases error <;> exact nofun

-- A message tells what was declared and what was given, so it cannot be read as another one.
theorem counts {line given : Nat} {name : String} {declared : Arity}
    (error : DispatchError checks ((Fault.argumentCount name declared given).onLine line)) :
    ∃ expected, declared = .exactly expected ∧ expected ≠ given := by
  generalize reported : (Fault.argumentCount name declared given).onLine line = e at error
  cases error with
  | argumentCount other callee expected count checked differ =>
    obtain ⟨same,counts⟩ := Fault.argumentCount_told (congrArg CallError.message reported)
    exact ⟨expected,same,counts ▸ differ⟩
  | notCallable | tooFewArguments | notANumber | divisionByZero =>
    exact absurd (congrArg CallError.kind reported) nofun

end DispatchError

theorem Interpreter.admits_false {i : Interpreter} {p : Procedure} {count : Nat}
    (rejected : i.admits p count = false) : i.settings.checkArity = true ∧
      ∃ expected, p.arity = .exactly expected ∧ expected ≠ count := by
  unfold admits at rejected
  simp only [Bool.or_eq_false_iff,Bool.not_eq_eq_eq_not,Bool.not_false] at rejected
  refine ⟨rejected.1,?_⟩
  cases declared : p.arity with
  | exactly expected =>
    refine ⟨expected,rfl,?_⟩
    simpa [declared,Arity.accepts] using rejected.2
  | any => simp [declared,Arity.accepts] at rejected

namespace Confinement

def unfailing (checks : Bool) : Confinement where
  procedure p := ∀ name arity kind message, p ≠ .primitive name arity (.fail kind message)
  line _ := True
  error e := DispatchError checks e

theorem unfailing_kept (i : Interpreter) : (unfailing i.settings.checkArity).Kept i where
  otherLine _ _ _ _ := trivial
  failure name arity kind message _ held _ := absurd rfl (held name arity kind message)
  uncallable callee other line _ := .notCallable line callee other
  miscounted p count rejected line _ := by
    obtain ⟨checked,expected,declared,differ⟩ := Interpreter.admits_false rejected
    rw [declared]
    exact .argumentCount line p.name expected count checked differ
  operator op line args e _ failed := by
    obtain ⟨fault,evaluated,rfl⟩ := Operator.call_fault failed
    rcases Operator.evaluate_fault evaluated with rfl | rfl | rfl
    · exact .tooFewArguments line op
    · exact .notANumber line op
    · exact .divisionByZero line

end Confinement

theorem Interpreter.refused_miscounted {i : Interpreter} {callee : Value} {line other : Nat}
    {args given : List Value} {p : Procedure} {fault : Fault}
    (refused : i.apply callee line args = .refused (.procedure p) other given fault) :
    i.admits p given.length = false ∧ fault = .argumentCount p.name p.arity given.length := by
  induction callee, line, args using i.apply_induction with
  | uncallable callee line args uncallable =>
    rw [i.apply_uncallable uncallable] at refused
    cases refused
    cases uncallable
  | miscounted q line args rejected =>
    rw [i.apply_miscounted rejected] at refused
    cases refused
    exact ⟨rejected,rfl⟩
  | operator op line args =>
    rw [i.apply_operator] at refused
    cases refused
  | primitive name arity action line args admitted _ =>
    rw [i.apply_primitive admitted] at refused
    cases refused

theorem Interpreter.apply_unfailing {i : Interpreter} {callee : Value} {line : Nat}
    {args : List Value} {e : CallError}
    (unfailing : ∀ name arity kind message,
      .primitive name arity (.fail kind message) ∉ Value.proceduresOf (callee :: args))
    (failed : (i.apply callee line args).outcome = .error e) :
    DispatchError i.settings.checkArity e := by
  have called : (Confinement.unfailing i.settings.checkArity).call callee line args :=
    ⟨fun p held name arity kind message same => unfailing name arity kind message (same ▸ held),
      trivial⟩
  have outcome := Confinement.apply_outcome (Confinement.unfailing_kept i) called
  rw [failed] at outcome
  exact outcome

-- Of a run in which no procedure fails with an error of its own: the errors that it and its calls
-- come to, how a report of a count has to be read, and which procedures are refused.
theorem dispatch_errors (i : Interpreter) (callee : Value) (line : Nat) (args : List Value)
    (unfailing : ∀ name arity kind message,
      .primitive name arity (.fail kind message) ∉ Value.proceduresOf (callee :: args)) :
    let run := i.apply callee line args
    (∀ e, run.outcome = .error e → DispatchError i.settings.checkArity e) ∧
    (∀ call ∈ run.calls, ∀ e, call.outcome = .error e →
      DispatchError i.settings.checkArity e ∧ e.kind ≠ .undefinedSymbol ∧
      ∀ other name declared given, e = (Fault.argumentCount name declared given).onLine other →
        ∃ expected, declared = .exactly expected ∧ expected ≠ given) ∧
    ∀ p other given fault, .refused (.procedure p) other given fault ∈ run.calls →
      ∃ expected, p.arity = .exactly expected ∧ expected ≠ given.length ∧
        fault = .argumentCount p.name (.exactly expected) given.length := by
  intro run
  have kept := Confinement.unfailing_kept i
  have called : (Confinement.unfailing i.settings.checkArity).call callee line args :=
    ⟨fun p held name arity kind message same => unfailing name arity kind message (same ▸ held),
      trivial⟩
  have errors : ∀ call ∈ run.calls, ∀ e, call.outcome = .error e →
      DispatchError i.settings.checkArity e := by
    intro call member e failed
    have outcome := (Confinement.calls_confined kept called call member).2
    rw [failed] at outcome
    exact outcome
  refine ⟨fun e => errors run run.calls_self e,?_,?_⟩
  · intro call member e failed
    have error := errors call member e failed
    refine ⟨error,error.defined,?_⟩
    rintro other name declared given rfl
    exact error.counts
  · intro p other given fault member
    rcases i.calls_exact callee line args member with ⟨_,_,_,same⟩ | ⟨inner,at_,counted,same⟩
    · cases same
    · obtain ⟨rejected,rfl⟩ := Interpreter.refused_miscounted same.symm
      obtain ⟨-,expected,declared,differ⟩ := Interpreter.admits_false rejected
      exact ⟨expected,declared,differ,by rw [declared]⟩

theorem dispatch_errors_pair :
    let map : Value := .procedure (.primitive "map" .any .map)
    let pair : Value := .procedure (.primitive "pair" (.exactly 2) .collect)
    let args : List Value := [pair,.list [.nil,.nil],.list [.nil]]
    let run := Interpreter.standard.1.apply map 7 args
    let e := (Fault.argumentCount "pair" (.exactly 2) 1).onLine 7
    (∀ name arity kind message,
      .primitive name arity (.fail kind message) ∉ Value.proceduresOf (map :: args)) ∧
      run.outcome = .error e ∧ DispatchError true e := by
  intro map pair args run e
  have unfailing : ∀ name arity kind message,
      .primitive name arity (.fail kind message) ∉ Value.proceduresOf (map :: args) := by
    simp [map,pair,args,Value.proceduresOf,Value.procedures,Procedure.held,Action.held]
  have failed : run.outcome = .error e := by
    simp only [run,map,args,pair]
    rw [Interpreter.apply_primitive _ rfl]
    simp only [Action.script,Script.each,Script.perform,Value.spread]
    rw [Interpreter.apply_primitive _ rfl]
    simp only [Action.script,Script.perform,Script.onSuccess,Trace.outcome,Run.ofResult]
    rw [Interpreter.apply_miscounted _ rfl]
    rfl
  exact ⟨unfailing,failed,(dispatch_errors Interpreter.standard.1 map 7 args unfailing).1 e failed⟩

end LispCalls
