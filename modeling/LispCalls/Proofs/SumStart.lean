import LispCalls.Proofs.NeutralOperands

namespace LispCalls.Operator

def evaluateFrom (op : Operator) (start : Start) (args : List Value) : Except Fault Float :=
  if args.length < fewestArguments then .error (.tooFewArguments op.symbol)
  else match start,args with
    | .number x,_ => op.foldFrom x args
    | .firstArgument,first :: rest => do op.foldFrom (← op.operand first) rest
    | .firstArgument,[] => .error (.tooFewArguments op.symbol)

def foldStarting (op : Operator) (start : Start) (line : Nat) (args : List Value) :
    Except CallError Float :=
  (op.evaluateFrom start args).mapError (·.onLine line)

theorem fold_starting (op : Operator) (line : Nat) (args : List Value) :
    op.fold line args = op.foldStarting op.start line args := rfl

theorem evaluateFrom_first (op : Operator) (first : Value) {rest : List Value} (more : rest ≠ []) :
    op.evaluateFrom .firstArgument (first :: rest) = match first.number? with
      | some x => op.foldFrom x rest
      | none => .error (.notANumber op.symbol) := by
  unfold evaluateFrom
  rw [if_neg (not_few more)]
  cases number : first.number? <;> simp [operand,number,bind,Except.bind]

theorem sum_negativeZeros (acc : Float) {args : List Value}
    (zeros : ∀ arg ∈ args, arg = .number (-0.0)) : Operator.add.foldFrom acc args = .ok acc := by
  induction args with
  | nil => rfl
  | cons arg rest ih =>
    obtain ⟨rfl,others⟩ := List.forall_mem_cons.1 zeros
    simpa [combine] using ih others

-- Two sums that start from different zeros become one at the first argument that is not the
-- negative zero: there both stop, or both go on with that argument.
theorem sums_merge {args : List Value} (other : ∃ arg ∈ args, arg ≠ .number (-0.0)) :
    Operator.add.foldFrom 0.0 args = Operator.add.foldFrom (-0.0) args := by
  induction args with
  | nil => simp at other
  | cons arg rest ih =>
    cases verdict : Operator.add.refusal? arg with
    | some fault => rw [foldFrom_refused verdict,foldFrom_refused verdict]
    | none =>
      obtain ⟨x,rfl,-⟩ := refusal_none verdict
      simp only [foldFrom_taken verdict,combine,Binary64.negativeZero_plus]
      by_cases negative : x = -0.0
      · subst negative
        have later : ∃ arg ∈ rest, arg ≠ .number (-0.0) := by simpa using other
        exact ih later
      · rw [Binary64.zero_plus negative]

theorem sum_start_hidden {args : List Value}
    (other : ¬(2 ≤ args.length ∧ ∀ arg ∈ args, arg = .number (-0.0))) :
    Operator.add.evaluate args = Operator.add.evaluateFrom .firstArgument args := by
  rcases Nat.lt_or_ge args.length 2 with few | enough
  · exact (evaluate_few few).trans (if_pos few).symm
  · obtain ⟨first,rest,rfl,more⟩ := enough_parts enough
    rw [evaluate_exact .add first more,evaluateFrom_first .add first more]
    cases first with
    | number x =>
      simp only [Value.number?,opening]
      by_cases negative : x = -0.0
      · subst negative
        apply sums_merge
        by_contra none
        have zeros : ∀ arg ∈ rest, arg = .number (-0.0) := by simpa using none
        exact other ⟨enough,List.forall_mem_cons.2 ⟨rfl,zeros⟩⟩
      · rw [Binary64.zero_plus negative]
    | _ => rfl

theorem sum_start_shown {args : List Value} (enough : 2 ≤ args.length)
    (zeros : ∀ arg ∈ args, arg = .number (-0.0)) :
    Operator.add.evaluate args = .ok 0.0 ∧
      Operator.add.evaluateFrom .firstArgument args = .ok (-0.0) := by
  obtain ⟨first,rest,rfl,more⟩ := enough_parts enough
  obtain ⟨rfl,others⟩ := List.forall_mem_cons.1 zeros
  rw [evaluate_exact .add _ more,evaluateFrom_first .add _ more]
  exact ⟨sum_negativeZeros 0.0 others,sum_negativeZeros (-0.0) others⟩

-- Every operator folds from a start of its own. That a sum does not start with its first argument
-- shows only when nothing but negative zeros is added, and so no sum is the negative zero.
theorem sum_start_exact (line : Nat) (args : List Value) :
    let sum := Operator.add.fold line args
    let other := Operator.add.foldStarting .firstArgument line args
    let zeros := 2 ≤ args.length ∧ ∀ arg ∈ args, arg = .number (-0.0)
    (∀ op : Operator, op.fold line args = op.foldStarting op.start line args) ∧
      (sum = other ↔ ¬zeros) ∧ (zeros → sum = .ok 0.0 ∧ other = .ok (-0.0)) ∧
      sum ≠ .ok (-0.0) := by
  intro sum other zeros
  have shown : zeros → sum = .ok 0.0 ∧ other = .ok (-0.0) := by
    rintro ⟨enough,negative⟩
    obtain ⟨first,second⟩ := sum_start_shown enough negative
    exact ⟨congrArg (Except.mapError _) first,congrArg (Except.mapError _) second⟩
  have hidden : ¬zeros → sum = other := fun mixed =>
    congrArg (Except.mapError (Fault.onLine · line)) (sum_start_hidden mixed)
  refine ⟨fun op => op.fold_starting line args,⟨?_,hidden⟩,shown,?_⟩
  · intro same negative
    obtain ⟨first,second⟩ := shown negative
    have apart : (0.0 : Float) ≠ -0.0 := by decide
    exact apart (Except.ok.inj (first.symm.trans (same.trans second)))
  · intro negative
    exact evaluate_opened (fold_computed.1 negative) rfl rfl

end LispCalls.Operator
