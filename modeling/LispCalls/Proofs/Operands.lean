import LispCalls.Operator.Fold

namespace LispCalls.Operator

-- The operation itself. What it does with a zero divisor is never seen.
def combine : Operator → Float → Float → Float
  | .add,acc,x => acc + x
  | .sub,acc,x => acc - x
  | .mul,acc,x => acc * x
  | .div,acc,x => acc / x

def refusal? (op : Operator) (arg : Value) : Option Fault :=
  match arg.number? with
  | none => some (.notANumber op.symbol)
  | some x => if op = .div ∧ x == 0.0 then some .divisionByZero else none

theorem step_exact (op : Operator) (acc x : Float) :
    op.step acc x = if op = .div ∧ x == 0.0 then .error .divisionByZero
      else .ok (op.combine acc x) := by
  cases op <;> simp [step,combine]

theorem foldFrom_refused {op : Operator} {arg : Value} {fault : Fault}
    (refused : op.refusal? arg = some fault) (acc : Float) (rest : List Value) :
    op.foldFrom acc (arg :: rest) = .error fault := by
  unfold refusal? at refused
  cases number : arg.number? with
  | none =>
    simp only [number,Option.some.injEq] at refused
    simp [foldFrom,operand,number,refused,bind,Except.bind]
  | some x =>
    simp only [number] at refused
    split at refused
    · rename_i zero
      simp only [Option.some.injEq] at refused
      simp [foldFrom,operand,number,step_exact,zero,refused,bind,Except.bind]
    · cases refused

theorem refusal_none {op : Operator} {arg : Value} (taken : op.refusal? arg = none) :
    ∃ x, arg = .number x ∧ ¬(op = .div ∧ x == 0.0) := by
  cases arg with
  | number x =>
    refine ⟨x,rfl,fun zero => ?_⟩
    simp [refusal?,Value.number?,zero] at taken
  | _ => simp [refusal?,Value.number?] at taken

@[simp] theorem number_taken {op : Operator} (undivided : op ≠ .div) (x : Float) :
    op.refusal? (.number x) = none := by
  simp [refusal?,Value.number?,undivided]

@[simp] theorem foldFrom_taken {op : Operator} {x : Float} (taken : op.refusal? (.number x) = none)
    (acc : Float) (rest : List Value) :
    op.foldFrom acc (.number x :: rest) = op.foldFrom (op.combine acc x) rest := by
  obtain ⟨y,same,nonzero⟩ := refusal_none taken
  cases same
  simp [foldFrom,operand,Value.number?,step_exact,nonzero,bind,Except.bind]

theorem foldFrom_induction (op : Operator) {motive : Float → List Value → Prop}
    (done : ∀ acc, motive acc [])
    (refused : ∀ acc arg rest fault, op.refusal? arg = some fault → motive acc (arg :: rest))
    (taken : ∀ acc x rest, op.refusal? (.number x) = none → motive (op.combine acc x) rest →
      motive acc (.number x :: rest))
    (acc : Float) (args : List Value) : motive acc args := by
  induction args generalizing acc with
  | nil => exact done acc
  | cons arg rest ih =>
    cases verdict : op.refusal? arg with
    | some fault => exact refused acc arg rest fault verdict
    | none =>
      obtain ⟨x,rfl,-⟩ := refusal_none verdict
      exact taken acc x rest verdict (ih (op.combine acc x))

theorem foldFrom_exact (op : Operator) (acc : Float) (args : List Value) :
    op.foldFrom acc args = match args.findSome? op.refusal? with
      | some fault => .error fault
      | none => .ok ((args.filterMap Value.number?).foldl op.combine acc) := by
  induction acc, args using op.foldFrom_induction with
  | done acc => rfl
  | refused acc arg rest fault verdict => simp [foldFrom_refused verdict,verdict]
  | taken acc x rest verdict ih =>
    simp [verdict,ih,Value.number?]

def opening : Operator → Float → Float
  | .add,x => 0.0 + x
  | _,x => x

theorem enough_parts {args : List Value} (enough : 2 ≤ args.length) :
    ∃ first rest, args = first :: rest ∧ rest ≠ [] := by
  match args with
  | first :: second :: later => exact ⟨first,second :: later,rfl,List.cons_ne_nil _ _⟩

theorem not_few {first : Value} {rest : List Value} (more : rest ≠ []) :
    ¬(first :: rest).length < fewestArguments := by
  have := List.length_pos_iff.2 more
  simp only [fewestArguments,List.length_cons]
  omega

@[simp] theorem evaluate_few {op : Operator} {args : List Value} (few : args.length < 2) :
    op.evaluate args = .error (.tooFewArguments op.symbol) := by
  simp [evaluate,fewestArguments,few]

theorem evaluate_exact (op : Operator) (first : Value) {rest : List Value} (more : rest ≠ []) :
    op.evaluate (first :: rest) = match first.number? with
      | some x => op.foldFrom (op.opening x) rest
      | none => .error (.notANumber op.symbol) := by
  unfold evaluate
  rw [if_neg (not_few more)]
  cases number : first.number? with
  | none => cases op <;> simp [start,operand,foldFrom,number,bind,Except.bind]
  | some x => cases op <;> simp [start,operand,opening,foldFrom,step,number,bind,Except.bind]

@[simp] theorem foldFrom_append (op : Operator) (acc : Float) (xs ys : List Value) :
    op.foldFrom acc (xs ++ ys) = (op.foldFrom acc xs).bind (op.foldFrom · ys) := by
  induction acc, xs using op.foldFrom_induction with
  | done acc => rfl
  | refused acc arg rest fault verdict =>
    rw [List.cons_append,foldFrom_refused verdict,foldFrom_refused verdict]
    rfl
  | taken acc x rest verdict ih =>
    simp [verdict,ih]

theorem fold_computed {op : Operator} {line : Nat} {args : List Value} {r : Float} :
    op.fold line args = .ok r ↔ op.evaluate args = .ok r := by
  unfold fold
  cases op.evaluate args with
  | error fault => exact ⟨nofun,nofun⟩
  | ok x => exact ⟨fun computed => congrArg Except.ok (Except.ok.inj computed),
      fun computed => congrArg Except.ok (Except.ok.inj computed)⟩

theorem call_refused {op : Operator} {args : List Value} {fault : Fault} (line : Nat)
    (refused : op.evaluate args = .error fault) :
    op.call line args = .error (fault.onLine line) := by
  unfold call fold
  rw [refused]
  rfl

theorem call_computed {op : Operator} {args : List Value} {x : Float} (line : Nat)
    (computed : op.evaluate args = .ok x) : op.call line args = .ok (.number x) := by
  unfold call fold
  rw [computed]
  rfl

theorem call_number {op : Operator} {line : Nat} {args : List Value} {v : Value}
    (called : op.call line args = .ok v) : ∃ x, v = .number x := by
  cases result : op.evaluate args with
  | error fault =>
    rw [call_refused line result] at called
    cases called
  | ok x =>
    rw [call_computed line result] at called
    cases called
    exact ⟨x,rfl⟩

theorem call_fault {op : Operator} {line : Nat} {args : List Value} {e : CallError}
    (failed : op.call line args = .error e) :
    ∃ fault, op.evaluate args = .error fault ∧ e = fault.onLine line := by
  cases result : op.evaluate args with
  | error fault =>
    rw [call_refused line result] at failed
    cases failed
    exact ⟨fault,rfl,rfl⟩
  | ok x =>
    rw [call_computed line result] at failed
    cases failed

end LispCalls.Operator
