import LispCalls.Proofs.Binary64.Packing
import LispCalls.Proofs.Operands
import LispCalls.Proofs.Script
import Mathlib

namespace LispCalls

namespace Operator

def StopsAt (op : Operator) (position : Nat) (arg : Value) : Prop :=
  (∀ x, arg ≠ .number x) ∨
    op = .div ∧ 1 ≤ position ∧ (arg = .number 0.0 ∨ arg = .number (-0.0))

def StopsFirst (op : Operator) (args : List Value) (position : Nat) (arg : Value) : Prop :=
  args[position]? = some arg ∧ op.StopsAt position arg ∧
    ∀ earlier < position, ∀ other, args[earlier]? = some other → ¬op.StopsAt earlier other

def leftFold : Operator → Float → List Float → Float
  | .add,first,rest => (first :: rest).foldl (· + ·) 0.0
  | .sub,first,rest => rest.foldl (· - ·) first
  | .mul,first,rest => rest.foldl (· * ·) first
  | .div,first,rest => rest.foldl (· / ·) first

theorem leftFold_exact (op : Operator) (first : Float) (rest : List Float) :
    op.leftFold first rest = rest.foldl op.combine (op.opening first) := by
  cases op <;> rfl

theorem refusal_stops {op : Operator} {position : Nat} {arg : Value} :
    op.StopsAt (position + 1) arg ↔ op.refusal? arg ≠ none := by
  cases arg with
  | number x =>
    have zero : (x == 0.0) = true ↔ x = 0.0 ∨ x = -0.0 := Binary64.beq_zero_iff x
    by_cases stopped : op = .div ∧ (x = 0.0 ∨ x = -0.0) <;>
      simp [StopsAt,refusal?,Value.number?,zero,stopped]
  | _ => simp [StopsAt,refusal?,Value.number?]

theorem first_stops {op : Operator} {arg : Value} : op.StopsAt 0 arg ↔ arg.number? = none := by
  cases arg <;> simp [StopsAt,Value.number?]

theorem refusal_exact {op : Operator} {arg : Value} (refused : op.refusal? arg ≠ none) :
    op.refusal? arg =
      some (if arg.isNumber then .divisionByZero else .notANumber op.symbol) := by
  cases arg with
  | number x =>
    unfold refusal? at refused ⊢
    simp only [Value.number?] at refused ⊢
    split at refused
    · rename_i zero
      rw [if_pos zero]
      rfl
    · exact absurd rfl refused
  | _ => rfl

theorem foldFrom_stopped {op : Operator} {rest : List Value} {position : Nat} {arg : Value}
    (acc : Float) (found : rest[position]? = some arg) (refused : op.refusal? arg ≠ none)
    (taken : ∀ earlier < position, ∀ other, rest[earlier]? = some other → op.refusal? other = none) :
    op.foldFrom acc rest =
      .error (if arg.isNumber then .divisionByZero else .notANumber op.symbol) := by
  induction rest generalizing position acc with
  | nil => simp at found
  | cons head tail ih =>
    cases position with
    | zero =>
      cases Option.some.inj found
      exact foldFrom_refused (refusal_exact refused) acc tail
    | succ position =>
      have passed : op.refusal? head = none := taken 0 (Nat.succ_pos _) head rfl
      obtain ⟨x,rfl,-⟩ := refusal_none passed
      rw [foldFrom_taken passed]
      exact ih _ found fun earlier before => taken (earlier + 1) (Nat.succ_lt_succ before)

theorem evaluate_stopped {op : Operator} {args : List Value} {position : Nat} {arg : Value}
    (enough : 2 ≤ args.length) (stopped : op.StopsFirst args position arg) :
    op.evaluate args = .error (if arg.isNumber then .divisionByZero else .notANumber op.symbol) := by
  obtain ⟨first,rest,rfl,more⟩ := enough_parts enough
  obtain ⟨found,stops,earliest⟩ := stopped
  rw [evaluate_exact op first more]
  cases position with
  | zero =>
    cases Option.some.inj found
    have number := first_stops.1 stops
    rw [number]
    cases arg with
    | number x => cases number
    | _ => rfl
  | succ position =>
    have started : first.number? ≠ none :=
      fun none => earliest 0 (Nat.succ_pos _) first rfl (first_stops.2 none)
    obtain ⟨x,number⟩ := Option.ne_none_iff_exists'.1 started
    rw [number]
    refine foldFrom_stopped _ found (refusal_stops.1 stops) fun earlier before other present => ?_
    by_contra refused
    exact earliest (earlier + 1) (Nat.succ_lt_succ before) other present (refusal_stops.2 refused)

theorem evaluate_numbers {op : Operator} {first : Float} {rest : List Float} (more : rest ≠ [])
    (free : ∀ position arg, ((first :: rest).map Value.number)[position]? = some arg →
      ¬op.StopsAt position arg) :
    op.evaluate ((first :: rest).map .number) = .ok (op.leftFold first rest) := by
  have taken : (rest.map Value.number).findSome? op.refusal? = none := by
    rw [List.findSome?_eq_none_iff]
    intro arg member
    obtain ⟨position,present⟩ := List.getElem?_of_mem member
    by_contra refused
    exact free (position + 1) arg present (refusal_stops.2 refused)
  have numbers : (rest.map Value.number).filterMap Value.number? = rest := by
    rw [List.filterMap_map]
    exact List.filterMap_some
  rw [List.map_cons,evaluate_exact op _ (by simpa using more)]
  simp only [Value.number?,foldFrom_exact,taken,numbers,leftFold_exact]

theorem stops_or_numbers (op : Operator) (args : List Value) :
    (∃ position arg, op.StopsFirst args position arg) ∨
      (∀ position arg, args[position]? = some arg → ¬op.StopsAt position arg) ∧
        ∃ xs : List Float, args = xs.map .number := by
  classical
  by_cases stopped : ∃ position arg, args[position]? = some arg ∧ op.StopsAt position arg
  · obtain ⟨position,⟨arg,found,stops⟩,least⟩ := Nat.findX stopped
    exact .inl ⟨position,arg,found,stops,
      fun earlier before other present halts => least earlier before ⟨other,present,halts⟩⟩
  · have free : ∀ position arg, args[position]? = some arg → ¬op.StopsAt position arg :=
      fun position arg present halts => stopped ⟨position,arg,present,halts⟩
    refine .inr ⟨free,?_⟩
    have numbers : ∀ arg ∈ args, arg = .number (arg.number?.getD 0.0) := by
      intro arg member
      obtain ⟨position,present⟩ := List.getElem?_of_mem member
      cases arg with
      | number x => rfl
      | _ => exact absurd (.inl nofun) (free position _ present)
    refine ⟨args.map fun arg => arg.number?.getD 0.0,?_⟩
    rw [List.map_map]
    exact (List.map_id args).symm.trans (List.map_congr_left numbers)

end Operator

namespace Table

theorem standard_rows : standard.1.rows =
    [("*",.operator .mul),("+",.operator .add),("-",.operator .sub),("/",.operator .div)] := rfl

theorem standard_get (op : Operator) : standard.1.get? op.symbol = some (.operator op) := by
  cases op <;> rfl

theorem standard_unbound {symbol : String} (unbound : ∀ op : Operator, op.symbol ≠ symbol) :
    standard.1.get? symbol = none := by
  have others : symbol ≠ "*" ∧ symbol ≠ "+" ∧ symbol ≠ "-" ∧ symbol ≠ "/" :=
    ⟨(unbound .mul).symm,(unbound .add).symm,(unbound .sub).symm,(unbound .div).symm⟩
  unfold get?
  rw [standard_rows]
  simp only [List.lookup,beq_eq_false_iff_ne.2 others.1,beq_eq_false_iff_ne.2 others.2.1,
    beq_eq_false_iff_ne.2 others.2.2.1,beq_eq_false_iff_ne.2 others.2.2.2]

end Table

namespace Interpreter

theorem callSymbol_operator (settings : Settings) (line : Nat) (op : Operator) (args : List Value) :
    (withSettings settings).1.callSymbol line op.symbol args =
      .ofTrace ((withSettings settings).1.apply (.procedure (.operator op)) line args) := by
  have resolved : (withSettings settings).1.resolve line op.symbol = .ok (.procedure (.operator op)) := by
    have bound : (withSettings settings).1.table.get? op.symbol = some (.operator op) :=
      Table.standard_get op
    unfold resolve
    rw [bound]
  unfold callSymbol
  rw [resolved]
  rfl

theorem callSymbol_unbound (settings : Settings) (line : Nat) {symbol : String} (args : List Value)
    (unbound : ∀ op : Operator, op.symbol ≠ symbol) :
    (withSettings settings).1.callSymbol line symbol args =
      .ofResult (.error ((Fault.undefinedSymbol symbol).onLine line)) := by
  have absent : (withSettings settings).1.table.get? symbol = none := Table.standard_unbound unbound
  unfold callSymbol resolve
  rw [absent]
  rfl

end Interpreter

inductive Answers (line : Nat) (symbol : String) (args : List Value) : Outcome → Prop where
  | unbound (other : ∀ op : Operator, op.symbol ≠ symbol) :
      Answers line symbol args (.error ((Fault.undefinedSymbol symbol).onLine line))
  | tooFew (op : Operator) (bound : op.symbol = symbol) (few : args.length < 2) :
      Answers line symbol args (.error ((Fault.tooFewArguments symbol).onLine line))
  | notANumber (op : Operator) (bound : op.symbol = symbol) (enough : 2 ≤ args.length)
      (position : Nat) (arg : Value) (stopped : op.StopsFirst args position arg)
      (other : ∀ x, arg ≠ .number x) :
      Answers line symbol args (.error ((Fault.notANumber symbol).onLine line))
  | zeroDivisor (op : Operator) (bound : op.symbol = symbol) (enough : 2 ≤ args.length)
      (position : Nat) (x : Float) (stopped : op.StopsFirst args position (.number x)) :
      Answers line symbol args (.error (Fault.divisionByZero.onLine line))
  | number (op : Operator) (bound : op.symbol = symbol) (first : Float) (rest : List Float)
      (more : rest ≠ []) (numbers : args = (first :: rest).map .number)
      (free : ∀ position arg, args[position]? = some arg → ¬op.StopsAt position arg) :
      Answers line symbol args (.ok (.number (op.leftFold first rest)))

theorem Operator.symbol_inj {op other : Operator} (same : op.symbol = other.symbol) : op = other := by
  cases op <;> cases other <;> first | rfl | exact absurd same (by decide)

namespace Answers

variable {line : Nat} {args : List Value}

theorem of_operator (op : Operator) (line : Nat) (args : List Value) :
    Answers line op.symbol args (op.call line args) := by
  rcases Nat.lt_or_ge args.length 2 with few | enough
  · rw [Operator.call_refused line (Operator.evaluate_few few)]
    exact .tooFew op rfl few
  · rcases op.stops_or_numbers args with ⟨position,arg,stopped⟩ | ⟨free,xs,rfl⟩
    · rw [Operator.call_refused line (Operator.evaluate_stopped enough stopped)]
      cases arg with
      | number x => exact .zeroDivisor op rfl enough position x stopped
      | _ => exact .notANumber op rfl enough position _ stopped nofun
    · match xs with
      | first :: second :: later =>
        have more : second :: later ≠ [] := List.cons_ne_nil _ _
        rw [Operator.call_computed line (Operator.evaluate_numbers more free)]
        exact .number op rfl first _ more rfl free

theorem operator_exact {op : Operator} {outcome : Outcome}
    (answer : Answers line op.symbol args outcome) : op.call line args = outcome := by
  cases answer with
  | unbound other => exact absurd rfl (other op)
  | tooFew _ _ few => exact Operator.call_refused line (Operator.evaluate_few few)
  | notANumber _ bound enough position arg stopped other =>
    cases Operator.symbol_inj bound
    rw [Operator.call_refused line (Operator.evaluate_stopped enough stopped)]
    cases arg with
    | number x => exact absurd rfl (other x)
    | _ => rfl
  | zeroDivisor _ bound enough position x stopped =>
    cases Operator.symbol_inj bound
    exact Operator.call_refused line (Operator.evaluate_stopped enough stopped)
  | number _ bound first rest more numbers free =>
    cases Operator.symbol_inj bound
    subst numbers
    exact Operator.call_computed line (Operator.evaluate_numbers more free)

theorem kinds {symbol : String} {outcome : Outcome} {e : CallError}
    (answer : Answers line symbol args outcome) (failed : outcome = .error e) :
    e.kind ≠ .notCallable ∧ e.kind ≠ .argumentCount := by
  cases answer <;> cases failed <;> exact ⟨nofun,nofun⟩

end Answers

namespace Interpreter

variable (settings : Settings) (line : Nat) (args : List Value)

theorem callSymbol_result (op : Operator) :
    ((withSettings settings).1.callSymbol line op.symbol args).result = op.call line args := by
  rw [callSymbol_operator,apply_operator]
  rfl

theorem callSymbol_exact (symbol : String) (outcome : Outcome) :
    ((withSettings settings).1.callSymbol line symbol args).result = outcome ↔
      Answers line symbol args outcome := by
  by_cases bound : ∃ op : Operator, op.symbol = symbol
  · obtain ⟨op,rfl⟩ := bound
    rw [callSymbol_result]
    exact ⟨fun same => same ▸ .of_operator op line args,Answers.operator_exact⟩
  · have unbound : ∀ op : Operator, op.symbol ≠ symbol := fun op same => bound ⟨op,same⟩
    rw [callSymbol_unbound settings line args unbound]
    constructor
    · rintro rfl
      exact .unbound unbound
    · intro answer
      cases answer with
      | unbound => rfl
      | tooFew op same | notANumber op same | zeroDivisor op same | number op same =>
        exact absurd same (unbound op)

theorem callSymbol_settings (other : Settings) (symbol : String) :
    (withSettings other).1.callSymbol line symbol args =
      (withSettings settings).1.callSymbol line symbol args := by
  by_cases bound : ∃ op : Operator, op.symbol = symbol
  · obtain ⟨op,rfl⟩ := bound
    simp only [callSymbol_operator,apply_operator]
  · have unbound : ∀ op : Operator, op.symbol ≠ symbol := fun op same => bound ⟨op,same⟩
    rw [callSymbol_unbound other line args unbound,callSymbol_unbound settings line args unbound]

end Interpreter

-- A call of a symbol of the standard table. Its kinds of error exclude those of a value that
-- is not callable or of a miscounted call, the settings have no say, and going by the symbol
-- is the same as folding and as running the operator itself.
theorem arithmetic_calls (settings : Settings) (line : Nat) (symbol : String) (args : List Value) :
    let i := (Interpreter.withSettings settings).1
    (∀ outcome, (i.callSymbol line symbol args).result = outcome ↔
      Answers line symbol args outcome) ∧
    (∀ e, (i.callSymbol line symbol args).result = .error e →
      e.kind ≠ .notCallable ∧ e.kind ≠ .argumentCount) ∧
    (∀ other, (Interpreter.withSettings other).1.callSymbol line symbol args =
      i.callSymbol line symbol args) ∧
    ∀ op : Operator, op.symbol = symbol →
      (i.callSymbol line symbol args).result = (op.fold line args).map .number ∧
      (i.callSymbol line symbol args).result = (i.run (.operator op) line args).result := by
  intro i
  refine ⟨Interpreter.callSymbol_exact settings line args symbol,?_,
    fun other => Interpreter.callSymbol_settings settings line args other symbol,?_⟩
  · intro e failed
    exact ((Interpreter.callSymbol_exact settings line args symbol _).1 rfl).kinds failed
  · rintro op rfl
    refine ⟨Interpreter.callSymbol_result settings line args op,?_⟩
    rw [Interpreter.run]
    exact Interpreter.callSymbol_result settings line args op

end LispCalls
