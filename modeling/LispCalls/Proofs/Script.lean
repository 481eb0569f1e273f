import LispCalls.Interpreter

namespace LispCalls

-- A primitive at work, as the calls it asks for: it is done, or it has a value called and goes
-- on with what comes of that. Which interpreter makes the calls is left open.
inductive Script where
  | done (outcome : Outcome)
  | call (callee : Value) (line : Nat) (args : List Value) (next : Outcome → Script)

namespace Script

def perform (i : Interpreter) : Script → Run Value
  | .done outcome => .ofResult outcome
  | .call callee line args next =>
    let trace := i.apply callee line args
    let rest := (next trace.outcome).perform i
    ⟨trace :: rest.traces,rest.result⟩

def onSuccess (next : Value → Script) : Outcome → Script
  | .ok v => next v
  | .error e => .done (.error e)

def each (head : Value) (line : Nat) : List Value → (List Value → Script) → Script
  | [],finish => finish []
  | v :: rest,finish => .call head line v.spread (onSuccess fun w =>
      each head line rest fun others => finish (w :: others))

def along (head : Value) (line : Nat) (acc : Value) : List Value → Script
  | [] => .done (.ok acc)
  | v :: later => .call head line [acc,v] (onSuccess fun next => along head line next later)

end Script

def Outcome.told : Outcome → Value
  | .ok v => v
  | .error e => .str e.text

def Action.script : Action → Nat → List Value → Script
  | .first,_,args => .done (.ok (args.headD .nil))
  | .count,_,args => .done (.ok (.number (Float.ofNat args.length)))
  | .collect,_,args => .done (.ok (.list args))
  | .apply,line,args => .call (args.headD .nil) line args.tail .done
  | .applyAt other,_,args => .call (args.headD .nil) other args.tail .done
  | .map,line,head :: rest => .each head line rest fun values => .done (.ok (.list values))
  | .map,_,[] => .done (.ok (.list []))
  | .reduce,line,head :: acc :: later => .along head line acc later
  | .reduce,_,_ => .done (.ok .nil)
  | .attempt,line,args => .call (args.headD .nil) line args.tail fun outcome =>
      .done (.ok outcome.told)
  | .constant value,_,_ => .done (.ok value)
  | .fail kind message,line,_ => .done (.error ⟨line,kind,message⟩)

theorem Run.next_assoc {α β γ : Type} (run : Run α) (f : α → Run β) (g : β → Run γ) :
    (run.next f).next g = run.next fun a => (f a).next g := by
  obtain ⟨traces,result⟩ := run
  cases result with
  | error e => rfl
  | ok a =>
    simp only [Run.next]
    generalize f a = second
    obtain ⟨later,final⟩ := second
    cases final <;> simp

@[simp] theorem Run.pure_next {α β : Type} (a : α) (next : α → Run β) : (pure a : Run α).next next = next a :=
  rfl

theorem Run.ofTrace_next {β : Type} (trace : Trace) (next : Value → Run β) :
    (Run.ofTrace trace).next next = match trace.outcome with
      | .ok v => ⟨trace :: (next v).traces,(next v).result⟩
      | .error e => ⟨[trace],.error e⟩ := by
  unfold Run.next Run.ofTrace
  cases trace.outcome <;> rfl

namespace Script

variable (i : Interpreter)

@[simp] theorem perform_onSuccess (callee : Value) (line : Nat) (args : List Value)
    (next : Value → Script) :
    (call callee line args (onSuccess next)).perform i =
      (Run.ofTrace (i.apply callee line args)).next fun v => (next v).perform i := by
  rw [Run.ofTrace_next,perform]
  cases (i.apply callee line args).outcome <;> rfl

@[simp] theorem each_perform (head : Value) (line : Nat) (rest : List Value)
    (finish : List Value → Script) :
    (each head line rest finish).perform i =
      (i.mapEach head line rest).next fun values => (finish values).perform i := by
  induction rest generalizing finish with
  | nil =>
    rw [each,Interpreter.mapEach]
    rfl
  | cons v rest ih =>
    rw [each,perform_onSuccess,Interpreter.mapEach]
    simp only [ih]
    change _ = (Run.next _ fun w => Run.next _ fun others => pure (w :: others)).next _
    simp only [Run.next_assoc,Run.pure_next]

@[simp] theorem along_perform (head : Value) (line : Nat) (acc : Value) (later : List Value) :
    (along head line acc later).perform i = i.reduceEach head line acc later := by
  induction later generalizing acc with
  | nil =>
    rw [along,Interpreter.reduceEach]
    rfl
  | cons v later ih =>
    rw [along,perform_onSuccess,Interpreter.reduceEach]
    simp only [ih]
    rfl

end Script

namespace Interpreter

variable (i : Interpreter)

@[simp] theorem run_primitive (name : String) (arity : Arity) (action : Action) (line : Nat)
    (args : List Value) :
    i.run (.primitive name arity action) line args = (action.script line args).perform i := by
  cases action with
  | map =>
    cases args with
    | nil =>
      rw [run]
      rfl
    | cons head rest =>
      rw [run,Action.script,Script.each_perform]
      rfl
  | reduce =>
    rcases args with _ | ⟨head,_ | ⟨acc,later⟩⟩
    · simp only [run]
      rfl
    · simp only [run]
      rfl
    · rw [run,Action.script,Script.along_perform]
  | attempt =>
    rw [run,Action.script,Script.perform]
    unfold Run.caught Run.ofTrace
    cases (i.apply (args.headD .nil) line args.tail).outcome <;> rfl
  | _ =>
    rw [run]
    rfl

theorem apply_uncallable {callee : Value} (other : callee.procedure? = none) (line : Nat)
    (args : List Value) :
    i.apply callee line args = .refused callee line args (.notCallable callee.typeName) := by
  cases callee with
  | procedure p => cases other
  | _ => simp only [apply]

theorem apply_miscounted {p : Procedure} {args : List Value}
    (rejected : i.admits p args.length = false) (line : Nat) :
    i.apply (.procedure p) line args =
      .refused (.procedure p) line args (.argumentCount p.name p.arity args.length) := by
  unfold apply
  simp [rejected]

@[simp] theorem operator_admitted (op : Operator) (count : Nat) : i.admits (.operator op) count = true :=
  Bool.or_true _

@[simp] theorem apply_operator (op : Operator) (line : Nat) (args : List Value) :
    i.apply (.procedure (.operator op)) line args =
      .entered (.operator op) line args [.computed op line args (op.call line args)]
        (op.call line args) := by
  unfold apply
  simp only [operator_admitted,if_true]
  rw [run]
  rfl

theorem apply_primitive {name : String} {arity : Arity} {action : Action} {args : List Value}
    (admitted : i.admits (.primitive name arity action) args.length = true) (line : Nat) :
    i.apply (.procedure (.primitive name arity action)) line args =
      .entered (.primitive name arity action) line args
        ((action.script line args).perform i).traces
        ((action.script line args).perform i).result := by
  unfold apply
  simp only [admitted,if_true]
  rw [run_primitive]

-- Every call made from within a call is smaller than it, so what holds of a call if it holds
-- of those holds of every call.
theorem apply_induction {motive : Value → Nat → List Value → Prop}
    (uncallable : ∀ callee line args, callee.procedure? = none → motive callee line args)
    (miscounted : ∀ p line args, i.admits p args.length = false → motive (.procedure p) line args)
    (operator : ∀ op line args, motive (.procedure (.operator op)) line args)
    (primitive : ∀ name arity action line args,
      i.admits (.primitive name arity action) args.length = true →
      (∀ callee other given,
        i.apply callee other given ∈ ((action.script line args).perform i).traces →
        motive callee other given) →
      motive (.procedure (.primitive name arity action)) line args)
    (callee : Value) (line : Nat) (args : List Value) : motive callee line args := by
  generalize size : sizeOf (i.apply callee line args) = n
  induction n using Nat.strongRecOn generalizing callee line args with
  | ind n ih =>
    cases callee with
    | procedure p =>
      cases admitted : i.admits p args.length with
      | false => exact miscounted p line args admitted
      | true =>
        cases p with
        | operator op => exact operator op line args
        | primitive name arity action =>
          refine primitive name arity action line args admitted fun callee other given inner => ?_
          refine ih _ ?_ callee other given rfl
          have within := List.sizeOf_lt_of_mem inner
          rw [← size,apply_primitive i admitted,Trace.entered.sizeOf_spec]
          omega
    | _ => exact uncallable _ line args rfl

end Interpreter

theorem Script.perform_congr {i j : Interpreter} (s : Script)
    (same : ∀ callee line args, i.apply callee line args ∈ (s.perform i).traces →
      j.apply callee line args = i.apply callee line args) :
    s.perform j = s.perform i := by
  induction s with
  | done outcome => rfl
  | call callee line args next ih =>
    have first := same callee line args List.mem_cons_self
    have rest := ih (i.apply callee line args).outcome
      fun callee line args inner => same callee line args (List.mem_cons_of_mem _ inner)
    simp only [perform,first,rest]

end LispCalls
