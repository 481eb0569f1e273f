import LispCalls.Value

namespace LispCalls

-- What a call did. A refused value was not run; a procedure that was entered ran, whatever
-- came of it; a computation is an operator at work. Inner calls are in order of time.
inductive Trace where
  | refused (callee : Value) (line : Nat) (args : List Value) (fault : Fault)
  | entered (p : Procedure) (line : Nat) (args : List Value) (inner : List Trace)
    (outcome : Outcome)
  | computed (op : Operator) (line : Nat) (args : List Value) (outcome : Outcome)

def Trace.outcome : Trace → Outcome
  | .refused _ line _ fault => .error (fault.onLine line)
  | .entered _ _ _ _ outcome => outcome
  | .computed _ _ _ outcome => outcome

structure Run (α : Type) where
  traces : List Trace
  result : Except CallError α

namespace Run

variable {α β : Type}

def ofResult (result : Except CallError α) : Run α := ⟨[],result⟩

def ofTrace (trace : Trace) : Run Value := ⟨[trace],trace.outcome⟩

def next (run : Run α) (continuation : α → Run β) : Run β :=
  match run.result with
  | .ok a =>
    let rest := continuation a
    ⟨run.traces ++ rest.traces,rest.result⟩
  | .error e => ⟨run.traces,.error e⟩

instance : Monad Run where
  pure a := ⟨[],.ok a⟩
  bind := next

def caught (run : Run Value) : Run Value :=
  ⟨run.traces,match run.result with
    | .ok v => .ok v
    | .error e => .ok (.str e.text)⟩

end Run
end LispCalls
