import LispCalls.Log
import LispCalls.Proofs.Script

namespace LispCalls

def Span.line : Span → Nat
  | .apply _ _ line | .compute _ _ line => line

namespace Trace

def span : Trace → Span
  | .refused callee line args _ => .apply callee args.length line
  | .entered p line args _ _ => .apply (.procedure p) args.length line
  | .computed op line args _ => .compute op args.length line

mutual
def calls : Trace → List Trace
  | .refused callee line args fault => [.refused callee line args fault]
  | .entered p line args inner outcome => .entered p line args inner outcome :: callsOf inner
  | .computed op line args outcome => [.computed op line args outcome]
def callsOf : List Trace → List Trace
  | [] => []
  | trace :: rest => calls trace ++ callsOf rest
end

@[simp] theorem mem_callsOf {call : Trace} {traces : List Trace} :
    call ∈ callsOf traces ↔ ∃ trace ∈ traces, call ∈ trace.calls := by
  induction traces with
  | nil => simp [callsOf]
  | cons trace rest ih => simp [callsOf,ih]

@[simp] theorem calls_self (trace : Trace) : trace ∈ trace.calls := by
  cases trace <;> simp [calls]

@[simp] theorem logs_append (earlier later : List Trace) :
    logs (earlier ++ later) = logs earlier ++ logs later := by
  induction earlier with
  | nil => rfl
  | cons trace rest ih => simp [logs,ih]

mutual
theorem calls_logged {call : Trace} : ∀ {run : Trace}, call ∈ run.calls →
    ∃ before after, run.log = before ++ call.log ++ after
  | .refused .., member | .computed .., member => by
    cases List.mem_singleton.1 member
    exact ⟨[],[],by simp⟩
  | .entered p line args inner outcome, member => by
    rcases List.mem_cons.1 member with rfl | nested
    · exact ⟨[],[],by simp⟩
    · obtain ⟨before,after,logged⟩ := callsOf_logged nested
      let span : Span := .apply (.procedure p) args.length line
      refine ⟨.opened span :: before,after ++ [.closed span outcome],?_⟩
      simp [log,enclosed,logged,span]
theorem callsOf_logged {call : Trace} : ∀ {traces : List Trace}, call ∈ callsOf traces →
    ∃ before after, logs traces = before ++ call.log ++ after
  | trace :: rest, member => by
    rcases List.mem_append.1 member with first | later
    · obtain ⟨before,after,logged⟩ := calls_logged first
      exact ⟨before,after ++ logs rest,by simp [logs,logged]⟩
    · obtain ⟨before,after,logged⟩ := callsOf_logged later
      exact ⟨trace.log ++ before,after,by simp [logs,logged]⟩
end

mutual
theorem mem_log {entry : Entry} : ∀ {run : Trace}, entry ∈ run.log →
    ∃ call ∈ run.calls, entry = .opened call.span ∨ entry = .closed call.span call.outcome
  | .refused .., member | .computed .., member => by
    refine ⟨_,calls_self _,?_⟩
    simpa [log,enclosed,span,outcome] using member
  | .entered p line args inner outcome, member => by
    rcases List.mem_cons.1 member with begins | later
    · exact ⟨_,calls_self _,.inl begins⟩
    rcases List.mem_append.1 later with within | ends
    · obtain ⟨call,among,bounds⟩ := mem_logs within
      exact ⟨call,List.mem_cons_of_mem _ among,bounds⟩
    · exact ⟨_,calls_self _,.inr (List.mem_singleton.1 ends)⟩
theorem mem_logs {entry : Entry} : ∀ {traces : List Trace}, entry ∈ logs traces →
    ∃ call ∈ callsOf traces, entry = .opened call.span ∨ entry = .closed call.span call.outcome
  | trace :: rest, member => by
    rcases List.mem_append.1 member with first | later
    · obtain ⟨call,among,bounds⟩ := mem_log first
      exact ⟨call,List.mem_append_left _ among,bounds⟩
    · obtain ⟨call,among,bounds⟩ := mem_logs later
      exact ⟨call,List.mem_append_right _ among,bounds⟩
end

theorem log_closes (trace : Trace) : ∃ front span, trace.log = front ++ [.closed span trace.outcome] := by
  cases trace <;> exact ⟨_ :: _,_,rfl⟩

end Trace

theorem Script.perform_calls {i : Interpreter} (s : Script) :
    ∀ trace ∈ (s.perform i).traces, ∃ callee line args, trace = i.apply callee line args := by
  induction s with
  | done outcome => exact nofun
  | call callee line args next ih =>
    intro trace member
    rcases List.mem_cons.1 member with rfl | rest
    · exact ⟨callee,line,args,rfl⟩
    · exact ih _ trace rest

@[simp] theorem Interpreter.apply_span (i : Interpreter) (callee : Value) (line : Nat)
    (args : List Value) : (i.apply callee line args).span = .apply callee args.length line := by
  induction callee, line, args using i.apply_induction with
  | uncallable callee line args other => rw [i.apply_uncallable other]; rfl
  | miscounted p line args rejected => rw [i.apply_miscounted rejected]; rfl
  | operator op line args => simp [Trace.span]
  | primitive name arity action line args admitted inner => rw [i.apply_primitive admitted]; rfl

theorem Interpreter.calls_exact (i : Interpreter) (callee : Value) (line : Nat)
    (args : List Value) {call : Trace} (member : call ∈ (i.apply callee line args).calls) :
    (∃ op other given, call = .computed op other given (op.call other given)) ∨
      ∃ callee other given, call = i.apply callee other given := by
  induction callee, line, args using i.apply_induction with
  | uncallable callee line args other =>
    rw [i.apply_uncallable other] at member
    cases List.mem_singleton.1 member
    exact .inr ⟨callee,line,args,(i.apply_uncallable other line args).symm⟩
  | miscounted p line args rejected =>
    rw [i.apply_miscounted rejected] at member
    cases List.mem_singleton.1 member
    exact .inr ⟨_,line,args,(i.apply_miscounted rejected line).symm⟩
  | operator op line args =>
    have root := i.apply_operator op line args
    rw [root] at member
    rcases List.mem_cons.1 member with rfl | within
    · exact .inr ⟨_,line,args,root.symm⟩
    · cases List.mem_singleton.1 within
      exact .inl ⟨op,line,args,rfl⟩
  | primitive name arity action line args admitted inner =>
    have root := i.apply_primitive admitted line
    rw [root] at member
    rcases List.mem_cons.1 member with rfl | within
    · exact .inr ⟨_,line,args,root.symm⟩
    · obtain ⟨trace,made,below⟩ := Trace.mem_callsOf.1 within
      obtain ⟨callee,other,given,rfl⟩ := (action.script line args).perform_calls trace made
      exact inner callee other given made below

@[simp] theorem Run.ofTrace_log (trace : Trace) : (Run.ofTrace trace).log = trace.log :=
  List.append_nil _

theorem Interpreter.callSymbol_lookup (i : Interpreter) (line : Nat) (symbol : String)
    (args : List Value) : i.callSymbol line symbol args = match i.table.get? symbol with
      | none => .ofResult (.error ((Fault.undefinedSymbol symbol).onLine line))
      | some p => .ofTrace (i.apply (.procedure p) line args) := by
  unfold callSymbol resolve
  cases i.table.get? symbol <;> rfl

end LispCalls
