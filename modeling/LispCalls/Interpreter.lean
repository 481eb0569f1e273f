import LispCalls.Operator.Fold
import LispCalls.Settings
import LispCalls.Table
import LispCalls.Trace
import LispCalls.Value.Weight

namespace LispCalls

structure Interpreter where
  settings : Settings
  table : Table

namespace Interpreter

def ofLibraries (settings : Settings) (libraries : List Library) : Interpreter × List Event :=
  let (table,events) := Table.ofLibraries libraries
  (⟨settings,table⟩,events)

def withSettings (settings : Settings) : Interpreter × List Event :=
  ofLibraries settings Library.standard

def standard : Interpreter × List Event := withSettings .standard

def report (i : Interpreter) (e : CallError) : String := i.settings.style.render e

def admits (i : Interpreter) (p : Procedure) (count : Nat) : Bool :=
  !i.settings.checkArity || p.arity.accepts count

-- Applying a value checks it and then runs it. A procedure that runs may apply values in
-- turn, under the same settings. What it computes on the way is only ever called or handed
-- on as the first of two arguments, never taken apart, so the depth bound goes down.
mutual
def apply (i : Interpreter) (callee : Value) (line : Nat) (args : List Value) : Trace :=
  match callee with
  | .procedure p =>
    if i.admits p args.length then
      let run := i.run p line args
      .entered p line args run.traces run.result
    else .refused callee line args (.argumentCount p.name p.arity args.length)
  | _ => .refused callee line args (.notCallable callee.typeName)
termination_by (Value.callBound callee args,1)
decreasing_by simp [Value.callBound,Prod.lex_def]
def run (i : Interpreter) : Procedure → Nat → List Value → Run Value
  | .operator op,line,args => .ofTrace (.computed op line args (op.call line args))
  | .primitive _ _ .first,_,args => pure (args.headD .nil)
  | .primitive _ _ .count,_,args => pure (.number (Float.ofNat args.length))
  | .primitive _ _ .collect,_,args => pure (.list args)
  | .primitive _ _ (.constant value),_,_ => pure value
  | .primitive _ _ (.fail kind message),line,_ => .ofResult (.error ⟨line,kind,message⟩)
  | .primitive _ _ .apply,line,args => .ofTrace (i.apply (args.headD .nil) line args.tail)
  | .primitive _ _ (.applyAt other),_,args => .ofTrace (i.apply (args.headD .nil) other args.tail)
  | .primitive _ _ .attempt,line,args =>
    (Run.ofTrace (i.apply (args.headD .nil) line args.tail)).caught
  | .primitive _ _ .map,line,head :: rest => .list <$> i.mapEach head line rest
  | .primitive _ _ .map,_,[] => pure (.list [])
  | .primitive _ _ .reduce,line,head :: acc :: later => i.reduceEach head line acc later
  | .primitive _ _ .reduce,_,_ => pure .nil
termination_by _ _ args => (Value.depthBound args,0)
decreasing_by
  · exact .left _ _ (Value.callBound_forward args)
  · exact .left _ _ (Value.callBound_forward args)
  · exact .left _ _ (Value.callBound_forward args)
  · exact .left _ _ (Nat.lt_succ_self _)
  · exact .left _ _ (Nat.add_lt_add_right (Value.weights_tail acc later) 3)
def mapEach (i : Interpreter) (head : Value) (line : Nat) : List Value → Run (List Value)
  | [] => pure []
  | v :: rest => do
    let w ← .ofTrace (i.apply head line v.spread)
    let others ← i.mapEach head line rest
    return w :: others
termination_by rest => (Value.weights rest + 2,2)
decreasing_by
  · exact Value.call_decreases (Value.callBound_spread head v rest)
  · exact .left _ _ (Nat.add_lt_add_right (Value.weights_tail v rest) 2)
def reduceEach (i : Interpreter) (head : Value) (line : Nat) (acc : Value) :
    List Value → Run Value
  | [] => pure acc
  | v :: later => do
    let next ← .ofTrace (i.apply head line [acc,v])
    i.reduceEach head line next later
termination_by later => (Value.weights later + 3,2)
decreasing_by
  · exact Value.call_decreases (Value.callBound_pair head acc v later)
  · exact .left _ _ (Nat.add_lt_add_right (Value.weights_tail v later) 3)
end

-- A symbol without a binding is the caller's error; nothing is called, so nothing is logged.
def resolve (i : Interpreter) (line : Nat) (symbol : String) : Outcome :=
  match i.table.get? symbol with
  | some p => .ok (.procedure p)
  | none => .error ((Fault.undefinedSymbol symbol).onLine line)

def callSymbol (i : Interpreter) (line : Nat) (symbol : String) (args : List Value) :
    Run Value := do
  let callee ← .ofResult (i.resolve line symbol)
  .ofTrace (i.apply callee line args)

end Interpreter
end LispCalls
