import LispCalls.Value

namespace LispCalls.Operator

def fewestArguments : Nat := 2

def operand (op : Operator) (arg : Value) : Except Fault Float :=
  match arg.number? with
  | some x => .ok x
  | none => .error (.notANumber op.symbol)

def step : Operator → Float → Float → Except Fault Float
  | .add,acc,x => .ok (acc + x)
  | .sub,acc,x => .ok (acc - x)
  | .mul,acc,x => .ok (acc * x)
  | .div,acc,x => if x == 0.0 then .error .divisionByZero else .ok (acc / x)

-- An argument is looked at only when the ones before it have been folded in, so the first
-- fault in argument order is the one reported.
def foldFrom (op : Operator) (acc : Float) : List Value → Except Fault Float
  | [] => .ok acc
  | arg :: rest => do
    let x ← op.operand arg
    let next ← op.step acc x
    op.foldFrom next rest

def evaluate (op : Operator) (args : List Value) : Except Fault Float :=
  if args.length < fewestArguments then .error (.tooFewArguments op.symbol)
  else match op.start,args with
    | .number x,_ => op.foldFrom x args
    | .firstArgument,first :: rest => do op.foldFrom (← op.operand first) rest
    | .firstArgument,[] => .error (.tooFewArguments op.symbol)

def fold (op : Operator) (line : Nat) (args : List Value) : Except CallError Float :=
  (op.evaluate args).mapError (·.onLine line)

def call (op : Operator) (line : Nat) (args : List Value) : Outcome :=
  (op.fold line args).map .number

end LispCalls.Operator
