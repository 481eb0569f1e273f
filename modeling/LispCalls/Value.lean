import LispCalls.Fault
import LispCalls.Operator

namespace LispCalls

mutual
inductive Value where
  | nil
  | bool (b : Bool)
  | number (x : Float)
  | str (s : String)
  | symbol (name : String)
  | list (items : List Value)
  | procedure (p : Procedure)
inductive Procedure where
  | operator (op : Operator)
  | primitive (name : String) (arity : Arity) (action : Action)
-- What a primitive does with its arguments. The first of them is the head (nil if there is
-- none) and the others the rest. It answers with the head, with the number of arguments, or
-- with a list of them; it calls the head with the rest, on its own line or on another; it
-- calls the head with each element of the rest, or folds it over the rest; it calls the head
-- with the rest and turns an error into its text; it answers with a fixed value; it fails.
inductive Action where
  | first
  | count
  | collect
  | apply
  | applyAt (line : Nat)
  | map
  | reduce
  | attempt
  | constant (value : Value)
  | fail (kind : FaultKind) (message : String)
end

instance : Inhabited Value := ⟨.nil⟩

abbrev Outcome := Except CallError Value

namespace Procedure

def name : Procedure → String
  | .operator op => op.symbol
  | .primitive name _ _ => name

def arity : Procedure → Arity
  | .operator _ => .any
  | .primitive _ arity _ => arity

def text (p : Procedure) : String := "<builtin " ++ p.name ++ ">"

end Procedure

namespace Value

def number? : Value → Option Float
  | .number x => some x
  | _ => none

def isNumber : Value → Bool
  | .number _ => true
  | _ => false

def procedure? : Value → Option Procedure
  | .procedure p => some p
  | _ => none

def typeName : Value → String
  | .nil => "nil"
  | .bool _ => "bool"
  | .number _ => "number"
  | .str _ => "string"
  | .symbol _ => "symbol"
  | .list _ => "list"
  | .procedure _ => "procedure"

end Value
end LispCalls
