namespace LispCalls

inductive Operator where
  | add
  | sub
  | mul
  | div
deriving Repr,DecidableEq

inductive Start where
  | number (x : Float)
  | firstArgument

namespace Operator

def all : List Operator := [.add,.sub,.mul,.div]

def symbol : Operator → String
  | .add => "+"
  | .sub => "-"
  | .mul => "*"
  | .div => "/"

def start : Operator → Start
  | .add => .number 0.0
  | .sub | .mul | .div => .firstArgument

end Operator
end LispCalls
