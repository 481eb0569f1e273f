namespace LispCalls

-- The argument count that a procedure declares. One that takes any number may still refuse
-- some of them when it runs; the declaration does not say so.
inductive Arity where
  | exactly (count : Nat)
  | any
deriving Repr,DecidableEq

namespace Arity

def accepts : Arity → Nat → Bool
  | .exactly count,given => count == given
  | .any,_ => true

def isAny : Arity → Bool
  | .exactly _ => false
  | .any => true

def text : Arity → String
  | .exactly count => toString count
  | .any => "any number of"

def noun (arity : Arity) : String := if arity = .exactly 1 then "argument" else "arguments"

end Arity
end LispCalls
