import LispCalls.Event
import LispCalls.Trace
import LispCalls.Value.Text

namespace LispCalls

inductive Span where
  | apply (callee : Value) (count line : Nat)
  | compute (op : Operator) (count line : Nat)

namespace Span

def name : Span → String
  | .apply _ _ _ => "apply"
  | .compute _ _ _ => "call"

def level (_ : Span) : Level := .trace

def details : Span → List (String × Detail)
  | .apply callee count line =>
    [("callee",.text callee.text),("argc",.count count),("line",.text (toString line))]
  | .compute op count line =>
    [("op",.text op.symbol),("argc",.count count),("line",.text (toString line))]

end Span

inductive Entry where
  | noted (event : Event)
  | opened (span : Span)
  | closed (span : Span) (outcome : Outcome)

def enclosed (span : Span) (within : List Entry) (outcome : Outcome) : List Entry :=
  .opened span :: (within ++ [.closed span outcome])

mutual
def Trace.log : Trace → List Entry
  | .refused callee line args fault =>
    enclosed (.apply callee args.length line) [] (.error (fault.onLine line))
  | .entered p line args inner outcome =>
    enclosed (.apply (.procedure p) args.length line) (Trace.logs inner) outcome
  | .computed op line args outcome => enclosed (.compute op args.length line) [] outcome
def Trace.logs : List Trace → List Entry
  | [] => []
  | trace :: rest => trace.log ++ Trace.logs rest
end

def Run.log {α : Type} (run : Run α) : List Entry := Trace.logs run.traces

end LispCalls
