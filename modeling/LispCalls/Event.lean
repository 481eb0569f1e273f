namespace LispCalls

inductive Level where
  | trace
  | debug
  | warn
deriving Repr,DecidableEq

inductive Detail where
  | text (s : String)
  | count (n : Nat)
deriving Repr,DecidableEq

-- What happens while an interpreter is set up. A setting's raw text is kept as it was given.
inductive Event where
  | unknownStyle (setting raw : String)
  | unknownFlag (setting raw : String)
  | rebound (symbol library : String)
  | tableBuilt (libraries procedures : Nat)
deriving Repr,DecidableEq

namespace Event

def level : Event → Level
  | .tableBuilt _ _ => .debug
  | _ => .warn

def message : Event → String
  | .unknownStyle _ _ => "unknown diagnostic style"
  | .unknownFlag _ _ => "expected a boolean"
  | .rebound _ _ => "builtin rebound"
  | .tableBuilt _ _ => "builtin table built"

def details : Event → List (String × Detail)
  | .unknownStyle setting raw | .unknownFlag setting raw =>
    [("var",.text setting),("value",.text raw)]
  | .rebound symbol library => [("symbol",.text symbol),("module",.text library)]
  | .tableBuilt libraries procedures =>
    [("modules",.count libraries),("builtins",.count procedures)]

end Event
end LispCalls
