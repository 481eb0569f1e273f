import LispCalls.Arity

namespace LispCalls

inductive FaultKind where
  | arity
  | type
  | divisionByZero
  | undefinedSymbol
  | notCallable
  | argumentCount
deriving Repr,DecidableEq

def FaultKind.all : List FaultKind :=
  [.arity,.type,.divisionByZero,.undefinedSymbol,.notCallable,.argumentCount]

def FaultKind.label : FaultKind → String
  | .arity => "arity error"
  | .type => "type error"
  | .divisionByZero => "division by zero"
  | .undefinedSymbol => "undefined symbol"
  | .notCallable => "not callable"
  | .argumentCount => "argument count"

structure CallError where
  line : Nat
  kind : FaultKind
  message : String
deriving Repr,DecidableEq

def CallError.text (e : CallError) : String := "line " ++ toString e.line ++ ": " ++ e.message

-- Why a call fails, apart from where. A procedure may also fail with a kind and a message of
-- its own choice; such an error has no cause here.
inductive Fault where
  | tooFewArguments (symbol : String)
  | notANumber (symbol : String)
  | divisionByZero
  | undefinedSymbol (symbol : String)
  | notCallable (typeName : String)
  | argumentCount (name : String) (declared : Arity) (given : Nat)
deriving Repr,DecidableEq

namespace Fault

def kind : Fault → FaultKind
  | .tooFewArguments _ => .arity
  | .notANumber _ => .type
  | .divisionByZero => .divisionByZero
  | .undefinedSymbol _ => .undefinedSymbol
  | .notCallable _ => .notCallable
  | .argumentCount _ _ _ => .argumentCount

def message : Fault → String
  | .tooFewArguments symbol => "'" ++ symbol ++ "' requires at least two arguments"
  | .notANumber symbol => "'" ++ symbol ++ "' is only defined for numbers"
  | .divisionByZero => "Division by zero"
  | .undefinedSymbol symbol => "undefined symbol '" ++ symbol ++ "'"
  | .notCallable typeName => typeName ++ " is not callable"
  | .argumentCount name declared given =>
    "'" ++ name ++ "' expects " ++ declared.text ++ " " ++ declared.noun ++ ", got " ++
      toString given

def onLine (fault : Fault) (line : Nat) : CallError := ⟨line,fault.kind,fault.message⟩

end Fault
end LispCalls
