import LispCalls.Event
import LispCalls.Report

namespace LispCalls

structure Settings where
  checkArity : Bool
  style : ReportStyle
deriving Repr,DecidableEq

namespace Settings

def standard : Settings := ⟨true,.standard⟩

def styleVariable : String := "TINYLISP_DIAGNOSTICS"
def arityVariable : String := "TINYLISP_CHECK_ARITY"

def flag? (s : String) : Option Bool :=
  match Text.keyword s with
  | "1" | "true" | "yes" | "on" => some true
  | "0" | "false" | "no" | "off" => some false
  | _ => none

-- An absent answer keeps the default silently. An answer that cannot be read keeps it too,
-- with a warning.
def choose {α : Type} (default : α) (read? : String → Option α) (warning : String → Event) :
    Option String → α × List Event
  | none => (default,[])
  | some raw => match read? raw with
    | some x => (x,[])
    | none => (default,[warning raw])

def ofAnswers (style arity : Option String) : Settings × List Event :=
  let chosenStyle := choose standard.style ReportStyle.parse? (.unknownStyle styleVariable) style
  let chosenCheck := choose standard.checkArity flag? (.unknownFlag arityVariable) arity
  (⟨chosenCheck.1,chosenStyle.1⟩,chosenStyle.2 ++ chosenCheck.2)

def read {m : Type → Type} [Monad m] (lookup : String → m (Option String)) :
    m (Settings × List Event) := do
  let style ← lookup styleVariable
  let arity ← lookup arityVariable
  return ofAnswers style arity

-- An environment holds bytes. A value that is not UTF-8 counts as absent.
def environmentLookup (entries : List (String × ByteArray)) (name : String) : Option String :=
  (entries.lookup name).bind String.fromUTF8?

def ofEnvironment (entries : List (String × ByteArray)) : Settings × List Event :=
  Id.run (read fun name => pure (environmentLookup entries name))

end Settings
end LispCalls
