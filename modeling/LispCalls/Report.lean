import LispCalls.Fault
import LispCalls.Text.Blank

namespace LispCalls

inductive ReportStyle where
  | plain
  | tagged
deriving Repr,DecidableEq

namespace ReportStyle

def standard : ReportStyle := .plain

def parse? (s : String) : Option ReportStyle :=
  match Text.keyword s with
  | "plain" => some .plain
  | "tagged" => some .tagged
  | _ => none

def render : ReportStyle → CallError → String
  | .plain,e => e.text
  | .tagged,e => "line " ++ toString e.line ++ ": [" ++ e.kind.label ++ "] " ++ e.message

end ReportStyle
end LispCalls
