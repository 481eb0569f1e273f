import LispCalls.Decimal.Layout
import LispCalls.Value

namespace LispCalls

def plainNumber : Layout := ⟨fun _ => false,[]⟩

-- A string's content stands between the quotes as it is.
mutual
def Value.text : Value → String
  | .nil => "nil"
  | .bool true => "#t"
  | .bool false => "#f"
  | .number x => plainNumber.float x
  | .str s => "\"" ++ s ++ "\""
  | .symbol name => name
  | .list items => "(" ++ Value.joined items ++ ")"
  | .procedure p => p.text
def Value.joined : List Value → String
  | [] => ""
  | [v] => v.text
  | v :: w :: rest => v.text ++ " " ++ Value.joined (w :: rest)
end

end LispCalls
