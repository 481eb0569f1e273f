import LispCalls.Decimal.Layout
import LispCalls.Text.Quoted
import LispCalls.Value

namespace LispCalls

def inspectedNumber : Layout := ⟨fun leading => leading < -4 || 16 ≤ leading,['.','0']⟩

-- The text that shows a value's structure. Strings are escaped in it; the name of a
-- procedure is not.
mutual
def Value.inspectIn (unicode : Text.Repertoire) : Value → String
  | .nil => "Nil"
  | .bool true => "Bool(true)"
  | .bool false => "Bool(false)"
  | .number x => "Number(" ++ inspectedNumber.float x ++ ")"
  | .str s => "Str(" ++ Text.quoted unicode s ++ ")"
  | .symbol name => "Symbol(" ++ Text.quoted unicode name ++ ")"
  | .list items => "List([" ++ Value.inspected unicode items ++ "])"
  | .procedure p => "Builtin(" ++ p.text ++ ")"
def Value.inspected (unicode : Text.Repertoire) : List Value → String
  | [] => ""
  | [v] => v.inspectIn unicode
  | v :: w :: rest => v.inspectIn unicode ++ ", " ++ Value.inspected unicode (w :: rest)
end

def Value.inspect (v : Value) : String := v.inspectIn .unicode

end LispCalls
