import LispCalls.Text.Repertoire

namespace LispCalls.Text

def blankRanges : Ranges :=
  [(0x09,0x0D),(0x20,0x20),(0x85,0x85),(0xA0,0xA0),(0x1680,0x1680),(0x2000,0x200A),
    (0x2028,0x2029),(0x202F,0x202F),(0x205F,0x205F),(0x3000,0x3000)]

def isBlank (c : Char) : Bool := blankRanges.has c

def trim (cs : List Char) : List Char :=
  ((cs.dropWhile isBlank).reverse.dropWhile isBlank).reverse

-- The word that a setting is compared by. Only the letters A to Z are folded, so a
-- letter outside ASCII never becomes one of the words written in ASCII.
def keyword (s : String) : String := String.ofList ((trim s.toList).map Char.toLower)

end LispCalls.Text
