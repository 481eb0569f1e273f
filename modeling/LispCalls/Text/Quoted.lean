import LispCalls.Text.Repertoire

namespace LispCalls.Text

def isControl (c : Char) : Bool := c.toNat < 0x20 || (0x7F ≤ c.toNat && c.toNat < 0xA0)

-- ASCII is the same in every version of Unicode.
def Repertoire.hides (unicode : Repertoire) (c : Char) : Bool :=
  isControl c || (0x80 ≤ c.toNat && (unicode.extending.has c || unicode.unprinted.has c))

-- A quote or a backslash is never written bare, so the closing quote is the first bare one.
def escape (unicode : Repertoire) (c : Char) : List Char :=
  if c = '"' then ['\\','"']
  else if c = '\\' then ['\\','\\']
  else if c = '\n' then ['\\','n']
  else if c = '\r' then ['\\','r']
  else if c = '\t' then ['\\','t']
  else if c = '\x00' then ['\\','0']
  else if unicode.hides c then ['\\','u','{'] ++ Nat.toDigits 16 c.toNat ++ ['}']
  else [c]

def escapes (unicode : Repertoire) (cs : List Char) : List Char := cs.flatMap (escape unicode)

def quoted (unicode : Repertoire) (s : String) : String :=
  "\"" ++ String.ofList (escapes unicode s.toList) ++ "\""

end LispCalls.Text
