import LispCalls.Value

namespace LispCalls

-- The language's equality. Numbers are equal as IEEE says, also inside lists: a NaN equals
-- nothing, itself included, and the two zeros are equal. Procedures are equal by name.
mutual
def Value.same : Value → Value → Bool
  | .nil,.nil => true
  | .bool a,.bool b => a == b
  | .number x,.number y => x == y
  | .str a,.str b => a == b
  | .symbol a,.symbol b => a == b
  | .list xs,.list ys => Value.sameItems xs ys
  | .procedure p,.procedure q => p.name == q.name
  | _,_ => false
def Value.sameItems : List Value → List Value → Bool
  | [],[] => true
  | x :: xs,y :: ys => x.same y && Value.sameItems xs ys
  | _,_ => false
end

def Outcome.same : Outcome → Outcome → Bool
  | .ok a,.ok b => a.same b
  | .error e,.error f => e == f
  | _,_ => false

end LispCalls
