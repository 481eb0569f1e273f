import LispCalls.Value

namespace LispCalls

-- The number of values in a value, itself and the elements of lists at every depth. What a
-- primitive holds to answer with is not counted: it is only ever called, never taken apart.
mutual
def Value.weight : Value → Nat
  | .list items => Value.weights items + 1
  | _ => 1
def Value.weights : List Value → Nat
  | [] => 0
  | v :: rest => v.weight + Value.weights rest
end

namespace Value

theorem weight_pos (v : Value) : 0 < v.weight := by
  cases v <;> simp [weight]

def spread : Value → List Value
  | .list items => items
  | v => [v]

-- How deep calls can nest below a procedure that gets these arguments, itself counted.
-- Only the rest is ever taken apart; the head is only called.
def depthBound : List Value → Nat
  | [] => 2
  | _ :: rest => weights rest + 3

def callBound (callee : Value) (args : List Value) : Nat :=
  match callee with
  | .procedure _ => depthBound args
  | _ => 1

theorem callBound_le (callee : Value) (args : List Value) :
    callBound callee args ≤ depthBound args := by
  cases callee <;> cases args <;> simp [callBound,depthBound]

theorem depthBound_spread (v : Value) : depthBound v.spread ≤ v.weight + 2 := by
  cases v with
  | list items =>
    cases items with
    | nil => simp [spread,depthBound,weight,weights]
    | cons first others => simp [spread,depthBound,weight,weights]
  | _ => simp [spread,depthBound,weight,weights]

theorem callBound_forward (args : List Value) :
    callBound (args.headD .nil) args.tail < depthBound args := by
  match args with
  | [] => simp [callBound,depthBound]
  | [head] => cases head <;> simp [callBound,depthBound,weights]
  | head :: next :: rest =>
    have called := callBound_le head (next :: rest)
    have positive := next.weight_pos
    simp only [depthBound,weights,List.headD_cons,List.tail_cons] at called ⊢
    omega

-- A call is measured before the loop that makes it, so its bound need not be lower.
theorem call_decreases {call loop : Nat} (bounded : call ≤ loop) :
    Prod.Lex (· < ·) (· < ·) (call,1) (loop,2) :=
  Prod.lex_def.2 ((Nat.lt_or_eq_of_le bounded).imp id fun same => ⟨same,Nat.one_lt_two⟩)

theorem callBound_spread (head v : Value) (rest : List Value) :
    callBound head v.spread ≤ weights (v :: rest) + 2 := by
  have called := callBound_le head v.spread
  have bounded := depthBound_spread v
  simp only [weights]
  omega

theorem callBound_pair (head acc v : Value) (later : List Value) :
    callBound head [acc,v] ≤ weights (v :: later) + 3 := by
  have called := callBound_le head [acc,v]
  simp only [depthBound,weights] at called ⊢
  omega

theorem weights_tail (v : Value) (rest : List Value) : weights rest < weights (v :: rest) := by
  have positive := v.weight_pos
  simp only [weights]
  omega

end Value
end LispCalls
