import LispCalls.Proofs.Binary64.Sums
import LispCalls.Proofs.Operands

namespace LispCalls.Operator

-- What a running result stays once it was opened: for a sum, anything but the negative zero.
def Opened (op : Operator) (acc : Float) : Prop := op = .add → acc ≠ -0.0

theorem opening_opened (op : Operator) (x : Float) : op.Opened (op.opening x) := by
  rintro rfl negative
  have zero : (0.0 : Float) = -0.0 := (Binary64.add_eq_negativeZero negative).1
  exact absurd zero (by decide)

theorem combine_opened {op : Operator} {acc : Float} (opened : op.Opened acc) (x : Float) :
    op.Opened (op.combine acc x) := by
  rintro rfl negative
  exact opened rfl (Binary64.add_eq_negativeZero negative).1

theorem foldFrom_opened {op : Operator} {acc r : Float} {args : List Value}
    (opened : op.Opened acc) (folded : op.foldFrom acc args = .ok r) : op.Opened r := by
  induction acc, args using op.foldFrom_induction with
  | done acc =>
    cases folded
    exact opened
  | refused acc arg rest fault verdict =>
    rw [foldFrom_refused verdict] at folded
    cases folded
  | taken acc x rest verdict ih =>
    rw [foldFrom_taken verdict] at folded
    exact ih (combine_opened opened x) folded

theorem evaluate_opened {op : Operator} {args : List Value} {r : Float}
    (folded : op.evaluate args = .ok r) : op.Opened r := by
  rcases Nat.lt_or_ge args.length 2 with few | enough
  · rw [evaluate_few few] at folded
    cases folded
  · obtain ⟨first,rest,rfl,more⟩ := enough_parts enough
    rw [evaluate_exact op first more] at folded
    cases number : first.number? with
    | none =>
      rw [number] at folded
      cases folded
    | some x =>
      rw [number] at folded
      exact foldFrom_opened (opening_opened op x) folded

theorem reopening {op : Operator} {acc : Float} (opened : op.Opened acc) : op.opening acc = acc := by
  cases op with
  | add => exact Binary64.zero_plus (opened rfl)
  | sub | mul | div => rfl

theorem evaluate_append (op : Operator) {xs ys : List Value} (enough : 2 ≤ xs.length)
    (more : ys ≠ []) : op.evaluate (xs ++ ys) = match op.evaluate xs with
      | .ok r => op.evaluate (.number r :: ys)
      | .error fault => .error fault := by
  obtain ⟨first,rest,rfl,others⟩ := enough_parts enough
  have longer : rest ++ ys ≠ [] := List.append_ne_nil_of_right_ne_nil rest more
  rw [List.cons_append,evaluate_exact op first longer,evaluate_exact op first others]
  cases first.number? with
  | none => rfl
  | some x =>
    simp only [foldFrom_append]
    cases folded : op.foldFrom (op.opening x) rest with
    | error fault => rfl
    | ok r =>
      have opened : op.Opened r := foldFrom_opened (opening_opened op x) folded
      simp only [evaluate_exact op (.number r) more,Value.number?,reopening opened]
      rfl

theorem fold_append (op : Operator) (line : Nat) {xs ys : List Value} (enough : 2 ≤ xs.length)
    (more : ys ≠ []) : op.fold line (xs ++ ys) = match op.fold line xs with
      | .ok r => op.fold line (.number r :: ys)
      | .error e => .error e := by
  unfold fold
  rw [evaluate_append op enough more]
  cases op.evaluate xs <;> rfl

theorem fold_append_negativeZeros :
    let zeros : List Value := [.number (-0.0),.number (-0.0)]
    let later : List Value := [.number (-0.0)]
    2 ≤ zeros.length ∧ later ≠ [] ∧ Operator.add.fold 1 zeros = .ok 0.0 ∧
      Operator.add.fold 1 (zeros ++ later) = Operator.add.fold 1 (.number 0.0 :: later) := by
  intro zeros later
  have enough : 2 ≤ zeros.length := Nat.le_refl 2
  have more : later ≠ [] := List.cons_ne_nil _ _
  have summed : Operator.add.fold 1 zeros = .ok 0.0 := rfl
  refine ⟨enough,more,summed,?_⟩
  rw [fold_append .add 1 enough more,summed]

end LispCalls.Operator
