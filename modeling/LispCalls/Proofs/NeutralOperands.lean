import LispCalls.Proofs.Binary64.Units
import LispCalls.Proofs.Splitting

namespace LispCalls.Operator

-- The numbers that leave a running result as it is. A difference or a quotient starts with its
-- first argument, so there they are neutral only after it.
def neutrals : Operator → List Float
  | .add => [0.0,-0.0]
  | .sub => [0.0]
  | .mul | .div => [1.0]

theorem combine_neutral {op : Operator} {acc x : Float} (opened : op.Opened acc)
    (neutral : x ∈ op.neutrals) : op.combine acc x = acc := by
  cases op with
  | add =>
    simp only [neutrals,List.mem_cons,List.not_mem_nil,or_false] at neutral
    rcases neutral with rfl | rfl
    · exact Binary64.plus_zero (opened rfl)
    · exact Binary64.plus_negativeZero acc
  | sub =>
    cases List.mem_singleton.1 neutral
    exact Binary64.minus_zero acc
  | mul =>
    cases List.mem_singleton.1 neutral
    exact Binary64.times_one acc
  | div =>
    cases List.mem_singleton.1 neutral
    exact Binary64.over_one acc

theorem neutral_taken {op : Operator} {x : Float} (neutral : x ∈ op.neutrals) :
    op.refusal? (.number x) = none := by
  cases op with
  | add | sub | mul => simp [refusal?,Value.number?]
  | div =>
    cases List.mem_singleton.1 neutral
    rfl

theorem foldFrom_neutral {op : Operator} {acc x : Float} (opened : op.Opened acc)
    (neutral : x ∈ op.neutrals) (after : List Value) :
    op.foldFrom acc (.number x :: after) = op.foldFrom acc after := by
  simp [neutral_taken neutral,combine_neutral opened neutral]

theorem foldFrom_insert {op : Operator} {acc x : Float} (opened : op.Opened acc)
    (neutral : x ∈ op.neutrals) (before after : List Value) :
    op.foldFrom acc (before ++ .number x :: after) = op.foldFrom acc (before ++ after) := by
  simp only [foldFrom_append]
  cases folded : op.foldFrom acc before with
  | error fault => rfl
  | ok r => exact foldFrom_neutral (foldFrom_opened opened folded) neutral after

theorem opening_neutral {op : Operator} {x : Float} (anywhere : op = .add ∨ op = .mul)
    (neutral : x ∈ op.neutrals) (y : Float) : op.combine (op.opening x) y = op.opening y := by
  rcases anywhere with rfl | rfl
  · simp only [neutrals,List.mem_cons,List.not_mem_nil,or_false] at neutral
    rcases neutral with rfl | rfl <;> rfl
  · cases List.mem_singleton.1 neutral
    exact Binary64.one_times y

theorem evaluate_front {op : Operator} {x : Float} (anywhere : op = .add ∨ op = .mul)
    (neutral : x ∈ op.neutrals) (first : Value) {rest : List Value} (more : rest ≠ []) :
    op.evaluate (.number x :: first :: rest) = op.evaluate (first :: rest) := by
  have whole : op ≠ .div := by
    rcases anywhere with rfl | rfl <;> nofun
  rw [evaluate_exact op _ (List.cons_ne_nil first rest),evaluate_exact op first more]
  simp only [Value.number?]
  cases first with
  | number y =>
    simp [whole,opening_neutral anywhere neutral]
  | _ => exact foldFrom_refused rfl (op.opening x) rest

theorem evaluate_insert {op : Operator} {x : Float} (neutral : x ∈ op.neutrals)
    {before after : List Value} (enough : 2 ≤ (before ++ after).length)
    (place : before = [] → op = .add ∨ op = .mul) :
    op.evaluate (before ++ .number x :: after) = op.evaluate (before ++ after) := by
  cases before with
  | nil =>
    obtain ⟨first,rest,rfl,more⟩ := enough_parts enough
    exact evaluate_front (place rfl) neutral first more
  | cons first others =>
    have more : others ++ after ≠ [] := by
      rw [List.cons_append,List.length_cons] at enough
      exact List.ne_nil_of_length_pos (Nat.lt_of_succ_lt_succ enough)
    have longer : others ++ .number x :: after ≠ [] := by simp
    rw [List.cons_append,List.cons_append,evaluate_exact op first longer,evaluate_exact op first more]
    cases first.number? with
    | none => rfl
    | some y => exact foldFrom_insert (opening_opened op y) neutral others after

theorem fold_insert (op : Operator) (line : Nat) {x : Float} (neutral : x ∈ op.neutrals)
    {before after : List Value} (enough : 2 ≤ (before ++ after).length)
    (place : before = [] → op = .add ∨ op = .mul) :
    op.fold line (before ++ .number x :: after) = op.fold line (before ++ after) := by
  unfold fold
  rw [evaluate_insert neutral enough place]

theorem fold_insert_negativeZeros :
    let zeros : List Value := [.number (-0.0),.number (-0.0)]
    (-0.0) ∈ Operator.add.neutrals ∧ 2 ≤ ([] ++ zeros).length ∧
      (([] : List Value) = [] → Operator.add = .add ∨ Operator.add = .mul) ∧
      Operator.add.fold 1 zeros = .ok 0.0 ∧
      Operator.add.fold 1 ([] ++ .number (-0.0) :: zeros) = .ok 0.0 := by
  intro zeros
  have neutral : (-0.0) ∈ Operator.add.neutrals := List.mem_cons_of_mem _ List.mem_cons_self
  have enough : 2 ≤ ([] ++ zeros).length := Nat.le_refl 2
  have place : ([] : List Value) = [] → Operator.add = .add ∨ Operator.add = .mul :=
    fun _ => .inl rfl
  have summed : Operator.add.fold 1 zeros = .ok 0.0 := rfl
  exact ⟨neutral,enough,place,summed,(fold_insert .add 1 neutral enough place).trans summed⟩

end LispCalls.Operator
