import LispCalls.Proofs.Operands

namespace LispCalls

def failure? {ε α : Type} : Except ε α → Option ε
  | .ok _ => none
  | .error e => some e

def Value.isZero : Value → Bool
  | .number x => x == 0.0
  | _ => false

section Reordered

variable {α β : Type} (f : α → Option β) {xs ys : List α} (reordered : xs.Perm ys)

include reordered

theorem findSome_reordered_isSome : (xs.findSome? f).isSome = (ys.findSome? f).isSome := by
  rw [Bool.eq_iff_iff,List.findSome?_isSome_iff,List.findSome?_isSome_iff]
  simp only [reordered.mem_iff]

theorem findSome_reordered (only : ∃ wanted, ∀ x ∈ xs, ∀ found, f x = some found → found = wanted) :
    xs.findSome? f = ys.findSome? f := by
  obtain ⟨wanted,only⟩ := only
  have among := findSome_reordered_isSome f reordered
  cases first : xs.findSome? f with
  | none =>
    rw [first] at among
    exact (Option.isNone_iff_eq_none.1 (by simpa using among)).symm
  | some found =>
    rw [first] at among
    obtain ⟨other,second⟩ := Option.isSome_iff_exists.1 among.symm
    obtain ⟨x,member,finds⟩ := List.exists_of_findSome?_eq_some first
    obtain ⟨y,place,also⟩ := List.exists_of_findSome?_eq_some second
    rw [second,only x member found finds,only y (reordered.mem_iff.2 place) other also]

end Reordered

namespace Operator

theorem fold_failure (op : Operator) (line : Nat) (args : List Value) :
    failure? (op.fold line args) = (failure? (op.evaluate args)).map (·.onLine line) := by
  unfold fold
  cases op.evaluate args <;> rfl

theorem evaluate_failure (op : Operator) (first : Value) {rest : List Value} (more : rest ≠ []) :
    failure? (op.evaluate (first :: rest)) = match first.number? with
      | some _ => rest.findSome? op.refusal?
      | none => some (.notANumber op.symbol) := by
  rw [evaluate_exact op first more]
  cases first.number? with
  | none => rfl
  | some x =>
    simp only [foldFrom_exact]
    cases rest.findSome? op.refusal? <;> rfl

theorem refusal_told (op : Operator) (arg : Value) : op.refusal? arg =
    if arg.isNumber = false then some (.notANumber op.symbol)
    else if op = .div ∧ arg.isZero = true then some .divisionByZero else none := by
  cases arg with
  | number x =>
    simp only [refusal?,Value.number?,Value.isNumber,Value.isZero,Bool.true_eq_false,if_false]
    rfl
  | _ => rfl

theorem evaluate_failure_whole {op : Operator} (whole : op ≠ .div) {args : List Value}
    (enough : 2 ≤ args.length) : failure? (op.evaluate args) = args.findSome? op.refusal? := by
  obtain ⟨first,rest,rfl,more⟩ := enough_parts enough
  rw [evaluate_failure op first more,List.findSome?_cons]
  cases first <;> simp [refusal?,Value.number?,whole]

theorem evaluate_reordered_whole {op : Operator} (whole : op ≠ .div) {args others : List Value}
    (reordered : args.Perm others) :
    failure? (op.evaluate args) = failure? (op.evaluate others) := by
  have lengths := reordered.length_eq
  rcases Nat.lt_or_ge args.length 2 with few | enough
  · rw [evaluate_few few,evaluate_few (lengths ▸ few)]
  · rw [evaluate_failure_whole whole enough,evaluate_failure_whole whole (lengths ▸ enough)]
    refine findSome_reordered _ reordered ⟨.notANumber op.symbol,fun arg _ fault refused => ?_⟩
    rw [refusal_told] at refused
    simp only [whole,false_and,if_false] at refused
    split at refused
    · exact (Option.some.inj refused).symm
    · cases refused

def earlierFault (divisors : List Value) : Fault :=
  if divisors.findIdx (!·.isNumber) < divisors.findIdx Value.isZero then
    .notANumber Operator.div.symbol
  else .divisionByZero

-- The place of neither fault moves until the first of them is reached.
theorem earlierFault_found {divisors : List Value}
    (foreign : ∃ v ∈ divisors, v.isNumber = false) (zero : ∃ v ∈ divisors, v.isZero = true) :
    divisors.findSome? Operator.div.refusal? = some (earlierFault divisors) := by
  induction divisors with
  | nil => simp at foreign
  | cons v rest ih =>
    unfold earlierFault
    rw [List.findSome?_cons,refusal_told,List.findIdx_cons,List.findIdx_cons]
    cases number : v.isNumber with
    | false =>
      have nonzero : v.isZero = false := by cases v <;> first | rfl | cases number
      simp [nonzero]
    | true =>
      cases null : v.isZero with
      | true => simp
      | false =>
        have later := ih (by simpa [number] using foreign) (by simpa [null] using zero)
        simpa [earlierFault] using later

structure Contested (args : List Value) : Prop where
  dividend : ∃ x, args.head? = some (.number x)
  foreign : ∃ v ∈ args.tail, v.isNumber = false
  zero : ∃ v ∈ args.tail, v.isZero = true

theorem quotient_contested {args : List Value} (contested : Contested args) :
    failure? (Operator.div.evaluate args) = some (earlierFault args.tail) := by
  obtain ⟨⟨x,head⟩,foreign,zero⟩ := contested
  cases args with
  | nil => cases head
  | cons first rest =>
    cases Option.some.inj head
    have more : rest ≠ [] := by
      rintro rfl
      simp at zero
    rw [evaluate_failure .div _ more]
    exact earlierFault_found foreign zero

section Quotient

variable (first : Value) {rest others : List Value}

theorem quotient_parts (reordered : rest.Perm others) :
    failure? (Operator.div.evaluate (first :: rest)) =
        failure? (Operator.div.evaluate (first :: others)) ∨
      (∃ x, first = .number x) ∧
        failure? (Operator.div.evaluate (first :: rest)) = rest.findSome? Operator.div.refusal? ∧
        failure? (Operator.div.evaluate (first :: others)) =
          others.findSome? Operator.div.refusal? := by
  by_cases more : rest = []
  · rw [more] at reordered ⊢
    rw [reordered.nil_eq]
    exact .inl rfl
  · have also : others ≠ [] := fun none => more (none ▸ reordered).eq_nil
    rw [evaluate_failure .div first more,evaluate_failure .div first also]
    cases first with
    | number x => exact .inr ⟨⟨x,rfl⟩,rfl,rfl⟩
    | _ => exact .inl rfl

theorem quotient_fails (reordered : rest.Perm others) :
    (failure? (Operator.div.evaluate (first :: rest))).isSome =
      (failure? (Operator.div.evaluate (first :: others))).isSome := by
  rcases quotient_parts first reordered with same | ⟨-,left,right⟩
  · rw [same]
  · rw [left,right]
    exact findSome_reordered_isSome _ reordered

variable {first}

theorem quotient_uncontested (reordered : rest.Perm others)
    (uncontested : ¬Contested (first :: rest)) :
    failure? (Operator.div.evaluate (first :: rest)) =
      failure? (Operator.div.evaluate (first :: others)) := by
  rcases quotient_parts first reordered with same | ⟨⟨x,rfl⟩,left,right⟩
  · exact same
  · rw [left,right]
    apply findSome_reordered _ reordered
    by_cases foreign : ∃ v ∈ rest, v.isNumber = false
    · have nonzero : ∀ v ∈ rest, v.isZero = false := fun v member =>
        Bool.eq_false_iff.2 fun zero => uncontested ⟨⟨x,rfl⟩,foreign,v,member,zero⟩
      refine ⟨.notANumber Operator.div.symbol,fun v member fault refused => ?_⟩
      rw [refusal_told,nonzero v member] at refused
      split at refused
      · exact (Option.some.inj refused).symm
      · simp at refused
    · have numbers : ∀ v ∈ rest, v.isNumber = true := by simpa using foreign
      refine ⟨.divisionByZero,fun v member fault refused => ?_⟩
      rw [refusal_told,numbers v member,if_neg Bool.noConfusion] at refused
      split at refused
      · exact (Option.some.inj refused).symm
      · cases refused

end Quotient

theorem Contested.reordered (contested : Contested (first :: rest)) (order : rest.Perm others) :
    Contested (first :: others) where
  dividend := contested.dividend
  foreign := contested.foreign.imp fun _ held => ⟨order.mem_iff.1 held.1,held.2⟩
  zero := contested.zero.imp fun _ held => ⟨order.mem_iff.1 held.1,held.2⟩

theorem evaluate_reordered_quotient {args others : List Value} (reordered : args.Perm others)
    (dividend : args.head? = others.head?) :
    (failure? (Operator.div.evaluate args)).isSome =
        (failure? (Operator.div.evaluate others)).isSome ∧
      (¬Contested args →
        failure? (Operator.div.evaluate args) = failure? (Operator.div.evaluate others)) ∧
      (Contested args → ∀ list ∈ [args,others],
        failure? (Operator.div.evaluate list) = some (earlierFault list.tail)) := by
  match args,others with
  | [],others =>
    cases reordered.nil_eq
    exact ⟨rfl,fun _ => rfl,fun contested => nomatch contested.dividend⟩
  | first :: rest,[] => cases dividend
  | first :: rest,other :: later =>
    cases Option.some.inj dividend
    have order : rest.Perm later := reordered.cons_inv
    refine ⟨quotient_fails first order,quotient_uncontested order,fun contested list member => ?_⟩
    rcases List.mem_cons.1 member with rfl | last
    · exact quotient_contested contested
    · cases List.mem_singleton.1 last
      exact quotient_contested (contested.reordered order)

-- The order of the arguments has no say in whether a fold fails, and none in the error either, as
-- long as a dividend stays where it is. Only divisors that hold both a zero and something that is
-- no number are reported in their order.
theorem fold_reordered (line : Nat) {args others : List Value} (reordered : args.Perm others) :
    (∀ op, op ≠ Operator.div → failure? (op.fold line args) = failure? (op.fold line others)) ∧
    (args.head? = others.head? →
      (failure? (Operator.div.fold line args)).isSome =
        (failure? (Operator.div.fold line others)).isSome ∧
      (¬Contested args →
        failure? (Operator.div.fold line args) = failure? (Operator.div.fold line others)) ∧
      (Contested args → ∀ list ∈ [args,others],
        failure? (Operator.div.fold line list) = some ((earlierFault list.tail).onLine line))) := by
  simp only [fold_failure,Option.isSome_map]
  refine ⟨fun op whole => by rw [evaluate_reordered_whole whole reordered],fun dividend => ?_⟩
  obtain ⟨fails,uncontested,contested⟩ := evaluate_reordered_quotient reordered dividend
  refine ⟨fails,fun free => by rw [uncontested free],fun held list member => ?_⟩
  rw [contested held list member]
  rfl

theorem fold_reordered_quotients :
    let args : List Value := [.number 0.0,.str "a",.number 0.0]
    let others : List Value := [.number 0.0,.number 0.0,.str "a"]
    args.Perm others ∧ args.head? = others.head? ∧ Contested args ∧
      failure? (Operator.div.fold 7 args) = some ⟨7,.type,"'/' is only defined for numbers"⟩ ∧
      failure? (Operator.div.fold 7 others) = some ⟨7,.divisionByZero,"Division by zero"⟩ := by
  intro args others
  have reordered : args.Perm others := .cons _ (.swap _ _ _)
  have contested : Contested args :=
    ⟨⟨0.0,rfl⟩,⟨.str "a",by simp [args],rfl⟩,⟨.number 0.0,by simp [args],rfl⟩⟩
  obtain ⟨-,quotients⟩ := fold_reordered 7 reordered
  obtain ⟨-,-,reported⟩ := quotients rfl
  refine ⟨reordered,rfl,contested,?_,?_⟩
  · exact (reported contested args (by simp)).trans rfl
  · exact (reported contested others (by simp)).trans rfl

end Operator
end LispCalls
