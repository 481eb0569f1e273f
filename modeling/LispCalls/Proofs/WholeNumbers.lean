import LispCalls.Proofs.Binary64.Integers
import LispCalls.Proofs.Splitting

namespace LispCalls

def Value.Whole (v : Value) (n : ℤ) : Prop := ∃ x, v = .number x ∧ Binary64.Whole x n

namespace Operator

open Binary64 Float.Model.UnpackedFloat

structure Follows (op : Operator) (f : ℤ → ℤ → ℤ) : Prop where
  undivided : op ≠ .div
  exact : ∀ {x y : Float} {a b : ℤ}, Whole x a → Whole y b → (f a b).natAbs ≤ 2 ^ 53 →
    Whole (op.combine x y) (f a b)

theorem add_follows : Operator.add.Follows (· + ·) := ⟨nofun,add_whole⟩

theorem sub_follows : Operator.sub.Follows (· - ·) := ⟨nofun,sub_whole⟩

theorem mul_follows : Operator.mul.Follows (· * ·) := ⟨nofun,mul_whole⟩

theorem opening_whole (op : Operator) {x : Float} {a : ℤ} (whole : Whole x a)
    (small : a.natAbs ≤ 2 ^ 53) : Whole (op.opening x) a := by
  cases op with
  | add =>
    have zero : Whole 0.0 0 := zero_whole .positive
    have sum : Whole (0.0 + x) (0 + a) := add_whole zero whole (by rwa [zero_add])
    rwa [zero_add] at sum
  | sub | mul | div => exact whole

section Exact

variable {op : Operator} {f : ℤ → ℤ → ℤ} (follows : op.Follows f) {args : List Value}

include follows

theorem foldFrom_whole {acc : Float} {a : ℤ} (running : Whole acc a) {ns : List ℤ}
    (integers : List.Forall₂ Value.Whole args ns)
    (small : ∀ front, front <+: ns → (front.foldl f a).natAbs ≤ 2 ^ 53) :
    ∃ r, op.foldFrom acc args = .ok r ∧ Whole r (ns.foldl f a) := by
  induction integers generalizing acc a with
  | nil => exact ⟨acc,rfl,running⟩
  | @cons v n args ns first rest ih =>
    obtain ⟨x,rfl,whole⟩ := first
    rw [foldFrom_taken (number_taken follows.undivided x)]
    have next : Whole (op.combine acc x) (f a n) :=
      follows.exact running whole (small [n] ⟨ns,rfl⟩)
    exact ih next fun front before => small (n :: front) (List.prefix_cons_inj n |>.2 before)

theorem evaluate_whole {first : ℤ} {rest : List ℤ}
    (integers : List.Forall₂ Value.Whole args (first :: rest)) (more : rest ≠ [])
    (small : ∀ front, front <+: rest → (front.foldl f first).natAbs ≤ 2 ^ 53) :
    ∃ r, op.evaluate args = .ok r ∧ Whole r (rest.foldl f first) := by
  obtain ⟨v,others,⟨x,rfl,whole⟩,later,rfl⟩ := List.forall₂_cons_right_iff.1 integers
  have arguments : others ≠ [] := by
    rintro rfl
    exact more (List.forall₂_nil_left_iff.1 later)
  rw [evaluate_exact op _ arguments]
  exact foldFrom_whole follows (opening_whole op whole (small [] List.nil_prefix)) later small

end Exact

theorem foldl_small {f : ℤ → ℤ → ℤ} (grows : ∀ a b, (f a b).natAbs ≤ a.natAbs + b.natAbs)
    (a : ℤ) (ns : List ℤ) : (ns.foldl f a).natAbs ≤ a.natAbs + (ns.map Int.natAbs).sum := by
  induction ns generalizing a with
  | nil => simp
  | cons n rest ih =>
    have step := grows a n
    have later := ih (f a n)
    simp only [List.foldl_cons,List.map_cons,List.sum_cons]
    omega

theorem foldl_partial {f : ℤ → ℤ → ℤ} (grows : ∀ a b, (f a b).natAbs ≤ a.natAbs + b.natAbs)
    {a : ℤ} {ns : List ℤ} {limit : ℕ} (small : ((a :: ns).map Int.natAbs).sum ≤ limit)
    (front : List ℤ) (before : front <+: ns) : (front.foldl f a).natAbs ≤ limit := by
  obtain ⟨later,rfl⟩ := before
  have bounded := foldl_small grows a front
  simp only [List.map_cons,List.map_append,List.sum_cons,List.sum_append] at small
  omega

theorem product_small (a : ℤ) (ns : List ℤ) :
    (ns.foldl (· * ·) a).natAbs ≤ max 1 a.natAbs * (ns.map fun n => max 1 n.natAbs).prod := by
  induction ns generalizing a with
  | nil => simp
  | cons n rest ih =>
    have step : max 1 (a * n).natAbs ≤ max 1 a.natAbs * max 1 n.natAbs := by
      rw [Int.natAbs_mul]
      refine max_le (Nat.mul_pos (by omega) (by omega)) ?_
      exact Nat.mul_le_mul (le_max_right _ _) (le_max_right _ _)
    calc ((n :: rest).foldl (· * ·) a).natAbs
        ≤ max 1 (a * n).natAbs * (rest.map fun n => max 1 n.natAbs).prod := ih (a * n)
      _ ≤ max 1 a.natAbs * max 1 n.natAbs * (rest.map fun n => max 1 n.natAbs).prod :=
        Nat.mul_le_mul_right _ step
      _ = max 1 a.natAbs * ((n :: rest).map fun n => max 1 n.natAbs).prod := by
        rw [List.map_cons,List.prod_cons,mul_assoc]

theorem product_partial {a : ℤ} {ns : List ℤ} {limit : ℕ}
    (small : ((a :: ns).map fun n => max 1 n.natAbs).prod ≤ limit) (front : List ℤ)
    (before : front <+: ns) : (front.foldl (· * ·) a).natAbs ≤ limit := by
  obtain ⟨later,rfl⟩ := before
  have rest : 0 < (later.map fun n => max 1 n.natAbs).prod := by
    apply List.prod_pos
    simp
  have bounded := product_small a front
  simp only [List.map_cons,List.map_append,List.prod_cons,List.prod_append] at small
  calc (front.foldl (· * ·) a).natAbs
      ≤ max 1 a.natAbs * (front.map fun n => max 1 n.natAbs).prod := bounded
    _ ≤ max 1 a.natAbs * (front.map fun n => max 1 n.natAbs).prod *
        (later.map fun n => max 1 n.natAbs).prod := Nat.le_mul_of_pos_right _ rest
    _ ≤ limit := by rwa [mul_assoc]

theorem foldl_sum (a : ℤ) (ns : List ℤ) : ns.foldl (· + ·) a = (a :: ns).sum := by
  rw [List.sum_eq_foldl,List.foldl_cons,zero_add]

theorem foldl_difference (a : ℤ) (ns : List ℤ) : ns.foldl (· - ·) a = a - ns.sum := by
  induction ns generalizing a with
  | nil => simp
  | cons n rest ih => rw [List.foldl_cons,ih,List.sum_cons,sub_sub]

theorem foldl_product (a : ℤ) (ns : List ℤ) : ns.foldl (· * ·) a = (a :: ns).prod := by
  rw [List.prod_eq_foldl,List.foldl_cons,one_mul]

section Results

variable {args : List Value}

theorem sum_whole {ns : List ℤ} (integers : List.Forall₂ Value.Whole args ns)
    (enough : 2 ≤ ns.length) (small : (ns.map Int.natAbs).sum ≤ 2 ^ 53) :
    ∃ r, Operator.add.evaluate args = .ok r ∧ Whole r ns.sum ∧ r ≠ -0.0 := by
  match ns with
  | first :: second :: later =>
    obtain ⟨r,summed,whole⟩ := evaluate_whole add_follows integers (List.cons_ne_nil _ _)
      (foldl_partial Int.natAbs_add_le small)
    rw [foldl_sum] at whole
    exact ⟨r,summed,whole,evaluate_opened summed rfl⟩

theorem sum_reordered {others : List Value} {ns : List ℤ}
    (integers : List.Forall₂ Value.Whole args ns) (enough : 2 ≤ ns.length)
    (small : (ns.map Int.natAbs).sum ≤ 2 ^ 53) (reordered : args.Perm others) :
    Operator.add.evaluate others = Operator.add.evaluate args := by
  obtain ⟨ms,exchanged,order⟩ := List.perm_comp_forall₂ reordered.symm integers
  have sizes : (ms.map Int.natAbs).sum = (ns.map Int.natAbs).sum := (order.map Int.natAbs).sum_eq
  obtain ⟨r,summed,whole,signed⟩ := sum_whole integers enough small
  obtain ⟨t,also,equal,other⟩ := sum_whole exchanged (order.length_eq ▸ enough) (sizes ▸ small)
  rw [order.sum_eq] at equal
  rw [summed,also,equal.unique whole other signed]

variable {first : ℤ} {rest : List ℤ} (integers : List.Forall₂ Value.Whole args (first :: rest))
  (more : rest ≠ [])

include integers more

theorem difference_whole (small : ((first :: rest).map Int.natAbs).sum ≤ 2 ^ 53) :
    ∃ r, Operator.sub.evaluate args = .ok r ∧ Whole r (first - rest.sum) := by
  rw [← foldl_difference]
  exact evaluate_whole sub_follows integers more (foldl_partial Int.natAbs_sub_le small)

theorem product_whole (small : ((first :: rest).map fun n => max 1 n.natAbs).prod ≤ 2 ^ 53) :
    ∃ r, Operator.mul.evaluate args = .ok r ∧ Whole r (first :: rest).prod := by
  rw [← foldl_product]
  exact evaluate_whole mul_follows integers more (product_partial small)

end Results

-- Integers up to 2^53 are added, subtracted and multiplied exactly, and then the order in which
-- they are added is of no matter.
theorem integers_exact (line : Nat) {args : List Value} {first : ℤ} {rest : List ℤ}
    (integers : List.Forall₂ Value.Whole args (first :: rest)) (more : rest ≠ []) :
    (((first :: rest).map Int.natAbs).sum ≤ 2 ^ 53 →
      (∃ sum, Whole sum (first :: rest).sum ∧ ((first :: rest).sum = 0 → sum = 0.0) ∧
        ∀ others, args.Perm others → Operator.add.fold line others = .ok sum) ∧
      ∃ difference, Operator.sub.fold line args = .ok difference ∧
        Whole difference (first - rest.sum)) ∧
    (((first :: rest).map fun n => max 1 n.natAbs).prod ≤ 2 ^ 53 →
      ∃ product, Operator.mul.fold line args = .ok product ∧
        Whole product (first :: rest).prod) := by
  simp only [fold_computed]
  refine ⟨fun small => ⟨?_,difference_whole integers more small⟩,product_whole integers more⟩
  have enough : 2 ≤ (first :: rest).length := Nat.succ_le_succ (List.length_pos_iff.2 more)
  obtain ⟨sum,summed,whole,signed⟩ := sum_whole integers enough small
  refine ⟨sum,whole,fun zero => ?_,fun others reordered => ?_⟩
  · have positive : Whole 0.0 0 := zero_whole .positive
    rw [zero] at whole
    exact whole.unique positive signed (by decide)
  · rw [sum_reordered integers enough small reordered,summed]

theorem integers_exact_limit :
    let args : List Value := [.number 9007199254740991.0,.number (-0.0),.number 1.0]
    let others : List Value := [.number (-0.0),.number 1.0,.number 9007199254740991.0]
    let integers : List ℤ := [9007199254740991,0,1]
    List.Forall₂ Value.Whole args integers ∧ integers.tail ≠ [] ∧
      (integers.map Int.natAbs).sum = 2 ^ 53 ∧ args.Perm others ∧
      ∃ sum, Operator.add.fold 1 args = .ok sum ∧ Operator.add.fold 1 others = .ok sum ∧
        Whole sum (2 ^ 53) := by
  intro args others integers
  have large : parts 9007199254740991.0 = .finite .positive 9007199254740991 0 (by decide) := rfl
  have first : Whole 9007199254740991.0 9007199254740991 := by
    rw [Whole,large,rational?]
    norm_num [Sign.apply]
  have second : Whole (-0.0) 0 := zero_whole .negative
  have third : Whole 1.0 1 := by
    rw [Whole,parts_one,rational?]
    norm_num [Sign.apply]
  have held : List.Forall₂ Value.Whole args integers :=
    .cons ⟨_,rfl,first⟩ (.cons ⟨_,rfl,second⟩ (.cons ⟨_,rfl,third⟩ .nil))
  have more : integers.tail ≠ [] := List.cons_ne_nil 0 [1]
  have limit : (integers.map Int.natAbs).sum = 2 ^ 53 := by decide
  have reordered : args.Perm others := (List.perm_append_singleton _ _).symm
  obtain ⟨sums,-⟩ := integers_exact 1 held more
  obtain ⟨⟨sum,whole,-,ordered⟩,-⟩ := sums limit.le
  exact ⟨held,more,limit,reordered,sum,ordered args (.refl args),ordered others reordered,whole⟩

-- Beyond the limit the order counts.
example :
    Operator.add.fold 1 [.number 1e16,.number 1.0,.number (-1e16)] = .ok 0.0 ∧
      Operator.add.fold 1 [.number 1e16,.number (-1e16),.number 1.0] = .ok 1.0 := ⟨rfl,rfl⟩

end Operator
end LispCalls
