import LispCalls.Proofs.Equality
import LispCalls.Proofs.Operands

namespace LispCalls

namespace Value

def Related (v w : Value) : Prop :=
  v.same w = true ∨ ∃ x y, v = .number x ∧ w = .number y ∧ x.isNaN = true ∧ y.isNaN = true

theorem related_numbers {x y : Float} :
    (Value.number x).Related (.number y) ↔ Binary64.Alike x y := by
  rw [Binary64.alike_equal]
  constructor
  · rintro (equal | ⟨_,_,first,second,nans⟩)
    · exact .inl equal
    · cases first
      cases second
      exact .inr nans
  · rintro (equal | nans)
    · exact .inl equal
    · exact .inr ⟨x,y,rfl,rfl,nans⟩

theorem Related.operands {v w : Value} (related : v.Related w) :
    v.number? = none ∧ w.number? = none ∨
      ∃ x y, v = .number x ∧ w = .number y ∧ Binary64.Alike x y := by
  rcases related with same | ⟨x,y,rfl,rfl,nans⟩
  · cases same_exact.1 same with
    | number numbers => exact .inr ⟨_,_,rfl,rfl,(Binary64.alike_equal _ _).2 (.inl numbers)⟩
    | _ => exact .inl ⟨rfl,rfl⟩
  · exact .inr ⟨x,y,rfl,rfl,(Binary64.alike_equal x y).2 (.inr nans)⟩

end Value

namespace Operator

open Float.Model Float.Model.UnpackedFloat Binary64

def combineParts : Operator → UnpackedFloat → UnpackedFloat → UnpackedFloat
  | .add => UnpackedFloat.add .binary64
  | .sub => UnpackedFloat.sub .binary64
  | .mul => UnpackedFloat.mul .binary64
  | .div => UnpackedFloat.div .binary64

theorem combine_parts (op : Operator) (x y : Float) :
    op.combine x y = ofParts (op.combineParts (parts x) (parts y)) := by
  cases op <;> rfl

theorem zeros_zero {op : Operator} (other : op ≠ .div) (s t : Sign) :
    ∃ r, op.combineParts (.zero s) (.zero t) = .zero r := by
  cases op with
  | div => exact absurd rfl other
  | mul => exact ⟨_,rfl⟩
  | add | sub => cases s <;> cases t <;> exact ⟨_,rfl⟩

-- The sign of a zero that is combined shows at most in the sign of a zero, unless it divides.
theorem combineParts_left (op : Operator) (s t : Sign) (v : UnpackedFloat) :
    Matches (op.combineParts (.zero s) v) (op.combineParts (.zero t) v) := by
  cases v with
  | zero r =>
    by_cases divided : op = .div
    · subst divided
      exact .inl rfl
    · exact .inr ⟨zeros_zero divided s r,zeros_zero divided t r⟩
  | notANumber => cases op <;> exact .inl rfl
  | infinity =>
    cases op with
    | add | sub | mul => exact .inl rfl
    | div => exact .inr ⟨⟨_,rfl⟩,_,rfl⟩
  | finite =>
    cases op with
    | add | sub => exact .inl rfl
    | mul | div => exact .inr ⟨⟨_,rfl⟩,_,rfl⟩

theorem combineParts_right {op : Operator} (other : op ≠ .div) (u : UnpackedFloat) (s t : Sign) :
    Matches (op.combineParts u (.zero s)) (op.combineParts u (.zero t)) := by
  cases u with
  | zero r => exact .inr ⟨zeros_zero other r s,zeros_zero other r t⟩
  | notANumber => cases op <;> exact .inl rfl
  | infinity =>
    cases op with
    | add | sub | mul => exact .inl rfl
    | div => exact absurd rfl other
  | finite =>
    cases op with
    | add | sub => exact .inl rfl
    | mul => exact .inr ⟨⟨_,rfl⟩,_,rfl⟩
    | div => exact absurd rfl other

theorem combine_alike {op : Operator} {acc other x y : Float} (running : Alike acc other)
    (operands : Alike x y) (divisor : ¬(op = .div ∧ x == 0.0)) :
    Alike (op.combine acc x) (op.combine other y) := by
  rw [combine_parts,combine_parts]
  apply ofParts_alike
  have left : Matches (op.combineParts (parts acc) (parts x))
      (op.combineParts (parts other) (parts x)) := by
    rcases running with same | ⟨⟨s,first⟩,⟨t,second⟩⟩
    · exact .inl (by rw [same])
    · rw [first,second]
      exact combineParts_left op s t (parts x)
  refine left.trans ?_
  rcases operands with same | ⟨⟨s,first⟩,⟨t,second⟩⟩
  · exact .inl (by rw [same])
  · have whole : op ≠ .div := fun divided => divisor ⟨divided,(zero_parts x).2 ⟨s,first⟩⟩
    rw [first,second]
    exact combineParts_right whole (parts other) s t

theorem opening_alike (op : Operator) {x y : Float} (alike : Alike x y) :
    Alike (op.opening x) (op.opening y) := by
  cases op with
  | add =>
    have sums : Alike (Operator.add.combine 0.0 x) (Operator.add.combine 0.0 y) :=
      combine_alike (.inl rfl) alike nofun
    exact sums
  | sub | mul | div => exact alike

theorem refusal_related (op : Operator) {v w : Value} (related : v.Related w) :
    op.refusal? v = op.refusal? w := by
  unfold refusal?
  rcases related.operands with ⟨first,second⟩ | ⟨x,y,rfl,rfl,alike⟩
  · rw [first,second]
  · simp only [Value.number?]
    rcases (alike_exact x y).1 alike with rfl | ⟨first,second⟩
    · rfl
    · rw [first,second]

inductive EndAlike : Except Fault Float → Except Fault Float → Prop where
  | refused (fault : Fault) : EndAlike (.error fault) (.error fault)
  | computed {x y : Float} (alike : Alike x y) : EndAlike (.ok x) (.ok y)

-- The running results may differ in the sign of a zero. Whether an argument is taken does not
-- depend on them, so both folds stop at the same place.
theorem foldFrom_related {op : Operator} {acc other : Float} (running : Alike acc other)
    {xs ys : List Value} (related : List.Forall₂ Value.Related xs ys) :
    EndAlike (op.foldFrom acc xs) (op.foldFrom other ys) := by
  induction related generalizing acc other with
  | nil => exact .computed running
  | @cons v w xs ys first rest ih =>
    have verdicts := refusal_related op first
    cases verdict : op.refusal? v with
    | some fault =>
      rw [foldFrom_refused verdict,foldFrom_refused (verdicts ▸ verdict)]
      exact .refused fault
    | none =>
      obtain ⟨x,rfl,divisor⟩ := refusal_none verdict
      obtain ⟨y,rfl,-⟩ := refusal_none (verdicts ▸ verdict)
      rw [foldFrom_taken verdict,foldFrom_taken (verdicts ▸ verdict)]
      exact ih (combine_alike running (Value.related_numbers.1 first) divisor)

theorem evaluate_related (op : Operator) {xs ys : List Value}
    (related : List.Forall₂ Value.Related xs ys) : EndAlike (op.evaluate xs) (op.evaluate ys) := by
  have lengths := related.length_eq
  rcases Nat.lt_or_ge xs.length 2 with few | enough
  · rw [evaluate_few few,evaluate_few (lengths ▸ few)]
    exact .refused _
  · obtain ⟨v,xs,rfl,more⟩ := enough_parts enough
    obtain ⟨w,ys,rfl,others⟩ := enough_parts (lengths ▸ enough)
    obtain ⟨first,rest⟩ := List.forall₂_cons.1 related
    rw [evaluate_exact op v more,evaluate_exact op w others]
    rcases first.operands with ⟨left,right⟩ | ⟨x,y,rfl,rfl,alike⟩
    · rw [left,right]
      exact .refused _
    · exact foldFrom_related (opening_alike op alike) rest

-- Arguments that the language's equality does not tell apart, NaN among them, come to results
-- that it does not tell apart, or to one and the same error.
theorem fold_related (op : Operator) (line : Nat) {xs ys : List Value}
    (related : List.Forall₂ Value.Related xs ys) :
    (∃ e, op.fold line xs = .error e ∧ op.fold line ys = .error e) ∨
      ∃ x y, op.fold line xs = .ok x ∧ op.fold line ys = .ok y ∧
        (Value.number x).Related (.number y) := by
  have ended := evaluate_related op related
  unfold fold
  generalize op.evaluate xs = first, op.evaluate ys = second at ended ⊢
  cases ended with
  | refused fault => exact .inl ⟨fault.onLine line,rfl,rfl⟩
  | computed alike => exact .inr ⟨_,_,rfl,rfl,Value.related_numbers.2 alike⟩

theorem fold_related_zeros :
    let zeros : List Value := [.number 0.0,.number 2.0]
    let others : List Value := [.number (-0.0),.number 2.0]
    List.Forall₂ Value.Related zeros others ∧ Operator.div.fold 1 zeros = .ok 0.0 ∧
      Operator.div.fold 1 others = .ok (-0.0) ∧ (Value.number 0.0).Related (.number (-0.0)) := by
  intro zeros others
  have related : List.Forall₂ Value.Related zeros others :=
    .cons (.inl rfl) (.cons (.inl rfl) .nil)
  have first : Operator.div.fold 1 zeros = .ok 0.0 := rfl
  have second : Operator.div.fold 1 others = .ok (-0.0) := rfl
  refine ⟨related,first,second,?_⟩
  rcases fold_related .div 1 related with ⟨e,failed,-⟩ | ⟨x,y,left,right,ends⟩
  · cases first.symm.trans failed
  · cases first.symm.trans left
    cases second.symm.trans right
    exact ends

end Operator
end LispCalls
