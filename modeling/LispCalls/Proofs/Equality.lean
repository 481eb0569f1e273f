import LispCalls.Proofs.Binary64.Equality
import LispCalls.Value.Equality

namespace LispCalls

namespace Value

theorem byElements {motive : Value → Prop}
    (list : ∀ items, (∀ v ∈ items, motive v) → motive (.list items))
    (single : ∀ v, (∀ items, v ≠ .list items) → motive v) : ∀ v, motive v
  | .list items => list items fun v _ => byElements list single v
  | .nil | .bool _ | .number _ | .str _ | .symbol _ | .procedure _ => single _ nofun

inductive Inside : Value → Value → Prop where
  | itself (v : Value) : Inside v v
  | element {v w : Value} {items : List Value} (member : w ∈ items) (inner : Inside v w) :
      Inside v (.list items)

theorem inside_list {v : Value} {items : List Value} (other : ∀ xs, v ≠ .list xs) :
    Inside v (.list items) ↔ ∃ w ∈ items, Inside v w := by
  constructor
  · intro inside
    cases inside with
    | itself => exact absurd rfl (other items)
    | element member inner => exact ⟨_,member,inner⟩
  · rintro ⟨w,member,inner⟩
    exact .element member inner

def SamePlaces (xs ys : List Value) : Prop :=
  xs.length = ys.length ∧ ∀ (place : Nat) (v w : Value), xs[place]? = some v → ys[place]? = some w →
    v.same w = true

theorem sameItems_places (xs ys : List Value) : sameItems xs ys = true ↔ SamePlaces xs ys := by
  induction xs generalizing ys with
  | nil => cases ys <;> simp [sameItems,SamePlaces]
  | cons x xs ih =>
    cases ys with
    | nil => simp [sameItems,SamePlaces]
    | cons y ys =>
      simp only [sameItems,Bool.and_eq_true,ih,SamePlaces,List.length_cons,Nat.add_right_cancel_iff]
      constructor
      · rintro ⟨first,lengths,later⟩
        refine ⟨lengths,fun place v w found other => ?_⟩
        cases place with
        | zero => cases found; cases other; exact first
        | succ place => exact later place v w found other
      · rintro ⟨lengths,places⟩
        exact ⟨places 0 x y rfl rfl,lengths,fun place => places (place + 1)⟩

inductive Equal : Value → Value → Prop where
  | nil : Equal .nil .nil
  | bool (b : Bool) : Equal (.bool b) (.bool b)
  | number {x y : Float} (numbers : (x == y) = true) : Equal (.number x) (.number y)
  | str (s : String) : Equal (.str s) (.str s)
  | symbol (name : String) : Equal (.symbol name) (.symbol name)
  | list {xs ys : List Value} (places : SamePlaces xs ys) : Equal (.list xs) (.list ys)
  | procedure {p q : Procedure} (names : p.name = q.name) : Equal (.procedure p) (.procedure q)

theorem same_exact {v w : Value} : v.same w = true ↔ Equal v w := by
  constructor
  · intro same
    cases v <;> cases w
    case nil.nil => exact .nil
    case bool.bool a b => cases beq_iff_eq.1 same; exact .bool a
    case number.number x y => exact .number same
    case str.str s t => cases beq_iff_eq.1 same; exact .str s
    case symbol.symbol s t => cases beq_iff_eq.1 same; exact .symbol s
    case list.list xs ys => exact .list ((sameItems_places xs ys).1 same)
    case procedure.procedure p q => exact .procedure (beq_iff_eq.1 same)
    all_goals cases same
  · intro equal
    cases equal with
    | nil => rfl
    | bool | str | symbol => exact beq_self_eq_true _
    | number numbers => exact numbers
    | list places => exact (sameItems_places _ _).2 places
    | procedure names => exact beq_iff_eq.2 names

theorem same_symm {v w : Value} (same : v.same w = true) : w.same v = true := by
  induction v using byElements generalizing w with
  | list items ih =>
    cases same_exact.1 same with
    | list places =>
      refine same_exact.2 (.list ⟨places.1.symm,fun place v w found other => ?_⟩)
      exact ih w (List.mem_of_getElem? other) (places.2 place w v other found)
  | single v other =>
    rw [same_exact] at same ⊢
    cases same with
    | nil | bool | str | symbol => constructor
    | number numbers => exact .number (Binary64.beq_symm numbers)
    | procedure names => exact .procedure names.symm
    | list => exact absurd rfl (other _)

theorem same_trans {u v w : Value} (uv : u.same v = true) (vw : v.same w = true) :
    u.same w = true := by
  induction u using byElements generalizing v w with
  | list items ih =>
    cases same_exact.1 uv with
    | @list _ middle first =>
      cases same_exact.1 vw with
      | list second =>
        refine same_exact.2 (.list ⟨first.1.trans second.1,fun place u w found last => ?_⟩)
        have within : place < middle.length := by
          rw [← first.1]
          exact (List.getElem?_eq_some_iff.1 found).1
        have between : middle[place]? = some middle[place] := List.getElem?_eq_getElem within
        exact ih u (List.mem_of_getElem? found) (first.2 place u _ found between)
          (second.2 place _ w between last)
  | single u other =>
    rw [same_exact] at uv vw ⊢
    cases uv with
    | nil | bool | str | symbol => exact vw
    | number first =>
      cases vw with
      | number second => exact .number (Binary64.beq_trans first second)
    | procedure first =>
      cases vw with
      | procedure second => exact .procedure (first.trans second)
    | list => exact absurd rfl (other _)

theorem same_self (v : Value) :
    v.same v = true ↔ ∀ x, Inside (.number x) v → x.isNaN = false := by
  induction v using byElements with
  | list items ih =>
    have elements : SamePlaces items items ↔ ∀ w ∈ items, w.same w = true := by
      constructor
      · rintro ⟨-,places⟩ w member
        obtain ⟨place,found⟩ := List.getElem?_of_mem member
        exact places place w w found found
      · intro equal
        refine ⟨rfl,fun place v w found other => ?_⟩
        cases Option.some.inj (found.symm.trans other)
        exact equal v (List.mem_of_getElem? found)
    have listed : (Value.list items).same (.list items) = true ↔ SamePlaces items items :=
      sameItems_places items items
    rw [listed,elements]
    constructor
    · intro equal x inside
      obtain ⟨w,member,inner⟩ := (inside_list (v := .number x) nofun).1 inside
      exact (ih w member).1 (equal w member) x inner
    · intro numbers w member
      exact (ih w member).2 fun x inner => numbers x (.element member inner)
  | single v other =>
    cases v with
    | list items => exact absurd rfl (other items)
    | number x =>
      have number : (Value.number x).same (.number x) = (x == x) := rfl
      rw [number,Binary64.beq_self]
      constructor
      · rintro plain y inside
        cases inside
        exact plain
      · exact fun numbers => numbers x (.itself _)
    | nil | bool | str | symbol =>
      exact iff_of_true (same_exact.2 (by constructor)) fun x inside => by cases inside
    | procedure p =>
      exact iff_of_true (same_exact.2 (.procedure rfl)) fun x inside => by cases inside

theorem same_typeName {v w : Value} (same : v.same w = true) : v.typeName = w.typeName := by
  cases same_exact.1 same <;> rfl

end Value

-- The language's equality is symmetric and transitive, and only a NaN, at whatever depth, keeps a
-- value from equalling itself; a value has no identity apart from what it is made of. Numbers
-- are equal if they are the same or both zeros, lists if they are place by place.
theorem equality_faithful (a b c : Value) :
    (a.same b = true → b.same a = true) ∧
    (a.same b = true → b.same c = true → a.same c = true) ∧
    (a.same a = true ↔ ∀ x, Value.Inside (.number x) a → x.isNaN = false) ∧
    (a.same b = true → a.typeName = b.typeName) ∧
    (∀ x y : Float, (Value.number x).same (.number y) = true ↔
      x.isNaN = false ∧ (x = y ∨ (x = 0.0 ∨ x = -0.0) ∧ (y = 0.0 ∨ y = -0.0))) ∧
    ∀ xs ys : List Value, (Value.list xs).same (.list ys) = true ↔
      xs.length = ys.length ∧ ∀ (place : Nat) (v w : Value), xs[place]? = some v →
        ys[place]? = some w → v.same w = true := by
  refine ⟨Value.same_symm,Value.same_trans,a.same_self,Value.same_typeName,?_,
    Value.sameItems_places⟩
  intro x y
  have number : (Value.number x).same (.number y) = (x == y) := rfl
  rw [number,Binary64.beq_alike,Binary64.alike_exact,Binary64.beq_zero_iff,Binary64.beq_zero_iff,
    and_comm]

end LispCalls
