import LispCalls.Proofs.Binary64.Packing

namespace LispCalls.Binary64

open Float.Model Float.Model.UnpackedFloat

def Matches (u v : UnpackedFloat) : Prop := u = v ∨ (∃ s, u = .zero s) ∧ ∃ t, v = .zero t

namespace Matches

variable {u v w : UnpackedFloat}

theorem symm (matching : Matches u v) : Matches v u := matching.imp Eq.symm And.symm

theorem trans (uv : Matches u v) (vw : Matches v w) : Matches u w := by
  rcases uv with rfl | ⟨first,middle⟩
  · exact vw
  · rcases vw with rfl | ⟨-,last⟩
    · exact .inr ⟨first,middle⟩
    · exact .inr ⟨first,last⟩

theorem nan (matching : Matches u v) : u.isNaN = v.isNaN := by
  rcases matching with rfl | ⟨⟨s,rfl⟩,⟨t,rfl⟩⟩ <;> rfl

end Matches

theorem compare_matches (u v : UnpackedFloat) :
    u.compare v = some .eq ↔ Matches u v ∧ u.isNaN = false := by
  cases u with
  | notANumber => simp [UnpackedFloat.compare,UnpackedFloat.isNaN]
  | zero s =>
    cases v with
    | finite t | infinity t => cases t <;> simp [UnpackedFloat.compare,Matches]
    | notANumber => simp [UnpackedFloat.compare,Matches]
    | zero => simp [UnpackedFloat.compare,Matches,UnpackedFloat.isNaN]
  | infinity s =>
    cases v with
    | infinity t =>
      cases s <;> cases t <;> simp [UnpackedFloat.compare,Matches,UnpackedFloat.isNaN] <;> decide
    | _ => cases s <;> simp [UnpackedFloat.compare,Matches]
  | finite s =>
    cases v with
    | finite t =>
      cases s <;> cases t <;>
        simp [UnpackedFloat.compare,Matches,UnpackedFloat.isNaN,Ordering.then_eq_eq,and_comm]
    | infinity t => cases t <;> simp [UnpackedFloat.compare,Matches]
    | _ => cases s <;> simp [UnpackedFloat.compare,Matches]

-- What arithmetic cannot tell apart, but for division by it.
def Alike (x y : Float) : Prop := Matches (parts x) (parts y)

theorem beq_alike (x y : Float) : (x == y) = true ↔ Alike x y ∧ x.isNaN = false := by
  have compared : (x == y) = ((parts x).compare (parts y) == some .eq) := rfl
  rw [compared,beq_iff_eq]
  exact compare_matches (parts x) (parts y)

theorem zero_parts (x : Float) : (x == 0.0) = true ↔ ∃ s, parts x = .zero s := by
  have positive : parts 0.0 = .zero .positive := rfl
  rw [beq_alike,Alike,positive]
  constructor
  · rintro ⟨same | ⟨zero,-⟩,-⟩
    · exact ⟨_,same⟩
    · exact zero
  · rintro ⟨s,zero⟩
    have number : x.isNaN = (parts x).isNaN := rfl
    rw [number,zero]
    exact ⟨.inr ⟨⟨s,rfl⟩,_,rfl⟩,rfl⟩

theorem alike_exact (x y : Float) : Alike x y ↔ x = y ∨ (x == 0.0) = true ∧ (y == 0.0) = true := by
  rw [zero_parts,zero_parts]
  exact or_congr ⟨parts_inj,congrArg parts⟩ Iff.rfl

theorem nan_parts {x : Float} : x.isNaN = true ↔ parts x = .notANumber := by
  change (parts x).isNaN = true ↔ _
  cases parts x <;> simp [UnpackedFloat.isNaN]

theorem alike_equal (x y : Float) :
    Alike x y ↔ (x == y) = true ∨ x.isNaN = true ∧ y.isNaN = true := by
  rw [beq_alike]
  constructor
  · intro alike
    have nan : x.isNaN = y.isNaN := alike.nan
    cases number : x.isNaN with
    | false => exact .inl ⟨alike,rfl⟩
    | true => exact .inr ⟨rfl,nan ▸ number⟩
  · rintro (⟨alike,-⟩ | ⟨first,second⟩)
    · exact alike
    · exact .inl ((nan_parts.1 first).trans (nan_parts.1 second).symm)

theorem ofParts_alike {u v : UnpackedFloat} (matching : Matches u v) :
    Alike (ofParts u) (ofParts v) := by
  rcases matching with rfl | ⟨⟨s,rfl⟩,⟨t,rfl⟩⟩
  · exact .inl rfl
  · cases s <;> cases t <;> exact .inr ⟨⟨_,rfl⟩,_,rfl⟩

theorem beq_symm {x y : Float} (equal : (x == y) = true) : (y == x) = true := by
  rw [beq_alike] at equal ⊢
  have nan : x.isNaN = y.isNaN := equal.1.nan
  exact ⟨equal.1.symm,nan ▸ equal.2⟩

theorem beq_trans {x y z : Float} (xy : (x == y) = true) (yz : (y == z) = true) :
    (x == z) = true := by
  rw [beq_alike] at xy yz ⊢
  exact ⟨xy.1.trans yz.1,xy.2⟩

theorem beq_self (x : Float) : (x == x) = true ↔ x.isNaN = false := by
  rw [beq_alike]
  exact and_iff_right (.inl rfl)

end LispCalls.Binary64
