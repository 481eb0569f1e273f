import Mathlib

namespace LispCalls.Binary64

open Float.Model Float.Model.UnpackedFloat

abbrev Bits := BitVec Format.binary64.numBits

theorem sign_bit (v : BitVec 1) : (Sign.ofBitVec v).toBitVec = v := by
  rcases BitVec.eq_zero_or_eq_one v with rfl | rfl <;> rfl

theorem fields_bits (b : Bits) :
    packComponents .binary64 (Sign.ofBitVec (unpackSign b)) (unpackExponent b) (unpackMantissa b) =
      b := by
  have sign : unpackSign b = b.extractLsb' 63 1 := rfl
  have exponent : unpackExponent b = b.extractLsb' 52 11 := rfl
  have mantissa : unpackMantissa b = b.extractLsb' 0 52 := rfl
  rw [packComponents,sign_bit,sign,exponent,mantissa]
  have upper : b.extractLsb' 63 1 ++ b.extractLsb' 52 11 = b.extractLsb' 52 (1 + 11) :=
    BitVec.extractLsb'_append_extractLsb'_eq_extractLsb' rfl
  have whole : b.extractLsb' 52 (1 + 11) ++ b.extractLsb' 0 52 = b.extractLsb' 0 (1 + 11 + 52) :=
    BitVec.extractLsb'_append_extractLsb'_eq_extractLsb' rfl
  exact (congrArg (· ++ b.extractLsb' 0 52) upper).trans (whole.trans BitVec.extractLsb'_eq_self)

theorem hidden_bit (m : BitVec 52) : (1#1 ++ m).toNat = 2 ^ 52 + m.toNat := by
  rw [BitVec.toNat_append,← Nat.shiftLeft_add_eq_or_of_lt m.isLt]
  rfl

theorem log2_normal {m : Nat} (low : 2 ^ 52 ≤ m) (high : m < 2 ^ 53) : m.log2 = 52 :=
  (Nat.log2_eq_iff (by omega)).2 ⟨low,high⟩

theorem pack_subnormal (s : Sign) (m : BitVec 52) (positive : 0 < m.toNat) :
    UnpackedFloat.pack .binary64 (.finite s m.toNat (-1074) positive) =
      packComponents .binary64 s 0#11 m := by
  have short : m.toNat.log2 < 52 := (Nat.log2_lt (by omega)).2 m.isLt
  have notNormal : m.toNat.log2 + 1 ≠ Format.binary64.mantissaBits := by
    change m.toNat.log2 + 1 ≠ 53
    omega
  unfold UnpackedFloat.pack
  simp only [if_neg notNormal]
  rw [if_neg (by decide),BitVec.ofNat_toNat,BitVec.setWidth_eq]

theorem pack_normal (s : Sign) (e : BitVec 11) (m : BitVec 52) (positive : 0 < (1#1 ++ m).toNat)
    (notTop : e ≠ -1#11) :
    UnpackedFloat.pack .binary64 (.finite s (1#1 ++ m).toNat ((e.toNat : Int) - 1075) positive) =
      packComponents .binary64 s e m := by
  have size := hidden_bit m
  have normal : (1#1 ++ m).toNat.log2 + 1 = Format.binary64.mantissaBits := by
    rw [log2_normal (by omega) (by omega)]
    rfl
  have biased : ((e.toNat : Int) - 1075 + Format.binary64.exponentBias +
      Format.binary64.mantissaBitsWithoutImplicit).toNat = e.toNat := by
    change ((e.toNat : Int) - 1075 + 1023 + 52).toNat = e.toNat
    omega
  have belowTop : e.toNat ≠ 2047 := fun top => notTop (BitVec.eq_of_toNat_eq top)
  unfold UnpackedFloat.pack
  simp only [biased,if_pos normal]
  have fits : ¬2 ^ Format.binary64.exponentBits ≤ e.toNat + 1 := by
    change ¬2048 ≤ e.toNat + 1
    have := e.isLt
    omega
  rw [if_neg fits]
  congr 1
  · rw [BitVec.ofNat_toNat,BitVec.setWidth_eq]
  · apply BitVec.eq_of_toNat_eq
    rw [BitVec.toNat_ofNat,size]
    exact (Nat.add_mod_left _ _).trans (Nat.mod_eq_of_lt m.isLt)

-- The form in which a word holds the significand and the exponent of a finite number that is not
-- zero: below the lowest exponent there is no hidden bit to give up.
structure Held (m : Nat) (e : Int) : Prop where
  positive : 0 < m
  fits : m < 2 ^ 53
  lowest : -1074 ≤ e
  hidden : -1074 < e → 2 ^ 52 ≤ m

theorem unpack_held {b : Bits} {s : Sign} {m : Nat} {e : Int} {positive : 0 < m}
    (number : UnpackedFloat.unpack .binary64 b = .finite s m e positive) : Held m e := by
  unfold UnpackedFloat.unpack at number
  by_cases top : unpackExponent b = -1#11
  · rw [if_pos top] at number
    split at number <;> cases number
  · rw [if_neg top] at number
    by_cases bottom : unpackExponent b = 0#11
    · rw [if_pos bottom] at number
      split at number
      · cases number
      · have short := (unpackMantissa b).isLt
        change (unpackMantissa b).toNat < 2 ^ 52 at short
        cases number
        rw [bottom]
        exact ⟨positive,by omega,by decide,fun above => absurd above (by decide)⟩
    · rw [if_neg bottom] at number
      have biased : (unpackExponent b).toNat ≠ 0 := fun zero => bottom (BitVec.eq_of_toNat_eq zero)
      have size := hidden_bit (unpackMantissa b)
      have short := (unpackMantissa b).isLt
      change (unpackMantissa b).toNat < 2 ^ 52 at short
      cases number
      refine ⟨positive,?_,?_,fun _ => ?_⟩
      · omega
      · change -1074 ≤ ((unpackExponent b).toNat : Int) - 1075
        omega
      · omega

-- Packing undoes unpacking, but for a NaN that is not the one that stands for them all.
theorem pack_unpack {b : Bits} (valid : Format.binary64.Valid b) :
    UnpackedFloat.pack .binary64 (UnpackedFloat.unpack .binary64 b) = b := by
  have whole := fields_bits b
  unfold UnpackedFloat.unpack
  by_cases top : unpackExponent b = -1#11
  · rw [if_pos top]
    by_cases empty : unpackMantissa b = 0#52
    · rw [if_pos empty]
      rwa [top,empty] at whole
    · rw [if_neg empty]
      exact (valid.eq_packedNaN top empty).symm
  · rw [if_neg top]
    by_cases bottom : unpackExponent b = 0#11
    · rw [if_pos bottom]
      by_cases empty : unpackMantissa b = 0#52
      · rw [dif_pos empty]
        rwa [bottom,empty] at whole
      · rw [dif_neg empty,bottom]
        rw [bottom] at whole
        exact (pack_subnormal _ _ _).trans whole
    · rw [if_neg bottom]
      exact (pack_normal _ _ _ _ top).trans whole

theorem unpackSign_components (s : Sign) (e : BitVec 11) (m : BitVec 52) :
    Sign.ofBitVec (unpackSign (packComponents .binary64 s e m)) = s := by
  have front : unpackSign (packComponents .binary64 s e m) = s.toBitVec := by
    change (s.toBitVec ++ e ++ m).extractLsb' 63 1 = s.toBitVec
    rw [BitVec.extractLsb'_append_eq_of_le (by decide),BitVec.extractLsb'_append_eq_of_le (by decide)]
    exact BitVec.extractLsb'_eq_self
  rw [front]
  cases s <;> rfl

theorem unpack_subnormal (s : Sign) (m : BitVec 52) (positive : 0 < m.toNat) :
    UnpackedFloat.unpack .binary64 (packComponents .binary64 s 0#11 m) =
      .finite s m.toNat (-1074) positive := by
  have filled : m ≠ 0#52 := by
    rintro rfl
    exact Nat.lt_irrefl 0 positive
  have bottom : (0#11 : BitVec 11) ≠ -1#11 := by decide
  unfold UnpackedFloat.unpack
  simp only [unpackMantissa_packComponents,unpackExponent_packComponents,unpackSign_components]
  rw [if_neg bottom,if_pos trivial,dif_neg filled]
  rfl

theorem unpack_normal (s : Sign) (e : BitVec 11) (m : BitVec 52) (positive : 0 < (1#1 ++ m).toNat)
    (notBottom : e ≠ 0#11) (notTop : e ≠ -1#11) :
    UnpackedFloat.unpack .binary64 (packComponents .binary64 s e m) =
      .finite s (1#1 ++ m).toNat ((e.toNat : Int) - 1075) positive := by
  unfold UnpackedFloat.unpack
  simp only [unpackMantissa_packComponents,unpackExponent_packComponents,unpackSign_components]
  rw [if_neg notTop,if_neg notBottom]
  rfl

theorem unpack_pack (s : Sign) {m : Nat} {e : Int} (held : Held m e) (small : e ≤ 971) :
    UnpackedFloat.unpack .binary64 (UnpackedFloat.pack .binary64 (.finite s m e held.positive)) =
      .finite s m e held.positive := by
  have positive := held.positive
  have fits := held.fits
  have lowest := held.lowest
  rcases Nat.lt_or_ge m (2 ^ 52) with subnormal | normal
  · obtain ⟨v,rfl⟩ : ∃ v : BitVec 52, m = v.toNat :=
      ⟨BitVec.ofNat 52 m,by rw [BitVec.toNat_ofNat,Nat.mod_eq_of_lt subnormal]⟩
    have bottom : e = -1074 := by
      by_contra other
      have := held.hidden (by omega)
      omega
    subst bottom
    rw [pack_subnormal s v positive]
    exact unpack_subnormal s v positive
  · obtain ⟨v,rfl⟩ : ∃ v : BitVec 52, m = (1#1 ++ v).toNat := by
      refine ⟨BitVec.ofNat 52 (m - 2 ^ 52),?_⟩
      rw [hidden_bit,BitVec.toNat_ofNat,Nat.mod_eq_of_lt (by omega)]
      omega
    obtain ⟨b,biased⟩ : ∃ b : BitVec 11, (b.toNat : Int) = e + 1075 := by
      refine ⟨BitVec.ofNat 11 (e + 1075).toNat,?_⟩
      rw [BitVec.toNat_ofNat,Nat.mod_eq_of_lt (by omega)]
      omega
    obtain rfl : e = (b.toNat : Int) - 1075 := by omega
    have notBottom : b ≠ 0#11 := by
      rintro rfl
      simp at lowest
    have notTop : b ≠ -1#11 := by
      rintro rfl
      simp at small
    rw [pack_normal s b v positive notTop]
    exact unpack_normal s b v positive notBottom notTop

def parts (x : Float) : UnpackedFloat := x.toModel.unpack

def ofParts (u : UnpackedFloat) : Float := .ofModel (.pack u)

@[simp] theorem ofParts_parts (x : Float) : ofParts (parts x) = x := by
  obtain ⟨⟨bits,valid⟩⟩ := x
  unfold ofParts parts Float.Model.pack Float.Model.unpack
  simp only [pack_unpack valid]

theorem ofParts_eq {u : UnpackedFloat} {x : Float} (same : u = parts x) : ofParts u = x := by
  simp [same]

theorem parts_inj {x y : Float} (same : parts x = parts y) : x = y := by
  rw [← ofParts_parts x,same,ofParts_parts]

theorem parts_held {x : Float} {s : Sign} {m : Nat} {e : Int} {positive : 0 < m}
    (number : parts x = .finite s m e positive) : Held m e := unpack_held number

theorem parts_ofParts (s : Sign) {m : Nat} {e : Int} (held : Held m e) (small : e ≤ 971) :
    parts (ofParts (.finite s m e held.positive)) = .finite s m e held.positive :=
  unpack_pack s held small

theorem beq_zero_iff (x : Float) : (x == 0.0) = true ↔ x = 0.0 ∨ x = -0.0 := by
  constructor
  · intro equal
    have compared : ((parts x).compare (.zero .positive) == some .eq) = true := equal
    cases number : parts x with
    | notANumber => simp [number,UnpackedFloat.compare] at compared
    | infinity s => cases s <;> simp [number,UnpackedFloat.compare] at compared
    | finite s => cases s <;> simp [number,UnpackedFloat.compare] at compared
    | zero s =>
      cases s with
      | positive => exact .inl (parts_inj number)
      | negative => exact .inr (parts_inj number)
  · rintro (rfl | rfl) <;> rfl

end LispCalls.Binary64
