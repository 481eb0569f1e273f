import LispCalls.Decimal.Layout
import LispCalls.Proofs.Decimal.Rounding
import LispCalls.Proofs.Messages

namespace LispCalls

namespace Text

def before (c : Char) (cs : List Char) : List Char := cs.takeWhile (· != c)
def after (c : Char) (cs : List Char) : List Char := (cs.dropWhile (· != c)).tail

section Cuts

variable {c : Char} {front : List Char}

theorem others (unbroken : c ∉ front) : ∀ d ∈ front, (d != c) = true := by
  intro d member
  rw [bne_iff_ne]
  rintro rfl
  exact unbroken member

theorem before_mark (unbroken : c ∉ front) (rest : List Char) :
    before c (front ++ c :: rest) = front := by
  rw [before,List.takeWhile_append_of_pos (others unbroken)]
  simp

theorem after_mark (unbroken : c ∉ front) (rest : List Char) :
    after c (front ++ c :: rest) = rest := by
  rw [after,List.dropWhile_append_of_pos (others unbroken)]
  simp

theorem before_none (unbroken : c ∉ front) : before c front = front :=
  List.takeWhile_eq_self_iff.2 (others unbroken)

theorem after_none (unbroken : c ∉ front) : after c front = [] := by
  rw [after,List.dropWhile_eq_nil_iff.2 (others unbroken)]
  rfl

end Cuts

end Text

namespace Numeral

def natural (cs : List Char) : Nat := Nat.ofDigitChars 10 cs 0

def integer : List Char → Int
  | '-' :: cs => -natural cs
  | cs => natural cs

def fixed (cs : List Char) : ℚ :=
  natural (Text.before '.' cs ++ Text.after '.' cs) / 10 ^ (Text.after '.' cs).length

def read (cs : List Char) : ℚ := fixed (Text.before 'e' cs) * 10 ^ integer (Text.after 'e' cs)

@[simp] theorem natural_digits (n : Nat) : natural (Nat.toDigits 10 n) = n := Nat.ofDigitChars_ten_toDigits

@[simp] theorem natural_padded (places : Nat) (cs : List Char) :
    natural (List.replicate places '0' ++ cs) = natural cs := by
  rw [natural,Nat.ofDigitChars_append,Nat.ofDigitChars_replicate_zero]
  rfl

@[simp] theorem natural_shifted (cs : List Char) (places : Nat) :
    natural (cs ++ List.replicate places '0') = natural cs * 10 ^ places := by
  rw [natural,Nat.ofDigitChars_append,Nat.ofDigitChars_replicate_zero,Nat.mul_comm]
  rfl

theorem integer_unsigned {cs : List Char} (unsigned : '-' ∉ cs) : integer cs = natural cs := by
  unfold integer
  split
  · exact absurd List.mem_cons_self unsigned
  · rfl

@[simp] theorem integer_text (i : Int) : integer (toString i).toList = i := by
  cases i with
  | ofNat n =>
    change integer (toString n).toList = n
    rw [integer_unsigned (Text.digits_free rfl n),Nat.toString_eq_repr,Nat.toList_repr,
      natural_digits]
  | negSucc n =>
    have written : (toString (Int.negSucc n)).toList = '-' :: Nat.toDigits 10 (n + 1) := by
      change ("-" ++ Nat.repr (n + 1)).toList = _
      rw [String.toList_append,Nat.toList_repr]
      rfl
    rw [written,integer,natural_digits]
    rfl

theorem fixed_whole {cs : List Char} (unbroken : '.' ∉ cs) : fixed cs = natural cs := by
  rw [fixed,Text.before_none unbroken,Text.after_none unbroken]
  simp

theorem fixed_point {front : List Char} (unbroken : '.' ∉ front) (places : List Char) :
    fixed (front ++ '.' :: places) = natural (front ++ places) / 10 ^ places.length := by
  rw [fixed,Text.before_mark unbroken,Text.after_mark unbroken]

theorem read_fixed {cs : List Char} (unscaled : 'e' ∉ cs) : read cs = fixed cs := by
  rw [read,Text.before_none unscaled,Text.after_none unscaled]
  exact mul_one _

theorem read_scaled {front : List Char} (unscaled : 'e' ∉ front) (exponent : List Char) :
    read (front ++ 'e' :: exponent) = fixed front * 10 ^ integer exponent := by
  rw [read,Text.before_mark unscaled,Text.after_mark unscaled]

end Numeral

namespace Decimal

@[simp] theorem digits_natural (d : Decimal) : Numeral.natural d.digits = d.coefficient :=
  Numeral.natural_digits d.coefficient

@[simp] theorem digits_ne_nil (d : Decimal) : d.digits ≠ [] := Nat.toDigits_ne_nil

end Decimal

namespace Layout

def Neutral (layout : Layout) : Prop :=
  layout.whole = [] ∨ ∃ zeros, layout.whole = '.' :: List.replicate zeros '0'

def Digits (cs : List Char) : Prop := ∀ c ∈ cs, c.isDigit = true

namespace Digits

variable {cs ds : List Char}

theorem free (digits : Digits cs) {c : Char} (other : c.isDigit = false) : c ∉ cs := by
  intro member
  rw [digits c member] at other
  cases other

theorem append (first : Digits cs) (second : Digits ds) : Digits (cs ++ ds) := by
  intro c member
  exact (List.mem_append.1 member).elim (first c) (second c)

theorem zeros (n : Nat) : Digits (List.replicate n '0') := by
  intro c member
  rw [List.eq_of_mem_replicate member]
  rfl

theorem coefficient (d : Decimal) : Digits d.digits :=
  fun _ => Nat.isDigit_of_mem_toDigits (by decide) (Nat.le_refl 10)

theorem sublist (digits : Digits cs) (less : ds.Sublist cs) : Digits ds :=
  fun c member => digits c (less.subset member)

theorem fixed_free (first : Digits cs) (second : Digits ds) : 'e' ∉ cs ++ '.' :: ds := by
  rw [List.mem_append,List.mem_cons]
  exact fun member => member.elim (first.free rfl) fun later =>
    later.elim (by decide) (second.free rfl)

end Digits

-- The digits of a decimal around its point, with no more zeros ahead of them than put a digit in
-- front of it.
structure Pointed (d : Decimal) (front places : List Char) : Prop where
  exponent : d.exponent = -(places.length : ℤ)
  starts : front ≠ []
  ahead : Digits front
  behind : Digits places
  padded : ∃ zeros, front ++ places = List.replicate zeros '0' ++ d.digits ∧
    (zeros = 0 ∨ front.length = 1)

theorem positional_whole (layout : Layout) {d : Decimal} (whole : 0 ≤ d.exponent) :
    layout.positional d =
      d.digits ++ List.replicate d.exponent.toNat '0' ++ layout.whole := if_pos whole

theorem positional_pointed (layout : Layout) {d : Decimal} (part : ¬0 ≤ d.exponent) :
    ∃ front places, layout.positional d = front ++ '.' :: places ∧ Pointed d front places := by
  let places := (-d.exponent).toNat
  let padded := List.replicate (places + 1 - d.digits.length) '0' ++ d.digits
  let front := padded.length - places
  have digits : Digits padded := (Digits.zeros _).append (Digits.coefficient d)
  have length : padded.length = places + 1 - d.digits.length + d.digits.length := by
    rw [List.length_append,List.length_replicate]
  have ahead : (padded.take front).length = front := by
    rw [List.length_take]
    omega
  have behind : (padded.drop front).length = places := by
    rw [List.length_drop]
    omega
  refine ⟨padded.take front,padded.drop front,if_neg part,?_,?_,?_,?_,_,List.take_append_drop ..,?_⟩
  · rw [behind,Int.toNat_of_nonneg (by omega),neg_neg]
  · apply List.ne_nil_of_length_pos
    omega
  · exact digits.sublist (List.take_sublist front padded)
  · exact digits.sublist (List.drop_sublist front padded)
  · omega

theorem Pointed.counted {d : Decimal} {front places : List Char} (pointed : Pointed d front places) :
    Numeral.natural (front ++ places) = d.coefficient := by
  obtain ⟨zeros,padded,-⟩ := pointed.padded
  simp [padded]

theorem Pointed.read {d : Decimal} {front places : List Char} (pointed : Pointed d front places) :
    Numeral.read (front ++ '.' :: places) = d.value := by
  rw [Numeral.read_fixed (pointed.ahead.fixed_free pointed.behind),
    Numeral.fixed_point (pointed.ahead.free rfl),pointed.counted,Decimal.value,pointed.exponent,
    zpow_neg,zpow_natCast,div_eq_mul_inv]

theorem positional_read {layout : Layout} (neutral : layout.Neutral) (d : Decimal) :
    Numeral.read (layout.positional d) = d.value := by
  by_cases whole : 0 ≤ d.exponent
  · obtain ⟨places,exponent⟩ := Int.eq_ofNat_of_zero_le whole
    have shifted := (Digits.coefficient d).append (.zeros places)
    rw [layout.positional_whole whole,Decimal.value,exponent,Int.toNat_natCast,zpow_natCast]
    rcases neutral with none | ⟨zeros,point⟩
    · rw [none,List.append_nil,Numeral.read_fixed (shifted.free rfl),
        Numeral.fixed_whole (shifted.free rfl),Numeral.natural_shifted,d.digits_natural]
      push_cast
      rfl
    · rw [point,Numeral.read_fixed (shifted.fixed_free (.zeros zeros)),
        Numeral.fixed_point (shifted.free rfl),Numeral.natural_shifted,Numeral.natural_shifted,
        d.digits_natural,List.length_replicate]
      push_cast
      field_simp
  · obtain ⟨front,places,written,pointed⟩ := layout.positional_pointed whole
    rw [written]
    exact pointed.read

theorem exponential_read (d : Decimal) : Numeral.read (exponential d) = d.value := by
  have digits := Digits.coefficient d
  have some : 0 < d.digits.length := List.length_pos_of_ne_nil d.digits_ne_nil
  have first := digits.sublist (List.take_sublist 1 d.digits)
  have later := digits.sublist (List.drop_sublist 1 d.digits)
  unfold exponential Decimal.value Decimal.leading
  by_cases single : d.digits.length = 1
  · have all : d.digits.take 1 ++ [] ++ d.digits.drop 1 = d.digits := by
      rw [List.append_nil,List.take_append_drop]
    simp only [single,if_true]
    rw [all,Numeral.read_scaled (digits.free rfl),Numeral.fixed_whole (digits.free rfl),
      d.digits_natural,Numeral.integer_text]
    norm_num
  · have point : d.digits.take 1 ++ ['.'] ++ d.digits.drop 1 =
        d.digits.take 1 ++ '.' :: d.digits.drop 1 := by simp
    have places : (d.digits.drop 1).length = d.digits.length - 1 := List.length_drop
    have split : d.exponent + d.digits.length - 1 =
        d.exponent + ((d.digits.length - 1 : ℕ) : ℤ) := by omega
    simp only [single,if_false]
    rw [point,Numeral.read_scaled (first.fixed_free later),Numeral.fixed_point (first.free rfl),
      List.take_append_drop,d.digits_natural,places,Numeral.integer_text,split,
      zpow_add₀ (by norm_num),zpow_natCast]
    field_simp

theorem decimal_read {layout : Layout} (neutral : layout.Neutral) (d : Decimal) :
    Numeral.read (layout.decimal d) = d.value := by
  unfold decimal
  split
  · exact exponential_read d
  · exact positional_read neutral d

theorem decimal_head (layout : Layout) (d : Decimal) :
    ∃ c rest, layout.decimal d = c :: rest ∧ c.isDigit = true := by
  obtain ⟨first,others,written⟩ := List.exists_cons_of_ne_nil d.digits_ne_nil
  have digit : first.isDigit = true := Digits.coefficient d first (written ▸ List.mem_cons_self)
  unfold decimal
  split
  · rw [exponential,written]
    exact ⟨first,_,rfl,digit⟩
  · by_cases whole : 0 ≤ d.exponent
    · rw [layout.positional_whole whole,written]
      exact ⟨first,_,rfl,digit⟩
    · obtain ⟨front,places,text,pointed⟩ := layout.positional_pointed whole
      obtain ⟨c,rest,begins⟩ := List.exists_cons_of_ne_nil pointed.starts
      rw [text,begins]
      exact ⟨c,_,rfl,pointed.ahead c (begins ▸ List.mem_cons_self)⟩

end Layout

namespace Magnitude

def decimal? : Magnitude → Option Decimal
  | .nan | .infinite => none
  | .zero => some ⟨0,0⟩
  | .binary significand exponent narrow =>
    some (Rounding.ofBinary significand exponent narrow).shortest

def Held (m : Magnitude) : Prop := ∀ significand exponent narrow,
  m = .binary significand exponent narrow → Canonical significand exponent narrow

theorem decimal_inj {m n : Magnitude} (first : m.Held) (second : n.Held) {d e : Decimal}
    (written : m.decimal? = some d) (other : n.decimal? = some e) (same : d.value = e.value) :
    m = n := by
  have zero : (⟨0,0⟩ : Decimal).value = 0 := by simp [Decimal.value]
  cases m with
  | nan | infinite => cases written
  | zero =>
    cases written
    cases n with
    | nan | infinite => cases other
    | zero => rfl
    | binary significand exponent narrow =>
      cases other
      have counts := (second _ _ _ rfl).positive
      have positive := (shortest_around exponent narrow counts).positive counts
      rw [← same,zero] at positive
      exact absurd positive (lt_irrefl 0)
  | binary significand exponent narrow =>
    cases written
    have canonical := first _ _ _ rfl
    have around := shortest_around exponent narrow canonical.positive
    cases n with
    | nan | infinite => cases other
    | zero =>
      cases other
      have positive := around.positive canonical.positive
      rw [same,zero] at positive
      exact absurd positive (lt_irrefl 0)
    | binary another scale tight =>
      cases other
      have form := second _ _ _ rfl
      have also := shortest_around scale tight form.positive
      rw [← same] at also
      exact around.unique canonical form also

end Magnitude

namespace Layout

variable {layout : Layout}

theorem magnitude_decimal {m : Magnitude} {d : Decimal} (written : m.decimal? = some d) :
    layout.magnitude m = layout.decimal d := by
  cases m <;> cases written <;> rfl

theorem magnitude_word {m : Magnitude} (word : m.decimal? = none) :
    m = .nan ∨ m = .infinite := by
  cases m with
  | nan => exact .inl rfl
  | infinite => exact .inr rfl
  | zero | binary => cases word

theorem magnitude_head (m : Magnitude) :
    ∃ c rest, layout.magnitude m = c :: rest ∧
      (c.isDigit = true ↔ m.decimal?.isSome = true) ∧ c ≠ '-' := by
  cases written : m.decimal? with
  | none =>
    rcases magnitude_word written with rfl | rfl
    · exact ⟨'N',_,rfl,by decide,by decide⟩
    · exact ⟨'i',_,rfl,by decide,by decide⟩
  | some d =>
    obtain ⟨c,rest,text,digit⟩ := layout.decimal_head d
    refine ⟨c,rest,(magnitude_decimal written).trans text,iff_of_true digit rfl,?_⟩
    rintro rfl
    cases digit

theorem magnitude_inj (neutral : layout.Neutral) {m n : Magnitude} (first : m.Held)
    (second : n.Held) (same : layout.magnitude m = layout.magnitude n) : m = n := by
  obtain ⟨c,rest,text,kind,-⟩ := layout.magnitude_head m
  obtain ⟨d,others,twin,other,-⟩ := layout.magnitude_head n
  rw [text,twin] at same
  cases (List.cons.inj same).1
  cases written : m.decimal? with
  | none =>
    have word : n.decimal? = none := by
      rw [← Option.not_isSome_iff_eq_none,← other,kind,written]
      exact Bool.false_ne_true
    rw [← text,← twin] at same
    rcases magnitude_word written with rfl | rfl <;> rcases magnitude_word word with rfl | rfl
    · rfl
    · cases same
    · cases same
    · rfl
  | some value =>
    obtain ⟨twinned,found⟩ : ∃ twinned, n.decimal? = some twinned := by
      rw [← Option.isSome_iff_exists,← other,kind,written]
      rfl
    rw [← text,← twin,magnitude_decimal written,magnitude_decimal found] at same
    refine Magnitude.decimal_inj first second written found ?_
    rw [← decimal_read neutral,same,decimal_read neutral]

theorem signed_inj (neutral : layout.Neutral) {x y : Signed} (first : x.magnitude.Held)
    (second : y.magnitude.Held) (same : layout.signed x = layout.signed y) :
    x.magnitude = y.magnitude ∧ (x.magnitude ≠ .nan → x.negative = y.negative) := by
  obtain ⟨c,rest,text,-,unsigned⟩ := layout.magnitude_head x.magnitude
  obtain ⟨d,others,twin,-,plain⟩ := layout.magnitude_head y.magnitude
  unfold signed at same
  split at same <;> split at same
  · rename_i negative also
    have magnitudes := magnitude_inj neutral first second (List.cons.inj same).2
    exact ⟨magnitudes,fun _ => negative.1.trans also.1.symm⟩
  · rw [twin] at same
    exact absurd (List.cons.inj same).1.symm plain
  · rw [text] at same
    exact absurd (List.cons.inj same).1 unsigned
  · rename_i positive also
    have magnitudes := magnitude_inj neutral first second same
    refine ⟨magnitudes,fun number => ?_⟩
    rw [← magnitudes] at also
    have sign : ¬x.negative = true := fun negative => positive ⟨negative,number⟩
    have other : ¬y.negative = true := fun negative => also ⟨negative,number⟩
    rw [Bool.not_eq_true] at sign other
    exact sign.trans other.symm

-- Different numbers have different texts. There is one NaN only.
theorem float_inj (neutral : layout.Neutral) {x y : Float}
    (same : layout.float x = layout.float y) : x = y := by
  have lists : layout.signed (.ofFloat x) = layout.signed (.ofFloat y) := String.ofList_inj.1 same
  obtain ⟨magnitudes,signs⟩ := signed_inj neutral (fun _ _ _ => Signed.ofFloat_canonical)
    (fun _ _ _ => Signed.ofFloat_canonical) lists
  by_cases number : (Signed.ofFloat x).magnitude = .nan
  · exact Signed.nan_inj number (magnitudes ▸ number)
  · apply Signed.ofFloat_inj
    cases first : Signed.ofFloat x
    cases second : Signed.ofFloat y
    rw [first,second] at magnitudes signs
    rw [first] at number
    cases magnitudes
    cases signs number
    rfl

end Layout
namespace Numeral

def uses (c : Char) : Bool := c.isDigit || ['-','.','e','i','n','f','N','a'].contains c

end Numeral

namespace Layout

theorem Digits.used {cs : List Char} (digits : Digits cs) : cs.all Numeral.uses = true := by
  rw [List.all_eq_true]
  intro c member
  rw [Numeral.uses,digits c member,Bool.true_or]

variable {layout : Layout}

theorem positional_used (neutral : layout.Neutral) (d : Decimal) :
    (layout.positional d).all Numeral.uses = true := by
  have point : Numeral.uses '.' = true := rfl
  have whole : layout.whole.all Numeral.uses = true := by
    rcases neutral with none | ⟨zeros,written⟩
    · rw [none]
      rfl
    · rw [written,List.all_cons,point,(Digits.zeros zeros).used]
      rfl
  by_cases integral : 0 ≤ d.exponent
  · rw [layout.positional_whole integral,List.all_append,whole,
      ((Digits.coefficient d).append (.zeros _)).used]
    rfl
  · obtain ⟨front,places,written,pointed⟩ := layout.positional_pointed integral
    rw [written,List.all_append,List.all_cons,point,pointed.ahead.used,pointed.behind.used]
    rfl

theorem exponential_used (d : Decimal) : (exponential d).all Numeral.uses = true := by
  have digits := Digits.coefficient d
  have first := digits.sublist (List.take_sublist 1 d.digits)
  have later := digits.sublist (List.drop_sublist 1 d.digits)
  have power : (toString d.leading).toList.all Numeral.uses = true := by
    cases d.leading with
    | ofNat n => exact Digits.used fun c => Text.digits_isDigit
    | negSucc n =>
      change ("-" ++ toString (n + 1)).toList.all Numeral.uses = true
      rw [String.toList_append,List.all_append,Digits.used fun c => Text.digits_isDigit]
      rfl
  unfold exponential
  simp only [List.all_append,List.all_cons,first.used,later.used,power]
  split <;> rfl

theorem float_used (neutral : layout.Neutral) (x : Float) :
    (layout.float x).toList.all Numeral.uses = true := by
  have decimal (d : Decimal) : (layout.decimal d).all Numeral.uses = true := by
    unfold decimal
    split
    · exact exponential_used d
    · exact positional_used neutral d
  have magnitude (m : Magnitude) : (layout.magnitude m).all Numeral.uses = true := by
    cases m with
    | nan | infinite => rfl
    | zero | binary => exact decimal _
  rw [float,String.toList_ofList,signed]
  split
  · rw [List.all_cons,magnitude]
    rfl
  · exact magnitude _

theorem float_ne_empty (x : Float) : (layout.float x).toList ≠ [] := by
  obtain ⟨c,rest,text,-,-⟩ := layout.magnitude_head (Signed.ofFloat x).magnitude
  rw [float,String.toList_ofList,signed,text]
  split <;> exact List.cons_ne_nil _ _

end Layout
end LispCalls
