import Mathlib.Data.List.Forall2
import LispCalls.Proofs.Messages
import LispCalls.Text.Quoted

namespace LispCalls.Text

def shortForms : List (Char × Char) :=
  [('"','"'),('\\','\\'),('\n','n'),('\r','r'),('\t','t'),('\x00','0')]

def Control (c : Char) : Prop := c.toNat ≤ 0x1F ∨ 0x7F ≤ c.toNat ∧ c.toNat ≤ 0x9F

def Ranges.Within (ranges : Ranges) (c : Char) : Prop :=
  ∃ range ∈ ranges, range.1 ≤ c.toNat ∧ c.toNat ≤ range.2

def Repertoire.Hidden (unicode : Repertoire) (c : Char) : Prop :=
  Control c ∨ 0x80 ≤ c.toNat ∧ (unicode.extending.Within c ∨ unicode.unprinted.Within c)

inductive Escaped (unicode : Repertoire) : Char → List Char → Prop where
  | short {c letter : Char} (listed : (c,letter) ∈ shortForms) : Escaped unicode c ['\\',letter]
  | code {c : Char} (unlisted : ∀ letter, (c,letter) ∉ shortForms) (hidden : unicode.Hidden c) :
      Escaped unicode c ('\\' :: 'u' :: '{' :: Nat.toDigits 16 c.toNat ++ ['}'])
  | bare {c : Char} (unlisted : ∀ letter, (c,letter) ∉ shortForms) (printed : ¬unicode.Hidden c) :
      Escaped unicode c [c]

@[simp] theorem Ranges.has_exact (ranges : Ranges) (c : Char) : ranges.has c = true ↔ ranges.Within c := by
  simp [has,Within]

@[simp] theorem isControl_exact (c : Char) : isControl c = true ↔ Control c := by
  simp only [isControl,Control,Bool.or_eq_true,Bool.and_eq_true,decide_eq_true_eq]
  omega

@[simp] theorem Repertoire.hides_exact (unicode : Repertoire) (c : Char) :
    unicode.hides c = true ↔ unicode.Hidden c := by
  simp only [hides,Hidden,Bool.or_eq_true,Bool.and_eq_true,decide_eq_true_eq,isControl_exact,
    Ranges.has_exact]

section Repertoires

variable {unicode : Repertoire}

theorem escape_exact (c : Char) : Escaped unicode c (escape unicode c) := by
  by_cases listed : ∃ letter, (c,letter) ∈ shortForms
  · obtain ⟨letter,member⟩ := listed
    have short : escape unicode c = ['\\',letter] := by
      simp only [shortForms,List.mem_cons,Prod.mk.injEq,List.not_mem_nil,or_false] at member
      rcases member with ⟨rfl,rfl⟩ | ⟨rfl,rfl⟩ | ⟨rfl,rfl⟩ | ⟨rfl,rfl⟩ | ⟨rfl,rfl⟩ | ⟨rfl,rfl⟩ <;> rfl
    rw [short]
    exact .short member
  · have unlisted : ∀ letter, (c,letter) ∉ shortForms := fun letter member => listed ⟨letter,member⟩
    have long : escape unicode c = if unicode.hides c then
        ['\\','u','{'] ++ Nat.toDigits 16 c.toNat ++ ['}'] else [c] := by
      have other (d letter : Char) (member : (d,letter) ∈ shortForms) : c ≠ d :=
        fun same => unlisted letter (same ▸ member)
      rw [escape,if_neg (other '"' '"' (by decide)),if_neg (other '\\' '\\' (by decide)),
        if_neg (other '\n' 'n' (by decide)),if_neg (other '\r' 'r' (by decide)),
        if_neg (other '\t' 't' (by decide)),if_neg (other '\x00' '0' (by decide))]
    rw [long]
    split
    · rename_i hidden
      exact .code unlisted ((unicode.hides_exact c).1 hidden)
    · rename_i printed
      exact .bare unlisted (mt (unicode.hides_exact c).2 printed)

theorem shortForms_inj {c d letter : Char} (first : (c,letter) ∈ shortForms)
    (second : (d,letter) ∈ shortForms) : c = d := by
  have single : ∀ p ∈ shortForms, ∀ q ∈ shortForms, p.2 = q.2 → p.1 = q.1 := by decide
  exact single _ first _ second rfl

theorem digitChar_inj {m n : Nat} (small : m < 16) (short : n < 16)
    (same : m.digitChar = n.digitChar) : m = n := by
  have single : ∀ m < 16, ∀ n < 16, m.digitChar = n.digitChar → m = n := by decide
  exact single m small n short same

theorem hexadecimal_inj {m n : Nat} (same : Nat.toDigits 16 m = Nat.toDigits 16 n) : m = n := by
  have longer (k : Nat) (c d : Char) : [c] ≠ Nat.toDigits 16 k ++ [d] := by
    intro single
    have whole : [] ++ [c] = Nat.toDigits 16 k ++ [d] := single
    exact Nat.toDigits_ne_nil (List.append_inj' whole rfl).1.symm
  induction m using Nat.strongRecOn generalizing n with
  | ind m ih =>
    rw [Nat.toDigits_eq_if (by decide),Nat.toDigits_eq_if (n := n) (by decide)] at same
    split at same <;> split at same
    · rename_i small short
      exact digitChar_inj small short (List.cons.inj same).1
    · exact absurd same (longer _ _ _)
    · exact absurd same.symm (longer _ _ _)
    · rename_i large _
      obtain ⟨front,last⟩ := List.append_inj' same rfl
      have high := ih (m / 16) (by omega) front
      have low := digitChar_inj (Nat.mod_lt m (by decide)) (Nat.mod_lt n (by decide))
        (List.cons.inj last).1
      omega

theorem hexadecimal_closed (n : Nat) : '}' ∉ Nat.toDigits 16 n := by
  have digit : ∀ d < 16, '}' ≠ d.digitChar := by decide
  induction n using Nat.strongRecOn with
  | ind n ih =>
    rw [Nat.toDigits_eq_if (by decide)]
    split
    · rename_i small
      rw [List.mem_singleton]
      exact digit n small
    · rename_i large
      rw [List.mem_append,List.mem_singleton]
      exact not_or.2 ⟨ih (n / 16) (by omega),digit (n % 16) (Nat.mod_lt n (by decide))⟩

namespace Escaped

variable {c d : Char} {cs ds after rest : List Char}

theorem head (escaped : Escaped unicode c cs) :
    ∃ first others, cs = first :: others ∧ first ≠ '"' := by
  cases escaped with
  | short | code => exact ⟨'\\',_,rfl,by decide⟩
  | bare unlisted =>
    refine ⟨c,_,rfl,?_⟩
    rintro rfl
    exact unlisted '"' (by decide)

theorem short_letter {letter : Char} (listed : (c,letter) ∈ shortForms) : letter ≠ 'u' := by
  have other : ∀ p ∈ shortForms, p.2 ≠ 'u' := by decide
  exact other _ listed

theorem unlisted_plain (unlisted : ∀ letter, (c,letter) ∉ shortForms) : c ≠ '\\' := by
  rintro rfl
  exact unlisted '\\' (by decide)

theorem cut (first : Escaped unicode c cs) (second : Escaped unicode d ds)
    (same : cs ++ after = ds ++ rest) : c = d ∧ after = rest := by
  cases first with
  | short listed =>
    cases second with
    | short twin =>
      cases same
      exact ⟨shortForms_inj listed twin,rfl⟩
    | code => exact absurd (List.cons.inj (List.cons.inj same).2).1 (short_letter listed)
    | bare unlisted => exact absurd (List.cons.inj same).1.symm (unlisted_plain unlisted)
  | code =>
    cases second with
    | short twin => exact absurd (List.cons.inj (List.cons.inj same).2).1.symm (short_letter twin)
    | code =>
      simp only [List.cons_append,List.append_assoc,List.nil_append,List.cons.injEq,true_and] at same
      obtain ⟨codes,later⟩ := firstCut_inj same (hexadecimal_closed _) (hexadecimal_closed _)
      exact ⟨Char.toNat_inj.1 (hexadecimal_inj codes),later⟩
    | bare unlisted => exact absurd (List.cons.inj same).1.symm (unlisted_plain unlisted)
  | bare unlisted =>
    cases second with
    | short | code => exact absurd (List.cons.inj same).1 (unlisted_plain unlisted)
    | bare =>
      cases same
      exact ⟨rfl,rfl⟩

end Escaped

-- The first bare quote ends a text, whatever the text is and whatever follows it.
theorem escaped_cut {cs ds after rest : List Char} {texts twins : List (List Char)}
    (first : List.Forall₂ (Escaped unicode) cs texts)
    (second : List.Forall₂ (Escaped unicode) ds twins)
    (same : texts.flatten ++ '"' :: after = twins.flatten ++ '"' :: rest) :
    cs = ds ∧ after = rest := by
  induction first generalizing ds twins with
  | nil =>
    cases second with
    | nil => exact ⟨rfl,(List.cons.inj same).2⟩
    | cons head =>
      obtain ⟨c,others,written,bare⟩ := head.head
      rw [written] at same
      exact absurd (List.cons.inj same).1.symm bare
  | cons head _ ih =>
    cases second with
    | nil =>
      obtain ⟨c,others,written,bare⟩ := head.head
      rw [written] at same
      exact absurd (List.cons.inj same).1 bare
    | cons twin later =>
      simp only [List.flatten_cons,List.append_assoc] at same
      obtain ⟨rfl,between⟩ := head.cut twin same
      obtain ⟨rfl,ends⟩ := ih later between
      exact ⟨rfl,ends⟩

theorem escapes_exact (cs : List Char) :
    ∃ texts, List.Forall₂ (Escaped unicode) cs texts ∧ escapes unicode cs = texts.flatten := by
  refine ⟨cs.map (escape unicode),?_,List.flatMap_def⟩
  rw [List.forall₂_map_right_iff]
  exact List.forall₂_same.2 fun c _ => escape_exact c

-- An accent and a blank that is no blank of ASCII.
example : escapes .unicode ['e','\u0301','\u00A0'] =
    "e\\u\x7b301\x7d\\u\x7ba0\x7d".toList := by decide +kernel

@[simp] theorem quoted_text (s : String) :
    (quoted unicode s).toList = '"' :: (escapes unicode s.toList ++ ['"']) := by
  simp [quoted]

theorem quoted_cut {s t : String} {after rest : List Char}
    (same : (quoted unicode s).toList ++ after = (quoted unicode t).toList ++ rest) :
    s = t ∧ after = rest := by
  obtain ⟨texts,first,written⟩ := @escapes_exact unicode s.toList
  obtain ⟨twins,second,other⟩ := @escapes_exact unicode t.toList
  simp only [quoted_text,written,other,List.cons_append,List.append_assoc,List.nil_append,
    List.cons.injEq,true_and] at same
  obtain ⟨contents,later⟩ := escaped_cut first second same
  exact ⟨String.toList_inj.1 contents,later⟩

end Repertoires

end LispCalls.Text
