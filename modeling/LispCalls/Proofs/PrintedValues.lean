import LispCalls.Proofs.Decimal.Numerals
import LispCalls.Proofs.Equality
import LispCalls.Proofs.Separated
import LispCalls.Value.Text

namespace LispCalls

theorem plainNumber_neutral : plainNumber.Neutral := .inl rfl

namespace Text

def Ends (cs : List Char) : Prop := ∀ c rest, cs = c :: rest → c = ' ' ∨ c = ')'

def Unbroken (cs : List Char) : Prop := ' ' ∉ cs ∧ ')' ∉ cs

theorem word_longer {front between after rest : List Char} (ends : Ends after)
    (same : after = between ++ rest) (unbroken : Unbroken (front ++ between)) : between = [] := by
  cases between with
  | nil => rfl
  | cons c others =>
    have within : c ∈ front ++ c :: others := List.mem_append_right _ List.mem_cons_self
    rcases ends c _ same with rfl | rfl
    · exact absurd within unbroken.1
    · exact absurd within unbroken.2

theorem word_cut {word other after rest : List Char} (first : Unbroken word)
    (second : Unbroken other) (ends : Ends after) (also : Ends rest)
    (same : word ++ after = other ++ rest) : word = other ∧ after = rest := by
  rcases List.append_eq_append_iff.1 same with ⟨between,rfl,later⟩ | ⟨between,rfl,later⟩
  · cases word_longer ends later second
    exact ⟨(List.append_nil _).symm,later⟩
  · cases word_longer also later first
    exact ⟨List.append_nil _,later.symm⟩

end Text

namespace Value

-- What the text of a value can tell of it: its form, and each of its leaves. Numbers are told bit
-- by bit, but for all NaN being one, and procedures by name.
inductive SameForm : Value → Value → Prop where
  | nil : SameForm .nil .nil
  | bool (b : Bool) : SameForm (.bool b) (.bool b)
  | number {x y : Float} (bits : x.toBits = y.toBits ∨ x.isNaN = true ∧ y.isNaN = true) :
      SameForm (.number x) (.number y)
  | str (s : String) : SameForm (.str s) (.str s)
  | symbol (name : String) : SameForm (.symbol name) (.symbol name)
  | list {xs ys : List Value} (places : List.Forall₂ SameForm xs ys) :
      SameForm (.list xs) (.list ys)
  | procedure {p q : Procedure} (names : p.name = q.name) : SameForm (.procedure p) (.procedure q)

structure LegibleSymbol (name : String) : Prop where
  named : name ≠ ""
  unbroken : ∀ c ∈ [' ','(',')','"'], c ∉ name.toList
  start : name.toList.head? ≠ some '<'
  unreserved : name ∉ ["nil","#t","#f"]
  uncounted : ∀ x : Float, name ≠ (Value.number x).text

def Legible : Value → Prop
  | .str s => '"' ∉ s.toList
  | .symbol name => LegibleSymbol name
  | .procedure p => '>' ∉ p.name.toList
  | _ => True

def Readable (v : Value) : Prop := ∀ part, Inside part v → part.Legible

theorem readable_list {items : List Value} :
    Readable (.list items) ↔ ∀ v ∈ items, v.Readable := by
  constructor
  · intro readable v member part inside
    exact readable part (.element member inside)
  · intro elements part inside
    cases inside with
    | itself => trivial
    | element member inner => exact elements _ member part inner

theorem Legible.readable {v : Value} (legible : v.Legible) (single : ∀ items, v ≠ .list items) :
    v.Readable := by
  intro part inside
  cases inside with
  | itself => exact legible
  | element => exact absurd rfl (single _)

theorem number_bits {x y : Float} :
    (x.toBits = y.toBits ∨ x.isNaN = true ∧ y.isNaN = true) ↔ x = y := by
  constructor
  · rintro (bits | ⟨first,second⟩)
    · exact Signed.bits_inj bits
    · exact Binary64.parts_inj ((Binary64.nan_parts.1 first).trans (Binary64.nan_parts.1 second).symm)
  · rintro rfl
    exact .inl rfl

theorem unused {c : Char} (other : Numeral.uses c = false) (x : Float) :
    c ∉ (Value.number x).text.toList := by
  intro member
  have used := List.all_eq_true.1 (Layout.float_used plainNumber_neutral x) c member
  rw [other] at used
  cases used

@[simp] theorem str_text (s : String) : (Value.str s).text.toList = '"' :: (s.toList ++ ['"']) := by
  simp [text]

@[simp] theorem list_text (items : List Value) :
    (Value.list items).text.toList = '(' :: ((joined items).toList ++ [')']) := by
  simp [text]

@[simp] theorem procedure_text (p : Procedure) :
    (Value.procedure p).text.toList = "<builtin ".toList ++ (p.name.toList ++ ['>']) := by
  simp [text,Procedure.text]

def mark : Value → Option Char
  | .str _ => some '"'
  | .list _ => some '('
  | .procedure _ => some '<'
  | _ => none

def markOf (c : Char) : Option Char := if c ∈ ['"','(','<'] then some c else none

theorem text_head {v : Value} (legible : v.Legible) :
    ∃ c rest, v.text.toList = c :: rest ∧ v.mark = markOf c ∧ c ≠ ')' := by
  cases v with
  | nil => exact ⟨'n',_,rfl,rfl,by decide⟩
  | bool b => cases b <;> exact ⟨'#',_,rfl,rfl,by decide⟩
  | number x =>
    obtain ⟨c,rest,written⟩ := List.exists_cons_of_ne_nil (plainNumber.float_ne_empty x)
    have first : c ∈ (Value.number x).text.toList := by
      change c ∈ (plainNumber.float x).toList
      rw [written]
      exact List.mem_cons_self
    have other (d : Char) (unlike : Numeral.uses d = false) : c ≠ d :=
      fun same => unused unlike x (same ▸ first)
    refine ⟨c,rest,written,(if_neg ?_).symm,other ')' rfl⟩
    simp only [List.mem_cons,List.not_mem_nil,or_false,not_or]
    exact ⟨other '"' rfl,other '(' rfl,other '<' rfl⟩
  | symbol name =>
    have named : name.toList ≠ [] := fun empty => legible.named (String.toList_inj.1 empty)
    obtain ⟨c,rest,written⟩ := List.exists_cons_of_ne_nil named
    have first : c ∈ name.toList := written ▸ List.mem_cons_self
    have other (d : Char) (broken : d ∈ [' ','(',')','"']) : c ≠ d :=
      fun same => legible.unbroken d broken (same ▸ first)
    have start : c ≠ '<' := by
      rintro rfl
      exact legible.start (by rw [written]; rfl)
    refine ⟨c,rest,written,(if_neg ?_).symm,other ')' (by decide)⟩
    simp only [List.mem_cons,List.not_mem_nil,or_false,not_or]
    exact ⟨other '"' (by decide),other '(' (by decide),start⟩
  | str s => exact ⟨'"',_,str_text s,rfl,by decide⟩
  | list items => exact ⟨'(',_,list_text items,rfl,by decide⟩
  | procedure p => exact ⟨'<',_,procedure_text p,rfl,by decide⟩

inductive Word : Value → Prop where
  | nil : Word .nil
  | bool (b : Bool) : Word (.bool b)
  | number (x : Float) : Word (.number x)
  | symbol (name : String) : Word (.symbol name)

theorem word_of_mark {v : Value} (unmarked : v.mark = none) : Word v := by
  cases v with
  | str | list | procedure => cases unmarked
  | _ => constructor

theorem word_unbroken {v : Value} (word : Word v) (legible : v.Legible) :
    Text.Unbroken v.text.toList := by
  cases word with
  | nil => exact ⟨by decide,by decide⟩
  | bool b => cases b <;> exact ⟨by decide,by decide⟩
  | number x => exact ⟨unused rfl x,unused rfl x⟩
  | symbol name => exact ⟨legible.unbroken ' ' (by decide),legible.unbroken ')' (by decide)⟩

theorem reserved_number {name : String} (reserved : name ∈ ["nil","#t","#f"]) (x : Float) :
    name ≠ (Value.number x).text := by
  rintro rfl
  simp only [List.mem_cons,List.not_mem_nil,or_false] at reserved
  rcases reserved with same | same | same
  · exact unused (c := 'l') rfl x (by rw [same]; decide)
  · exact unused (c := '#') rfl x (by rw [same]; decide)
  · exact unused (c := '#') rfl x (by rw [same]; decide)

theorem reserved_symbol {word name : String} (reserved : word ∈ ["nil","#t","#f"])
    (legible : LegibleSymbol name) : word ≠ (Value.symbol name).text := by
  rintro rfl
  exact legible.unreserved reserved

theorem bool_reserved (b : Bool) : (Value.bool b).text ∈ ["nil","#t","#f"] := by
  cases b <;> decide

theorem word_inj {v w : Value} (word : Word v) (other : Word w) (first : v.Legible)
    (second : w.Legible) (same : v.text = w.text) : v.SameForm w := by
  have reserved : Value.nil.text ∈ ["nil","#t","#f"] := by decide
  cases word <;> cases other
  case nil.nil => exact .nil
  case nil.bool b => cases b <;> exact absurd same (by decide)
  case nil.number x => exact absurd same (reserved_number reserved x)
  case nil.symbol name => exact absurd same (reserved_symbol reserved second)
  case bool.nil b => cases b <;> exact absurd same (by decide)
  case bool.bool a b =>
    cases a <;> cases b
    case false.false | true.true => constructor
    all_goals exact absurd same (by decide)
  case bool.number b x => exact absurd same (reserved_number (bool_reserved b) x)
  case bool.symbol b name => exact absurd same (reserved_symbol (bool_reserved b) second)
  case number.nil x => exact absurd same.symm (reserved_number reserved x)
  case number.bool x b => exact absurd same.symm (reserved_number (bool_reserved b) x)
  case number.number x y =>
    exact .number (number_bits.2 (Layout.float_inj plainNumber_neutral same))
  case number.symbol x name => exact absurd same.symm (second.uncounted x)
  case symbol.nil name => exact absurd same.symm (reserved_symbol reserved first)
  case symbol.bool name b => exact absurd same.symm (reserved_symbol (bool_reserved b) first)
  case symbol.number name x => exact absurd same (first.uncounted x)
  case symbol.symbol name twin =>
    cases (same : name = twin)
    exact .symbol name

def plainList : Text.Listing Value := ⟨fun v => v.text.toList,' ',[],')'⟩

@[simp] theorem joined_listed (items : List Value) : (joined items).toList = plainList.text items := by
  induction items with
  | nil => rfl
  | cons v rest ih =>
    cases rest with
    | nil => simp [joined,plainList,Text.Listing.text,Text.Listing.tail]
    | cons w others =>
      rw [joined,Text.Listing.text,Text.Listing.tail_cons,← ih]
      simp [plainList]

theorem plainList_delimits : plainList.Delimits Readable Text.Ends where
  apart := by decide
  between _ _ _ same := .inl (List.cons.inj same).1.symm
  closed _ _ _ same := .inr (List.cons.inj same).1.symm
  opens v readable := by
    obtain ⟨c,rest,written,-,opens⟩ := text_head (readable v (.itself v))
    exact ⟨c,rest,written,opens⟩

theorem same_mark {v w : Value} {after rest : List Char} (first : v.Legible) (second : w.Legible)
    (same : v.text.toList ++ after = w.text.toList ++ rest) : v.mark = w.mark := by
  obtain ⟨c,more,written,kind,-⟩ := text_head first
  obtain ⟨d,others,twin,sort,-⟩ := text_head second
  rw [written,twin] at same
  rw [kind,sort,(List.cons.inj same).1]

theorem text_tells (v : Value) : plainList.Tells Readable Text.Ends SameForm v := by
  induction v using byElements with
  | list items ih =>
    intro w after rest first second ends also
      (same : (Value.list items).text.toList ++ after = w.text.toList ++ rest)
    have marks := same_mark (first _ (.itself _)) (second _ (.itself _)) same
    cases w with
    | list others =>
      simp only [list_text,joined_listed,List.cons_append,List.append_assoc,List.nil_append,
        List.cons.injEq,true_and] at same
      obtain ⟨places,later⟩ := Text.Listing.text_tells plainList_delimits ih (readable_list.1 first)
        (readable_list.1 second) same
      exact ⟨.list places,later⟩
    | _ => cases marks
  | single v other =>
    intro w after rest first second ends also
      (same : v.text.toList ++ after = w.text.toList ++ rest)
    have legible := first v (.itself v)
    have partner := second w (.itself w)
    have marks := same_mark legible partner same
    cases kind : v.mark with
    | none =>
      have word := word_of_mark kind
      have twin := word_of_mark (marks.symm.trans kind)
      obtain ⟨texts,later⟩ := Text.word_cut (word_unbroken word legible) (word_unbroken twin partner) ends
        also same
      exact ⟨word_inj word twin legible partner (String.toList_inj.1 texts),later⟩
    | some c =>
      cases v with
      | list items => exact absurd rfl (other items)
      | str s =>
        cases w with
        | str t =>
          simp only [str_text,List.cons_append,List.append_assoc,List.nil_append,List.cons.injEq,
            true_and] at same
          obtain ⟨contents,later⟩ := Text.firstCut_inj same legible partner
          rw [String.toList_inj.1 contents]
          exact ⟨.str t,later⟩
        | _ => cases marks
      | procedure p =>
        cases w with
        | procedure q =>
          simp only [procedure_text,List.append_assoc,List.append_cancel_left_eq,List.cons_append,
            List.nil_append] at same
          obtain ⟨names,later⟩ := Text.firstCut_inj same legible partner
          exact ⟨.procedure (String.toList_inj.1 names),later⟩
        | _ => cases marks
      | _ => cases kind

theorem joined_congr {xs ys : List Value} (texts : List.Forall₂ (fun v w => v.text = w.text) xs ys) :
    joined xs = joined ys := by
  induction texts with
  | nil => rfl
  | cons head tails ih =>
    cases tails with
    | nil => exact head
    | cons =>
      simp only [joined,head] at ih ⊢
      rw [ih]

theorem SameForm.text {v w : Value} (same : v.SameForm w) : v.text = w.text := by
  induction v using byElements generalizing w with
  | list items ih =>
    cases same with
    | @list _ others places =>
      have texts : List.Forall₂ (fun v w => v.text = w.text) items others := by
        rw [List.forall₂_iff_zip] at places ⊢
        exact ⟨places.1,fun member => ih _ (List.of_mem_zip member).1 (places.2 member)⟩
      simp only [Value.text,joined_congr texts]
  | single v other =>
    cases same with
    | list => exact absurd rfl (other _)
    | number bits => rw [number_bits.1 bits]
    | procedure names => simp only [Value.text,Procedure.text,names]
    | _ => rfl

end Value

theorem printed_values_readable {v w : Value} (first : v.Readable) (second : w.Readable) :
    v.text = w.text ↔ v.SameForm w := by
  constructor
  · intro same
    have nothing : Text.Ends [] := nofun
    have texts : v.text.toList ++ [] = w.text.toList ++ [] := by rw [same]
    exact (v.text_tells w [] [] first second nothing nothing texts).1
  · exact Value.SameForm.text

-- A string that looks like the rest of the list it stands in, and procedures that are told apart by
-- their names alone.
theorem printed_values_readable_list :
    let items : List Value := [.symbol "sum",.str ") (",.list [],.number (-0.0)]
    let v : Value := .list (items ++ [.procedure (.operator .add)])
    let w : Value := .list (items ++ [.procedure (.primitive "+" (.exactly 2) .first)])
    v.Readable ∧ w.Readable ∧ v.text = w.text ∧ v.SameForm w := by
  intro items v w
  have symbol : Value.LegibleSymbol "sum" := by
    refine ⟨by decide,by simp,by decide,by decide,fun x same => ?_⟩
    have letter : 's' ∈ "sum".toList := by decide
    rw [same] at letter
    exact Value.unused rfl x letter
  have element : ∀ p : Procedure, '>' ∉ p.name.toList →
      ∀ u ∈ items ++ [.procedure p], u.Readable := by
    intro p closed u member
    simp only [items,List.cons_append,List.nil_append,List.mem_cons,List.not_mem_nil,or_false] at member
    rcases member with rfl | rfl | rfl | rfl | rfl
    · exact Value.Legible.readable symbol nofun
    · exact Value.Legible.readable (by decide : '"' ∉ ") (".toList) nofun
    · exact Value.readable_list.2 nofun
    · exact Value.Legible.readable trivial nofun
    · exact Value.Legible.readable closed nofun
  have first : v.Readable := Value.readable_list.2 (element (.operator .add) (by decide))
  have second : w.Readable :=
    Value.readable_list.2 (element (.primitive "+" (.exactly 2) .first) (by decide))
  have same : v.text = w.text := by
    simp only [v,w,items,List.cons_append,List.nil_append,Value.text,Value.joined]
    rfl
  exact ⟨first,second,same,(printed_values_readable first second).1 same⟩

end LispCalls
