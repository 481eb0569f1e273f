import LispCalls.Proofs.Escapes
import LispCalls.Proofs.PrintedValues
import LispCalls.Value.Inspect

namespace LispCalls

theorem inspectedNumber_neutral : inspectedNumber.Neutral := .inr ⟨1,rfl⟩

namespace Value

def Inert (v : Value) : Prop := ∀ p, ¬Inside (.procedure p) v

-- Every number in a value equals itself and no other number: a NaN does not, and -0.0 equals 0.0.
def Ordinary (v : Value) : Prop := ∀ x, Inside (.number x) v → x.isNaN = false ∧ x ≠ -0.0

section Leaves

variable {items : List Value}

theorem leaves_list {α : Type} (leaf : α → Value) (single : ∀ a xs, leaf a ≠ .list xs)
    (P : α → Prop) : (∀ a, Inside (leaf a) (.list items) → P a) ↔
      ∀ v ∈ items, ∀ a, Inside (leaf a) v → P a := by
  constructor
  · exact fun leaves v member a inside => leaves a (.element member inside)
  · intro elements a inside
    obtain ⟨v,member,inner⟩ := (inside_list (single a)).1 inside
    exact elements v member a inner

@[simp] theorem inert_list : Inert (.list items) ↔ ∀ v ∈ items, v.Inert :=
  leaves_list .procedure (fun _ _ => nofun) fun _ => False

@[simp] theorem ordinary_list : Ordinary (.list items) ↔ ∀ v ∈ items, v.Ordinary :=
  leaves_list .number (fun _ _ => nofun) fun x => x.isNaN = false ∧ x ≠ -0.0

end Leaves

theorem sameForm_equal {v w : Value} (inert : v.Inert) : v.SameForm w ↔ v = w := by
  induction v using byElements generalizing w with
  | list items ih =>
    rw [inert_list] at inert
    have places (others : List Value) : List.Forall₂ SameForm items others ↔ items = others := by
      rw [← List.forall₂_eq_eq_eq,List.forall₂_iff_zip,List.forall₂_iff_zip]
      have pair {v w : Value} (member : (v,w) ∈ items.zip others) : v.SameForm w ↔ v = w :=
        have within := (List.of_mem_zip member).1
        ih v within (inert v within)
      exact and_congr_right fun _ => ⟨fun forms _ _ member => (pair member).1 (forms member),
        fun equal _ _ member => (pair member).2 (equal member)⟩
    constructor
    · intro form
      cases form with
      | list forms => rw [(places _).1 forms]
    · rintro rfl
      exact .list ((places items).2 rfl)
  | single v other =>
    constructor
    · intro form
      cases form with
      | list => exact absurd rfl (other _)
      | procedure => exact absurd (.itself _) (inert _)
      | number bits => rw [number_bits.1 bits]
      | _ => rfl
    · rintro rfl
      cases v with
      | list items => exact absurd rfl (other items)
      | procedure p => exact absurd (.itself _) (inert p)
      | number x => exact .number (.inl rfl)
      | _ => constructor

theorem number_same {x y : Float} (first : x ≠ -0.0) (second : y ≠ -0.0)
    (same : (x == y) = true) : x = y := by
  rw [Binary64.beq_alike,Binary64.alike_exact,Binary64.beq_zero_iff,Binary64.beq_zero_iff] at same
  rcases same.1 with equal | ⟨left,right⟩
  · exact equal
  · exact (left.resolve_right first).trans (right.resolve_right second).symm

theorem same_equal {v w : Value} (inert : v.Inert) (first : v.Ordinary) (second : w.Ordinary)
    (same : v.same w = true) : v = w := by
  induction v using byElements generalizing w with
  | list items ih =>
    rw [inert_list] at inert
    rw [ordinary_list] at first
    cases same_exact.1 same with
    | @list _ others places =>
      rw [ordinary_list] at second
      congr 1
      refine List.ext_getElem places.1 fun place short fits => ?_
      have member := List.getElem_mem short
      exact ih _ member (inert _ member) (first _ member) (second _ (List.getElem_mem fits))
        (places.2 place _ _ (List.getElem?_eq_getElem short) (List.getElem?_eq_getElem fits))
  | single v other =>
    cases same_exact.1 same with
    | list => exact absurd rfl (other _)
    | procedure => exact absurd (.itself _) (inert _)
    | number numbers =>
      rw [number_same (first _ (.itself _)).2 (second _ (.itself _)).2 numbers]
    | _ => rfl

section Texts

variable {unicode : Text.Repertoire}

@[simp] theorem nil_inspected : (Value.nil.inspectIn unicode).toList = "Nil".toList := by
  rw [inspectIn]

@[simp] theorem bool_inspected (b : Bool) : ((Value.bool b).inspectIn unicode).toList =
    (if b then "Bool(true)" else "Bool(false)").toList := by
  cases b <;> rw [inspectIn] <;> rfl

@[simp] theorem number_inspected (x : Float) : ((Value.number x).inspectIn unicode).toList =
    "Number(".toList ++ ((inspectedNumber.float x).toList ++ [')']) := by
  simp [inspectIn]

@[simp] theorem str_inspected (s : String) : ((Value.str s).inspectIn unicode).toList =
    "Str(".toList ++ ((Text.quoted unicode s).toList ++ [')']) := by
  simp [inspectIn]

@[simp] theorem symbol_inspected (name : String) : ((Value.symbol name).inspectIn unicode).toList =
    "Symbol(".toList ++ ((Text.quoted unicode name).toList ++ [')']) := by
  simp [inspectIn]

@[simp] theorem list_inspected (items : List Value) : ((Value.list items).inspectIn unicode).toList =
    "List([".toList ++ ((inspected unicode items).toList ++ [']',')']) := by
  simp [inspectIn]

@[simp] theorem procedure_inspected (p : Procedure) : ((Value.procedure p).inspectIn unicode).toList =
    "Builtin(".toList ++ (p.text.toList ++ [')']) := by
  simp [inspectIn]

def kindOf : List Char → String
  | 'N' :: 'i' :: _ => "nil"
  | 'B' :: 'o' :: _ => "bool"
  | 'N' :: 'u' :: _ => "number"
  | 'S' :: 't' :: _ => "string"
  | 'S' :: 'y' :: _ => "symbol"
  | 'L' :: 'i' :: _ => "list"
  | _ => "procedure"

@[simp] theorem kind_inspected (v : Value) (after : List Char) :
    kindOf ((v.inspectIn unicode).toList ++ after) = v.typeName := by
  cases v with
  | nil => rw [nil_inspected]; rfl
  | bool b => rw [bool_inspected]; cases b <;> rfl
  | number x => rw [number_inspected]; rfl
  | str s => rw [str_inspected]; rfl
  | symbol name => rw [symbol_inspected]; rfl
  | list items => rw [list_inspected]; rfl
  | procedure p => rw [procedure_inspected]; rfl

theorem inspect_head (v : Value) : ∃ c rest, (v.inspectIn unicode).toList = c :: rest ∧ c ≠ ']' := by
  cases v with
  | nil => exact ⟨'N',_,nil_inspected,by decide⟩
  | bool b => cases b <;> exact ⟨'B',_,bool_inspected _,by decide⟩
  | number x => exact ⟨'N',_,number_inspected x,by decide⟩
  | str s => exact ⟨'S',_,str_inspected s,by decide⟩
  | symbol name => exact ⟨'S',_,symbol_inspected name,by decide⟩
  | list items => exact ⟨'L',_,list_inspected items,by decide⟩
  | procedure p => exact ⟨'B',_,procedure_inspected p,by decide⟩

def inspectedList (unicode : Text.Repertoire) : Text.Listing Value :=
  ⟨fun v => (v.inspectIn unicode).toList,',',[' '],']'⟩

@[simp] theorem inspected_listed (items : List Value) :
    (inspected unicode items).toList = (inspectedList unicode).text items := by
  induction items with
  | nil => rfl
  | cons v rest ih =>
    cases rest with
    | nil => simp [inspected,inspectedList,Text.Listing.text,Text.Listing.tail]
    | cons w others =>
      rw [inspected,Text.Listing.text,Text.Listing.tail_cons,← ih]
      simp [inspectedList]

theorem inspectedList_delimits : (inspectedList unicode).Delimits Inert fun _ => True where
  apart := show ',' ≠ ']' by decide
  between _ := trivial
  closed _ := trivial
  opens v _ := v.inspect_head

theorem bool_shown {a b : Bool} {after rest : List Char}
    (same : ((Value.bool a).inspectIn unicode).toList ++ after =
      ((Value.bool b).inspectIn unicode).toList ++ rest) : a = b ∧ after = rest := by
  rw [bool_inspected,bool_inspected] at same
  cases a <;> cases b
  case false.false | true.true => exact ⟨rfl,List.append_cancel_left same⟩
  -- The sixth character is that of the word in the brackets.
  all_goals
    have letters := congrArg (·[5]?) same
    cases letters

theorem number_shown {x y : Float} {after rest : List Char}
    (same : ((Value.number x).inspectIn unicode).toList ++ after =
      ((Value.number y).inspectIn unicode).toList ++ rest) : x = y ∧ after = rest := by
  have closed (z : Float) : ')' ∉ (inspectedNumber.float z).toList := by
    intro member
    have used := List.all_eq_true.1 (Layout.float_used inspectedNumber_neutral z) _ member
    cases used
  simp only [number_inspected,List.append_assoc,List.append_cancel_left_eq,List.cons_append,
    List.nil_append] at same
  obtain ⟨numbers,later⟩ := Text.firstCut_inj same (closed x) (closed y)
  exact ⟨Layout.float_inj inspectedNumber_neutral (String.toList_inj.1 numbers),later⟩

theorem inspect_tells (v : Value) :
    (inspectedList unicode).Tells Inert (fun _ => True) (· = ·) v := by
  induction v using byElements with
  | list items ih =>
    intro w after rest first second _ _
      (same : ((Value.list items).inspectIn unicode).toList ++ after =
        (w.inspectIn unicode).toList ++ rest)
    have kinds := congrArg kindOf same
    rw [kind_inspected,kind_inspected] at kinds
    cases w with
    | list others =>
      simp only [list_inspected,inspected_listed,List.append_assoc,List.append_cancel_left_eq,
        List.cons_append,List.nil_append] at same
      obtain ⟨places,later⟩ := Text.Listing.text_tells inspectedList_delimits ih (inert_list.1 first)
        (inert_list.1 second) same
      rw [List.forall₂_eq_eq_eq] at places
      exact ⟨congrArg _ places,(List.cons.inj later).2⟩
    | _ => simp [typeName] at kinds
  | single v other =>
    intro w after rest first second _ _
      (same : (v.inspectIn unicode).toList ++ after = (w.inspectIn unicode).toList ++ rest)
    have kinds := congrArg kindOf same
    rw [kind_inspected,kind_inspected] at kinds
    cases v <;> cases w
    case list.list items _ => exact absurd rfl (other items)
    case procedure.procedure p _ => exact absurd (.itself _) (first p)
    case nil.nil => exact ⟨rfl,List.append_cancel_left same⟩
    case bool.bool a b =>
      obtain ⟨rfl,later⟩ := bool_shown same
      exact ⟨rfl,later⟩
    case number.number x y =>
      obtain ⟨rfl,later⟩ := number_shown same
      exact ⟨rfl,later⟩
    case str.str s t =>
      simp only [str_inspected,List.append_assoc,List.append_cancel_left_eq] at same
      obtain ⟨rfl,later⟩ := Text.quoted_cut same
      exact ⟨rfl,(List.cons.inj later).2⟩
    case symbol.symbol s t =>
      simp only [symbol_inspected,List.append_assoc,List.append_cancel_left_eq] at same
      obtain ⟨rfl,later⟩ := Text.quoted_cut same
      exact ⟨rfl,(List.cons.inj later).2⟩
    all_goals simp [typeName] at kinds

theorem inspect_inj {v w : Value} (first : v.Inert) (second : w.Inert)
    (same : v.inspectIn unicode = w.inspectIn unicode) : v = w := by
  have texts : (v.inspectIn unicode).toList ++ [] = (w.inspectIn unicode).toList ++ [] := by
    rw [same]
  exact (v.inspect_tells w [] [] first second trivial trivial texts).1

end Texts

end Value

-- In every version of Unicode the text that shows the structure of values without procedures shows
-- all of it: no content of a string can be taken for structure. It is finer than equality in NaN
-- and the sign of zero only.
theorem inspected_values_faithful (unicode : Text.Repertoire) {v w : Value} (first : v.Inert)
    (second : w.Inert) :
    (v.inspectIn unicode = w.inspectIn unicode ↔ v.SameForm w) ∧
    (v.Ordinary → w.Ordinary → (v.inspectIn unicode = w.inspectIn unicode ↔ v.same w = true)) ∧
    ∀ s : String, ∃ escapes, List.Forall₂ (Text.Escaped unicode) s.toList escapes ∧
      ((Value.str s).inspectIn unicode).toList = "Str(\"".toList ++ escapes.flatten ++ "\")".toList ∧
      ((Value.symbol s).inspectIn unicode).toList =
        "Symbol(\"".toList ++ escapes.flatten ++ "\")".toList := by
  have texts : v.inspectIn unicode = w.inspectIn unicode ↔ v = w :=
    ⟨Value.inspect_inj first second,congrArg (Value.inspectIn unicode)⟩
  refine ⟨texts.trans (Value.sameForm_equal first).symm,fun ordinary also => ?_,fun s => ?_⟩
  · rw [texts]
    constructor
    · rintro rfl
      exact v.same_self.2 fun x inside => (ordinary x inside).1
    · exact Value.same_equal first ordinary also
  · obtain ⟨escapes,escaped,written⟩ := Text.escapes_exact s.toList
    refine ⟨escapes,escaped,?_,?_⟩
    · simp [written]
    · simp [written]

-- Two values with one text for the user: a quote and a blank inside a string stand there as they do
-- between two strings.
theorem inspected_values_faithful_quotes :
    let v : Value := .list [.str "a\" \"b"]
    let w : Value := .list [.str "a",.str "b"]
    v.Inert ∧ w.Inert ∧ v.Ordinary ∧ w.Ordinary ∧ v.text = w.text ∧ v.inspect ≠ w.inspect := by
  intro v w
  have str (s : String) : (Value.str s).Inert ∧ (Value.str s).Ordinary :=
    ⟨fun _ => nofun,fun _ => nofun⟩
  have first : v.Inert := Value.inert_list.2 (by simp [str])
  have second : w.Inert := Value.inert_list.2 (by simp [str])
  have ordinary : v.Ordinary := Value.ordinary_list.2 (by simp [str])
  have also : w.Ordinary := Value.ordinary_list.2 (by simp [str])
  have other : v.same w = false := by decide
  refine ⟨first,second,ordinary,also,by decide,fun same => ?_⟩
  have equal := ((inspected_values_faithful .unicode first second).2.1 ordinary also).1 same
  rw [other] at equal
  cases equal

end LispCalls
