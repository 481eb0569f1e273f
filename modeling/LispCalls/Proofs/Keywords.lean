import LispCalls.Proofs.Settings
import Mathlib.Data.List.Forall2
import Mathlib.Data.List.TakeWhile

namespace LispCalls

namespace Text

def whiteSpace : List Nat :=
  [0x09,0x0A,0x0B,0x0C,0x0D,0x20,0x85,0xA0,0x1680,0x2000,0x2001,0x2002,0x2003,0x2004,0x2005,
    0x2006,0x2007,0x2008,0x2009,0x200A,0x2028,0x2029,0x202F,0x205F,0x3000]

def WhiteSpace (c : Char) : Prop := c.toNat ∈ whiteSpace

@[simp] theorem isBlank_exact (c : Char) : isBlank c = true ↔ WhiteSpace c := by
  simp only [isBlank,Ranges.has,blankRanges,WhiteSpace,whiteSpace,List.any_cons,List.any_nil,Bool.or_eq_true,
    Bool.and_eq_true,decide_eq_true_eq,List.mem_cons,List.not_mem_nil,Bool.false_eq_true,or_false]
  omega

def SameLetter (c d : Char) : Prop :=
  c = d ∨ ('A' ≤ c ∧ c ≤ 'Z' ∧ d.toNat = c.toNat + 32) ∨
    ('A' ≤ d ∧ d ≤ 'Z' ∧ c.toNat = d.toNat + 32)

theorem capital_exact (c : Char) : 'A' ≤ c ∧ c ≤ 'Z' ↔ 65 ≤ c.toNat ∧ c.toNat ≤ 90 := Iff.rfl

theorem toLower_toNat (c : Char) :
    c.toLower.toNat = if 65 ≤ c.toNat ∧ c.toNat ≤ 90 then c.toNat + 32 else c.toNat := by
  unfold Char.toLower
  split
  · rename_i capital
    have range : 65 ≤ c.toNat ∧ c.toNat ≤ 90 := capital
    have small : c.toNat + 32 < 2 ^ 32 := by omega
    rw [if_pos range]
    exact (UInt32.toNat_add c.val 32).trans (Nat.mod_eq_of_lt small)
  · rename_i other
    exact (if_neg other).symm

theorem toLower_same (c d : Char) : c.toLower = d.toLower ↔ SameLetter c d := by
  unfold SameLetter
  rw [← Char.toNat_inj,← Char.toNat_inj,toLower_toNat,toLower_toNat,← and_assoc,← and_assoc,
    capital_exact,capital_exact]
  split <;> split <;> omega

theorem toLower_foreign {c : Char} (foreign : 128 ≤ c.toNat) : c.toLower = c := by
  rw [← Char.toNat_inj,toLower_toNat]
  split <;> omega

theorem toLower_blank (c : Char) : isBlank c.toLower = isBlank c := by
  rw [Bool.eq_iff_iff,isBlank_exact,isBlank_exact]
  simp only [WhiteSpace,whiteSpace,toLower_toNat,List.mem_cons,List.not_mem_nil,or_false]
  split <;> omega

theorem lower_same {cs ds : List Char} :
    cs.map Char.toLower = ds.map Char.toLower ↔ List.Forall₂ SameLetter cs ds := by
  rw [← List.forall₂_eq_eq_eq,List.forall₂_map_left_iff,List.forall₂_map_right_iff]
  simp only [toLower_same]

theorem trim_around (cs : List Char) :
    ∃ before after, cs = before ++ trim cs ++ after ∧ (∀ c ∈ before, isBlank c = true) ∧
      ∀ c ∈ after, isBlank c = true := by
  have cut : ∀ cs : List Char, ∀ c ∈ cs.takeWhile isBlank, isBlank c = true :=
    fun cs c member => List.mem_takeWhile_imp member
  refine ⟨cs.takeWhile isBlank,((cs.dropWhile isBlank).reverse.takeWhile isBlank).reverse,?_,cut cs,?_⟩
  · unfold trim
    rw [List.append_assoc,← List.reverse_append,List.takeWhile_append_dropWhile,List.reverse_reverse,
      List.takeWhile_append_dropWhile]
  · intro c member
    exact cut _ c (List.mem_reverse.1 member)

theorem dropWhile_free {cs : List Char} (free : ∀ c ∈ cs, isBlank c = false) (rest : List Char)
    (filled : cs ≠ []) : (cs ++ rest).dropWhile isBlank = cs ++ rest := by
  cases cs with
  | nil => exact absurd rfl filled
  | cons c others => simp [free c]

theorem trim_between {before middle after : List Char} (first : ∀ c ∈ before, isBlank c = true)
    (last : ∀ c ∈ after, isBlank c = true) (free : ∀ c ∈ middle, isBlank c = false) :
    trim (before ++ middle ++ after) = middle := by
  have ends : ∀ c ∈ after.reverse, isBlank c = true := by simpa using last
  have turned : ∀ c ∈ middle.reverse, isBlank c = false := by simpa using free
  unfold trim
  rw [List.append_assoc,List.dropWhile_append_of_pos first]
  by_cases empty : middle = []
  · simp [empty,List.dropWhile_eq_nil_iff.2 last]
  · have filled : middle.reverse ≠ [] := by simpa using empty
    have kept := dropWhile_free turned [] filled
    rw [List.append_nil] at kept
    rw [dropWhile_free free after empty,List.reverse_append,List.dropWhile_append_of_pos ends,kept,
      List.reverse_reverse]

theorem trim_blank {cs : List Char} (blanks : ∀ c ∈ cs, isBlank c = true) : trim cs = [] := by
  simp [trim,List.dropWhile_eq_nil_iff.2 blanks]

theorem mem_trim {cs : List Char} {c : Char} (member : c ∈ cs) (kept : isBlank c = false) :
    c ∈ trim cs := by
  obtain ⟨before,after,parts,first,last⟩ := trim_around cs
  rw [parts,List.append_assoc,List.mem_append,List.mem_append] at member
  rcases member with early | inside | late
  · cases (first c early).symm.trans kept
  · exact inside
  · cases (last c late).symm.trans kept

theorem mem_trim_between {first last : List Char} (c : Char)
    (begun : ∃ d ∈ first, isBlank d = false) (continued : ∃ d ∈ last, isBlank d = false) :
    c ∈ trim (first ++ c :: last) := by
  have filled : ∀ cs : List Char, (∃ d ∈ cs, isBlank d = false) →
      (cs.dropWhile isBlank).isEmpty = false := by
    intro cs ⟨d,member,kept⟩
    rw [List.isEmpty_eq_false_iff]
    intro empty
    cases (List.dropWhile_eq_nil_iff.1 empty d member).symm.trans kept
  have turned : ∃ d ∈ last.reverse, isBlank d = false := by simpa using continued
  unfold trim
  simp [List.dropWhile_append,filled first begun,filled last.reverse turned]

def Spells (s word : String) : Prop :=
  ∃ before middle after : String, s = before ++ middle ++ after ∧
    (∀ c ∈ before.toList, WhiteSpace c) ∧ (∀ c ∈ after.toList, WhiteSpace c) ∧
    List.Forall₂ SameLetter middle.toList word.toList

structure Keyword (word : String) : Prop where
  filled : word.toList ≠ []
  ascii : ∀ c ∈ word.toList, c.toNat < 128
  lower : ∀ c ∈ word.toList, c.toLower = c
  unbroken : ∀ c ∈ word.toList, isBlank c = false

def isPlain (c : Char) : Bool := c.toNat < 128 && c.toLower == c && !isBlank c

theorem keyword_plain {word : String}
    (plain : (!word.toList.isEmpty && word.toList.all isPlain) = true) : Keyword word := by
  simp only [isPlain,Bool.and_eq_true,Bool.not_eq_true',List.isEmpty_eq_false_iff,List.all_eq_true,
    decide_eq_true_eq,beq_iff_eq] at plain
  exact ⟨plain.1,fun c member => (plain.2 c member).1.1,fun c member => (plain.2 c member).1.2,
    fun c member => (plain.2 c member).2⟩

theorem keyword_trim {s word : String} :
    keyword s = word ↔ (trim s.toList).map Char.toLower = word.toList := by
  unfold keyword
  rw [← String.toList_inj,String.toList_ofList]

theorem keyword_exact {word : String} (plain : Keyword word) (s : String) :
    keyword s = word ↔ Spells s word := by
  have lower : word.toList.map Char.toLower = word.toList :=
    (List.map_congr_left plain.lower).trans (List.map_id' _)
  rw [keyword_trim]
  constructor
  · intro read
    obtain ⟨before,after,parts,first,last⟩ := trim_around s.toList
    refine ⟨.ofList before,.ofList (trim s.toList),.ofList after,?_,?_,?_,?_⟩
    · rw [← String.toList_inj]
      simpa using parts
    · simpa [← isBlank_exact] using first
    · simpa [← isBlank_exact] using last
    · rw [String.toList_ofList,← lower_same,read,lower]
  · rintro ⟨before,middle,after,rfl,first,last,same⟩
    have spelled : middle.toList.map Char.toLower = word.toList := (lower_same.2 same).trans lower
    have free : ∀ c ∈ middle.toList, isBlank c = false := by
      intro c member
      rw [← toLower_blank]
      exact plain.unbroken _ (spelled ▸ List.mem_map_of_mem member)
    simp only [← isBlank_exact] at first last
    rw [String.toList_append,String.toList_append,trim_between first last free,spelled]

theorem keyword_blank {s word : String} (plain : Keyword word)
    (blanks : ∀ c ∈ s.toList, WhiteSpace c) : keyword s ≠ word := by
  simp only [← isBlank_exact] at blanks
  rw [ne_eq,keyword_trim,trim_blank blanks]
  exact fun empty => plain.filled empty.symm

theorem keyword_broken {first last word : String} {c : Char} (plain : Keyword word)
    (blank : WhiteSpace c) (begun : ∃ d ∈ first.toList, ¬WhiteSpace d)
    (continued : ∃ d ∈ last.toList, ¬WhiteSpace d) :
    keyword (first ++ String.singleton c ++ last) ≠ word := by
  simp only [← isBlank_exact,Bool.not_eq_true] at blank begun continued
  rw [ne_eq,keyword_trim]
  intro read
  have inside : c ∈ trim (first ++ String.singleton c ++ last).toList := by
    simpa using mem_trim_between c begun continued
  have free := plain.unbroken _ (read ▸ List.mem_map_of_mem inside)
  rw [toLower_blank,blank] at free
  cases free

theorem keyword_foreign {s word : String} {c : Char} (plain : Keyword word) (member : c ∈ s.toList)
    (foreign : 128 ≤ c.toNat) (kept : ¬WhiteSpace c) : keyword s ≠ word := by
  rw [← isBlank_exact,Bool.not_eq_true] at kept
  rw [ne_eq,keyword_trim]
  intro read
  have letter := List.mem_map_of_mem (f := Char.toLower) (mem_trim member kept)
  rw [read,toLower_foreign foreign] at letter
  exact Nat.not_lt.2 foreign (plain.ascii c letter)

-- A reader that goes by words: what it takes are the spellings of its words, and it refuses all
-- else, such as a text of blanks, one that a blank breaks in two, and one with a character that
-- is outside ASCII and no blank.
structure GoesByWords {α : Type} (read? : String → Option α) (words : α → List String) : Prop where
  accepted : ∀ s x, read? s = some x ↔ ∃ word ∈ words x, Spells s word
  refused : ∀ s, read? s = none ↔ ∀ x, ∀ word ∈ words x, ¬Spells s word
  blank : ∀ s : String, (∀ c ∈ s.toList, WhiteSpace c) → read? s = none
  broken : ∀ (first : String) (c : Char) (last : String), WhiteSpace c →
    (∃ d ∈ first.toList, ¬WhiteSpace d) → (∃ d ∈ last.toList, ¬WhiteSpace d) →
    read? (first ++ String.singleton c ++ last) = none
  foreign : ∀ s : String, ∀ c ∈ s.toList, 128 ≤ c.toNat → ¬WhiteSpace c → read? s = none

theorem keyword_goesByWords {α : Type} {read? : String → Option α} {words : α → List String}
    (keywords : ∀ x, ∀ word ∈ words x, Keyword word)
    (exact : ∀ s x, read? s = some x ↔ keyword s ∈ words x) : GoesByWords read? words := by
  have accepted : ∀ s x, read? s = some x ↔ ∃ word ∈ words x, Spells s word := by
    intro s x
    rw [exact]
    constructor
    · intro member
      exact ⟨_,member,(keyword_exact (keywords x _ member) s).1 rfl⟩
    · intro ⟨word,member,spelled⟩
      rwa [(keyword_exact (keywords x word member) s).2 spelled]
  have unread : ∀ s : String, (∀ word, Keyword word → keyword s ≠ word) → read? s = none := by
    intro s other
    rw [Option.eq_none_iff_forall_ne_some]
    intro x read
    exact other _ (keywords x _ ((exact s x).1 read)) rfl
  refine ⟨accepted,fun s => ?_,?_,?_,?_⟩
  · rw [Option.eq_none_iff_forall_ne_some]
    simp [accepted]
  · intro s blanks
    exact unread s fun word plain => keyword_blank plain blanks
  · intro first c last blank begun continued
    exact unread _ fun word plain => keyword_broken plain blank begun continued
  · intro s c member foreign kept
    exact unread s fun word plain => keyword_foreign plain member foreign kept

end Text

def ReportStyle.words : ReportStyle → List String
  | .plain => ["plain"]
  | .tagged => ["tagged"]

theorem ReportStyle.parse_words : Text.GoesByWords parse? words := by
  refine Text.keyword_goesByWords (fun style => ?_) fun s style => ?_
  · cases style <;> simp only [words,List.mem_singleton,forall_eq] <;>
      exact Text.keyword_plain rfl
  · unfold parse?
    cases style <;> split <;> simp_all [words]

example : ReportStyle.parse? "\t TaGGed\u3000" = some .tagged := by decide

namespace Settings

def flagWords : Bool → List String
  | true => ["1","true","yes","on"]
  | false => ["0","false","no","off"]

theorem flag_words : Text.GoesByWords flag? flagWords := by
  refine Text.keyword_goesByWords (fun on => ?_) fun s on => ?_
  · cases on <;>
      simp only [flagWords,List.mem_cons,List.not_mem_nil,or_false,forall_eq_or_imp,forall_eq] <;>
      refine ⟨?_,?_,?_,?_⟩ <;> exact Text.keyword_plain rfl
  · unfold flag?
    cases on <;> split <;> simp_all [flagWords]

def answering (name text : String) (others : String → Option String) (asked : String) :
    Option String :=
  if asked = name then some text else others asked

structure Shows (s : String) (outcome : Settings × List Event) : Prop where
  on : outcome.1.checkArity = true ∧
      warned "expected a boolean" "TINYLISP_CHECK_ARITY" s ∉ outcome.2.map Event.written ↔
    ∃ word ∈ flagWords true, Text.Spells s word
  off : outcome.1.checkArity = false ∧
      warned "expected a boolean" "TINYLISP_CHECK_ARITY" s ∉ outcome.2.map Event.written ↔
    ∃ word ∈ flagWords false, Text.Spells s word
  unread : warned "expected a boolean" "TINYLISP_CHECK_ARITY" s ∈ outcome.2.map Event.written ↔
    ∀ on, ∀ word ∈ flagWords on, ¬Text.Spells s word

theorem goBy_shows {lookup : String → Option String} {outcome : Settings × List Event} {s : String}
    (answer : lookup "TINYLISP_CHECK_ARITY" = some s) (goes : GoBy lookup outcome) :
    Shows s outcome := by
  have check : outcome.1.checkArity = (flag? s).getD true := by
    simp [goes.checkArity,answer]
  have noted : warned "expected a boolean" "TINYLISP_CHECK_ARITY" s ∈ outcome.2.map Event.written ↔
      flag? s = none := by
    simp [goes.events,answer,unreadable,warned,Option.filter]
  have read := flag_words.accepted s
  refine ⟨?_,?_,noted.trans (flag_words.refused s)⟩
  · rw [← read,check,noted]
    cases flag? s <;> simp
  · rw [← read,check,noted]
    cases flag? s <;> simp

end Settings

-- Styles and flags are taken from the spellings of their words and from nothing else, and what
-- was taken from a flag's text shows in the settings and the warnings.
theorem settings_taken_from_words (s : String) (others : String → Option String) :
    Text.GoesByWords ReportStyle.parse? ReportStyle.words ∧
      Text.GoesByWords Settings.flag? Settings.flagWords ∧
      Settings.Shows s ((Settings.read (Settings.recorded
        (Settings.answering "TINYLISP_CHECK_ARITY" s others))).run []).1 :=
  ⟨ReportStyle.parse_words,Settings.flag_words,
    Settings.goBy_shows (if_pos rfl) (Settings.ofAnswers_goBy _)⟩

end LispCalls
