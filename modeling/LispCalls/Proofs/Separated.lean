import Mathlib.Data.List.Forall2

namespace LispCalls.Text

-- How lists are written: each element, a mark and a blank between two of them, and what closes the
-- list.
structure Listing (α : Type) where
  shown : α → List Char
  mark : Char
  blank : List Char
  closing : Char

namespace Listing

variable {α : Type}

def tail (listing : Listing α) (xs : List α) : List Char :=
  xs.flatMap fun a => listing.mark :: (listing.blank ++ listing.shown a)

def text (listing : Listing α) : List α → List Char
  | [] => []
  | a :: rest => listing.shown a ++ listing.tail rest

theorem tail_cons (listing : Listing α) (a : α) (rest : List α) : listing.tail (a :: rest) =
    listing.mark :: (listing.blank ++ listing.text (a :: rest)) := by
  simp [tail,text]

def Tells (listing : Listing α) (Fit : α → Prop) (Ends : List Char → Prop) (Same : α → α → Prop)
    (a : α) : Prop := ∀ b after rest, Fit a → Fit b → Ends after → Ends rest →
  listing.shown a ++ after = listing.shown b ++ rest → Same a b ∧ after = rest

structure Delimits (listing : Listing α) (Fit : α → Prop) (Ends : List Char → Prop) : Prop where
  apart : listing.mark ≠ listing.closing
  between : ∀ cs, Ends (listing.mark :: cs)
  closed : ∀ cs, Ends (listing.closing :: cs)
  opens : ∀ a, Fit a → ∃ c rest, listing.shown a = c :: rest ∧ c ≠ listing.closing

section Told

variable {listing : Listing α} {Fit : α → Prop} {Ends : List Char → Prop} {Same : α → α → Prop}
  {xs ys : List α} {after rest : List Char}

theorem tail_ends (delimits : listing.Delimits Fit Ends) (xs : List α) (after : List Char) :
    Ends (listing.tail xs ++ listing.closing :: after) := by
  cases xs with
  | nil => exact delimits.closed after
  | cons a more => exact delimits.between _

variable (delimits : listing.Delimits Fit Ends) (elements : ∀ a ∈ xs, listing.Tells Fit Ends Same a)
  (first : ∀ a ∈ xs, Fit a) (second : ∀ b ∈ ys, Fit b)

include delimits elements first second

theorem tail_tells (same : listing.tail xs ++ listing.closing :: after =
    listing.tail ys ++ listing.closing :: rest) : List.Forall₂ Same xs ys ∧ after = rest := by
  induction xs generalizing ys with
  | nil =>
    cases ys with
    | nil => exact ⟨.nil,(List.cons.inj same).2⟩
    | cons b later => exact absurd (List.cons.inj same).1.symm delimits.apart
  | cons a more ih =>
    cases ys with
    | nil => exact absurd (List.cons.inj same).1 delimits.apart
    | cons b later =>
      rw [List.forall_mem_cons] at elements first second
      simp only [tail_cons,text,List.cons_append,List.append_assoc,List.cons.injEq,true_and,
        List.append_cancel_left_eq] at same
      obtain ⟨head,tails⟩ := elements.1 b _ _ first.1 second.1 (tail_ends delimits more after)
        (tail_ends delimits later rest) same
      obtain ⟨places,ends⟩ := ih elements.2 first.2 second.2 tails
      exact ⟨.cons head places,ends⟩

theorem text_tells (same : listing.text xs ++ listing.closing :: after =
    listing.text ys ++ listing.closing :: rest) : List.Forall₂ Same xs ys ∧ after = rest := by
  cases xs with
  | nil =>
    cases ys with
    | nil => exact ⟨.nil,(List.cons.inj same).2⟩
    | cons b later =>
      obtain ⟨c,others,written,opens⟩ := delimits.opens b (second b List.mem_cons_self)
      rw [text,text,written] at same
      exact absurd (List.cons.inj same).1.symm opens
  | cons a more =>
    cases ys with
    | nil =>
      obtain ⟨c,others,written,opens⟩ := delimits.opens a (first a List.mem_cons_self)
      rw [text,text,written] at same
      exact absurd (List.cons.inj same).1 opens
    | cons b later =>
      apply tail_tells delimits elements first second
      rw [tail_cons,tail_cons,List.cons_append,List.cons_append,List.append_assoc,List.append_assoc,
        same]

end Told

end Listing
end LispCalls.Text
