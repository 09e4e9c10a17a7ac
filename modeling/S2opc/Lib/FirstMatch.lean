/-
The first element of a list with a property.

A list that stands for a table is searched with `List.find?`, and the element
that is found is removed with `List.eraseP` or changed with `updateFirst`.  Up
to a permutation these are the element and the rest of the list: an invariant
that does not depend on the order is shown for those two parts.
-/
import Mathlib

namespace S2opc.Lib.FirstMatch

open List

variable {α : Type*} {p : α → Bool} {f : α → α} {a : α} {l : List α}

/-- The list with its first element that has a property changed. -/
def updateFirst (p : α → Bool) (f : α → α) : List α → List α
  | [] => []
  | a :: l => if p a then f a :: l else a :: updateFirst p f l

/-- The element that is found, and the others. -/
theorem perm_cons_eraseP (h : l.find? p = some a) : l.Perm (a :: l.eraseP p) := by
  induction l with
  | nil => cases h
  | cons b l ih =>
    by_cases hb : p b = true
    · rw [find?_cons_of_pos hb] at h
      cases h
      rw [eraseP_cons_of_pos hb]
    rw [find?_cons_of_neg hb] at h
    rw [eraseP_cons_of_neg hb]
    exact ((ih h).cons b).trans (Perm.swap a b _)

/-- The element that is found is changed, and the others are not. -/
theorem updateFirst_perm (h : l.find? p = some a) :
    (updateFirst p f l).Perm (f a :: l.eraseP p) := by
  induction l with
  | nil => cases h
  | cons b l ih =>
    by_cases hb : p b = true
    · rw [find?_cons_of_pos hb] at h
      cases h
      rw [updateFirst, if_pos hb, eraseP_cons_of_pos hb]
    rw [find?_cons_of_neg hb] at h
    rw [updateFirst, if_neg hb, eraseP_cons_of_neg hb]
    exact ((ih h).cons b).trans (Perm.swap (f a) b _)

/-- The element that is found after the change is the changed one. -/
theorem find?_updateFirst (h : ∀ a, p (f a) = p a) :
    (updateFirst p f l).find? p = (l.find? p).map f := by
  induction l with
  | nil => rfl
  | cons b l ih =>
    by_cases hb : p b = true
    · rw [updateFirst, if_pos hb, find?_cons_of_pos ((h b).trans hb), find?_cons_of_pos hb]
      rfl
    · rw [updateFirst, if_neg hb, find?_cons_of_neg hb, find?_cons_of_neg hb, ih]

/-- A search for something else does not see the change. -/
theorem find?_updateFirst_of_disjoint {q : α → Bool} (hf : ∀ a, q (f a) = q a)
    (hpq : ∀ a, p a = true → q a = false) : (updateFirst p f l).find? q = l.find? q := by
  induction l with
  | nil => rfl
  | cons b l ih =>
    by_cases hb : p b = true
    · have hq : ¬ q b = true := by simp [hpq b hb]
      rw [updateFirst, if_pos hb, find?_cons_of_neg (by rwa [hf b]), find?_cons_of_neg hq]
    · rw [updateFirst, if_neg hb, find?_cons, find?_cons, ih]

end S2opc.Lib.FirstMatch
