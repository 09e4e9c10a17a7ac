/-
Loops that look at every element of a list and may stop.

Both loops ask a question of each element, in order.  `gather` collects what is
found, `keepLast` remembers what was found last.  A question that stops ends
the loop.  The two equations say the same of them: a loop ends if and only if no
question stops, and then its result is that of a filter.
-/
import Mathlib

namespace S2opc.Lib.Scan

open List

variable {α β ε : Type}

/-- A sequence ends if its first part does, and the second one after it. -/
theorem bind_eq_ok {γ : Type} {x : Except ε α} {f : α → Except ε γ} {c : γ} :
    (x >>= f) = .ok c ↔ ∃ a, x = .ok a ∧ f a = .ok c := by
  rcases x with e | a
  · constructor
    · intro h
      cases h
    · rintro ⟨a, ha, -⟩
      cases ha
  constructor
  · intro h
    exact ⟨a, rfl, h⟩
  · rintro ⟨a', ha, h⟩
    cases ha
    exact h

/-- What is found in each element, in order. -/
def gather (f : α → Except ε (Option β)) : List α → Except ε (List β)
  | [] => .ok []
  | a :: l => do
      let found ← f a
      let rest ← gather f l
      .ok (found.toList ++ rest)

/-- What is found last, `found` being what was found so far. -/
def keepLast (f : α → Except ε (Option β)) : List α → Option β → Except ε (Option β)
  | [], found => .ok found
  | a :: l, found => do
      let next ← f a
      keepLast f l (next.or found)

/-- The answer to a question that does not stop. -/
def answer : Except ε (Option β) → Option β
  | .ok found => found
  | .error _ => none

variable {f : α → Except ε (Option β)} {l : List α}

@[simp] theorem answer_ok (found : Option β) : answer (.ok found : Except ε (Option β)) = found :=
  rfl

theorem gather_eq_ok {r : List β} :
    gather f l = .ok r ↔
      (∀ a ∈ l, ∃ found, f a = .ok found) ∧ r = l.filterMap fun a => answer (f a) := by
  induction l generalizing r with
  | nil =>
    rw [gather]
    constructor
    · intro h
      exact ⟨fun a ha => absurd ha not_mem_nil, (Except.ok.inj h).symm⟩
    · rintro ⟨-, rfl⟩
      rfl
  | cons a l ih =>
    rw [gather, bind_eq_ok, forall_mem_cons]
    have hmap : ∀ found, f a = .ok found → (a :: l).filterMap (fun a => answer (f a)) =
        found.toList ++ l.filterMap fun a => answer (f a) := by
      intro found hf
      rw [filterMap_cons, hf]
      cases found with
      | none => rfl
      | some b => rfl
    constructor
    · rintro ⟨found, hf, h⟩
      obtain ⟨rest, hrest, h⟩ := bind_eq_ok.1 h
      obtain ⟨hall, rfl⟩ := ih.1 hrest
      rw [hmap found hf]
      exact ⟨⟨⟨found, hf⟩, hall⟩, (Except.ok.inj h).symm⟩
    · rintro ⟨⟨⟨found, hf⟩, hall⟩, rfl⟩
      rw [hmap found hf]
      exact ⟨found, hf, bind_eq_ok.2 ⟨_, ih.2 ⟨hall, rfl⟩, rfl⟩⟩

theorem keepLast_eq_ok {P : α → Prop} {g : α → Option β}
    (hf : ∀ {a r}, f a = .ok r ↔ P a ∧ r = g a) {found r : Option β} :
    keepLast f l found = .ok r ↔
      (∀ a ∈ l, P a) ∧ r = ((l.filterMap g).getLast?).or found := by
  induction l generalizing found with
  | nil =>
    rw [keepLast, Except.ok.injEq, eq_comm]
    simp
  | cons a l ih =>
    have hlast : (((a :: l).filterMap g).getLast?).or found =
        ((l.filterMap g).getLast?).or ((g a).or found) := by
      rw [filterMap_cons]
      rcases g a with _ | b
      · rfl
      cases l.filterMap g with
      | nil => simp
      | cons c m => simp [getLast?_eq_some_getLast]
    rw [keepLast, bind_eq_ok, forall_mem_cons, and_assoc, hlast]
    simp only [hf, ih, and_assoc, exists_and_left, exists_eq_left]

end S2opc.Lib.Scan
