/-
Tuples of computations that may fail.

`sequence` runs a tuple of computations from the first to the last and gives
the tuple of their results, or the first error.
-/
import Mathlib

namespace S2opc.Lib.Tuple

scoped instance (priority := 1100) neZero_succ (n : Nat) : NeZero (n + 1) := ⟨n.succ_ne_zero⟩

variable {ε α : Type}

theorem map_eq_ok {β : Type} {f : α → β} {x : Except ε α} {b : β} :
    x.map f = .ok b ↔ ∃ a, x = .ok a ∧ f a = b := by
  cases x with
  | error e => simp [Except.map]
  | ok a => simp [Except.map]

/-- Run the computations in order. -/
def sequence : (n : Nat) → (Fin n → Except ε α) → Except ε (Fin n → α)
  | 0, _ => .ok Fin.elim0
  | n + 1, f =>
    match f 0, sequence n fun i => f i.succ with
    | .ok a, .ok as => .ok (Fin.cons a as)
    | .error e, _ => .error e
    | .ok _, .error e => .error e

variable {n : Nat} {f : Fin n → Except ε α}

theorem sequence_eq_ok {g : Fin n → α} :
    sequence n f = .ok g ↔ ∀ i, f i = .ok (g i) := by
  induction n with
  | zero =>
    refine ⟨fun _ i => i.elim0, fun _ => ?_⟩
    rw [sequence]
    exact congrArg Except.ok (funext fun i => i.elim0)
  | succ n ih =>
    rw [sequence, Fin.forall_fin_succ]
    rcases h₀ : f 0 with e | a
    · simp
    rcases hs : sequence n fun i => f i.succ with e | as
    · simp only [reduceCtorEq, false_iff, not_and]
      intro _ hall
      rw [(ih (f := fun i => f i.succ)).2 hall] at hs
      cases hs
    have htail := (ih (f := fun i => f i.succ)).1 hs
    simp only [Except.ok.injEq]
    constructor
    · rintro rfl
      exact ⟨rfl, fun i => htail i⟩
    · rintro ⟨ha, has⟩
      have hg : as = fun i => g i.succ :=
        funext fun i => Except.ok.inj ((htail i).symm.trans (has i))
      rw [ha, hg]
      exact Fin.cons_self_tail g

end S2opc.Lib.Tuple
