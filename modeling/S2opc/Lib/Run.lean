/-
Runs of a step function.

A run is a list of inputs given to a step function one after the other.  Here
are the two ways of speaking of all of it: a property of every state that is
reached, and a condition on every step that is taken.  The rules relate the
two: one step shown to keep the property, or to keep it exactly under a
condition, gives the same for the whole run.
-/
import Mathlib

namespace S2opc.Lib.Run

open List

variable {State Input : Type*} (step : State → Input → State)

/-- A property holds in each state of a run, the first and the last ones included. -/
def EveryState (good : State → Prop) : State → List Input → Prop
  | s, [] => good s
  | s, i :: inputs => good s ∧ EveryState good (step s i) inputs

/-- A condition holds for each input of a run in the state where it is taken. -/
def EveryStep (ok : State → Input → Prop) : State → List Input → Prop
  | _, [] => True
  | s, i :: inputs => ok s i ∧ EveryStep ok (step s i) inputs

instance decidableEveryState {good : State → Prop} [DecidablePred good] :
    ∀ s inputs, Decidable (EveryState step good s (inputs : List Input))
  | s, [] => inferInstanceAs (Decidable (good s))
  | s, i :: inputs =>
    have : Decidable (EveryState step good (step s i) inputs) :=
      decidableEveryState (step s i) inputs
    inferInstanceAs (Decidable (good s ∧ EveryState step good (step s i) inputs))

instance decidableEveryStep {ok : State → Input → Prop} [∀ s i, Decidable (ok s i)] :
    ∀ s inputs, Decidable (EveryStep step ok s inputs)
  | _, [] => isTrue trivial
  | s, i :: inputs =>
    have : Decidable (EveryStep step ok (step s i) inputs) := decidableEveryStep (step s i) inputs
    inferInstanceAs (Decidable (ok s i ∧ EveryStep step ok (step s i) inputs))

variable {step} {good : State → Prop} {s : State} {inputs : List Input}

/-- The states of a run are those that its beginnings lead to. -/
theorem everyState_iff_prefix :
    EveryState step good s inputs ↔ ∀ before, before <+: inputs → good (before.foldl step s) := by
  induction inputs generalizing s with
  | nil => simp [EveryState]
  | cons i inputs ih =>
    rw [EveryState, ih]
    constructor
    · rintro ⟨hs, hrest⟩ before hbefore
      rcases prefix_cons_iff.1 hbefore with rfl | ⟨rest, rfl, hrest'⟩
      · exact hs
      · exact hrest rest hrest'
    · intro h
      exact ⟨h [] nil_prefix,
        fun before hbefore => h (i :: before) (cons_prefix_cons.2 ⟨rfl, hbefore⟩)⟩

/-- The last state of a run is one of its states. -/
theorem EveryState.last (h : EveryState step good s inputs) : good (inputs.foldl step s) :=
  everyState_iff_prefix.1 h inputs prefix_rfl

theorem EveryState.first (h : EveryState step good s inputs) : good s := by
  cases inputs with
  | nil => exact h
  | cons i inputs => exact h.1

theorem EveryState.mono {good' : State → Prop} (h : EveryState step good s inputs)
    (himp : ∀ s, good s → good' s) :
    EveryState step good' s inputs := by
  induction inputs generalizing s with
  | nil => exact himp s h
  | cons i inputs ih => exact ⟨himp s h.1, ih h.2⟩

variable {ok : State → Input → Prop}

/-- The invariant rule: what each step that meets a condition keeps, each state of a run whose
    steps meet it has. -/
theorem EveryStep.everyState (hstep : ∀ s i, good s → ok s i → good (step s i)) (hs : good s)
    (hok : EveryStep step ok s inputs) : EveryState step good s inputs := by
  induction inputs generalizing s with
  | nil => exact hs
  | cons i inputs ih => exact ⟨hs, ih (hstep s i hs hok.1) hok.2⟩

theorem everyStep_of_forall (h : ∀ s i, ok s i) : EveryStep step ok s inputs := by
  induction inputs generalizing s with
  | nil => trivial
  | cons i inputs ih => exact ⟨h s i, ih⟩

/-- A condition on the inputs alone holds along a run if it does of each of them. -/
theorem everyStep_iff_forall {ok : Input → Prop} :
    EveryStep step (fun _ => ok) s inputs ↔ ∀ i ∈ inputs, ok i := by
  induction inputs generalizing s with
  | nil =>
    constructor
    · intro _ i hi
      cases hi
    · intro _
      trivial
  | cons i inputs ih => rw [EveryStep, ih, forall_mem_cons]

variable {inv : State → Prop}

/-- The invariant rule for an invariant that each step keeps. -/
theorem everyState_of_invariant (hstep : ∀ s i, inv s → inv (step s i)) (hs : inv s) :
    EveryState step inv s inputs := by
  have hall : EveryStep step (fun _ _ => True) s inputs := everyStep_of_forall fun _ _ => trivial
  exact hall.everyState (fun s i h _ => hstep s i h) hs

/-- The invariant rule for a property that a step keeps if the state it leads to is within a
    bound. -/
theorem EveryState.everyState {bound : State → Prop}
    (hstep : ∀ s i, good s → bound (step s i) → good (step s i)) (hs : good s)
    (hbound : EveryState step bound s inputs) : EveryState step good s inputs := by
  induction inputs generalizing s with
  | nil => exact hs
  | cons i inputs ih =>
    exact ⟨hs, ih (hstep s i hs hbound.2.first) hbound.2⟩

/-- A property that a step keeps exactly under a condition holds in each state of a run if and
    only if each step meets the condition. -/
theorem everyState_iff_everyStep (hinv : ∀ s i, inv s → inv (step s i))
    (hstep : ∀ s i, inv s → good s → (good (step s i) ↔ ok s i)) (hs : inv s) (hgood : good s) :
    EveryState step good s inputs ↔ EveryStep step ok s inputs := by
  induction inputs generalizing s with
  | nil => exact ⟨fun _ => trivial, fun _ => hgood⟩
  | cons i inputs ih =>
    constructor
    · rintro ⟨-, hrest⟩
      exact ⟨(hstep s i hs hgood).1 hrest.first, (ih (hinv s i hs) hrest.first).1 hrest⟩
    · rintro ⟨hok, hrest⟩
      have hnext := (hstep s i hs hgood).2 hok
      exact ⟨hgood, (ih (hinv s i hs) hnext).2 hrest⟩

/-- Two properties of all the states of a run are the same, if both hold wherever the invariant
    does and both are lost by the step that breaks it. -/
theorem everyState_iff_everyState {good' bound : State → Prop}
    (hgood : ∀ s, inv s → good s ∧ good' s)
    (hstep : ∀ s i, inv s → bound (step s i) →
      inv (step s i) ∨ ¬ good (step s i) ∧ ¬ good' (step s i))
    (hs : inv s) (hbound : EveryState step bound s inputs) :
    EveryState step good s inputs ↔ EveryState step good' s inputs := by
  induction inputs generalizing s with
  | nil => exact iff_of_true (hgood s hs).1 (hgood s hs).2
  | cons i inputs ih =>
    rw [EveryState, EveryState, and_iff_right (hgood s hs).1, and_iff_right (hgood s hs).2]
    rcases hstep s i hs hbound.2.first with hinv | ⟨hnot, hnot'⟩
    · exact ih hinv hbound.2
    · exact iff_of_false (fun h => hnot h.first) fun h => hnot' h.first

/-- What is asked of each step holds along a run if and only if each step meets a condition, if
    the two agree wherever the invariant holds, which steps that are as asked keep. -/
theorem everyStep_iff_everyStep {asked : State → Input → Prop}
    (hinv : ∀ s i, inv s → asked s i → inv (step s i)) (hstep : ∀ s i, inv s → (asked s i ↔ ok s i))
    (hs : inv s) :
    EveryStep step asked s inputs ↔ EveryStep step ok s inputs := by
  induction inputs generalizing s with
  | nil => exact Iff.rfl
  | cons i inputs ih =>
    constructor
    · rintro ⟨hasked, hrest⟩
      exact ⟨(hstep s i hs).1 hasked, (ih (hinv s i hs hasked)).1 hrest⟩
    · rintro ⟨hok, hrest⟩
      have hasked := (hstep s i hs).2 hok
      exact ⟨hasked, (ih (hinv s i hs hasked)).2 hrest⟩

end S2opc.Lib.Run
