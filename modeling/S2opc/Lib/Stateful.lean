/-
Computations on a state that may stop.

An `Action σ ε α` runs on a state, and gives an `α` or stops with an `ε`; what
it did to the state before it stopped remains.  `exec` runs it, and its
equations say how a sequence goes on or stops.

`Triple P m Q E` says that from a state with `P` the action ends with `Q` of its
result and its state, or stops with `E` of the error and the state.  `Decides`
says of a run from one state exactly when it ends.
-/
import Mathlib

namespace S2opc.Lib.Stateful

/-- A computation on a state `σ` that may stop with an `ε`. -/
abbrev Action (σ ε α : Type) := ExceptT ε (StateM σ) α

namespace Action

variable {σ ε α β : Type}

/-- What an action gives, and the state it leaves. -/
def exec (m : Action σ ε α) (s : σ) : Except ε α × σ := m s

/-- A result that does not depend on the state. -/
def ofExcept (x : Except ε α) : Action σ ε α := fun s => (x, s)

/-- A function of the state that changes it and does not stop. -/
def step (f : σ → α × σ) : Action σ ε α := fun s => (.ok (f s).1, (f s).2)

/-- A change of the state. -/
def update (f : σ → σ) : Action σ ε Unit := fun s => (.ok (), f s)

/-- Something looked up in the state. -/
def query (f : σ → α) : Action σ ε α := fun s => (.ok (f s), s)

@[simp] theorem exec_pure (a : α) (s : σ) : exec (pure a : Action σ ε α) s = (.ok a, s) := rfl

@[simp] theorem exec_throw (e : ε) (s : σ) : exec (throw e : Action σ ε α) s = (.error e, s) := rfl

@[simp] theorem exec_ofExcept (x : Except ε α) (s : σ) : exec (ofExcept x) s = (x, s) := rfl

@[simp] theorem exec_step (f : σ → α × σ) (s : σ) :
    exec (step f : Action σ ε α) s = (.ok (f s).1, (f s).2) := rfl

@[simp] theorem exec_update (f : σ → σ) (s : σ) :
    exec (update f : Action σ ε Unit) s = (.ok (), f s) := rfl

@[simp] theorem exec_query (f : σ → α) (s : σ) :
    exec (query f : Action σ ε α) s = (.ok (f s), s) := rfl

theorem exec_bind (m : Action σ ε α) (f : α → Action σ ε β) (s : σ) :
    exec (m >>= f) s =
      match exec m s with
      | (.ok a, s') => exec (f a) s'
      | (.error e, s') => (.error e, s') := by
  show (ExceptT.bind m f) s = _
  unfold ExceptT.bind exec
  show (let p := m s; (ExceptT.bindCont f p.1) p.2) = _
  obtain ⟨r, s'⟩ := m s
  cases r with
  | ok a => rfl
  | error e => rfl

variable {m : Action σ ε α} {f : α → Action σ ε β} {s : σ}

theorem exec_bind_of_ok {s' : σ} {a : α} (h : exec m s = (.ok a, s')) :
    exec (m >>= f) s = exec (f a) s' := by
  rw [exec_bind, h]

theorem exec_bind_of_error {s' : σ} {e : ε} (h : exec m s = (.error e, s')) :
    exec (m >>= f) s = (.error e, s') := by
  rw [exec_bind, h]

/-- A sequence ends if its first part does, and the second one after it. -/
theorem exec_bind_eq_ok {s'' : σ} {b : β} :
    exec (m >>= f) s = (.ok b, s'') ↔
      ∃ a s', exec m s = (.ok a, s') ∧ exec (f a) s' = (.ok b, s'') := by
  rw [exec_bind]
  obtain ⟨r, s'⟩ := exec m s
  cases r with
  | ok a =>
    constructor
    · intro h
      exact ⟨a, s', rfl, h⟩
    · rintro ⟨a', s₁, h, h'⟩
      cases h
      exact h'
  | error e =>
    constructor
    · intro h
      cases h
    · rintro ⟨a', s₁, h, h'⟩
      cases h

/-- A sequence stops in its first part, or in the second one after the first one. -/
theorem exec_bind_eq_error {e : ε} :
    (exec (m >>= f) s).1 = .error e ↔
      (exec m s).1 = .error e ∨ ∃ a s', exec m s = (.ok a, s') ∧ (exec (f a) s').1 = .error e := by
  rw [exec_bind]
  obtain ⟨r, s'⟩ := exec m s
  cases r with
  | ok a =>
    constructor
    · intro h
      exact .inr ⟨a, s', rfl, h⟩
    · rintro (h | ⟨a', s'', h, h'⟩)
      · cases h
      · cases h
        exact h'
  | error e' =>
    constructor
    · intro h
      exact .inl (congrArg Except.error (Except.error.inj h))
    · rintro (h | ⟨a', s'', h, h'⟩)
      · exact congrArg Except.error (Except.error.inj h)
      · cases h

/-! ## When an action ends -/

/-- Run on `s`, an action ends exactly if `p` holds, and then leaves `Q`; else it leaves `E`. -/
def Decides (m : Action σ ε α) (s : σ) (p : Prop) (Q : α → σ → Prop) (E : σ → Prop) : Prop :=
  (p ∧ ∃ a s', exec m s = (.ok a, s') ∧ Q a s') ∨ (¬p ∧ ∃ e s', exec m s = (.error e, s') ∧ E s')

namespace Decides

variable {p q : Prop} {Q : α → σ → Prop} {E : σ → Prop} {m : Action σ ε α}

theorem pure {a : α} (hp : p) (h : Q a s) : Decides (Pure.pure a : Action σ ε α) s p Q E :=
  .inl ⟨hp, a, s, rfl, h⟩

theorem throw {e : ε} (hp : ¬p) (h : E s) : Decides (MonadExcept.throw e : Action σ ε α) s p Q E :=
  .inr ⟨hp, e, s, rfl, h⟩

theorem update {g : σ → σ} {Q : Unit → σ → Prop} (hp : p) (h : Q () (g s)) :
    Decides (update g : Action σ ε Unit) s p Q E :=
  .inl ⟨hp, (), g s, rfl, h⟩

theorem of_iff (h : Decides m s p Q E) (hpq : p ↔ q) : Decides m s q Q E := by
  rw [← hpq]
  exact h

/-- A part that is known to end is passed over. -/
theorem step {f : α → Action σ ε β} {R : β → σ → Prop} {a : α} {s' : σ}
    (hm : exec m s = (.ok a, s')) (hf : Decides (f a) s' p R E) : Decides (m >>= f) s p R E := by
  unfold Decides
  rw [exec_bind_of_ok hm]
  exact hf

theorem bind {f : α → Action σ ε β} {R : β → σ → Prop} (hm : Decides m s p Q E)
    (hf : ∀ a s', Q a s' → Decides (f a) s' q R E) : Decides (m >>= f) s (p ∧ q) R E := by
  rcases hm with ⟨hp, a, s', hm, ha⟩ | ⟨hp, e, s', hm, he⟩
  · exact step hm ((hf a s' ha).of_iff (and_iff_right hp).symm)
  · exact .inr ⟨fun h => hp h.1, e, s', exec_bind_of_error hm, he⟩

variable {c : Prop} [Decidable c] {e : ε}

/-- A check that has to pass. -/
theorem require (hs : E s) (h : c → Decides m s p Q E) :
    Decides (if c then m else MonadExcept.throw e) s (c ∧ p) Q E := by
  split_ifs with hc
  · exact (h hc).of_iff (and_iff_right hc).symm
  · exact throw (fun h => hc h.1) hs

/-- A check that has to fail. -/
theorem reject (hs : E s) (h : ¬c → Decides m s p Q E) :
    Decides (if c then MonadExcept.throw e else m) s (¬c ∧ p) Q E := by
  split_ifs with hc
  · exact throw (fun h => h.1 hc) hs
  · exact (h hc).of_iff (and_iff_right hc).symm

end Decides

/-! ## Before and after -/

/-- From a state with `P`, an action that ends leaves `Q`, and one that stops leaves `E`. -/
def Triple (P : σ → Prop) (m : Action σ ε α) (Q : α → σ → Prop) (E : ε → σ → Prop) : Prop :=
  ∀ s, P s →
    match exec m s with
    | (.ok a, s') => Q a s'
    | (.error e, s') => E e s'

namespace Triple

variable {P : σ → Prop} {Q : α → σ → Prop} {R : β → σ → Prop} {E : ε → σ → Prop}

theorem pure {a : α} (h : ∀ s, P s → Q a s) : Triple P (Pure.pure a) Q E := fun s hs => h s hs

theorem throw {e : ε} (h : ∀ s, P s → E e s) : Triple P (throw e : Action σ ε α) Q E :=
  fun s hs => h s hs

theorem update {f : σ → σ} {Q : Unit → σ → Prop} (h : ∀ s, P s → Q () (f s)) :
    Triple P (update f) Q E := fun s hs => h s hs

theorem step {f : σ → α × σ} (h : ∀ s, P s → Q (f s).1 (f s).2) : Triple P (step f) Q E :=
  fun s hs => h s hs

theorem query {f : σ → α} (h : ∀ s, P s → Q (f s) s) : Triple P (query f) Q E :=
  fun s hs => h s hs

theorem ofExcept {x : Except ε α} (hok : ∀ a, x = .ok a → ∀ s, P s → Q a s)
    (herror : ∀ e, x = .error e → ∀ s, P s → E e s) : Triple P (ofExcept x) Q E := by
  intro s hs
  cases x with
  | ok a => exact hok a rfl s hs
  | error e => exact herror e rfl s hs

variable {m : Action σ ε α}

theorem bind {f : α → Action σ ε β} (hm : Triple P m Q E) (hf : ∀ a, Triple (Q a) (f a) R E) :
    Triple P (m >>= f) R E := by
  intro s hs
  have h := hm s hs
  rw [exec_bind]
  revert h
  obtain ⟨r, s'⟩ := exec m s
  cases r with
  | ok a => exact fun h => hf a s' h
  | error e => exact fun h => h

/-- What a state condition says of other things than the state is an assumption. -/
theorem assume {φ : Prop} (h : φ → Triple P m Q E) :
    Triple (fun s => P s ∧ φ) m Q E := fun s hs => h hs.2 s hs.1

end Triple

/-! ## Invariants -/

/-- An action keeps a property of the state, whether it ends or stops. -/
def Keeps (I : σ → Prop) (m : Action σ ε α) : Prop := Triple I m (fun _ => I) fun _ => I

namespace Keeps

variable {I : σ → Prop} {m : Action σ ε α}

theorem pure (a : α) : Keeps I (Pure.pure a : Action σ ε α) := Triple.pure fun _ hs => hs

theorem throw (e : ε) : Keeps I (MonadExcept.throw e : Action σ ε α) := Triple.throw fun _ hs => hs

theorem ofExcept (x : Except ε α) : Keeps I (ofExcept x) :=
  Triple.ofExcept (fun _ _ _ hs => hs) fun _ _ _ hs => hs

theorem query (f : σ → α) : Keeps I (query f : Action σ ε α) := Triple.query fun _ hs => hs

theorem step {f : σ → α × σ} (h : ∀ s, I s → I (f s).2) : Keeps I (step f : Action σ ε α) :=
  Triple.step h

theorem update {f : σ → σ} (h : ∀ s, I s → I (f s)) : Keeps I (update f : Action σ ε Unit) :=
  Triple.update h

theorem bind {f : α → Action σ ε β} (hm : Keeps I m) (hf : ∀ a, Keeps I (f a)) :
    Keeps I (m >>= f) := Triple.bind hm hf

theorem ite {p : Prop} [Decidable p] {m' : Action σ ε α} (hm : Keeps I m) (hm' : Keeps I m') :
    Keeps I (if p then m else m') := by
  split_ifs with hp
  · exact hm
  · exact hm'

theorem state (h : Keeps I m) {s : σ} (hs : I s) : I (exec m s).2 := by
  have hm := h s hs
  revert hm
  obtain ⟨r, s'⟩ := exec m s
  cases r with
  | ok a => exact fun h => h
  | error e => exact fun h => h

end Keeps

end Action

end S2opc.Lib.Stateful
