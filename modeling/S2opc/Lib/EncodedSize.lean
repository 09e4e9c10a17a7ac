/-
How many bytes a reader passes.

A `Size` measures the encoding at the start of some bytes: of parts in order, of
a part that is there under a condition, of a number of parts of one kind.
`Passes r l n P` says that from the bytes `l` on the reader `r`, if it ends well,
passes `n` of them and gives a value with `P`.  A reader made of several passes
their sizes in order.
-/
import S2opc.Lib.ByteCodec

namespace S2opc.Lib.EncodedSize

open Lib.Bytes Lib.ByteCodec List

/-! ## Sizes -/

/-- The number of bytes of the encoding at the start of some bytes. -/
abbrev Size := List UInt8 → Nat

/-- An encoding of `n` bytes. -/
def fixed (n : Nat) : Size := fun _ => n

/-- The size of a part that is there under a condition. -/
def onlyIf (p : Prop) [Decidable p] (s : Size) : Size := if p then s else fixed 0

/-- The size of parts that follow each other. -/
def inOrder : List Size → Size
  | [], _ => 0
  | s :: rest, l => s l + inOrder rest (l.drop (s l))

/-- The size of `n` parts of one kind. -/
def times (s : Size) : Nat → Size
  | 0, _ => 0
  | n + 1, l => s l + times s n (l.drop (s l))

/-- The number some bytes start with. -/
def numberAt {α : Type} (s : Scalar α) (l : List UInt8) : α := s.ofBytes (l.take s.width)

theorem times_fixed (width n : Nat) (l : List UInt8) : times (fixed width) n l = n * width := by
  induction n generalizing l with
  | zero => exact (Nat.zero_mul width).symm
  | succ n ih =>
    rw [times, ih, fixed, Nat.succ_mul]
    omega

/-! ## Readers -/

variable {ε α β : Type}

/-- From the bytes `l` on, the reader passes `n` bytes and gives a value with `P`. -/
def Passes (r : Codec ε α) (l : List UInt8) (n : Nat) (P : α → Prop) : Prop :=
  ∀ b a b', b.remaining = l → r b = .ok (a, b') →
    b'.remaining = l.drop n ∧ b'.position = b.position + n ∧ P a

namespace Passes

variable {r : Codec ε α} {l : List UInt8} {n : Nat} {P P' : α → Prop} {Q : β → Prop}

theorem pure {a : α} (h : P a) : Passes (Pure.pure a : Codec ε α) l 0 P := by
  rintro b a b' hl ⟨⟩
  exact ⟨hl, rfl, h⟩

theorem throw {e : ε} : Passes (MonadExcept.throw e : Codec ε α) l n P := nofun

theorem mono (h : Passes r l n P) (hP : ∀ a, P a → P' a) : Passes r l n P' := by
  intro b a b' hl hr
  obtain ⟨hrest, hpos, ha⟩ := h b a b' hl hr
  exact ⟨hrest, hpos, hP a ha⟩

/-- Two readers pass the bytes of both. -/
theorem bind {f : α → Codec ε β} {m : Nat} (h : Passes r l n P)
    (hf : ∀ a, P a → Passes (f a) (l.drop n) m Q) : Passes (r >>= f) l (n + m) Q := by
  intro b c b' hl hc
  obtain ⟨a, b₁, ha, hc⟩ := bind_eq_ok hc
  obtain ⟨hrest, hpos, hPa⟩ := h b a b₁ hl ha
  obtain ⟨hrest', hpos', hQ⟩ := hf a hPa b₁ c b' hrest hc
  refine ⟨?_, by omega, hQ⟩
  rw [hrest', drop_drop]

/-- A value that is put into another one. -/
theorem map {f : α → β} (h : Passes r l n P) (hf : ∀ a, P a → Q (f a)) :
    Passes (r >>= fun a => Pure.pure (f a)) l n Q :=
  h.bind fun a ha => .pure (hf a ha)

/-- A value that is put into another one, of which nothing is said. -/
theorem into {f : α → β} (h : Passes r l n P) :
    Passes (r >>= fun a => Pure.pure (f a)) l n fun _ => True := h.map fun _ _ => trivial

/-- The first of several parts in order. -/
theorem first {f : α → Codec ε β} {s : Size} {rest : List Size} (h : Passes r l (s l) P)
    (hf : ∀ a, P a → Passes (f a) (l.drop (s l)) (inOrder rest (l.drop (s l))) Q) :
    Passes (r >>= f) l (inOrder (s :: rest) l) Q := h.bind hf

/-- The last of several parts in order. -/
theorem last {f : α → β} {s : Size} (h : Passes r l (s l) P) (hf : ∀ a, P a → Q (f a)) :
    Passes (r >>= fun a => Pure.pure (f a)) l (inOrder [s] l) Q :=
  h.first fun a ha => .pure (hf a ha)

theorem mapError {f : ε → ε} (h : Passes r l n P) : Passes (ByteCodec.mapError f r) l n P :=
  fun b a b' hl hr => h b a b' hl (mapError_eq_ok.1 hr)

theorem ite {p : Prop} [Decidable p] {r' : Codec ε α} (h : p → Passes r l n P)
    (h' : ¬p → Passes r' l n P) : Passes (if p then r else r') l n P := by
  split_ifs with hp
  · exact h hp
  · exact h' hp

theorem readIf {p : Prop} [Decidable p] {s : Size} {absent : α} (h : Passes r l (s l) fun _ => True) :
    Passes (readIf p r absent) l (onlyIf p s l) fun _ => True := by
  unfold ByteCodec.readIf onlyIf
  split_ifs
  · exact h
  · exact .pure trivial

theorem each {s : Size} (h : ∀ l, Passes r l (s l) fun _ => True) (k : Nat) (l : List UInt8) :
    Passes (readEach k r) l (times s k l) fun _ => True := by
  induction k generalizing l with
  | zero => exact .pure trivial
  | succ k ih => exact (h l).bind fun a _ => (ih _).map fun _ _ => trivial

end Passes

end S2opc.Lib.EncodedSize
