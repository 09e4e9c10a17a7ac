/-
Byte buffers, codecs over them, and round trips.

A `Buffer` is a byte array with a cursor and a 32-bit maximum size; writing at
the cursor overwrites what is there and extends the array at its end.  A
`Codec ε α` runs on a buffer and either fails with an `ε` or returns an `α` and
the buffer it leaves.  Writers are codecs that return nothing, readers return
the value they decode.

`RoundTrip slack w r a` says that whatever `w` manages to write, leaving at least
`slack` bytes free, `r` reads back as `a`, from any buffer holding those bytes
at its cursor, and stops right after them.  Round trips compose along `>>=`,
through optional parts, over tuples, under a change of errors, and over a length
that is patched in afterwards.
-/
import S2opc.Lib.Bytes
import S2opc.Lib.Tuple

namespace S2opc.Lib.ByteCodec

open Lib.Bytes List

open scoped Lib.Tuple

/-! ## Buffers -/

/-- The bytes in use, the cursor, and the size the buffer may grow to. -/
@[ext]
structure Buffer where
  data : List UInt8
  position : Nat
  maximumSize : UInt32
  position_le : position ≤ data.length
  length_le : data.length ≤ maximumSize.toNat
  deriving DecidableEq, Repr

namespace Buffer

/-- An empty buffer that may grow to `size` bytes. -/
def empty (size : UInt32) : Buffer := ⟨[], 0, size, Nat.zero_le _, Nat.zero_le _⟩

/-- Put bytes at the cursor, if the buffer may hold them. -/
def write (b : Buffer) (bytes : List UInt8) : Option Buffer :=
  if h : b.position + bytes.length ≤ b.maximumSize.toNat then
    some
      { data := b.data.take b.position ++ bytes ++ b.data.drop (b.position + bytes.length)
        position := b.position + bytes.length
        maximumSize := b.maximumSize
        position_le := by
          have := b.position_le
          simp only [List.length_append, List.length_take, List.length_drop]
          omega
        length_le := by
          have := b.length_le
          simp only [List.length_append, List.length_take, List.length_drop]
          omega }
  else none

/-- Take the next `n` bytes, if there are as many. -/
def read (b : Buffer) (n : Nat) : Option (List UInt8 × Buffer) :=
  if h : b.position + n ≤ b.data.length then
    some ((b.data.drop b.position).take n,
      { b with position := b.position + n, position_le := h })
  else none

/-- A buffer full of some bytes, with the cursor at their start. -/
def attach (bytes : List UInt8) (h : bytes.length < 2 ^ 32) : Buffer where
  data := bytes
  position := 0
  maximumSize := UInt32.ofNat bytes.length
  position_le := Nat.zero_le _
  length_le := by
    rw [UInt32.toNat_ofNat']
    omega

/-- The bytes from the cursor on. -/
def remaining (b : Buffer) : List UInt8 := b.data.drop b.position

/-- Move the cursor inside the bytes in use. -/
def seek (b : Buffer) (position : Nat) : Option Buffer :=
  if h : position ≤ b.data.length then some { b with position := position, position_le := h }
  else none

variable {b b' : Buffer} {bytes : List UInt8}

theorem write_eq_some :
    b.write bytes = some b' ↔
      b.position + bytes.length ≤ b.maximumSize.toNat ∧
      b'.data = b.data.take b.position ++ bytes ++ b.data.drop (b.position + bytes.length) ∧
      b'.position = b.position + bytes.length ∧ b'.maximumSize = b.maximumSize := by
  unfold write
  by_cases h : b.position + bytes.length ≤ b.maximumSize.toNat
  · simp only [h, dite_true, Option.some.injEq, true_and, Buffer.ext_iff]
    exact ⟨fun e => ⟨e.1.symm, e.2.1.symm, e.2.2.symm⟩, fun e => ⟨e.1.symm, e.2.1.symm, e.2.2.symm⟩⟩
  · simp [h]

variable {n : Nat}

theorem read_eq_some :
    b.read n = some (bytes, b') ↔
      b.position + n ≤ b.data.length ∧ bytes = (b.data.drop b.position).take n ∧
      b'.data = b.data ∧ b'.position = b.position + n ∧ b'.maximumSize = b.maximumSize := by
  unfold read
  by_cases h : b.position + n ≤ b.data.length
  · simp only [h, dite_true, Option.some.injEq, Prod.mk.injEq, true_and, Buffer.ext_iff]
    exact ⟨fun e => ⟨e.1.symm, e.2.1.symm, e.2.2.1.symm, e.2.2.2.symm⟩,
      fun e => ⟨e.1.symm, e.2.1.symm, e.2.2.1.symm, e.2.2.2.symm⟩⟩
  · simp [h]

theorem write_eq_none :
    b.write bytes = none ↔ b.maximumSize.toNat < b.position + bytes.length := by
  unfold write
  split_ifs with h
  · simp only [false_iff]
    omega
  · simp only [true_iff]
    omega

theorem read_eq_none :
    b.read n = none ↔ b.data.length < b.position + n := by
  unfold read
  split_ifs with h
  · simp only [false_iff]
    omega
  · simp only [true_iff]
    omega

theorem seek_eq_some {p : Nat} :
    b.seek p = some b' ↔
      p ≤ b.data.length ∧ b'.data = b.data ∧ b'.position = p ∧ b'.maximumSize = b.maximumSize := by
  unfold seek
  by_cases h : p ≤ b.data.length
  · simp only [h, dite_true, Option.some.injEq, true_and, Buffer.ext_iff]
    exact ⟨fun e => ⟨e.1.symm, e.2.1.symm, e.2.2.symm⟩, fun e => ⟨e.1.symm, e.2.1.symm, e.2.2.symm⟩⟩
  · simp [h]

theorem read_length (h : b.read n = some (bytes, b')) : bytes.length = n := by
  obtain ⟨hle, rfl, -⟩ := read_eq_some.1 h
  rw [length_take, length_drop]
  omega

theorem length_remaining (b : Buffer) : b.remaining.length = b.data.length - b.position :=
  length_drop

theorem write_nil (b : Buffer) : b.write [] = some b := by
  have h := b.position_le
  have h' := b.length_le
  rw [write_eq_some]
  refine ⟨?_, ?_, rfl, rfl⟩
  · simp only [length_nil]
    omega
  · simp

theorem read_zero (b : Buffer) : b.read 0 = some ([], b) := by
  rw [read_eq_some]
  exact ⟨b.position_le, rfl, rfl, rfl, rfl⟩

variable {b₁ b₂ : Buffer} {bytes₁ bytes₂ : List UInt8}

/-- Two writes in a row are one write of both. -/
theorem write_append (h₁ : b.write bytes₁ = some b₁) (h₂ : b₁.write bytes₂ = some b₂) :
    b.write (bytes₁ ++ bytes₂) = some b₂ := by
  obtain ⟨hle₁, hd₁, hp₁, hm₁⟩ := write_eq_some.1 h₁
  obtain ⟨hle₂, hd₂, hp₂, hm₂⟩ := write_eq_some.1 h₂
  have hpos := b.position_le
  rw [hp₁, hm₁] at hle₂
  rw [write_eq_some]
  refine ⟨by rw [length_append]; omega, ?_, ?_, hm₂.trans hm₁⟩
  · have htake : (b.data.take b.position ++ bytes₁).length = b.position + bytes₁.length := by
      rw [length_append, length_take]
      omega
    have hkeep : b₁.data.take b₁.position = b.data.take b.position ++ bytes₁ := by
      rw [hd₁, hp₁, take_append_of_le_length (by omega), ← htake, take_length]
    have hrest : b₁.data.drop (b₁.position + bytes₂.length) =
        b.data.drop (b.position + (bytes₁ ++ bytes₂).length) := by
      rw [hd₁, hp₁, drop_append, drop_eq_nil_of_le (by omega), nil_append,
        drop_drop, htake, length_append]
      congr 1
      omega
    rw [hd₂, hkeep, hrest]
    simp only [append_assoc]
  · rw [hp₂, hp₁, length_append]
    omega

/-- A write of two stretches is made of two writes. -/
theorem write_of_append (h : b.write (bytes₁ ++ bytes₂) = some b₂) :
    ∃ b₁, b.write bytes₁ = some b₁ ∧ b₁.write bytes₂ = some b₂ := by
  have hle := (write_eq_some.1 h).1
  rw [length_append] at hle
  obtain ⟨b₁, h₁⟩ : ∃ b₁, b.write bytes₁ = some b₁ := ⟨_, dif_pos (by omega)⟩
  obtain ⟨-, -, hp₁, hm₁⟩ := write_eq_some.1 h₁
  obtain ⟨x, h₂⟩ : ∃ x, b₁.write bytes₂ = some x := ⟨_, dif_pos (by rw [hp₁, hm₁]; omega)⟩
  have hx : x = b₂ := Option.some.inj ((write_append h₁ h₂).symm.trans h)
  exact ⟨b₁, h₁, hx ▸ h₂⟩

/-- Reading two stretches is reading their concatenation. -/
theorem read_append (h : b.read (bytes₁ ++ bytes₂).length = some (bytes₁ ++ bytes₂, b')) :
    ∃ b₁, b.read bytes₁.length = some (bytes₁, b₁) ∧
      b₁.read bytes₂.length = some (bytes₂, b') := by
  obtain ⟨hle, hbytes, hd, hp, hm⟩ := read_eq_some.1 h
  rw [length_append] at hle hp hbytes
  have h₁ : bytes₁ = (b.data.drop b.position).take bytes₁.length := by
    have := congrArg (take bytes₁.length) hbytes
    rw [take_left, take_take, Nat.min_eq_left (by omega)] at this
    exact this
  have h₂ : bytes₂ = (b.data.drop (b.position + bytes₁.length)).take bytes₂.length := by
    have := congrArg (drop bytes₁.length) hbytes
    rw [drop_left, drop_take, drop_drop] at this
    rw [Nat.add_sub_cancel_left] at this
    exact this
  refine ⟨⟨b.data, b.position + bytes₁.length, b.maximumSize, by omega, b.length_le⟩, ?_, ?_⟩
  · rw [read_eq_some]
    exact ⟨by omega, h₁, rfl, rfl, rfl⟩
  · rw [read_eq_some]
    exact ⟨by simp only; omega, h₂, hd, by rw [hp]; simp only; omega, hm⟩

/-- Reading on after a stretch reads the longer one. -/
theorem read_add {m : Nat} (h₁ : b.read n = some (bytes₁, b₁))
    (h₂ : b₁.read m = some (bytes₂, b₂)) :
    b.read (n + m) = some (bytes₁ ++ bytes₂, b₂) := by
  obtain ⟨hle₁, rfl, hd₁, hp₁, hm₁⟩ := read_eq_some.1 h₁
  obtain ⟨hle₂, rfl, hd₂, hp₂, hm₂⟩ := read_eq_some.1 h₂
  rw [hd₁, hp₁] at hle₂
  rw [read_eq_some]
  refine ⟨by omega, ?_, hd₂.trans hd₁, by rw [hp₂, hp₁]; omega, hm₂.trans hm₁⟩
  rw [hd₁, hp₁, take_add, drop_drop]

/-- What is written in one place is determined by the buffer it gives. -/
theorem write_inj (hlen : bytes₁.length = bytes₂.length) (h₁ : b.write bytes₁ = some b')
    (h₂ : b.write bytes₂ = some b') : bytes₁ = bytes₂ := by
  have hd₁ := (write_eq_some.1 h₁).2.1
  have hd₂ := (write_eq_some.1 h₂).2.1
  rw [hd₁, ← hlen, append_assoc, append_assoc] at hd₂
  exact (append_inj (append_cancel_left hd₂) hlen).1

/-- Going back to where a write started, the written bytes are next to read. -/
theorem read_of_write (h : b.write bytes = some b') :
    ∃ start, b'.seek b.position = some start ∧ start.read bytes.length = some (bytes, b') := by
  obtain ⟨hle, hd, hp, hm⟩ := write_eq_some.1 h
  have hpos := b.position_le
  have hlen : b.position + bytes.length ≤ b'.data.length := by
    rw [← hp]
    exact b'.position_le
  refine ⟨⟨b'.data, b.position, b'.maximumSize, by omega, b'.length_le⟩, ?_, ?_⟩
  · rw [seek_eq_some]
    exact ⟨by omega, rfl, rfl, rfl⟩
  · rw [read_eq_some]
    refine ⟨hlen, ?_, rfl, hp, rfl⟩
    have htake : (b.data.take b.position).length = b.position := by
      rw [length_take]
      omega
    show bytes = (b'.data.drop b.position).take bytes.length
    rw [hd, append_assoc, drop_append_of_le_length (by omega)]
    rw [drop_eq_nil_of_le (by omega), nil_append, take_left]

/-- Going back over a write to replace its first bytes replaces them, and nothing else. -/
theorem write_over {b₃ b₄ b₅ : Buffer} {old new rest : List UInt8} (hlen : new.length = old.length)
    (h₁ : b.write old = some b₁) (h₂ : b₁.write rest = some b₂) (h₃ : b₂.seek b.position = some b₃)
    (h₄ : b₃.write new = some b₄) (h₅ : b₄.seek b₂.position = some b₅) :
    b.write (new ++ rest) = some b₅ := by
  obtain ⟨hle, hd₂, hp₂, hm₂⟩ := write_eq_some.1 (write_append h₁ h₂)
  obtain ⟨-, hd₃, hp₃, hm₃⟩ := seek_eq_some.1 h₃
  obtain ⟨-, hd₄, -, hm₄⟩ := write_eq_some.1 h₄
  obtain ⟨-, hd₅, hp₅, hm₅⟩ := seek_eq_some.1 h₅
  have hpos := b.position_le
  have htake : (b.data.take b.position).length = b.position := by
    rw [length_take]
    omega
  have hboth : (new ++ rest).length = (old ++ rest).length := by
    rw [length_append, length_append, hlen]
  rw [write_eq_some]
  refine ⟨by omega, ?_, by rw [hp₅, hp₂, hboth], by rw [hm₅, hm₄, hm₃, hm₂]⟩
  have hkeep : b₂.data.take b.position = b.data.take b.position := by
    rw [hd₂, append_assoc, take_append_of_le_length (by omega), take_take,
      Nat.min_self]
  have hdrop : b₂.data.drop (b.position + new.length) =
      rest ++ b.data.drop (b.position + (old ++ rest).length) := by
    rw [hd₂, hlen, append_assoc, drop_append, drop_eq_nil_of_le (by omega),
      nil_append, htake, Nat.add_sub_cancel_left, append_assoc, drop_left]
  rw [hd₅, hd₄, hd₃, hp₃, hkeep, hdrop, hboth]
  simp only [append_assoc]

end Buffer

/-! ## Codecs -/

/-- A computation on a buffer that may fail with an error. -/
abbrev Codec (ε α : Type) := StateT Buffer (Except ε) α

section
variable {ε α β : Type}

/-- Rename the error a codec fails with. -/
def mapError (f : ε → ε) (c : Codec ε α) : Codec ε α := fun b => (c b).mapError f

/-- Report every failure of a codec as one error of another kind. -/
def failWith {δ : Type} (e : δ) (c : Codec ε α) : Codec δ α := fun b => (c b).mapError fun _ => e

/-- Run a writer for each entry of a tuple, in order. -/
def writeEach : (n : Nat) → (Fin n → Codec ε Unit) → Codec ε Unit
  | 0, _ => pure ()
  | n + 1, w => w 0 >>= fun _ => writeEach n fun i => w i.succ

/-- Read the entries of a tuple, in order. -/
def readEach : (n : Nat) → Codec ε α → Codec ε (Fin n → α)
  | 0, _ => pure Fin.elim0
  | n + 1, r => r >>= fun a => readEach n r >>= fun as => pure (Fin.cons a as)

/-- Run a writer for each entry of a list, in order. -/
def writeList {γ : Type} (w : γ → Codec ε Unit) : List γ → Codec ε Unit
  | [] => pure ()
  | a :: as => w a >>= fun _ => writeList w as

/-- Read a list of known length. -/
def readList (r : Codec ε α) : Nat → Codec ε (List α)
  | 0 => pure []
  | n + 1 => r >>= fun a => readList r n >>= fun as => pure (a :: as)

/-- Write a part that is there under a condition. -/
def writeIf (p : Prop) [Decidable p] (w : Codec ε Unit) : Codec ε Unit := if p then w else pure ()

/-- Read a part that is there under a condition. -/
def readIf (p : Prop) [Decidable p] (r : Codec ε α) (absent : α) : Codec ε α :=
  if p then r else pure absent

/-- Move the cursor. -/
def seekTo (e : ε) (position : Nat) : Codec ε Unit := fun b =>
  match b.seek position with
  | some b' => .ok ((), b')
  | none => .error e

/-- Write a field that depends on the size of the body after it: a placeholder first, then
    the body, then the field over the placeholder, if there is one for that size. -/
def backPatch (e : ε) (placeholder body : Codec ε Unit) (field : Nat → Option (Codec ε Unit)) :
    Codec ε Unit := do
  let start ← get
  placeholder
  let bodyStart ← get
  body
  let bodyEnd ← get
  match field (bodyEnd.position - bodyStart.position) with
  | none => pure ()
  | some w => do
      seekTo e start.position
      w
      seekTo e bodyEnd.position

variable {c : β}

theorem except_bind_eq_ok {x : Except ε α} {f : α → Except ε β} (h : (x >>= f) = .ok c) :
    ∃ a, x = .ok a ∧ f a = .ok c := by
  cases x with
  | error e => cases h
  | ok a => exact ⟨a, rfl, h⟩

theorem mapM_eq_ok {γ : Type} {f : γ → Except ε α} {cs : List γ} {as : List α}
    (h : cs.mapM f = .ok as) : Forall₂ (fun c a => f c = .ok a) cs as := by
  induction cs generalizing as with
  | nil =>
    cases h
    exact .nil
  | cons c cs ih =>
    rw [mapM_cons] at h
    obtain ⟨a, ha, h⟩ := except_bind_eq_ok h
    obtain ⟨rest, hrest, h⟩ := except_bind_eq_ok h
    cases h
    exact .cons ha (ih hrest)

variable {f : α → Codec ε β} {b : Buffer}

theorem bind_eq_ok {w : Codec ε α} {b' : Buffer} (h : (w >>= f) b = .ok (c, b')) :
    ∃ a b₁, w b = .ok (a, b₁) ∧ f a b₁ = .ok (c, b') := by
  change (w b >>= fun p => f p.1 p.2) = .ok (c, b') at h
  cases hw : w b with
  | error e => rw [hw] at h; cases h
  | ok p => rw [hw] at h; exact ⟨p.1, p.2, rfl, h⟩

variable {a : α}

theorem bind_ok {w : Codec ε α} {b₁ : Buffer} (h : w b = .ok (a, b₁)) : (w >>= f) b = f a b₁ := by
  show (w b >>= fun p => f p.1 p.2) = f a b₁
  rw [h]
  rfl

theorem get_bind {f : Buffer → Codec ε β} :
    ((get : Codec ε Buffer) >>= f) b = f b b := rfl

theorem mapError_eq_ok {f : ε → ε} {c : Codec ε α} {r : α × Buffer} :
    mapError f c b = .ok r ↔ c b = .ok r := by
  unfold mapError
  cases c b with
  | _ => simp [Except.mapError]

theorem failWith_eq_ok {δ : Type} {e : δ} {c : Codec ε α} {r : α × Buffer} :
    failWith e c b = .ok r ↔ c b = .ok r := by
  unfold failWith
  cases c b with
  | _ => simp [Except.mapError]

/-! ## How a codec ends -/

/-- A codec that ends well gives a value with `Q`, and one that fails does it with `E`. -/
def Ends (c : Codec ε α) (Q : α → Prop) (E : ε → Prop) : Prop :=
  ∀ b, match c b with
    | .ok r => Q r.1
    | .error e => E e

namespace Ends

variable {c : Codec ε α} {Q : α → Prop} {E : ε → Prop}

theorem pure {a : α} (h : Q a) : Ends (Pure.pure a : Codec ε α) Q E := fun _ => h

theorem throw {e : ε} (h : E e) : Ends (MonadExcept.throw e : Codec ε α) Q E := fun _ => h

theorem any (c : Codec ε α) : Ends c (fun _ => True) (fun _ => True) := by
  intro b
  cases c b with
  | ok r => trivial
  | error e => trivial

theorem bind {f : α → Codec ε β} {R : β → Prop} (hc : Ends c Q E)
    (hf : ∀ a, Q a → Ends (f a) R E) : Ends (c >>= f) R E := by
  intro b
  have h := hc b
  change match (c b >>= fun p => f p.1 p.2) with
    | .ok r => R r.1
    | .error e => E e
  revert h
  cases c b with
  | ok r => exact fun h => hf r.1 h r.2
  | error e => exact fun h => h

/-- What comes after a codec does not depend on what it gives. -/
theorem skip {f : α → Codec ε β} {R : β → Prop} (hf : ∀ a, Ends (f a) R fun _ => True) :
    Ends (c >>= f) R fun _ => True := (any c).bind fun a _ => hf a

theorem failWith {δ : Type} {E' : δ → Prop} {e : δ} (hc : Ends c Q (fun _ => True)) (he : E' e) :
    Ends (failWith e c) Q E' := by
  intro b
  have h := hc b
  unfold ByteCodec.failWith
  revert h
  cases c b with
  | ok r => exact fun h => h
  | error e => exact fun _ => he

theorem ite {p : Prop} [Decidable p] {d : Codec ε α} (hc : p → Ends c Q E)
    (hd : ¬ p → Ends d Q E) : Ends (if p then c else d) Q E := by
  split_ifs with hp
  · exact hc hp
  · exact hd hp

theorem refuse {p : Prop} [Decidable p] {e : ε} (he : E e) (hc : ¬ p → Ends c Q E) :
    Ends (if p then MonadExcept.throw e else c) Q E := Ends.ite (fun _ => Ends.throw he) hc

theorem readIf {p : Prop} [Decidable p] {absent : α} (hc : Ends c Q E) (ha : Q absent) :
    Ends (readIf p c absent) Q E := Ends.ite (fun _ => hc) fun _ => Ends.pure ha

theorem each {n : Nat} (hc : Ends c Q E) : Ends (readEach n c) (fun as => ∀ i, Q (as i)) E := by
  induction n with
  | zero => exact Ends.pure fun i => i.elim0
  | succ n ih =>
    refine hc.bind fun a ha => ih.bind fun as has => Ends.pure ?_
    exact Fin.cases ha has

theorem list {n : Nat} (hc : Ends c Q E) : Ends (readList c n) (fun as => ∀ a ∈ as, Q a) E := by
  induction n with
  | zero => exact Ends.pure fun a ha => by cases ha
  | succ n ih =>
    exact hc.bind fun a ha => ih.bind fun as has => Ends.pure (forall_mem_cons.2 ⟨ha, has⟩)

end Ends

/-! ## Reading only -/

/-- A codec that moves the cursor, and leaves the bytes as they are. -/
def ReadOnly (c : Codec ε α) : Prop := ∀ b a b', c b = .ok (a, b') → b'.data = b.data

namespace ReadOnly

variable {c : Codec ε α}

theorem pure (a : α) : ReadOnly (Pure.pure a : Codec ε α) := by
  intro b a' b' h
  cases h
  rfl

theorem throw (e : ε) : ReadOnly (MonadExcept.throw e : Codec ε α) := fun _ _ _ h => by cases h

theorem bind {f : α → Codec ε β} (hc : ReadOnly c) (hf : ∀ a, ReadOnly (f a)) :
    ReadOnly (c >>= f) := by
  intro b d b' h
  obtain ⟨a, b₁, h₁, h₂⟩ := bind_eq_ok h
  rw [hf a b₁ d b' h₂, hc b a b₁ h₁]

theorem failWith {δ : Type} {e : δ} (hc : ReadOnly c) : ReadOnly (failWith e c) :=
  fun b a b' h => hc b a b' (failWith_eq_ok.1 h)

theorem mapError {f : ε → ε} (hc : ReadOnly c) : ReadOnly (mapError f c) :=
  fun b a b' h => hc b a b' (mapError_eq_ok.1 h)

theorem ite {p : Prop} [Decidable p] {d : Codec ε α} (hc : ReadOnly c) (hd : ReadOnly d) :
    ReadOnly (if p then c else d) := by
  split_ifs with hp
  · exact hc
  · exact hd

theorem readIf {p : Prop} [Decidable p] {absent : α} (hc : ReadOnly c) :
    ReadOnly (readIf p c absent) := ReadOnly.ite hc (ReadOnly.pure absent)

end ReadOnly

/-! ## Round trips -/

/-- The reader decodes `bytes` as `a`, wherever they stand. -/
def Accepts (r : Codec ε α) (bytes : List UInt8) (a : α) : Prop :=
  ∀ b b', b.read bytes.length = some (bytes, b') → r b = .ok (a, b')

/-- Whatever the writer writes with some space left, the reader decodes as `a`. -/
def RoundTrip (slack : Nat) (w : Codec ε Unit) (r : Codec ε α) (a : α) : Prop :=
  ∀ b b', w b = .ok ((), b') → b'.position + slack ≤ b'.maximumSize.toNat →
    ∃ bytes, b.write bytes = some b' ∧ Accepts r bytes a

theorem Accepts.bind {r : Codec ε α} {bytes₁ bytes₂ : List UInt8} (h₁ : Accepts r bytes₁ a)
    (h₂ : Accepts (f a) bytes₂ c) :
    Accepts (r >>= f) (bytes₁ ++ bytes₂) c := by
  intro b b' hread
  obtain ⟨b₁, hr₁, hr₂⟩ := Buffer.read_append hread
  rw [bind_ok (h₁ b b₁ hr₁)]
  exact h₂ b₁ b' hr₂

theorem Accepts.pure (a : α) : Accepts (pure a : Codec ε α) [] a := by
  intro b b' hread
  obtain ⟨-, -, hd, hp, hm⟩ := Buffer.read_eq_some.1 hread
  have hb : b' = b := Buffer.ext hd (by simpa using hp) hm
  rw [hb]
  rfl

/-- The writer puts a field of `width` bytes that the reader gets past. -/
def FixedField (w : Codec ε Unit) (r : Codec ε α) (width : Nat) : Prop :=
  ∀ b b', w b = .ok ((), b') →
    ∃ bytes, bytes.length = width ∧ b.write bytes = some b' ∧ ∃ a, Accepts r bytes a

theorem seekTo_eq_ok {e : ε} {p : Nat} {b' : Buffer} (h : seekTo e p b = .ok ((), b')) :
    b.seek p = some b' := by
  unfold seekTo at h
  cases hs : b.seek p with
  | none => rw [hs] at h; cases h
  | some x => rw [hs] at h; cases h; rfl

namespace RoundTrip

variable {slack : Nat} {a : α}

theorem pure {a' : α} (h : a' = a) :
    RoundTrip slack (Pure.pure () : Codec ε Unit) (Pure.pure a') a := by
  intro b b' hw _
  obtain rfl : b = b' := by
    have hw : (Except.ok ((), b) : Except ε (Unit × Buffer)) = .ok ((), b') := hw
    simpa using hw
  subst h
  exact ⟨[], b.write_nil, Accepts.pure a'⟩

variable {r : Codec ε α} {c : β}

theorem bind {w₁ w₂ : Codec ε Unit} {f : α → Codec ε β} (h₁ : RoundTrip slack w₁ r a)
    (h₂ : RoundTrip slack w₂ (f a) c) :
    RoundTrip slack (w₁ >>= fun _ => w₂) (r >>= f) c := by
  intro b b' hw hslack
  obtain ⟨_, b₁, hw₁, hw₂⟩ := bind_eq_ok hw
  obtain ⟨bytes₂, hb₂, ha₂⟩ := h₂ b₁ b' hw₂ hslack
  obtain ⟨-, -, hposition, hmax⟩ := Buffer.write_eq_some.1 hb₂
  rw [hposition, hmax] at hslack
  obtain ⟨bytes₁, hb₁, ha₁⟩ := h₁ b b₁ hw₁ (by omega)
  exact ⟨bytes₁ ++ bytes₂, Buffer.write_append hb₁ hb₂, ha₁.bind ha₂⟩

variable {w : Codec ε Unit}

/-- Nothing more is written, and the rest of the reader consumes nothing. -/
theorem thenPure {f : α → Codec ε β} (h : RoundTrip slack w r a) (hc : f a = Pure.pure c) :
    RoundTrip slack w (r >>= f) c := by
  intro b b' hw hslack
  obtain ⟨bytes, hb, ha⟩ := h b b' hw hslack
  refine ⟨bytes, hb, ?_⟩
  have hpure : Accepts (f a) [] c := by
    rw [hc]
    exact Accepts.pure c
  have hall := ha.bind hpure
  rwa [append_nil] at hall

/-- The last write of a sequence against a read whose result is still wrapped up. -/
theorem last {f : α → β} (h : RoundTrip slack w r a) (hc : f a = c) :
    RoundTrip slack w (r >>= fun x => Pure.pure (f x)) c :=
  h.thenPure (by rw [hc])

/-- A part that is there under a condition both sides agree on. -/
theorem optional {p q : Prop} [Decidable p] [Decidable q] {absent : α} (hpq : q ↔ p)
    (h : p → RoundTrip slack w r a) (h' : ¬ p → absent = a) :
    RoundTrip slack (writeIf p w) (readIf q r absent) a := by
  unfold writeIf readIf
  by_cases hp : p
  · rw [if_pos hp, if_pos (hpq.2 hp)]
    exact h hp
  · rw [if_neg hp, if_neg (mt hpq.1 hp)]
    exact RoundTrip.pure (h' hp)

theorem fail (e : ε) (r : Codec ε α) (a : α) : RoundTrip slack (throw e) r a := by
  intro b b' hw _
  cases hw

theorem mapWriteError (f : ε → ε) (h : RoundTrip slack w r a) :
    RoundTrip slack (mapError f w) r a :=
  fun b b' hw hslack => h b b' (mapError_eq_ok.1 hw) hslack

theorem mapReadError (g : ε → ε) (h : RoundTrip slack w r a) :
    RoundTrip slack w (mapError g r) a := by
  intro b b' hw hslack
  obtain ⟨bytes, hb, ha⟩ := h b b' hw hslack
  exact ⟨bytes, hb, fun x x' hx => mapError_eq_ok.2 (ha x x' hx)⟩

theorem mapErrors (f g : ε → ε) (h : RoundTrip slack w r a) :
    RoundTrip slack (mapError f w) (mapError g r) a :=
  (h.mapWriteError f).mapReadError g

theorem each {n : Nat} {w : Fin n → Codec ε Unit} {as : Fin n → α}
    (h : ∀ i, RoundTrip slack (w i) r (as i)) :
    RoundTrip slack (writeEach n w) (readEach n r) as := by
  induction n with
  | zero => exact RoundTrip.pure (funext fun i => i.elim0)
  | succ n ih =>
    refine (h 0).bind ?_
    exact (ih fun i => h i.succ).last (Fin.cons_self_tail as)

/-- The reader counts the entries in another way. -/
theorem eachCast {n m : Nat} (hm : m = n) {w : Fin n → Codec ε Unit} {as : Fin m → α}
    (h : ∀ i, RoundTrip slack (w (i.cast hm)) r (as i)) :
    RoundTrip slack (writeEach n w) (readEach m r) as := by
  subst hm
  exact each h

/-- A field patched in before a body is read first, and the body after it. -/
theorem backPatched {e : ε} {placeholder body : Codec ε Unit} {field : Nat → Option (Codec ε Unit)}
    {readField : Codec ε β} {width : Nat} (hplace : FixedField placeholder readField width)
    (hfield : ∀ n w, field n = some w → FixedField w readField width)
    (hbody : RoundTrip slack body r a) :
    RoundTrip slack (backPatch e placeholder body field) (readField >>= fun _ => r) a := by
  intro b b' hw hslack
  obtain ⟨b₀, _, hget₀, hw⟩ := bind_eq_ok hw
  cases hget₀
  obtain ⟨_, b₁, hw₁, hw⟩ := bind_eq_ok hw
  obtain ⟨b₁', _, hget₁, hw⟩ := bind_eq_ok hw
  cases hget₁
  obtain ⟨_, b₂, hw₂, hw⟩ := bind_eq_ok hw
  obtain ⟨b₂', _, hget₂, hw⟩ := bind_eq_ok hw
  cases hget₂
  obtain ⟨old, hlen, hold, x, hx⟩ := hplace b b₁ hw₁
  rcases hf : field (b₂.position - b₁.position) with _ | w
  · rw [hf] at hw
    cases hw
    obtain ⟨rest, hrest, ha⟩ := hbody b₁ b' hw₂ hslack
    exact ⟨old ++ rest, Buffer.write_append hold hrest, hx.bind ha⟩
  rw [hf] at hw
  obtain ⟨_, b₃, hseek₃, hw⟩ := bind_eq_ok hw
  obtain ⟨_, b₄, hw₄, hseek₅⟩ := bind_eq_ok hw
  obtain ⟨new, hlen', hnew, y, hy⟩ := hfield _ w hf b₃ b₄ hw₄
  -- The body ends where the cursor is put back
  obtain ⟨-, -, hp₅, hm₅⟩ := Buffer.seek_eq_some.1 (seekTo_eq_ok hseek₅)
  have hm₄ := (Buffer.write_eq_some.1 hnew).2.2.2
  have hm₃ := (Buffer.seek_eq_some.1 (seekTo_eq_ok hseek₃)).2.2.2
  rw [hp₅, hm₅, hm₄, hm₃] at hslack
  obtain ⟨rest, hrest, ha⟩ := hbody b₁ b₂ hw₂ hslack
  refine ⟨new ++ rest, ?_, hy.bind ha⟩
  exact Buffer.write_over (hlen'.trans hlen.symm) hold hrest (seekTo_eq_ok hseek₃) hnew
    (seekTo_eq_ok hseek₅)

end RoundTrip

/-! ## Sizes -/

/-- What the writer writes takes `n` bytes. -/
def Advances (w : Codec ε Unit) (n : Nat) : Prop :=
  ∀ b b', w b = .ok ((), b') → b'.position = b.position + n

/-- The first writer writes `k` more bytes than the second. -/
def Longer (w w' : Codec ε Unit) (k : Nat) : Prop := ∃ n, Advances w' n ∧ Advances w (n + k)

/-- The first writer writes `k` more bytes than the second, and the same bytes if `k` is 0. -/
structure Exceeds (w w' : Codec ε Unit) (k : Nat) : Prop where
  same : k = 0 → w = w'
  longer : Longer w w' k

/-- The writer takes a fixed number of bytes. -/
def Sized (w : Codec ε Unit) : Prop := Exceeds w w 0

theorem Advances.bind {w₁ w₂ : Codec ε Unit} {n₁ n₂ : Nat} (h₁ : Advances w₁ n₁)
    (h₂ : Advances w₂ n₂) : Advances (w₁ >>= fun _ => w₂) (n₁ + n₂) := by
  intro b b' hw
  obtain ⟨_, b₁, hw₁, hw₂⟩ := bind_eq_ok hw
  have hp₁ := h₁ b b₁ hw₁
  have hp₂ := h₂ b₁ b' hw₂
  omega

theorem Advances.pure : Advances (Pure.pure () : Codec ε Unit) 0 := by
  intro b b' hw
  cases hw
  rfl

variable {w : Codec ε Unit} {n : Nat}

theorem Advances.mapErrors (f : ε → ε) (h : Advances w n) :
    Advances (mapError f w) n :=
  fun b b' hw => h b b' (mapError_eq_ok.1 hw)

theorem Advances.sized (h : Advances w n) : Sized w :=
  ⟨fun _ => rfl, n, h, h⟩

theorem Longer.bind {w₁ w₁' w₂ w₂' : Codec ε Unit} {k₁ k₂ : Nat} (h₁ : Longer w₁ w₁' k₁)
    (h₂ : Longer w₂ w₂' k₂) : Longer (w₁ >>= fun _ => w₂) (w₁' >>= fun _ => w₂') (k₁ + k₂) := by
  obtain ⟨n₁, hs₁, hl₁⟩ := h₁
  obtain ⟨n₂, hs₂, hl₂⟩ := h₂
  refine ⟨n₁ + n₂, hs₁.bind hs₂, ?_⟩
  rw [show n₁ + n₂ + (k₁ + k₂) = n₁ + k₁ + (n₂ + k₂) by omega]
  exact hl₁.bind hl₂

/-- A part that only one writer has. -/
theorem Longer.dropped {p q : Prop} [Decidable p] [Decidable q] {w' : Codec ε Unit} (hp : p)
    (hq : ¬ q) (h : Advances w n) : Longer (writeIf p w) (writeIf q w') n := by
  unfold writeIf
  rw [if_pos hp, if_neg hq]
  refine ⟨0, Advances.pure, ?_⟩
  rw [Nat.zero_add]
  exact h

namespace Exceeds

theorem pure : Sized (Pure.pure () : Codec ε Unit) := Advances.pure.sized

/-- A writer that fails takes any number of bytes. -/
theorem fail (e : ε) (k : Nat) : Exceeds (throw e : Codec ε Unit) (throw e) k := by
  refine ⟨fun _ => rfl, 0, fun b b' hw => ?_, fun b b' hw => ?_⟩
  · cases hw
  · cases hw

theorem bind {w₁ w₁' w₂ w₂' : Codec ε Unit} {k₁ k₂ : Nat} (h₁ : Exceeds w₁ w₁' k₁)
    (h₂ : Exceeds w₂ w₂' k₂) : Exceeds (w₁ >>= fun _ => w₂) (w₁' >>= fun _ => w₂') (k₁ + k₂) := by
  refine ⟨fun hk => ?_, h₁.longer.bind h₂.longer⟩
  rw [h₁.same (by omega), h₂.same (by omega)]

variable {w w' : Codec ε Unit} {k : Nat}

theorem mapErrors (f : ε → ε) (h : Exceeds w w' k) :
    Exceeds (mapError f w) (mapError f w') k := by
  obtain ⟨n, hs, hl⟩ := h.longer
  refine ⟨fun hk => ?_, n, hs.mapErrors f, hl.mapErrors f⟩
  rw [h.same hk]

theorem optional {p q : Prop} [Decidable p] [Decidable q] (hpq : p ↔ q) (h : Exceeds w w' k)
    (hk : ¬ p → k = 0) :
    Exceeds (writeIf p w) (writeIf q w') k := by
  unfold writeIf
  by_cases hp : p
  · rw [if_pos hp, if_pos (hpq.1 hp)]
    exact h
  · rw [if_neg hp, if_neg (mt hpq.2 hp), hk hp]
    exact pure

theorem each {n : Nat} {w w' : Fin n → Codec ε Unit} {k : Fin n → Nat}
    (h : ∀ i, Exceeds (w i) (w' i) (k i)) :
    Exceeds (writeEach n w) (writeEach n w') (∑ i, k i) := by
  induction n with
  | zero => exact pure
  | succ n ih =>
    rw [Fin.sum_univ_succ]
    exact (h 0).bind (ih fun i => h i.succ)

end Exceeds

namespace Sized

theorem bind {w₁ w₂ : Codec ε Unit} (h₁ : Sized w₁) (h₂ : Sized w₂) :
    Sized (w₁ >>= fun _ => w₂) :=
  Exceeds.bind h₁ h₂

theorem optional {p : Prop} [Decidable p] {w : Codec ε Unit} (h : Sized w) : Sized (writeIf p w) :=
  Exceeds.optional Iff.rfl h fun _ => rfl

theorem each {n : Nat} {w : Fin n → Codec ε Unit} (h : ∀ i, Sized (w i)) : Sized (writeEach n w) := by
  have hall := Exceeds.each h
  rw [Finset.sum_const_zero] at hall
  exact hall

end Sized

/-! ## Writers at the cursor -/

/-- What the writer does is to put `n` bytes at the cursor. -/
def Puts (w : Codec ε Unit) (n : Nat) : Prop :=
  ∀ b b', w b = .ok ((), b') → ∃ bytes, bytes.length = n ∧ b.write bytes = some b'

namespace Puts

theorem pure : Puts (Pure.pure () : Codec ε Unit) 0 := by
  intro b b' hw
  cases hw
  exact ⟨[], rfl, b.write_nil⟩

theorem throw (e : ε) (n : Nat) : Puts (MonadExcept.throw e : Codec ε Unit) n := by
  intro b b' hw
  cases hw

theorem bind {w₁ w₂ : Codec ε Unit} {n₁ n₂ : Nat} (h₁ : Puts w₁ n₁) (h₂ : Puts w₂ n₂) :
    Puts (w₁ >>= fun _ => w₂) (n₁ + n₂) := by
  intro b b' hw
  obtain ⟨_, b₁, hw₁, hw₂⟩ := bind_eq_ok hw
  obtain ⟨bytes₁, rfl, hb₁⟩ := h₁ b b₁ hw₁
  obtain ⟨bytes₂, rfl, hb₂⟩ := h₂ b₁ b' hw₂
  exact ⟨bytes₁ ++ bytes₂, length_append, Buffer.write_append hb₁ hb₂⟩

variable {w : Codec ε Unit} {n : Nat}

theorem mapErrors (f : ε → ε) (h : Puts w n) : Puts (mapError f w) n :=
  fun b b' hw => h b b' (mapError_eq_ok.1 hw)

theorem failWith {δ : Type} {w : Codec ε Unit} {n : Nat} (e : δ) (h : Puts w n) :
    Puts (failWith e w) n :=
  fun b b' hw => h b b' (failWith_eq_ok.1 hw)

theorem optional {p : Prop} [Decidable p] (h : Puts w n) :
    Puts (writeIf p w) (if p then n else 0) := by
  by_cases hp : p
  · rw [writeIf, if_pos hp, if_pos hp]
    exact h
  · rw [writeIf, if_neg hp, if_neg hp]
    exact pure

theorem each {k : Nat} {w : Fin n → Codec ε Unit} (h : ∀ i, Puts (w i) k) :
    Puts (writeEach n w) (n * k) := by
  induction n with
  | zero =>
    rw [Nat.zero_mul]
    exact pure
  | succ n ih =>
    rw [show (n + 1) * k = k + n * k by rw [Nat.succ_mul, Nat.add_comm]]
    exact (h 0).bind (ih fun i => h i.succ)

theorem position_eq {b b' : Buffer} (h : Puts w n) (hw : w b = .ok ((), b')) :
    b'.position = b.position + n := by
  obtain ⟨bytes, rfl, hb⟩ := h b b' hw
  exact (Buffer.write_eq_some.1 hb).2.2.1

theorem length_eq {b b' : Buffer} (h : Puts w n) (hw : w b = .ok ((), b')) :
    b'.data.length = max b.data.length (b.position + n) := by
  obtain ⟨bytes, rfl, hb⟩ := h b b' hw
  have hpos := b.position_le
  rw [(Buffer.write_eq_some.1 hb).2.1]
  simp only [length_append, length_take, length_drop]
  omega

end Puts

end

end S2opc.Lib.ByteCodec
