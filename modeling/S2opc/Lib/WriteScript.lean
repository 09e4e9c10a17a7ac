/-
Scripts of writes to a buffer, with what they leave in it when they fail.

The end of a write, the cursor plus a count, is compared with the maximum size
of a buffer after it has wrapped around modulo 2^32.  A write may hence be done,
be refused, or be let through although the buffer is too small for it, with an
undefined effect.

A `Script` is a sequence of writes that stops at the first one that is refused.
Some of them may be lost without stopping it, a part of it may be put back when
it fails, and a field may be patched in over a placeholder.  `run` gives the
buffer a script leaves, also when it stops.  How it ends depends only on the
sizes of its writes, its `layout`: it loses nothing (`complete_iff_kept`)
exactly if wherever it could lose a write, something after that is refused.
-/
import S2opc.Lib.ByteCodec

namespace S2opc.Lib.WriteScript

open Lib.Bytes Lib.ByteCodec List Option

/-! ## Outcomes -/

/-- How a computation ends: with a value, with an error it reports, or out of bounds. -/
inductive Outcome (α : Type) where
  | done (a : α)
  | failed
  | undefined
  deriving DecidableEq, Repr

namespace Outcome

variable {α β : Type}

/-- Go on with the value, if there is one. -/
def bind : Outcome α → (α → Outcome β) → Outcome β
  | done a, f => f a
  | failed, _ => failed
  | undefined, _ => undefined

@[simp] theorem done_bind (a : α) (f : α → Outcome β) : (done a).bind f = f a := rfl

theorem bind_eq_done {o : Outcome α} {f : α → Outcome β} {c : β} (h : o.bind f = done c) :
    ∃ a, o = done a ∧ f a = done c := by
  cases o with
  | done a => exact ⟨a, rfl, h⟩
  | failed => cases h
  | undefined => cases h

/-- What becomes of a transfer that ends at `stop` and is not possible: it is only refused
    while its end does not wrap around. -/
def refusedAt (stop : Nat) : Outcome α := if stop < 2 ^ 32 then failed else undefined

theorem refusedAt_ne_done (stop : Nat) (a : α) : refusedAt stop ≠ done a := by
  unfold refusedAt
  split_ifs
  all_goals
    intro h
    cases h

variable {stop stop' : Nat}

@[simp] theorem refusedAt_bind (stop : Nat) (f : α → Outcome β) :
    (refusedAt stop).bind f = refusedAt stop := by
  unfold refusedAt
  split_ifs
  · rfl
  · rfl

theorem refusedAt_eq_iff :
    (refusedAt stop : Outcome α) = refusedAt stop' ↔ (2 ^ 32 ≤ stop ↔ 2 ^ 32 ≤ stop') := by
  unfold refusedAt
  by_cases h : stop < 2 ^ 32 <;> by_cases h' : stop' < 2 ^ 32
  · rw [if_pos h, if_pos h']
    exact ⟨fun _ => by omega, fun _ => rfl⟩
  · rw [if_pos h, if_neg h']
    exact ⟨nofun, fun e => by omega⟩
  · rw [if_neg h, if_pos h']
    exact ⟨nofun, fun e => by omega⟩
  · rw [if_neg h, if_neg h']
    exact ⟨fun _ => by omega, fun _ => rfl⟩

theorem refusedAt_eq_failed_iff :
    (refusedAt stop : Outcome α) = failed ↔ stop < 2 ^ 32 := by
  unfold refusedAt
  split_ifs with h
  · exact ⟨fun _ => h, fun _ => rfl⟩
  · exact ⟨nofun, fun e => absurd e h⟩

variable {p : Prop}

/-- Two ways to refuse a transfer, the second one of which may give up before it starts. -/
theorem refusedAt_eq_ite_iff [Decidable p] :
    (refusedAt stop : Outcome α) = (if p then refusedAt stop' else failed) ↔
      (2 ^ 32 ≤ stop ↔ p ∧ 2 ^ 32 ≤ stop') := by
  split_ifs with hp
  · rw [refusedAt_eq_iff]
    simp only [hp, true_and]
  · rw [refusedAt_eq_failed_iff]
    simp only [hp, false_and, iff_false, Nat.not_le]

/-- Two ways to refuse a transfer, both of which may give up before they start. -/
theorem ite_refusedAt_eq_iff {q : Prop} [Decidable p] [Decidable q] :
    (if p then refusedAt stop else failed : Outcome α) = (if q then refusedAt stop' else failed) ↔
      (p ∧ 2 ^ 32 ≤ stop ↔ q ∧ 2 ^ 32 ≤ stop') := by
  by_cases hp : p
  · rw [if_pos hp, refusedAt_eq_ite_iff]
    simp only [hp, true_and]
  rw [if_neg hp, eq_comm]
  by_cases hq : q
  · rw [if_pos hq, refusedAt_eq_failed_iff]
    simp only [hp, hq, false_and, true_and, false_iff, Nat.not_le]
  · rw [if_neg hq]
    simp only [hp, hq, false_and]

theorem ite_refusedAt_bind [Decidable p] (stop : Nat) (f : α → Outcome β) :
    (if p then refusedAt stop else failed).bind f = if p then refusedAt stop else failed := by
  split_ifs
  · exact refusedAt_bind stop f
  · rfl

theorem ite_refusedAt_ne_done [Decidable p] {a : α} :
    (if p then refusedAt stop else failed) ≠ done a := by
  split_ifs with hp
  · exact refusedAt_ne_done stop a
  · intro h
    cases h

end Outcome

/-! ## Chunks of one width -/

/-- Where the first of several chunks of one width ends that does not fit below a limit. -/
def firstBeyond (start limit width : Nat) : Nat := start + ((limit - start) / width + 1) * width

variable {start limit width : Nat}

theorem firstBeyond_of_lt (h : limit < start + width) (hstart : start ≤ limit) :
    firstBeyond start limit width = start + width := by
  have hzero : (limit - start) / width = 0 := Nat.div_eq_of_lt (by omega)
  rw [firstBeyond, hzero, Nat.zero_add, Nat.one_mul]

theorem firstBeyond_step (hwidth : 0 < width) (h : start + width ≤ limit) :
    firstBeyond (start + width) limit width = firstBeyond start limit width := by
  have hdiv : (limit - start) / width = (limit - (start + width)) / width + 1 := by
    rw [show limit - start = (limit - (start + width)) + width from by omega,
      Nat.add_div_right _ hwidth]
  unfold firstBeyond
  rw [hdiv]
  ring

/-! ## Scripts -/

/-- Write bytes at the cursor, if the 32-bit end of the write is not beyond the maximum. -/
def put (b : Buffer) (bytes : List UInt8) : Outcome Buffer :=
  if (b.position + bytes.length) % 2 ^ 32 ≤ b.maximumSize.toNat then
    match b.write bytes with
    | some b' => .done b'
    | none => .undefined
  else .failed

/-- A sequence of writes.  The bytes of an `attempt` are lost if they do not fit, those of
    `lose` in any case.  A `patch` writes a placeholder, a body, and then the field for the
    size of that body over the placeholder.  After a failure in a `guard`, the cursor and the
    length of the buffer are put back. -/
inductive Script where
  | done
  | fail
  | undefined
  | write (bytes : List UInt8) (next : Script)
  | attempt (bytes : List UInt8) (next : Script)
  | lose (bytes : List UInt8) (h : bytes ≠ []) (next : Script)
  | patch (placeholder : List UInt8) (body : Script) (field : Nat → Option (List UInt8))
      (h : ∀ n bytes, field n = some bytes → bytes.length = placeholder.length) (next : Script)
  | guard (body next : Script)

namespace Script

/-- One script after the other. -/
def append : Script → Script → Script
  | done, t => t
  | fail, _ => fail
  | undefined, _ => undefined
  | write bytes next, t => write bytes (next.append t)
  | attempt bytes next, t => attempt bytes (next.append t)
  | lose bytes h next, t => lose bytes h (next.append t)
  | patch placeholder body field h next, t => patch placeholder body field h (next.append t)
  | guard body next, t => guard body (next.append t)

/-- A script under a condition. -/
def when (p : Prop) [Decidable p] (s : Script) : Script := if p then s else done

/-- Bytes that are not written. -/
def loseAll (bytes : List UInt8) : Script := if h : bytes = [] then done else lose bytes h done

/-- The scripts of the entries of a tuple, in order. -/
def each : (n : Nat) → (Fin n → Script) → Script
  | 0, _ => done
  | n + 1, s => (s 0).append (each n fun i => s i.succ)

/-- Overwrite the bytes at `start` and put the cursor back. -/
def overwrite (b : Buffer) (start : Nat) (bytes : List UInt8) : Option Buffer :=
  (b.seek start).bind fun b₁ => (b₁.write bytes).bind fun b₂ => b₂.seek b.position

/-- The buffer with the cursor and the length of an earlier one. -/
def putBack (earlier b : Buffer) : Buffer :=
  if h : earlier.data.length ≤ b.data.length then
    { data := b.data.take earlier.data.length
      position := earlier.position
      maximumSize := b.maximumSize
      position_le := by
        have := earlier.position_le
        rw [List.length_take]
        omega
      length_le := by
        have := b.length_le
        rw [List.length_take]
        omega }
  else earlier

/-- Go on from the buffer that is left, unless the end is reached. -/
def follow (r : Buffer × Outcome Unit) (k : Buffer → Buffer × Outcome Unit) :
    Buffer × Outcome Unit :=
  match r with
  | (b, .done _) => k b
  | (b, .failed) => (b, .failed)
  | (b, .undefined) => (b, .undefined)

variable (b : Buffer)

@[simp] theorem follow_done (u : Unit) (k : Buffer → Buffer × Outcome Unit) :
    follow (b, .done u) k = k b := rfl

variable (k : Buffer → Buffer × Outcome Unit)

theorem follow_assoc (r : Buffer × Outcome Unit) (k l : Buffer → Buffer × Outcome Unit) :
    follow (follow r k) l = follow r fun b => follow (k b) l := by
  obtain ⟨b, o⟩ := r
  cases o <;> rfl

/-- A write, which leaves the buffer as it is when it fails. -/
def putting (b : Buffer) (bytes : List UInt8) : Buffer × Outcome Unit :=
  match put b bytes with
  | .done b' => (b', .done ())
  | .failed => (b, .failed)
  | .undefined => (b, .undefined)

/-- A failure that is ignored. -/
def ignored : Buffer × Outcome Unit → Buffer × Outcome Unit
  | (b, .failed) => (b, .done ())
  | r => r

/-- A failure after which the cursor and the length are put back. -/
def recovered (earlier : Buffer) : Buffer × Outcome Unit → Buffer × Outcome Unit
  | (b, .failed) => (putBack earlier b, .failed)
  | r => r

/-- The field written over a placeholder, if there is one for the size of the body. -/
def patching (start : Nat) (b : Buffer) : Option (List UInt8) → Buffer × Outcome Unit
  | none => (b, .done ())
  | some bytes =>
    match overwrite b start bytes with
    | some b' => (b', .done ())
    | none => (b, .failed)

/-- The buffer a script leaves, and how it ends. -/
def run : Script → Buffer → Buffer × Outcome Unit
  | done, b => (b, .done ())
  | fail, b => (b, .failed)
  | undefined, b => (b, .undefined)
  | write bytes next, b => follow (putting b bytes) next.run
  | attempt bytes next, b => follow (ignored (putting b bytes)) next.run
  | lose _ _ next, b => next.run b
  | patch placeholder body field _ next, b =>
    follow (putting b placeholder) fun b₁ => follow (body.run b₁) fun b₂ =>
      follow (patching b.position b₂ (field (b₂.position - b₁.position))) next.run
  | guard body next, b => follow (recovered b (body.run b)) next.run

/-- What a script has after another one does. -/
theorem run_append (s t : Script) (b : Buffer) : (s.append t).run b = follow (s.run b) t.run := by
  induction s generalizing b with
  | write bytes next ih =>
    rw [append, run, run, follow_assoc]
    simp only [← ih]
  | attempt bytes next ih =>
    rw [append, run, run, follow_assoc]
    simp only [← ih]
  | lose bytes h next ih => exact ih b
  | patch placeholder body field _ next _ ih =>
    rw [append, run, run]
    simp only [follow_assoc, ← ih]
  | guard body next _ ih =>
    rw [append, run, run, follow_assoc]
    simp only [← ih]
  | _ => rfl

theorem run_loseAll (bytes : List UInt8) (b : Buffer) : (loseAll bytes).run b = (b, .done ()) := by
  unfold loseAll
  split_ifs
  · rfl
  · rfl

/-! ## What a script leaves -/

theorem putting_cases (bytes : List UInt8) :
    (∃ b', b.write bytes = some b' ∧ putting b bytes = (b', .done ())) ∨
    (b.write bytes = none ∧ b.maximumSize.toNat < (b.position + bytes.length) % 2 ^ 32 ∧
      putting b bytes = (b, .failed)) ∨
    (b.write bytes = none ∧ (b.position + bytes.length) % 2 ^ 32 ≤ b.maximumSize.toNat ∧
      putting b bytes = (b, .undefined)) := by
  have hmax := b.maximumSize.toNat_lt
  unfold putting put
  cases hw : b.write bytes with
  | some b' =>
    have hle := (Buffer.write_eq_some.1 hw).1
    rw [if_pos (by rw [Nat.mod_eq_of_lt (by omega)]; exact hle)]
    exact .inl ⟨b', rfl, rfl⟩
  | none =>
    split_ifs with hle
    · exact .inr (.inr ⟨rfl, hle, rfl⟩)
    · exact .inr (.inl ⟨rfl, Nat.not_le.1 hle, rfl⟩)

variable {b b' : Buffer} {bytes : List UInt8}

theorem putting_eq_done_iff : putting b bytes = (b', .done ()) ↔ b.write bytes = some b' := by
  rcases putting_cases b bytes with ⟨x, hx, heq⟩ | ⟨hx, -, heq⟩ | ⟨hx, -, heq⟩
  all_goals simp [hx, heq]

theorem recovered_eq_done {earlier : Buffer} {r : Buffer × Outcome Unit}
    (h : recovered earlier r = (b, .done ())) : r = (b, .done ()) := by
  obtain ⟨b', o⟩ := r
  cases o with
  | done u => exact h
  | failed => cases h
  | undefined => cases h

/-- A buffer that grew from another one: nothing before the cursor has changed. -/
structure Grows (b b' : Buffer) : Prop where
  maximumSize_eq : b'.maximumSize = b.maximumSize
  position_le : b.position ≤ b'.position
  length_le : b.data.length ≤ b'.data.length
  take_eq : b'.data.take b.position = b.data.take b.position

namespace Grows

theorem refl (b : Buffer) : Grows b b := ⟨rfl, Nat.le_refl _, Nat.le_refl _, rfl⟩

variable {b b' : Buffer}

theorem trans {b'' : Buffer} (h : Grows b b') (h' : Grows b' b'') : Grows b b'' where
  maximumSize_eq := h'.maximumSize_eq.trans h.maximumSize_eq
  position_le := h.position_le.trans h'.position_le
  length_le := h.length_le.trans h'.length_le
  take_eq := by
    have hle := h.position_le
    have htake := congrArg (take b.position) h'.take_eq
    rw [take_take, take_take, Nat.min_eq_left hle] at htake
    exact htake.trans h.take_eq

theorem of_write {bytes : List UInt8} (h : b.write bytes = some b') :
    Grows b b' := by
  obtain ⟨-, hdata, hpos, hmax⟩ := Buffer.write_eq_some.1 h
  have hle := b.position_le
  refine ⟨hmax, by omega, ?_, ?_⟩
  · rw [hdata]
    simp only [length_append, length_take, length_drop]
    omega
  · rw [hdata, append_assoc, take_append_of_le_length (by rw [length_take]; omega),
      take_take, Nat.min_self]

theorem putting (b : Buffer) (bytes : List UInt8) : Grows b (putting b bytes).1 := by
  rcases putting_cases b bytes with ⟨b', hw, heq⟩ | ⟨-, -, heq⟩ | ⟨-, -, heq⟩
  · rw [heq]
    exact of_write hw
  · rw [heq]
    exact refl b
  · rw [heq]
    exact refl b

theorem follow {b : Buffer} {r : Buffer × Outcome Unit} {k : Buffer → Buffer × Outcome Unit}
    (hr : Grows b r.1) (hk : ∀ b', r = (b', .done ()) → Grows b' (k b').1) :
    Grows b (follow r k).1 := by
  obtain ⟨b', o⟩ := r
  cases o with
  | done u => exact hr.trans (hk b' rfl)
  | failed => exact hr
  | undefined => exact hr

theorem ignored {b : Buffer} {r : Buffer × Outcome Unit} (h : Grows b r.1) :
    Grows b (ignored r).1 := by
  obtain ⟨b', o⟩ := r
  cases o <;> exact h

end Grows

variable {start : Nat}

/-- Overwriting bytes that are there changes these bytes only. -/
theorem overwrite_eq_some (h : start + bytes.length ≤ b.data.length) :
    ∃ b', overwrite b start bytes = some b' ∧ b'.position = b.position ∧
      b'.maximumSize = b.maximumSize ∧ b'.data.length = b.data.length ∧
      b'.data.take start = b.data.take start := by
  have hlen := b.length_le
  obtain ⟨b₁, hb₁⟩ : ∃ b₁, b.seek start = some b₁ := ⟨_, dif_pos (by omega)⟩
  obtain ⟨-, hd₁, hp₁, hm₁⟩ := Buffer.seek_eq_some.1 hb₁
  obtain ⟨b₂, hb₂⟩ : ∃ b₂, b₁.write bytes = some b₂ := ⟨_, dif_pos (by rw [hp₁, hm₁]; omega)⟩
  obtain ⟨-, hd₂, -, hm₂⟩ := Buffer.write_eq_some.1 hb₂
  have hgrows := Grows.of_write hb₂
  have hsize : b₂.data.length = b.data.length := by
    rw [hd₂, hd₁, hp₁]
    simp only [length_append, length_take, length_drop]
    omega
  obtain ⟨b₃, hb₃⟩ : ∃ b₃, b₂.seek b.position = some b₃ :=
    ⟨_, dif_pos (by rw [hsize]; exact b.position_le)⟩
  obtain ⟨-, hd₃, hp₃, hm₃⟩ := Buffer.seek_eq_some.1 hb₃
  refine ⟨b₃, ?_, hp₃, by rw [hm₃, hm₂, hm₁], by rw [hd₃, hsize], ?_⟩
  · rw [overwrite, hb₁, bind_some, hb₂, bind_some, hb₃]
  · have htake := hgrows.take_eq
    rw [hp₁, hd₁] at htake
    rw [hd₃, htake]

/-- What is left of the size of a placeholder that is written. -/
theorem placeholder_fits {b₁ b₂ : Buffer} {placeholder : List UInt8}
    (hlen : bytes.length = placeholder.length) (hw : b.write placeholder = some b₁)
    (hg : Grows b₁ b₂) : b.position + bytes.length ≤ b₂.data.length := by
  have hpos := (Buffer.write_eq_some.1 hw).2.2.1
  have := b₁.position_le
  have := hg.length_le
  omega

/-- A field of the size of its placeholder is always patched in. -/
theorem patching_eq {b₁ b₂ : Buffer} {placeholder : List UInt8} {field : Option (List UInt8)}
    (hfield : ∀ bytes, field = some bytes → bytes.length = placeholder.length)
    (hw : b.write placeholder = some b₁) (hg : Grows b₁ b₂) :
    ∃ b₃, patching b.position b₂ field = (b₃, .done ()) ∧ b₃.position = b₂.position ∧
      b₃.maximumSize = b₂.maximumSize ∧ b₃.data.length = b₂.data.length ∧
      b₃.data.take b.position = b₂.data.take b.position := by
  rcases field with _ | bytes
  · exact ⟨b₂, rfl, rfl, rfl, rfl, rfl⟩
  obtain ⟨b₃, hb₃, hrest⟩ := overwrite_eq_some (placeholder_fits (hfield bytes rfl) hw hg)
  refine ⟨b₃, ?_, hrest⟩
  rw [patching, hb₃]

theorem Grows.putBack (h : Grows b b') :
    Grows b (putBack b b') ∧ (putBack b b').position = b.position ∧
      (putBack b b').data.length = b.data.length := by
  have hpos := b.position_le
  unfold Script.putBack
  rw [dif_pos h.length_le]
  refine ⟨⟨h.maximumSize_eq, Nat.le_refl _, ?_, ?_⟩, rfl, ?_⟩
  · rw [length_take, Nat.min_eq_left h.length_le]
  · show (b'.data.take b.data.length).take b.position = _
    rw [take_take, Nat.min_eq_left hpos]
    exact h.take_eq
  · rw [length_take, Nat.min_eq_left h.length_le]

/-- No script changes what lies before the cursor. -/
theorem run_grows (s : Script) (b : Buffer) : Grows b (s.run b).1 := by
  induction s generalizing b with
  | write bytes next ih => exact (Grows.putting b bytes).follow fun b' _ => ih b'
  | attempt bytes next ih => exact (Grows.putting b bytes).ignored.follow fun b' _ => ih b'
  | lose bytes h next ih => exact ih b
  | patch placeholder body field hfield next ihBody ihNext =>
    rw [run]
    rcases putting_cases b placeholder with ⟨b₁, hw, heq⟩ | ⟨-, -, heq⟩ | ⟨-, -, heq⟩
    · rw [heq, follow_done]
      have hg₁ := Grows.of_write hw
      have hg₂ := ihBody b₁
      generalize body.run b₁ = r at hg₂ ⊢
      obtain ⟨b₂, o⟩ := r
      cases o with
      | done u =>
        obtain ⟨b₃, hb₃, hp, hm, hl, ht⟩ := patching_eq (hfield _) hw hg₂
        have hg : Grows b b₂ := hg₁.trans hg₂
        have hg₃ : Grows b b₃ := ⟨hm.trans hg.maximumSize_eq, hp ▸ hg.position_le,
          hl ▸ hg.length_le, ht.trans hg.take_eq⟩
        rw [follow_done, hb₃, follow_done]
        exact hg₃.trans (ihNext b₃)
      | _ => exact hg₁.trans hg₂
    · rw [heq]
      exact Grows.refl b
    · rw [heq]
      exact Grows.refl b
  | guard body next ihBody ihNext =>
    rw [run]
    have hg := ihBody b
    generalize body.run b = r at hg ⊢
    obtain ⟨b₁, o⟩ := r
    cases o with
    | done u => exact hg.trans (ihNext b₁)
    | failed => exact hg.putBack.1
    | undefined => exact hg
  | _ => exact Grows.refl b

/-- A guarded script that fails leaves the cursor, the length and what lies before the cursor
    as they were. -/
theorem guard_failed {body : Script} (h : (guard body done).run b = (b', .failed)) :
    b'.position = b.position ∧ b'.data.length = b.data.length ∧
      b'.data.take b.position = b.data.take b.position := by
  have hg := run_grows body b
  rw [run] at h
  generalize body.run b = r at hg h
  obtain ⟨b₁, o⟩ := r
  cases o with
  | done u => cases h
  | undefined => cases h
  | failed =>
    obtain ⟨hback, hpos, hlen⟩ := hg.putBack
    cases h
    exact ⟨hpos, hlen, hback.take_eq⟩

end Script

/-! ## Layouts -/

/-- The size of a write and what becomes of it if it does not fit: the script stops (`need`),
    goes on without it (`attempt`), or goes on without it in any case (`lost`, of `n + 1`
    bytes).  `stop` ends a script and `outside` has no defined effect. -/
inductive Segment where
  | need (n : Nat)
  | attempt (n : Nat)
  | lost (n : Nat)
  | stop
  | outside
  deriving DecidableEq, Repr

namespace Segment

/-- The number of bytes of all segments, those that are lost included. -/
def total : List Segment → Nat
  | [] => 0
  | need n :: l => n + total l
  | attempt n :: l => n + total l
  | lost n :: l => n + 1 + total l
  | stop :: l => total l
  | outside :: l => total l

/-- Where the cursor is after the segments, if they are all accepted below a limit. -/
def advance (limit : Nat) : List Segment → Nat → Outcome Nat
  | [], p => .done p
  | need n :: l, p =>
    if p + n ≤ limit then advance limit l (p + n)
    else if (p + n) % 2 ^ 32 ≤ limit then .undefined else .failed
  | attempt n :: l, p =>
    if p + n ≤ limit then advance limit l (p + n)
    else if (p + n) % 2 ^ 32 ≤ limit then .undefined else advance limit l p
  | lost _ :: l, p => advance limit l p
  | stop :: _, _ => .failed
  | outside :: _, _ => .undefined

/-- Wherever a segment could be lost, something after it is refused; and no 32-bit end of a
    segment wraps around. -/
def Kept (limit : Nat) : List Segment → Nat → Prop
  | [], _ => True
  | need n :: l, p => if p + n ≤ limit then Kept limit l (p + n) else limit < (p + n) % 2 ^ 32
  | attempt n :: l, p =>
    if p + n ≤ limit then Kept limit l (p + n)
    else limit < (p + n) % 2 ^ 32 ∧ advance limit l p = .failed
  | lost _ :: l, p => advance limit l p = .failed
  | stop :: _, _ => True
  | outside :: _, _ => False

theorem total_append (l l' : List Segment) : total (l ++ l') = total l + total l' := by
  induction l with
  | nil => exact (Nat.zero_add _).symm
  | cons s l ih =>
    rw [cons_append]
    cases s <;> simp only [total, ih] <;> omega

theorem advance_append (limit : Nat) (l l' : List Segment) (p : Nat) :
    advance limit (l ++ l') p = (advance limit l p).bind (advance limit l') := by
  induction l generalizing p with
  | nil => rfl
  | cons s l ih =>
    rw [cons_append]
    cases s with
    | need n =>
      rw [advance, advance, ih]
      split_ifs <;> rfl
    | attempt n =>
      rw [advance, advance, ih, ih]
      split_ifs <;> rfl
    | lost n => exact ih p
    | stop => rfl
    | outside => rfl

variable {limit : Nat} {l : List Segment} {p : Nat}

/-- The cursor stays below the limit, and falls short of the total if anything is lost. -/
theorem le_of_advance {q : Nat} (hp : p ≤ limit) (h : advance limit l p = .done q) :
    q ≤ limit ∧ q ≤ p + total l ∧ ∀ n, lost n ∈ l → q < p + total l := by
  induction l generalizing p with
  | nil =>
    cases h
    exact ⟨hp, by simp only [total]; omega, nofun⟩
  | cons s l ih =>
    cases s with
    | need n =>
      rw [advance] at h
      split_ifs at h with hfits
      obtain ⟨hq, hle, hlost⟩ := ih hfits h
      refine ⟨hq, by simp only [total]; omega, fun m hm => ?_⟩
      have hm' := hlost m (by simpa using hm)
      simp only [total]
      omega
    | attempt n =>
      rw [advance] at h
      split_ifs at h with hfits
      · obtain ⟨hq, hle, hlost⟩ := ih hfits h
        refine ⟨hq, by simp only [total]; omega, fun m hm => ?_⟩
        have hm' := hlost m (by simpa using hm)
        simp only [total]
        omega
      obtain ⟨hq, hle, -⟩ := ih hp h
      refine ⟨hq, by simp only [total]; omega, fun m _ => ?_⟩
      simp only [total]
      omega
    | lost n =>
      obtain ⟨hq, hle, -⟩ := ih hp h
      refine ⟨hq, by simp only [total]; omega, fun m _ => ?_⟩
      simp only [total]
      omega
    | stop => cases h
    | outside => cases h

/-- What follows a segment that is lost has to be refused. -/
theorem failed_iff_of_lost {n : Nat} (hp : p ≤ limit) (hn : 0 < n) :
    advance limit l p = .failed ↔
      advance limit l p ≠ .undefined ∧
        ∀ q, advance limit l p = .done q → q = p + (n + total l) := by
  constructor
  · intro h
    rw [h]
    exact ⟨nofun, nofun⟩
  · rintro ⟨hdefined, hall⟩
    cases h : advance limit l p with
    | failed => rfl
    | undefined => exact absurd h hdefined
    | done q =>
      have hq := hall q h
      have hle := (le_of_advance hp h).2.1
      omega

/-- Segments are kept exactly if accepting them means accepting all of their bytes. -/
theorem kept_iff (hp : p ≤ limit) :
    Kept limit l p ↔
      advance limit l p ≠ .undefined ∧ ∀ q, advance limit l p = .done q → q = p + total l := by
  have hrefused : ∀ r : Nat, (Outcome.failed : Outcome Nat) ≠ .undefined ∧
      ∀ q, (Outcome.failed : Outcome Nat) = .done q → q = r :=
    fun r => ⟨nofun, nofun⟩
  induction l generalizing p with
  | nil => exact ⟨fun _ => ⟨nofun, fun q h => (Outcome.done.inj h).symm⟩,
      fun _ => trivial⟩
  | cons s l ih =>
    cases s with
    | need n =>
      rw [Kept, advance]
      by_cases hfits : p + n ≤ limit
      · rw [if_pos hfits, if_pos hfits, total, ← Nat.add_assoc]
        exact ih hfits
      rw [if_neg hfits, if_neg hfits]
      by_cases hwrap : (p + n) % 2 ^ 32 ≤ limit
      · rw [if_pos hwrap]
        exact ⟨fun h => absurd hwrap (Nat.not_le.2 h), fun h => absurd rfl h.1⟩
      · rw [if_neg hwrap]
        exact ⟨fun _ => hrefused _, fun _ => Nat.not_le.1 hwrap⟩
    | attempt n =>
      rw [Kept, advance]
      by_cases hfits : p + n ≤ limit
      · rw [if_pos hfits, if_pos hfits, total, ← Nat.add_assoc]
        exact ih hfits
      rw [if_neg hfits, if_neg hfits]
      by_cases hwrap : (p + n) % 2 ^ 32 ≤ limit
      · rw [if_pos hwrap]
        exact ⟨fun h => absurd hwrap (Nat.not_le.2 h.1), fun h => absurd rfl h.1⟩
      · rw [if_neg hwrap, total, ← failed_iff_of_lost hp (by omega)]
        exact ⟨fun h => h.2, fun h => ⟨Nat.not_le.1 hwrap, h⟩⟩
    | lost n => exact failed_iff_of_lost hp (Nat.succ_pos n)
    | stop => exact ⟨fun _ => hrefused _, fun _ => trivial⟩
    | outside => exact ⟨fun h => h.elim, fun h => absurd rfl h.1⟩

end Segment

namespace Script

open Segment

/-- The sizes of the writes of a script. -/
def layout : Script → List Segment
  | done => []
  | fail => [.stop]
  | undefined => [.outside]
  | write bytes next => .need bytes.length :: next.layout
  | attempt bytes next => .attempt bytes.length :: next.layout
  | lose bytes _ next => .lost (bytes.length - 1) :: next.layout
  | patch placeholder body _ _ next => .need placeholder.length :: (body.layout ++ next.layout)
  | guard body next => body.layout ++ next.layout

/-- The bytes a script is meant to write, unless it fails. -/
def content : Script → Option (List UInt8)
  | done => some []
  | fail => none
  | undefined => none
  | write bytes next => next.content.map (bytes ++ ·)
  | attempt bytes next => next.content.map (bytes ++ ·)
  | lose bytes _ next => next.content.map (bytes ++ ·)
  | patch placeholder body field _ next =>
    body.content.bind fun x => next.content.map fun y =>
      (field x.length).getD placeholder ++ x ++ y
  | guard body next => body.content.bind fun x => next.content.map (x ++ ·)

/-- The cursor at the end of a script, if it comes to an end. -/
def finalPosition (r : Buffer × Outcome Unit) : Outcome Nat := r.2.bind fun _ => .done r.1.position

variable {limit : Nat}

theorem finalPosition_follow {r : Buffer × Outcome Unit} {k : Buffer → Buffer × Outcome Unit}
    {l : List Segment}
    (hk : ∀ b, r = (b, .done ()) → finalPosition (k b) = advance limit l b.position) :
    finalPosition (follow r k) = (finalPosition r).bind (advance limit l) := by
  obtain ⟨b, o⟩ := r
  cases o with
  | done u => exact hk b rfl
  | failed => rfl
  | undefined => rfl

theorem finalPosition_putting (b : Buffer) (bytes : List UInt8) :
    finalPosition (putting b bytes) =
        advance b.maximumSize.toNat [.need bytes.length] b.position ∧
      finalPosition (ignored (putting b bytes)) =
        advance b.maximumSize.toNat [.attempt bytes.length] b.position := by
  simp only [advance]
  rcases putting_cases b bytes with ⟨b', hw, heq⟩ | ⟨hw, hlt, heq⟩ | ⟨hw, hle, heq⟩
  · obtain ⟨hfits, -, hpos, -⟩ := Buffer.write_eq_some.1 hw
    rw [heq, if_pos hfits, if_pos hfits, ← hpos]
    exact ⟨rfl, rfl⟩
  · have hbeyond := Buffer.write_eq_none.1 hw
    rw [heq, if_neg (by omega), if_neg (by omega), if_neg (by omega), if_neg (by omega)]
    exact ⟨rfl, rfl⟩
  · have hbeyond := Buffer.write_eq_none.1 hw
    rw [heq, if_neg (by omega), if_pos hle, if_neg (by omega), if_pos hle]
    exact ⟨rfl, rfl⟩

/-- How a script ends, and where, depends on its layout only. -/
theorem finalPosition_run (s : Script) (b : Buffer) :
    finalPosition (s.run b) = advance b.maximumSize.toNat s.layout b.position := by
  induction s generalizing b with
  | write bytes next ih =>
    rw [run, layout, ← singleton_append, advance_append, ← (finalPosition_putting b _).1]
    refine finalPosition_follow fun b' hb' => ?_
    have hg := Grows.putting b bytes
    rw [hb'] at hg
    rw [ih, hg.maximumSize_eq]
  | attempt bytes next ih =>
    rw [run, layout, ← singleton_append, advance_append, ← (finalPosition_putting b _).2]
    refine finalPosition_follow fun b' hb' => ?_
    have hg := (Grows.putting b bytes).ignored
    rw [hb'] at hg
    rw [ih, hg.maximumSize_eq]
  | lose bytes h next ih => exact ih b
  | patch placeholder body field hfield next ihBody ihNext =>
    rw [run, layout, ← singleton_append, advance_append, ← (finalPosition_putting b _).1]
    refine finalPosition_follow fun b₁ hb₁ => ?_
    have hw := putting_eq_done_iff.1 hb₁
    have hmax₁ := (Buffer.write_eq_some.1 hw).2.2.2
    rw [advance_append, ← hmax₁, ← ihBody b₁]
    refine finalPosition_follow fun b₂ hb₂ => ?_
    have hg₂ := run_grows body b₁
    rw [hb₂] at hg₂
    obtain ⟨b₃, hb₃, hp, hm, -⟩ := patching_eq (hfield _) hw hg₂
    rw [hb₃, follow_done, ihNext, hp, hm, hg₂.maximumSize_eq]
  | guard body next ihBody ihNext =>
    have hrecovered : finalPosition (recovered b (body.run b)) = finalPosition (body.run b) := by
      generalize body.run b = r
      obtain ⟨b₁, o⟩ := r
      cases o <;> rfl
    rw [run, layout, advance_append, ← ihBody b, ← hrecovered]
    refine finalPosition_follow fun b₁ hb₁ => ?_
    have hg := run_grows body b
    rw [recovered_eq_done hb₁] at hg
    rw [ihNext, hg.maximumSize_eq]
  | _ => rfl

variable {s : Script} {enc : List UInt8}

theorem length_getD {placeholder : List UInt8} {field : Option (List UInt8)}
    (h : ∀ bytes, field = some bytes → bytes.length = placeholder.length) :
    (field.getD placeholder).length = placeholder.length := by
  cases field with
  | none => rfl
  | some bytes => exact h bytes rfl

/-- A script that comes to its end has bytes to write, as many as its layout has. -/
theorem length_content (h : s.content = some enc) :
    enc.length = total s.layout := by
  induction s generalizing enc with
  | done =>
    cases h
    rfl
  | fail => cases h
  | undefined => cases h
  | write bytes next ih =>
    obtain ⟨x, hx, rfl⟩ := map_eq_some_iff.1 h
    rw [length_append, ih hx]
    rfl
  | attempt bytes next ih =>
    obtain ⟨x, hx, rfl⟩ := map_eq_some_iff.1 h
    rw [length_append, ih hx]
    rfl
  | lose bytes hne next ih =>
    obtain ⟨x, hx, rfl⟩ := map_eq_some_iff.1 h
    have hpos := List.length_pos_iff.2 hne
    rw [length_append, ih hx, layout, total]
    omega
  | patch placeholder body field hfield next ihBody ihNext =>
    obtain ⟨x, hx, h⟩ := bind_eq_some_iff.1 h
    obtain ⟨y, hy, rfl⟩ := map_eq_some_iff.1 h
    have hlen := length_getD (hfield x.length)
    rw [length_append, length_append, hlen, ihBody hx, ihNext hy, layout, total,
      total_append, Nat.add_assoc]
  | guard body next ihBody ihNext =>
    obtain ⟨x, hx, h⟩ := bind_eq_some_iff.1 h
    obtain ⟨y, hy, rfl⟩ := map_eq_some_iff.1 h
    rw [length_append, ihBody hx, ihNext hy, layout, total_append]

/-- The segments of a script that comes to its end do not stop it. -/
theorem content_isSome {p q : Nat} (h : advance limit s.layout p = .done q) :
    ∃ enc, s.content = some enc := by
  induction s generalizing p q with
  | done => exact ⟨[], rfl⟩
  | fail => cases h
  | undefined => cases h
  | write bytes next ih =>
    rw [layout, advance] at h
    split_ifs at h
    obtain ⟨x, hx⟩ := ih h
    exact ⟨_, map_eq_some_iff.2 ⟨x, hx, rfl⟩⟩
  | attempt bytes next ih =>
    rw [layout, advance] at h
    split_ifs at h
    all_goals
      obtain ⟨x, hx⟩ := ih h
      exact ⟨_, map_eq_some_iff.2 ⟨x, hx, rfl⟩⟩
  | lose bytes hne next ih =>
    obtain ⟨x, hx⟩ := ih h
    exact ⟨_, map_eq_some_iff.2 ⟨x, hx, rfl⟩⟩
  | patch placeholder body field hfield next ihBody ihNext =>
    rw [layout, advance] at h
    split_ifs at h
    rw [advance_append] at h
    obtain ⟨q', hbody, hnext⟩ := Outcome.bind_eq_done h
    obtain ⟨x, hx⟩ := ihBody hbody
    obtain ⟨y, hy⟩ := ihNext hnext
    exact ⟨_, bind_eq_some_iff.2 ⟨x, hx, map_eq_some_iff.2 ⟨y, hy, rfl⟩⟩⟩
  | guard body next ihBody ihNext =>
    rw [layout, advance_append] at h
    obtain ⟨q', hbody, hnext⟩ := Outcome.bind_eq_done h
    obtain ⟨x, hx⟩ := ihBody hbody
    obtain ⟨y, hy⟩ := ihNext hnext
    exact ⟨_, bind_eq_some_iff.2 ⟨x, hx, map_eq_some_iff.2 ⟨y, hy, rfl⟩⟩⟩

variable {b : Buffer}

/-- A body written after a placeholder, with the field patched in, is the field and the body
    written at once. -/
theorem patching_of_write {b₁ b₂ c : Buffer} {placeholder x : List UInt8}
    {field : Option (List UInt8)}
    (hfield : ∀ bytes, field = some bytes → bytes.length = placeholder.length)
    (hw₁ : b.write placeholder = some b₁) (hw₂ : b₁.write x = some b₂)
    (hc : b.write (field.getD placeholder ++ x) = some c) :
    patching b.position b₂ field = (c, .done ()) := by
  rcases field with _ | bytes
  · have h : b.write (placeholder ++ x) = some b₂ := Buffer.write_append hw₁ hw₂
    rw [patching, Option.some.inj (h.symm.trans hc)]
  have hlen := hfield bytes rfl
  obtain ⟨b₃, hover, -⟩ := overwrite_eq_some (placeholder_fits hlen hw₁ (Grows.of_write hw₂))
  obtain ⟨s₁, hs₁, h⟩ := bind_eq_some_iff.1 hover
  obtain ⟨s₂, hs₂, hs₃⟩ := bind_eq_some_iff.1 h
  have hall := Buffer.write_over hlen hw₁ hw₂ hs₁ hs₂ hs₃
  rw [patching, hover, Option.some.inj (hall.symm.trans hc)]

/-- A script that has nothing to lose writes its bytes, if they all fit. -/
theorem run_of_write {b' : Buffer} (h : s.content = some enc) (hlost : ∀ n, .lost n ∉ s.layout)
    (hw : b.write enc = some b') :
    s.run b = (b', .done ()) := by
  induction s generalizing enc b b' with
  | done =>
    cases h
    rw [Buffer.write_nil] at hw
    cases hw
    rfl
  | fail => cases h
  | undefined => cases h
  | write bytes next ih =>
    obtain ⟨x, hx, rfl⟩ := map_eq_some_iff.1 h
    obtain ⟨b₁, hb₁, hw⟩ := Buffer.write_of_append hw
    rw [run, putting_eq_done_iff.2 hb₁, follow_done]
    exact ih hx (fun n hn => hlost n (mem_cons_of_mem _ hn)) hw
  | attempt bytes next ih =>
    obtain ⟨x, hx, rfl⟩ := map_eq_some_iff.1 h
    obtain ⟨b₁, hb₁, hw⟩ := Buffer.write_of_append hw
    rw [run, putting_eq_done_iff.2 hb₁]
    exact ih hx (fun n hn => hlost n (mem_cons_of_mem _ hn)) hw
  | lose bytes hne next ih => exact absurd (mem_cons_self ..) (hlost _)
  | patch placeholder body field hfield next ihBody ihNext =>
    obtain ⟨x, hx, h⟩ := bind_eq_some_iff.1 h
    obtain ⟨y, hy, rfl⟩ := map_eq_some_iff.1 h
    obtain ⟨c, hc, hw⟩ := Buffer.write_of_append hw
    have hlen := length_getD (hfield x.length)
    have hfits := (Buffer.write_eq_some.1 hc).1
    rw [length_append, hlen] at hfits
    obtain ⟨b₁, hb₁⟩ : ∃ b₁, b.write placeholder = some b₁ := ⟨_, dif_pos (by omega)⟩
    obtain ⟨-, -, hpos₁, hmax₁⟩ := Buffer.write_eq_some.1 hb₁
    obtain ⟨b₂, hb₂⟩ : ∃ b₂, b₁.write x = some b₂ := ⟨_, dif_pos (by rw [hpos₁, hmax₁]; omega)⟩
    have hsize : b₂.position - b₁.position = x.length := by
      have := (Buffer.write_eq_some.1 hb₂).2.2.1
      omega
    have hbody := ihBody hx
      (fun n hn => hlost n (mem_cons_of_mem _ (mem_append_left _ hn))) hb₂
    rw [run, putting_eq_done_iff.2 hb₁, follow_done, hbody, follow_done, hsize,
      patching_of_write (hfield _) hb₁ hb₂ hc, follow_done]
    exact ihNext hy (fun n hn => hlost n (mem_cons_of_mem _ (mem_append_right _ hn))) hw
  | guard body next ihBody ihNext =>
    obtain ⟨x, hx, h⟩ := bind_eq_some_iff.1 h
    obtain ⟨y, hy, rfl⟩ := map_eq_some_iff.1 h
    obtain ⟨b₁, hb₁, hw⟩ := Buffer.write_of_append hw
    rw [run, ihBody hx (fun n hn => hlost n (mem_append_left _ hn)) hb₁]
    exact ihNext hy (fun n hn => hlost n (mem_append_right _ hn)) hw

/-- A script neither leaves the buffer nor ends short of its bytes, exactly if its layout is
    kept from where it starts. -/
theorem complete_iff_kept (s : Script) (b : Buffer) :
    ((s.run b).2 ≠ .undefined ∧ ∀ b', s.run b = (b', .done ()) →
      ∃ enc, s.content = some enc ∧ b.write enc = some b') ↔
    Kept b.maximumSize.toNat s.layout b.position := by
  have hp : b.position ≤ b.maximumSize.toNat := b.position_le.trans b.length_le
  have hfinal := finalPosition_run s b
  rw [kept_iff hp, ← hfinal]
  constructor
  · rintro ⟨hdefined, hcomplete⟩
    generalize hr : s.run b = r at hdefined hcomplete
    obtain ⟨b', o⟩ := r
    cases o with
    | undefined => exact absurd rfl hdefined
    | failed => exact ⟨nofun, nofun⟩
    | done u =>
      refine ⟨nofun, fun q h => ?_⟩
      obtain ⟨enc, henc, hw⟩ := hcomplete b' rfl
      have hpos := (Buffer.write_eq_some.1 hw).2.2.1
      rw [length_content henc] at hpos
      rw [← Outcome.done.inj h]
      exact hpos
  · rintro ⟨hdefined, hall⟩
    refine ⟨?_, fun b' hb' => ?_⟩
    · intro h
      apply hdefined
      rw [finalPosition, h]
      rfl
    · -- The script comes to its end with all its bytes, so none was lost
      have hdone : finalPosition (s.run b) = .done b'.position := by
        rw [hb']
        rfl
      have hq := hall _ hdone
      rw [hfinal] at hdone
      obtain ⟨hlimit, -, hlost⟩ := le_of_advance hp hdone
      obtain ⟨enc, henc⟩ := content_isSome hdone
      have hsize := length_content henc
      obtain ⟨c, hc⟩ : ∃ c, b.write enc = some c := ⟨_, dif_pos (by omega)⟩
      have hrun := run_of_write henc (fun n hn => Nat.lt_irrefl _ (hq ▸ hlost n hn)) hc
      have heq := (Prod.mk.inj (hb'.symm.trans hrun)).1
      exact ⟨enc, henc, heq ▸ hc⟩

end Script

end S2opc.Lib.WriteScript
