/-
The bounds of a buffer along any sequence of calls.

`Bounded` is what the functions of `sopc_buffer.c` rely on: the position is in
the bytes in use, these are in the memory, and the memory is within the maximum
size.  Each function keeps it, and reads and writes are accepted exactly when
there are enough bytes or enough room, as long as the position and the count
that a read or a write is given do not add up to 2 ^ 32 or more.  When they do,
the sum wraps around: the check passes, and the copy leaves the memory.
-/
import S2opc.Buffer.Basic
import S2opc.Lib.ByteCodec
import S2opc.Lib.Run

namespace S2opc.Buffer

open Lib.Run List Function UInt32

/-- `position <= length <= current_size <= maximum_size`. -/
structure Bounded (b : MemBuffer) : Prop where
  position_le : b.position ≤ b.length
  length_le : b.length ≤ b.currentSize
  currentSize_le : b.currentSize ≤ b.maximumSize

instance (b : MemBuffer) : Decidable (Bounded b) :=
  decidable_of_iff (b.position ≤ b.length ∧ b.length ≤ b.currentSize ∧ b.currentSize ≤ b.maximumSize)
    ⟨fun h => ⟨h.1, h.2.1, h.2.2⟩, fun h => ⟨h.1, h.2, h.3⟩⟩

/-- A buffer within its bounds that has been created, so that its initial size is not zero. -/
structure Valid (b : MemBuffer) : Prop where
  bounded : Bounded b
  initialSize_pos : 0 < b.initialSize.toNat

namespace Valid

variable {b : MemBuffer}

theorem position_le (h : Valid b) : b.position.toNat ≤ b.length.toNat :=
  le_iff_toNat_le.1 h.bounded.position_le

theorem length_le (h : Valid b) : b.length.toNat ≤ b.currentSize.toNat :=
  le_iff_toNat_le.1 h.bounded.length_le

theorem currentSize_le (h : Valid b) : b.currentSize.toNat ≤ b.maximumSize.toNat :=
  le_iff_toNat_le.1 h.bounded.currentSize_le

/-- A buffer of the same sizes is valid if its position and its length are within the memory. -/
theorem of_sizes (h : Valid b) (b' : MemBuffer) (hinitial : b'.initialSize = b.initialSize)
    (hmaximum : b'.maximumSize = b.maximumSize) (hcurrent : b'.currentSize = b.currentSize)
    (hposition : b'.position.toNat ≤ b'.length.toNat)
    (hlength : b'.length.toNat ≤ b.currentSize.toNat) : Valid b' where
  bounded :=
    { position_le := le_iff_toNat_le.2 hposition
      length_le := by
        rw [le_iff_toNat_le, hcurrent]
        exact hlength
      currentSize_le := by
        rw [hcurrent, hmaximum]
        exact h.bounded.currentSize_le }
  initialSize_pos := by
    rw [hinitial]
    exact h.initialSize_pos

end Valid

theorem valid_of_createResizable {initialSize maximumSize : UInt32} {b : MemBuffer}
    (h : MemBuffer.createResizable initialSize maximumSize = some b) : Valid b := by
  unfold MemBuffer.createResizable at h
  split_ifs at h with hsize
  cases h
  have hpos : 0 < initialSize.toNat := by
    rcases Nat.eq_zero_or_pos initialSize.toNat with hzero | hpos
    · exact absurd (UInt32.toNat_inj.1 hzero) fun h => hsize (Or.inl h)
    · exact hpos
  have hle : initialSize.toNat ≤ maximumSize.toNat := by
    by_contra hlt
    exact hsize (Or.inr (lt_iff_toNat_lt.2 (Nat.lt_of_not_le hlt)))
  exact ⟨⟨le_iff_toNat_le.2 (Nat.le_refl 0), le_iff_toNat_le.2 (Nat.zero_le _),
    le_iff_toNat_le.2 hle⟩, hpos⟩

/-! ## The memory -/

namespace MemBuffer

variable {b : MemBuffer} {offset count : Nat}

/-- A copy inside of the memory changes the bytes only. -/
theorem store_of_le (bytes : Nat → UInt8) (h : offset + count ≤ b.currentSize.toNat) :
    ∃ hdata, b.store offset count bytes = .ok { b with
      data := b.data.take offset ++ (range count).map bytes ++ b.data.drop (offset + count)
      allocated := hdata } := by
  unfold store
  rw [dif_pos (by rw [b.allocated]; exact h)]
  exact ⟨_, rfl⟩

theorem store_of_lt (bytes : Nat → UInt8) (h : b.currentSize.toNat < offset + count) :
    b.store offset count bytes = .error .overrun := by
  unfold store
  rw [dif_neg]
  rw [b.allocated]
  omega

theorem load_of_le (h : offset + count ≤ b.currentSize.toNat) :
    b.load offset count = .ok fun i => b.data.getD (offset + i) 0 := by
  unfold load
  rw [if_pos (by rw [b.allocated]; exact h)]

theorem load_of_lt (h : b.currentSize.toNat < offset + count) :
    b.load offset count = .error .overrun := by
  unfold load
  rw [if_neg]
  rw [b.allocated]
  omega

/-! ## The size after a write -/

/-- The steps of the initial size that are enough for some bytes. -/
theorem steps_bounds (total : Nat) {initial : Nat} (hinitial : 0 < initial) :
    let steps := total / initial + if total % initial ≠ 0 then 1 else 0
    total ≤ steps * initial ∧ steps ≤ total := by
  intro steps
  have hdiv := Nat.div_add_mod total initial
  have hmod := Nat.mod_lt total hinitial
  by_cases hzero : total % initial = 0
  · have hsteps : steps = total / initial := by simp [steps, hzero]
    rw [hsteps, Nat.mul_comm]
    exact ⟨by omega, Nat.div_le_self total initial⟩
  have hsteps : steps = total / initial + 1 := by simp [steps, hzero]
  rw [hsteps, Nat.add_mul, Nat.mul_comm]
  refine ⟨by omega, ?_⟩
  -- the remainder is at least one, and so is each whole step that precedes it
  have hle : total / initial * 1 ≤ initial * (total / initial) := by
    rw [Nat.mul_comm initial]
    exact Nat.mul_le_mul_left _ hinitial
  omega

variable {total : UInt32}

theorem steppedSize_bounds (h : Valid b) (htotal : total.toNat ≤ b.maximumSize.toNat) :
    total.toNat ≤ (b.steppedSize total).toNat ∧
      (b.steppedSize total).toNat ≤ b.maximumSize.toNat := by
  obtain ⟨henough, hle⟩ := steps_bounds total.toNat h.initialSize_pos
  have hlt := total.toNat_lt
  have hmaximum := b.maximumSize.toNat_lt
  set steps : Nat := total.toNat / b.initialSize.toNat +
    if total.toNat % b.initialSize.toNat ≠ 0 then 1 else 0 with hstepsDef
  have hsteps : (total / b.initialSize + if total % b.initialSize ≠ 0 then 1 else 0 : UInt32).toNat =
      steps := by
    have hne : total % b.initialSize ≠ 0 ↔ total.toNat % b.initialSize.toNat ≠ 0 := by
      rw [Ne, ← UInt32.toNat_inj, UInt32.toNat_mod]
      rfl
    rw [UInt32.toNat_add, UInt32.toNat_div]
    split_ifs with hmod
    · rw [if_pos (hne.1 hmod)] at hstepsDef
      rw [show (1 : UInt32).toNat = 1 from rfl, ← hstepsDef]
      exact Nat.mod_eq_of_lt (Nat.lt_of_le_of_lt hle hlt)
    rw [if_neg fun h => hmod (hne.2 h)] at hstepsDef
    rw [show (0 : UInt32).toNat = 0 from rfl, ← hstepsDef]
    exact Nat.mod_eq_of_lt (Nat.lt_of_le_of_lt hle hlt)
  unfold steppedSize
  by_cases hlarge : b.maximumSize / b.initialSize <
      (total / b.initialSize + if total % b.initialSize ≠ 0 then 1 else 0 : UInt32)
  · rw [if_pos hlarge]
    exact ⟨htotal, Nat.le_refl _⟩
  rw [if_neg hlarge, UInt32.toNat_mul, hsteps]
  have hfit : steps ≤ b.maximumSize.toNat / b.initialSize.toNat := by
    rw [lt_iff_toNat_lt, UInt32.toNat_div, hsteps] at hlarge
    omega
  have hmul : steps * b.initialSize.toNat ≤ b.maximumSize.toNat :=
    (Nat.le_div_iff_mul_le h.initialSize_pos).1 hfit
  rw [Nat.mod_eq_of_lt (by omega)]
  exact ⟨henough, hmul⟩

/-- What a buffer becomes that is made large enough: its memory grows, and nothing else. -/
structure Grown (b b' : MemBuffer) (totalNbBytes : UInt32) : Prop where
  valid : Valid b'
  enough : totalNbBytes.toNat ≤ b'.currentSize.toNat
  position_eq : b'.position = b.position
  length_eq : b'.length = b.length
  data_eq : b'.data.take b.length.toNat = b.data.take b.length.toNat
  maximumSize_eq : b'.maximumSize = b.maximumSize

theorem checkSizeAndResize_of_le (h : Valid b) (exactResize : Bool)
    (htotal : total.toNat ≤ b.maximumSize.toNat) :
    ∃ b', b.checkSizeAndResize total exactResize = some b' ∧ Grown b b' total := by
  unfold checkSizeAndResize
  by_cases hcurrent : total ≤ b.currentSize
  · rw [if_pos hcurrent]
    exact ⟨b, rfl, h, le_iff_toNat_le.1 hcurrent, rfl, rfl, rfl, rfl⟩
  rw [if_neg hcurrent, if_pos (le_iff_toNat_le.2 htotal)]
  have hlt : b.currentSize.toNat < total.toNat := by
    rw [le_iff_toNat_le] at hcurrent
    omega
  set newSize := if exactResize then total else b.steppedSize total with hnewSize
  have hbounds : total.toNat ≤ newSize.toNat ∧ newSize.toNat ≤ b.maximumSize.toNat := by
    cases exactResize with
    | true => exact ⟨Nat.le_refl _, htotal⟩
    | false => exact steppedSize_bounds h htotal
  have hlength := h.length_le
  refine ⟨b.realloc newSize, rfl, ⟨⟨h.bounded.position_le, ?_, ?_⟩, h.initialSize_pos⟩, hbounds.1,
    rfl, rfl, ?_, rfl⟩
  · rw [le_iff_toNat_le]
    show b.length.toNat ≤ newSize.toNat
    omega
  · rw [le_iff_toNat_le]
    exact hbounds.2
  · show (b.data.take newSize.toNat ++ replicate (newSize.toNat - b.data.length) 0).take
      b.length.toNat = b.data.take b.length.toNat
    have hdata := b.allocated
    have hall : b.data.take newSize.toNat = b.data := take_of_length_le (by omega)
    rw [hall, take_append_of_le_length (by omega)]

theorem checkSizeAndResize_of_lt (h : Valid b) (exactResize : Bool)
    (htotal : b.maximumSize.toNat < total.toNat) :
    b.checkSizeAndResize total exactResize = none := by
  have hcurrent := h.currentSize_le
  unfold checkSizeAndResize
  rw [if_neg, if_neg]
  all_goals
    rw [le_iff_toNat_le]
    omega

/-! ## The functions on one buffer -/

theorem setPosition_valid (h : Valid b) (position : UInt32) : Valid (b.setPosition position).2 := by
  unfold setPosition
  split_ifs with hle
  · exact h.of_sizes _ rfl rfl rfl (le_iff_toNat_le.1 hle) h.length_le
  · exact h

theorem setPosition_zero (b : MemBuffer) : b.setPosition 0 = (.ok, { b with position := 0 }) := by
  unfold setPosition
  rw [if_pos (le_iff_toNat_le.2 (Nat.zero_le _))]

theorem setDataLength_valid (h : Valid b) (length : UInt32) :
    ∃ answer b', b.setDataLength length = .ok (answer, b') ∧ Valid b' := by
  unfold setDataLength
  by_cases hc : length ≤ b.currentSize ∧ b.position ≤ length
  · rw [if_pos hc]
    have hlength := le_iff_toNat_le.1 hc.1
    have hposition := le_iff_toNat_le.1 hc.2
    by_cases hless : length < b.length
    · have hsub : (b.length - length).toNat = b.length.toNat - length.toNat :=
        UInt32.toNat_sub_of_le _ _ (UInt32.le_of_lt hless)
      have hcurrent := h.length_le
      have hin : length.toNat + (b.length - length).toNat ≤ b.currentSize.toNat := by omega
      obtain ⟨hdata, hstore⟩ := store_of_le (fun _ => 0) hin
      rw [if_pos hless, hstore]
      exact ⟨_, _, rfl, h.of_sizes _ rfl rfl rfl hposition hlength⟩
    · rw [if_neg hless]
      exact ⟨_, _, rfl, h.of_sizes _ rfl rfl rfl hposition hlength⟩
  · rw [if_neg hc]
    exact ⟨_, _, rfl, h⟩

theorem resetAfterPosition_valid (h : Valid b) (position : UInt32) :
    ∃ answer b', b.resetAfterPosition position = .ok (answer, b') ∧ Valid b' := by
  unfold resetAfterPosition
  by_cases hle : position ≤ b.length
  · have hposition := le_iff_toNat_le.1 hle
    have hlength := h.length_le
    have hsub : (b.currentSize - position).toNat = b.currentSize.toNat - position.toNat :=
      UInt32.toNat_sub_of_le _ _ (le_iff_toNat_le.2 (by omega))
    have hin : position.toNat + (b.currentSize - position).toNat ≤ b.currentSize.toNat := by omega
    obtain ⟨hdata, hstore⟩ := store_of_le (fun _ => 0) hin
    rw [if_pos hle, hstore]
    exact ⟨_, _, rfl, h.of_sizes _ rfl rfl rfl (Nat.le_refl _) (show position.toNat ≤ _ by omega)⟩
  · rw [if_neg hle]
    exact ⟨_, _, rfl, h⟩

variable {x y : UInt32}

/-- A sum of 32-bit numbers that does not wrap around. -/
theorem toNat_add_of_lt (h : x.toNat + y.toNat < 2 ^ 32) :
    (x + y).toNat = x.toNat + y.toNat := by
  rw [UInt32.toNat_add]
  exact Nat.mod_eq_of_lt h

/-- A sum of 32-bit numbers that wraps around is less than each of them. -/
theorem toNat_add_of_wrapped (h : 2 ^ 32 ≤ x.toNat + y.toNat) :
    (x + y).toNat + 2 ^ 32 = x.toNat + y.toNat := by
  have hx := x.toNat_lt
  have hy := y.toNat_lt
  rw [UInt32.toNat_add]
  omega

variable {count : UInt32}

theorem toNat_max (x y : UInt32) : (if x < y then y else x).toNat = max x.toNat y.toNat := by
  simp only [lt_iff_toNat_lt]
  split_ifs <;> omega

/-- A write that fits goes to the memory, which grows, and the length follows the position. -/
theorem write_of_fits (h : Valid b) (source : Nat → UInt8)
    (hfits : b.position.toNat + count.toNat ≤ b.maximumSize.toNat) :
    ∃ grown hdata, Grown b grown (b.position + count) ∧
      b.position.toNat + count.toNat ≤ grown.currentSize.toNat ∧
      b.write source count = .ok (.ok, { grown with
        data := grown.data.take grown.position.toNat ++ (range count.toNat).map source ++
          grown.data.drop (grown.position.toNat + count.toNat)
        position := grown.position + count
        length := if grown.length < grown.position + count then grown.position + count
          else grown.length
        allocated := hdata }) := by
  have hsum : (b.position + count).toNat = b.position.toNat + count.toNat :=
    toNat_add_of_lt (Nat.lt_of_le_of_lt hfits b.maximumSize.toNat_lt)
  obtain ⟨grown, hgrown, hg⟩ := checkSizeAndResize_of_le h false (hsum.trans_le hfits)
  have hin : b.position.toNat + count.toNat ≤ grown.currentSize.toNat := hsum ▸ hg.enough
  obtain ⟨hdata, hstore⟩ := store_of_le source (hg.position_eq.symm ▸ hin)
  refine ⟨grown, hdata, hg, hin, ?_⟩
  rw [write, hgrown]
  simp only [hstore]
  rfl

theorem write_of_unwrapped (h : Valid b) (source : Nat → UInt8)
    (hcount : b.position.toNat + count.toNat < 2 ^ 32) :
    ∃ answer b', b.write source count = .ok (answer, b') ∧ Valid b' ∧
      (answer = .ok ↔ b.position.toNat + count.toNat ≤ b.maximumSize.toNat) := by
  by_cases hfits : b.position.toNat + count.toNat ≤ b.maximumSize.toNat
  · obtain ⟨grown, hdata, hg, -, hwrite⟩ := write_of_fits h source hfits
    have hposition : (grown.position + count).toNat ≤ grown.currentSize.toNat :=
      hg.position_eq.symm ▸ hg.enough
    exact ⟨_, _, hwrite, hg.valid.of_sizes _ rfl rfl rfl
      ((Nat.le_max_right _ _).trans_eq (toNat_max _ _).symm)
      ((toNat_max _ _).trans_le (Nat.max_le.2 ⟨hg.valid.length_le, hposition⟩)), iff_of_true rfl hfits⟩
  have hsum := toNat_add_of_lt hcount
  rw [write, checkSizeAndResize_of_lt h false (by omega)]
  exact ⟨_, _, rfl, h, iff_of_false nofun hfits⟩

/-- The check passes, on the memory that there is, and the copy goes beyond it. -/
theorem write_of_wrapped (h : Valid b) (source : Nat → UInt8)
    (hcount : 2 ^ 32 ≤ b.position.toNat + count.toNat) :
    b.write source count = .error .overrun := by
  have hsum := toNat_add_of_wrapped hcount
  have hlt := count.toNat_lt
  have hposition := h.position_le
  have hlength := h.length_le
  have hmaximum := b.currentSize.toNat_lt
  have hcheck : b.checkSizeAndResize (b.position + count) false = some b := by
    unfold checkSizeAndResize
    rw [if_pos (le_iff_toNat_le.2 (by omega))]
  have hout : b.currentSize.toNat < b.position.toNat + count.toNat := by omega
  unfold write
  rw [hcheck]
  simp only [store_of_lt source hout]
  rfl

theorem read_of_unwrapped (h : Valid b) (toAddress : Bool)
    (hcount : b.position.toNat + count.toNat < 2 ^ 32) :
    ∃ answer bytes b', b.read count toAddress = .ok (answer, bytes, b') ∧ Valid b' ∧
      (answer = .ok ↔ b.position.toNat + count.toNat ≤ b.length.toNat) := by
  have hsum := toNat_add_of_lt hcount
  have hlength := h.length_le
  unfold read
  by_cases hle : b.position + count ≤ b.length
  · have hfits := le_iff_toNat_le.1 hle
    rw [hsum] at hfits
    have hvalid : Valid { b with position := b.position + count } :=
      h.of_sizes _ rfl rfl rfl (le_iff_toNat_le.1 hle) hlength
    rw [if_pos hle]
    cases toAddress with
    | true =>
      rw [if_pos rfl, load_of_le (by omega)]
      exact ⟨_, _, _, rfl, hvalid, iff_of_true rfl hfits⟩
    | false => exact ⟨_, _, _, rfl, hvalid, iff_of_true rfl hfits⟩
  · rw [if_neg hle]
    refine ⟨_, _, _, rfl, h, iff_of_false nofun fun hfits => ?_⟩
    exact hle (le_iff_toNat_le.2 (by omega))

/-- The check passes: the read is accepted, or leaves the memory. -/
theorem read_of_wrapped (h : Valid b) (toAddress : Bool)
    (hcount : 2 ^ 32 ≤ b.position.toNat + count.toNat) :
    b.read count toAddress =
      if toAddress then .error .overrun
      else .ok (.ok, none, { b with position := b.position + count }) := by
  have hsum := toNat_add_of_wrapped hcount
  have hlt := count.toNat_lt
  have hposition := h.position_le
  have hmaximum := b.currentSize.toNat_lt
  unfold read
  rw [if_pos (le_iff_toNat_le.2 (by omega))]
  cases toAddress with
  | true =>
    rw [if_pos rfl, load_of_lt (by omega)]
    rfl
  | false => rfl

/-! ## The bytes in use -/

/-- The bytes in use of a buffer, with the position in them. -/
def inUse (b : MemBuffer) (h : Valid b) : Lib.ByteCodec.Buffer where
  data := b.data.take b.length.toNat
  position := b.position.toNat
  maximumSize := b.maximumSize
  position_le := by
    have hposition := h.position_le
    have hlength := h.length_le
    rw [List.length_take, b.allocated]
    omega
  length_le := by
    have hcurrent := h.currentSize_le
    rw [List.length_take, b.allocated]
    omega

/-- What a write leaves in use. -/
theorem take_write {data bytes : List UInt8} {position length : Nat} (hposition : position ≤ length)
    (hfits : position + bytes.length ≤ data.length) :
    (data.take position ++ bytes ++ data.drop (position + bytes.length)).take
        (max length (position + bytes.length)) =
      (data.take length).take position ++ bytes ++
        (data.take length).drop (position + bytes.length) := by
  have hfront : (data.take position ++ bytes).length = position + bytes.length := by
    rw [length_append, length_take]
    omega
  rw [take_append, take_of_length_le (by omega), hfront, take_take,
    Nat.min_eq_left hposition]
  congr 1
  rw [drop_take]
  -- a write within the bytes in use leaves those that follow, one beyond them leaves none
  congr 1
  omega

theorem length_inUse (h : Valid b) : (b.inUse h).data.length = b.length.toNat := by
  show (b.data.take b.length.toNat).length = b.length.toNat
  rw [length_take, b.allocated]
  exact Nat.min_eq_left h.length_le

/-- A call that fits is accepted, and is the one on the byte buffer of the bytes in use. -/
structure ActsOnBytes (b : MemBuffer) (h : Valid b) : Prop where
  write : ∀ source (count : UInt32), b.position.toNat + count.toNat ≤ b.maximumSize.toNat →
    ∃ b' hb', b.write source count = .ok (.ok, b') ∧
      (b.inUse h).write ((range count.toNat).map source) = some (b'.inUse hb')
  read : ∀ count : UInt32, b.position.toNat + count.toNat ≤ b.length.toNat →
    ∃ bytes b' hb', b.read count true = .ok (.ok, some bytes, b') ∧
      (b.inUse h).read count.toNat = some ((range count.toNat).map bytes, b'.inUse hb')
  setPosition : ∀ position ≤ b.length, ∃ b' hb', b.setPosition position = (.ok, b') ∧
    (b.inUse h).seek position.toNat = some (b'.inUse hb')

theorem actsOnBytes (h : Valid b) : ActsOnBytes b h where
  write source count hfits := by
    have hcount := Nat.lt_of_le_of_lt hfits b.maximumSize.toNat_lt
    have hmapped : ((range count.toNat).map source).length = count.toNat := by simp
    obtain ⟨grown, hdata, hg, hin, hwrite⟩ := write_of_fits h source hfits
    obtain ⟨answer, b', hwrite', hb', -⟩ := write_of_unwrapped h source hcount
    cases hwrite.symm.trans hwrite'
    refine ⟨_, hb', hwrite, ?_⟩
    rw [Lib.ByteCodec.Buffer.write_eq_some, hmapped]
    refine ⟨hfits, ?_, ?_, hg.maximumSize_eq⟩
    · show take (if grown.length < grown.position + count then grown.position + count
          else grown.length).toNat _ = _
      have hold : (b.inUse h).data = grown.data.take b.length.toNat := hg.data_eq.symm
      have htake := take_write h.position_le (show b.position.toNat +
        ((range count.toNat).map source).length ≤ grown.data.length by
          rw [hmapped, grown.allocated]
          exact hin)
      dsimp only
      rw [toNat_max, hg.length_eq, hg.position_eq, toNat_add_of_lt hcount, hold]
      rw [hmapped] at htake
      exact htake
    · show (grown.position + count).toNat = b.position.toNat + count.toNat
      rw [hg.position_eq, toNat_add_of_lt hcount]
  read count hfits := by
    have hallocated := b.allocated
    have hlength := h.length_le
    have hsum := toNat_add_of_lt (Nat.lt_of_le_of_lt hfits b.length.toNat_lt)
    have hle : b.position + count ≤ b.length := le_iff_toNat_le.2 (hsum.trans_le hfits)
    refine ⟨fun i => b.data.getD (b.position.toNat + i) 0, { b with position := b.position + count },
      h.of_sizes _ rfl rfl rfl (le_iff_toNat_le.1 hle) hlength, ?_, ?_⟩
    · rw [MemBuffer.read, if_pos hle, if_pos rfl, load_of_le (by omega)]
      rfl
    rw [Lib.ByteCodec.Buffer.read_eq_some]
    refine ⟨hfits.trans_eq (length_inUse h).symm, ?_, rfl, hsum, rfl⟩
    show _ = ((b.data.take b.length.toNat).drop b.position.toNat).take count.toNat
    clear hle hsum
    apply ext_getElem?
    intro i
    grind
  setPosition position hle := by
    have hin := le_iff_toNat_le.1 hle
    refine ⟨{ b with position }, h.of_sizes _ rfl rfl rfl hin h.length_le, if_pos hle, ?_⟩
    rw [Lib.ByteCodec.Buffer.seek_eq_some]
    exact ⟨hin.trans_eq (length_inUse h).symm, rfl, rfl, rfl⟩

end MemBuffer

/-! ## The functions on two buffers -/

open MemBuffer

section

variable {K : Type} [DecidableEq K] {s : Buffers K}

theorem bind_of_ok {α β : Type} {x : Except Fault α} {a : α} (h : x = .ok a)
    (f : α → Except Fault β) : (x >>= f) = f a := by
  rw [h]
  rfl

section

variable (hs : ∀ k, Valid (s k))
include hs

theorem valid_update {b : MemBuffer} (hb : Valid b) (k j : K) :
    Valid (Function.update s k b j) := by
  by_cases hj : j = k
  · rw [hj, update_self]
    exact hb
  · rw [update_of_ne hj]
    exact hs j

theorem setCopied_valid (dest src : K) (limitedLength : UInt32) :
    ∃ answer s', setCopied s dest src limitedLength = .ok (answer, s') ∧ ∀ k, Valid (s' k) := by
  have hzero : Valid { s dest with position := 0 } :=
    (hs dest).of_sizes _ rfl rfl rfl (Nat.zero_le _) (hs dest).length_le
  have hs₁ := valid_update hs hzero dest
  obtain ⟨answer, b, hlength, hb⟩ := setDataLength_valid (hs₁ dest) limitedLength
  have hs₂ := valid_update hs₁ hb dest
  unfold setCopied
  rw [setPosition_zero]
  simp only [hlength]
  cases answer with
  | ok => exact ⟨_, _, rfl, valid_update hs₂ (setPosition_valid (hs₂ dest) _) dest⟩
  | _ => exact ⟨_, _, rfl, hs₂⟩

theorem copyWithLength_valid (dest src : K) (limitedLength : UInt32) :
    ∃ answer s', copyWithLength s dest src limitedLength = .ok (answer, s') ∧
      ∀ k, Valid (s' k) := by
  unfold copyWithLength
  by_cases hc : limitedLength ≤ (s src).length ∧ (s src).position ≤ limitedLength
  · have hassert : ¬ (s src).length < (s src).position := by
      have hposition := (hs src).position_le
      rw [lt_iff_toNat_lt]
      omega
    have hlimited := le_iff_toNat_le.1 hc.1
    have hlength := (hs src).length_le
    rw [if_pos hc, if_neg hassert]
    by_cases hfits : limitedLength.toNat ≤ (s dest).maximumSize.toNat
    · obtain ⟨grown, hgrown, hb⟩ := checkSizeAndResize_of_le (hs dest) true hfits
      have hs₁ := valid_update hs hb.valid dest
      -- the source has the bytes, also if it is the destination, which has just grown
      have hsource : 0 + limitedLength.toNat ≤
          (Function.update s dest grown src).currentSize.toNat := by
        have henough := hb.enough
        by_cases hsame : src = dest
        · rw [hsame, update_self]
          omega
        · rw [update_of_ne hsame]
          omega
      have hdest : 0 + limitedLength.toNat ≤
          (Function.update s dest grown dest).currentSize.toNat := by
        rw [update_self, Nat.zero_add]
        exact hb.enough
      obtain ⟨hdata, hstore⟩ := store_of_le
        (fun i => (Function.update s dest grown src).data.getD (0 + i) 0) hdest
      rw [hgrown]
      dsimp only
      rw [bind_of_ok (load_of_le hsource), bind_of_ok hstore]
      apply setCopied_valid
      apply valid_update hs₁
      exact (hs₁ dest).of_sizes _ rfl rfl rfl (hs₁ dest).position_le (hs₁ dest).length_le
    · rw [checkSizeAndResize_of_lt (hs dest) true (Nat.lt_of_not_le hfits)]
      exact ⟨_, _, rfl, hs⟩
  · rw [if_neg hc]
    exact ⟨_, _, rfl, hs⟩

theorem readFrom_valid (buffer src : K) (n : UInt32) :
    ∃ answer s', readFrom s buffer src n = .ok (answer, s') ∧ ∀ k, Valid (s' k) := by
  unfold readFrom
  split_ifs with hrefused
  · exact ⟨_, _, rfl, hs⟩
  dsimp only
  set available := (s src).length - (s src).position with havailable
  set m := if available < n then available else n with hm
  have hroom : ((s buffer).currentSize - (s buffer).length).toNat =
      (s buffer).currentSize.toNat - (s buffer).length.toNat :=
    UInt32.toNat_sub_of_le _ _ (hs buffer).bounded.length_le
  have hleft : available.toNat = (s src).length.toNat - (s src).position.toNat :=
    UInt32.toNat_sub_of_le _ _ (hs src).bounded.position_le
  have hmle : m.toNat ≤ n.toNat ∧ m.toNat ≤ available.toNat := by
    rw [lt_iff_toNat_lt] at hrefused
    by_cases hless : available < n
    · rw [hm, if_pos hless]
      exact ⟨Nat.le_of_lt (lt_iff_toNat_lt.1 hless), Nat.le_refl _⟩
    rw [hm, if_neg hless]
    rw [lt_iff_toNat_lt] at hless
    exact ⟨Nat.le_refl _, by omega⟩
  have hsrcPosition := (hs src).position_le
  have hsrcLength := (hs src).length_le
  have hposition := (hs buffer).position_le
  have hlength := (hs buffer).length_le
  have hsize := (s buffer).currentSize.toNat_lt
  rw [lt_iff_toNat_lt] at hrefused
  have hload : (s src).position.toNat + m.toNat ≤ (s src).currentSize.toNat := by omega
  have hstored : (s buffer).length.toNat + m.toNat ≤ (s buffer).currentSize.toNat := by omega
  have hlonger : ((s buffer).length + m).toNat = (s buffer).length.toNat + m.toNat :=
    toNat_add_of_lt (by omega)
  obtain ⟨hdata, hstore⟩ := store_of_le
    (fun i => (s src).data.getD ((s src).position.toNat + i) 0) hstored
  rw [bind_of_ok (load_of_le hload), bind_of_ok hstore]
  refine ⟨_, _, rfl, ?_⟩
  set filled : MemBuffer :=
    { s buffer with
      data := (s buffer).data.take (s buffer).length.toNat ++ (range m.toNat).map
          (fun i => (s src).data.getD ((s src).position.toNat + i) 0) ++
        (s buffer).data.drop ((s buffer).length.toNat + m.toNat)
      length := (s buffer).length + m
      allocated := hdata } with hfilled
  have hb : Valid filled := by
    apply (hs buffer).of_sizes filled rfl rfl rfl
    · show (s buffer).position.toNat ≤ ((s buffer).length + m).toNat
      omega
    · show ((s buffer).length + m).toNat ≤ (s buffer).currentSize.toNat
      omega
  have hs₁ := valid_update hs hb buffer
  -- the position of the source advances within its length, which is longer if it is the buffer
  have hadvanced : ((Function.update s buffer filled src).position + m).toNat ≤
      (Function.update s buffer filled src).length.toNat := by
    by_cases hsame : src = buffer
    · rw [hsame, update_self]
      show ((s buffer).position + m).toNat ≤ ((s buffer).length + m).toNat
      rw [hlonger, toNat_add_of_lt (by omega)]
      omega
    rw [update_of_ne hsame]
    have hsrcSize := (s src).currentSize.toNat_lt
    rw [toNat_add_of_lt (by omega)]
    omega
  intro k
  apply valid_update hs₁
  exact (hs₁ src).of_sizes { Function.update s buffer filled src with
    position := (Function.update s buffer filled src).position + m } rfl rfl rfl hadvanced
    (hs₁ src).length_le

end

/-! ## Sequences of calls -/

/-- What a call that reads or writes is to answer: it succeeds if and only if the numbers, taken
    as integers, allow it. -/
def AnswersRight (s : Buffers K) (answer : Answer) : Call K → Prop
  | .write k _ count =>
    answer = .ok ↔ ((s k).position.toNat + count.toNat : Int) ≤ (s k).maximumSize.toNat
  | .read k count _ =>
    answer = .ok ↔ (count.toNat : Int) ≤ (s k).length.toNat - (s k).position.toNat
  | _ => True

/-- A call that ends, with every buffer within its bounds and the right answer. -/
def CallExact (s : Buffers K) (c : Call K) : Prop :=
  ∃ answer s', call s c = .ok (answer, s') ∧ (∀ k, Bounded (s' k)) ∧ AnswersRight s answer c

/-- The position and the count that a read or a write is given do not wrap around. -/
def Unwrapped (s : Buffers K) : Call K → Prop
  | .write k _ count => (s k).position.toNat + count.toNat < 2 ^ 32
  | .read k count _ => (s k).position.toNat + count.toNat < 2 ^ 32
  | _ => True

variable {c : Call K}

section

variable (hs : ∀ k, Valid (s k))
include hs

/-- A call whose numbers do not wrap around keeps the buffers valid and answers right. -/
theorem call_of_unwrapped (hc : Unwrapped s c) :
    ∃ answer s', call s c = .ok (answer, s') ∧ (∀ k, Valid (s' k)) ∧ AnswersRight s answer c := by
  cases c with
  | write k source count =>
    obtain ⟨answer, b, hwrite, hb, hanswer⟩ := write_of_unwrapped (hs k) source hc
    refine ⟨answer, _, by rw [call, hwrite]; rfl, valid_update hs hb k, ?_⟩
    rw [AnswersRight, hanswer]
    omega
  | read k count toAddress =>
    obtain ⟨answer, bytes, b, hread, hb, hanswer⟩ := read_of_unwrapped (hs k) toAddress hc
    refine ⟨answer, _, by rw [call, hread]; rfl, valid_update hs hb k, ?_⟩
    rw [AnswersRight, hanswer]
    omega
  | setPosition k position =>
    exact ⟨_, _, rfl, valid_update hs (setPosition_valid (hs k) position) k, trivial⟩
  | setDataLength k length =>
    obtain ⟨answer, b, hset, hb⟩ := setDataLength_valid (hs k) length
    exact ⟨answer, _, by rw [call, hset]; rfl, valid_update hs hb k, trivial⟩
  | resetAfterPosition k position =>
    obtain ⟨answer, b, hreset, hb⟩ := resetAfterPosition_valid (hs k) position
    exact ⟨answer, _, by rw [call, hreset]; rfl, valid_update hs hb k, trivial⟩
  | copyWithLength dest src limitedLength =>
    obtain ⟨answer, s', hcopy, hs'⟩ := copyWithLength_valid hs dest src limitedLength
    exact ⟨answer, s', hcopy, hs', trivial⟩
  | readFrom buffer src n =>
    obtain ⟨answer, s', hread, hs'⟩ := readFrom_valid hs buffer src n
    exact ⟨answer, s', hread, hs', trivial⟩

/-- A read or a write that wraps around leaves the memory, or is accepted when it should not. -/
theorem unwrapped_of_callExact (h : CallExact s c) :
    Unwrapped s c := by
  obtain ⟨answer, s', hcall, -, hanswer⟩ := h
  cases c with
  | write k source count =>
    by_contra hwrapped
    rw [call, write_of_wrapped (hs k) source (Nat.le_of_not_lt hwrapped)] at hcall
    cases hcall
  | read k count toAddress =>
    by_contra hwrapped
    have hle : 2 ^ 32 ≤ (s k).position.toNat + count.toNat := Nat.le_of_not_lt hwrapped
    rw [call, read_of_wrapped (hs k) toAddress hle] at hcall
    cases toAddress with
    | true => cases hcall
    | false =>
      cases hcall
      have hlength := (s k).length.toNat_lt
      have hfits := hanswer.1 rfl
      omega
  | _ => trivial

theorem callExact_iff : CallExact s c ↔ Unwrapped s c := by
  constructor
  · exact unwrapped_of_callExact hs
  · intro hc
    obtain ⟨answer, s', hcall, hs', hanswer⟩ := call_of_unwrapped hs hc
    exact ⟨answer, s', hcall, fun k => (hs' k).bounded, hanswer⟩

theorem valid_next (h : CallExact s c) (k : K) :
    Valid (next s c k) := by
  obtain ⟨answer, s', hcall, hs', -⟩ := call_of_unwrapped hs (unwrapped_of_callExact hs h)
  rw [next, hcall]
  exact hs' k

end

/-- From created buffers, each call of a sequence keeps the bounds and answers right if and only
    if no read and no write is given a count that wraps around from the position it starts at. -/
theorem buffers_bounded_iff (sizes : K → UInt32 × UInt32)
    (hcreated : ∀ k, MemBuffer.createResizable (sizes k).1 (sizes k).2 = some (s k))
    (calls : List (Call K)) :
    EveryStep next CallExact s calls ↔ EveryStep next Unwrapped s calls := by
  have hstart : ∀ k, Valid (s k) := fun k => valid_of_createResizable (hcreated k)
  have hinv : ∀ (s : Buffers K) c, (∀ k, Valid (s k)) → CallExact s c → ∀ k, Valid (next s c k) :=
    fun s c hs h k => valid_next hs h k
  have hstep : ∀ (s : Buffers K) c, (∀ k, Valid (s k)) → (CallExact s c ↔ Unwrapped s c) :=
    fun s c hs => callExact_iff hs
  exact everyStep_iff_everyStep hinv hstep hstart

/-- After any calls whose counts do not wrap around, the codecs act on the bytes in use of each
    buffer. -/
theorem reached_actsOnBytes (hs : ∀ k, Valid (s k)) {calls : List (Call K)}
    (h : EveryStep next Unwrapped s calls) :
    EveryState next (fun s => ∀ k, ∃ hk : Valid (s k), ActsOnBytes (s k) hk) s calls := by
  have hvalid : EveryState next (fun s : Buffers K => ∀ k, Valid (s k)) s calls :=
    h.everyState (fun s c hs hc => valid_next hs ((callExact_iff hs).2 hc)) hs
  exact hvalid.mono fun s hs k => ⟨hs k, actsOnBytes (hs k)⟩

end

/-- A buffer of sixteen bytes. -/
def sixteenBytes : MemBuffer where
  data := List.replicate 16 0
  position := 0
  length := 0
  initialSize := 16
  currentSize := 16
  maximumSize := 16
  allocated := by decide

/-- The calls on it are right from its creation on, as long as they do not wrap around. -/
theorem sixteenBytes_bounded_iff :
    MemBuffer.createResizable 16 16 = some sixteenBytes ∧
      ∀ calls : List (Call Unit),
        EveryStep next CallExact (fun _ => sixteenBytes) calls ↔
          EveryStep next Unwrapped (fun _ => sixteenBytes) calls :=
  ⟨by decide, fun calls => buffers_bounded_iff (fun _ => (16, 16)) (fun _ => by decide) calls⟩

theorem sixteenBytes_actsOnBytes :
    EveryState next (fun s => ∀ k, ∃ hk : Valid (s k), ActsOnBytes (s k) hk)
      (fun _ : Unit => sixteenBytes) [.write () (fun _ => 1) 8] :=
  reached_actsOnBytes (fun _ => valid_of_createResizable (show
    MemBuffer.createResizable 16 16 = some sixteenBytes by decide))
    ⟨show 0 + 8 < 2 ^ 32 by decide, trivial⟩

/-- With eight bytes in it, it lets 4294967292 bytes be read, and as many be written. -/
theorem wrapped_counts_accepted :
    MemBuffer.createResizable 16 16 = some sixteenBytes ∧
      ∃ b, sixteenBytes.write (fun _ => 1) 8 = .ok (.ok, b) ∧ b.position = 8 ∧ b.length = 8 ∧
        (∃ b', b.read 4294967292 false = .ok (.ok, none, b')) ∧
        b.write (fun _ => 1) 4294967292 = .error .overrun ∧
        ¬ EveryStep next CallExact (fun _ : Unit => sixteenBytes)
          [.write () (fun _ => 1) 8, .read () 4294967292 false] := by
  have hvalid : Valid sixteenBytes := valid_of_createResizable (show
    MemBuffer.createResizable 16 16 = some sixteenBytes by decide)
  refine ⟨by decide, _, rfl, rfl, rfl, ⟨_, rfl⟩, rfl, ?_⟩
  rintro ⟨hwrite, hread, -⟩
  have hs := valid_next (fun _ => hvalid) hwrite
  have hunwrapped := unwrapped_of_callExact hs hread
  exact absurd (show 8 + 4294967292 < 2 ^ 32 from hunwrapped) (by decide)

end S2opc.Buffer
