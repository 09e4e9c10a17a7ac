/-
Little-endian byte strings and byte-wise comparison.

`leBytes n v` is the `n` low bytes of `v`, least significant first, and
`leValue` the number a list of bytes spells; the two are inverse on `n` bytes.
A `Scalar` type is one whose values are such numbers.
`memcmp` and `strcmp` are the C library's comparisons, of which only the sign
is specified.
-/
import Mathlib

namespace S2opc.Lib.Bytes

open List

/-! ## Little-endian numbers -/

/-- The `n` low bytes of a number, least significant first. -/
def leBytes : Nat → Nat → List UInt8
  | 0, _ => []
  | n + 1, v => UInt8.ofNat (v % 256) :: leBytes n (v / 256)

/-- The number a list of bytes spells, least significant first. -/
def leValue : List UInt8 → Nat
  | [] => 0
  | b :: bs => b.toNat + 256 * leValue bs

@[simp] theorem length_leBytes (n v : Nat) : (leBytes n v).length = n := by
  induction n generalizing v with
  | zero => rfl
  | succ n ih => simp [leBytes, ih]

theorem leValue_leBytes (n v : Nat) : leValue (leBytes n v) = v % 256 ^ n := by
  induction n generalizing v with
  | zero => simp [leBytes, leValue, Nat.mod_one]
  | succ n ih =>
    have hbyte : (UInt8.ofNat (v % 256)).toNat = v % 256 := by
      rw [UInt8.toNat_ofNat']
      omega
    rw [leBytes, leValue, ih, hbyte, Nat.pow_succ, Nat.mul_comm (256 ^ n) 256, Nat.mod_mul]

theorem leValue_leBytes_of_lt {n v : Nat} (h : v < 256 ^ n) : leValue (leBytes n v) = v := by
  rw [leValue_leBytes, Nat.mod_eq_of_lt h]

/-! ## Scalars -/

/-- A type whose values are numbers of `width` bytes. -/
structure Scalar (α : Type) where
  width : Nat
  toNat : α → Nat
  ofNat : Nat → α
  toNat_lt : ∀ a, toNat a < 256 ^ width
  ofNat_toNat : ∀ a, ofNat (toNat a) = a

namespace Scalar

variable {α : Type} (s : Scalar α)

/-- The bytes of a value, least significant first. -/
def bytes (a : α) : List UInt8 := leBytes s.width (s.toNat a)

/-- The value some bytes spell. -/
def ofBytes (bs : List UInt8) : α := s.ofNat (leValue bs)

@[simp] theorem length_bytes (a : α) : (s.bytes a).length = s.width := length_leBytes _ _

@[simp] theorem ofBytes_bytes (a : α) : s.ofBytes (s.bytes a) = a := by
  rw [ofBytes, bytes, leValue_leBytes_of_lt (s.toNat_lt a), s.ofNat_toNat]

/-- The bytes of a tuple as it lies in memory. -/
def rawBytes : {n : Nat} → (Fin n → α) → List UInt8
  | 0, _ => []
  | _ + 1, f => s.bytes (f 0) ++ rawBytes fun i => f i.succ

/-- The tuple some bytes in memory spell. -/
def ofRaw : (n : Nat) → List UInt8 → Fin n → α
  | 0, _ => Fin.elim0
  | n + 1, bs => Fin.cases (s.ofBytes (bs.take s.width)) (ofRaw n (bs.drop s.width))

@[simp] theorem length_rawBytes {n : Nat} (f : Fin n → α) :
    (s.rawBytes f).length = n * s.width := by
  induction n with
  | zero => simp [rawBytes]
  | succ n ih =>
    rw [rawBytes, length_append, length_bytes, ih, Nat.succ_mul]
    omega

theorem ofRaw_rawBytes {n : Nat} (f : Fin n → α) : s.ofRaw n (s.rawBytes f) = f := by
  induction n with
  | zero => exact funext fun i => i.elim0
  | succ n ih =>
    have hhead : (s.rawBytes f).take s.width = s.bytes (f 0) := by
      rw [rawBytes, take_append_of_le_length (by simp), take_of_length_le (by simp)]
    have htail : (s.rawBytes f).drop s.width = s.rawBytes fun i => f i.succ := by
      rw [rawBytes, drop_append, drop_eq_nil_of_le (by simp)]
      simp
    rw [ofRaw, hhead, htail, ofBytes_bytes, ih]
    funext i
    cases i using Fin.cases with
    | zero => rfl
    | succ i => rfl

/-- A scalar carried over to a type that is a copy of its own. -/
def map {β : Type} (wrap : α → β) (unwrap : β → α) (h : ∀ b, wrap (unwrap b) = b) : Scalar β where
  width := s.width
  toNat b := s.toNat (unwrap b)
  ofNat n := wrap (s.ofNat n)
  toNat_lt b := s.toNat_lt (unwrap b)
  ofNat_toNat b := by rw [s.ofNat_toNat, h]

/-- Unsigned and signed machine integers. -/
def uint8 : Scalar UInt8 := ⟨1, UInt8.toNat, UInt8.ofNat, UInt8.toNat_lt, by simp⟩

@[inherit_doc uint8]
def uint16 : Scalar UInt16 := ⟨2, UInt16.toNat, UInt16.ofNat, UInt16.toNat_lt, by simp⟩

@[inherit_doc uint8]
def uint32 : Scalar UInt32 := ⟨4, UInt32.toNat, UInt32.ofNat, UInt32.toNat_lt, by simp⟩

@[inherit_doc uint8]
def uint64 : Scalar UInt64 := ⟨8, UInt64.toNat, UInt64.ofNat, UInt64.toNat_lt, by simp⟩

@[inherit_doc uint8]
def int8 : Scalar Int8 where
  width := 1
  toNat v := v.toUInt8.toNat
  ofNat n := (UInt8.ofNat n).toInt8
  toNat_lt v := v.toUInt8.toNat_lt
  ofNat_toNat v := by simp

@[inherit_doc uint8]
def int16 : Scalar Int16 where
  width := 2
  toNat v := v.toUInt16.toNat
  ofNat n := (UInt16.ofNat n).toInt16
  toNat_lt v := v.toUInt16.toNat_lt
  ofNat_toNat v := by simp

@[inherit_doc uint8]
def int32 : Scalar Int32 where
  width := 4
  toNat v := v.toUInt32.toNat
  ofNat n := (UInt32.ofNat n).toInt32
  toNat_lt v := v.toUInt32.toNat_lt
  ofNat_toNat v := by simp

@[inherit_doc uint8]
def int64 : Scalar Int64 where
  width := 8
  toNat v := v.toUInt64.toNat
  ofNat n := (UInt64.ofNat n).toInt64
  toNat_lt v := v.toUInt64.toNat_lt
  ofNat_toNat v := by simp

end Scalar

/-! ## Flags of a mask -/

/-- A flag set under a condition. -/
def flag (p : Prop) [Decidable p] (bit : UInt8) : UInt8 := if p then bit else 0

theorem or_and_ne_zero (a b c : UInt8) : (a ||| b) &&& c ≠ 0 ↔ a &&& c ≠ 0 ∨ b &&& c ≠ 0 := by
  have hdist : (a ||| b) &&& c = (a &&& c) ||| (b &&& c) := by
    apply UInt8.toBitVec_inj.1
    simp only [UInt8.toBitVec_and, UInt8.toBitVec_or]
    ext i hi
    simp only [BitVec.getElem_and, BitVec.getElem_or]
    exact Bool.and_or_distrib_right ..
  rw [hdist, ne_eq, UInt8.or_eq_zero_iff, not_and_or]

theorem flag_and_ne_zero (p : Prop) [Decidable p] (bit c : UInt8) :
    flag p bit &&& c ≠ 0 ↔ p ∧ bit &&& c ≠ 0 := by
  unfold flag
  by_cases hp : p <;> simp [hp]

/-- The bytes with one bit set. -/
abbrev singleBits : List UInt8 := [0x01, 0x02, 0x04, 0x08, 0x10, 0x20, 0x40, 0x80]

/-- Different bits of a mask do not meet. -/
theorem singleBits_and_eq_zero {a b : UInt8} (ha : a ∈ singleBits) (hb : b ∈ singleBits) :
    a &&& b = 0 ↔ a ≠ b := by
  have hall : (singleBits.all fun a => singleBits.all fun b => decide (a &&& b = 0 ↔ a ≠ b)) = true := by
    decide
  exact of_decide_eq_true (all_eq_true.1 (all_eq_true.1 hall a ha) b hb)

/-! ## Comparisons of the C library -/

/-- The sign of `memcmp` on two byte strings of the same length. -/
def memcmp (left right : List UInt8) : Ordering := compare left right

/-- The bytes of a zero-terminated string before its terminator. -/
def cString (bytes : List UInt8) : List UInt8 := bytes.takeWhile (· ≠ 0)

/-- The sign of `strcmp` on two zero-terminated strings. -/
def strcmp (left right : List UInt8) : Ordering := compare (cString left) (cString right)

variable {left right : List UInt8}

theorem memcmp_eq_iff : memcmp left right = .eq ↔ left = right := by
  rw [memcmp]
  exact Std.LawfulEqCmp.compare_eq_iff_eq

theorem strcmp_eq_iff :
    strcmp left right = .eq ↔ cString left = cString right := by
  rw [strcmp]
  exact Std.LawfulEqCmp.compare_eq_iff_eq

theorem cString_cons {b : UInt8} (hb : b ≠ 0) (bytes : List UInt8) :
    cString (b :: bytes) = b :: cString bytes := by
  simp [cString, hb]

@[simp] theorem cString_cons_zero (bytes : List UInt8) : cString (0 :: bytes) = [] := by
  simp [cString]

/-- A zero among the bytes hides what follows it. -/
theorem cString_append_of_mem {pre : List UInt8} (h : 0 ∈ pre) (rest : List UInt8) :
    cString (pre ++ rest) = cString pre := by
  induction pre with
  | nil => simp at h
  | cons b pre ih =>
    by_cases hb : b = 0
    · subst hb
      simp
    · have hmem : 0 ∈ pre := by simpa [Ne.symm hb] using h
      rw [cons_append, cString_cons hb, cString_cons hb, ih hmem]

/-- Strings of one length are equal as soon as their terminated forms are, when no zero
    stands before the last byte of the first. -/
theorem eq_of_cString_eq (hlen : left.length = right.length) (hzero : ∀ b ∈ left.dropLast, b ≠ 0)
    (h : cString (left ++ [0]) = cString (right ++ [0])) : left = right := by
  induction left generalizing right with
  | nil =>
    symm
    simpa using hlen.symm
  | cons a as ih =>
    rcases right with _ | ⟨b, bs⟩
    · simp at hlen
    have hlen' : as.length = bs.length := by simpa using hlen
    rcases as with _ | ⟨a', as'⟩
    · -- The last byte: equal, or both zero
      have hbs : bs = [] := eq_nil_of_length_eq_zero (by simpa using hlen'.symm)
      subst hbs
      by_cases ha : a = 0 <;> by_cases hb : b = 0 <;> simp_all [cString]
    have ha : a ≠ 0 := hzero a (by simp)
    have hzero' : ∀ c ∈ (a' :: as').dropLast, c ≠ 0 := fun c hc =>
      hzero c (by simp [hc])
    rw [cons_append, cString_cons ha] at h
    by_cases hb : b = 0
    · subst hb
      simp at h
    rw [show b :: bs ++ [0] = b :: (bs ++ [0]) from rfl, cString_cons hb, List.cons.injEq] at h
    rw [h.1, ih hlen' hzero' h.2]

end S2opc.Lib.Bytes
