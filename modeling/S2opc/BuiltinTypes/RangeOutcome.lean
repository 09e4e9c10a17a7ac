/-
The numbers of an index range.

The functions on ranges count in `uint32_t` and in `int32_t`.  For the ranges and
the dimensions they accept the counts are those of the integers, and the
intervals of a matrix are computed without an overflow.
-/
import S2opc.BuiltinTypes.RangeMatrix

namespace S2opc.BuiltinTypes

open Lib.RowMajor Lib.Tuple List UInt32 Int32

variable {length : Int32} {dim : Dimension}

theorem isArrayValidRange_iff {fullRange : Bool} :
    isArrayValidRange length dim fullRange = true ↔
      0 < length.toInt ∧ dim.start.toNat < length.toInt.toNat ∧
        (fullRange = true → dim.endIndex.toNat < length.toInt.toNat) := by
  unfold isArrayValidRange
  by_cases hlength : length ≤ 0
  · have hneg : length.toInt ≤ 0 := le_iff_toInt_le.1 hlength
    rw [if_pos hlength]
    exact ⟨nofun, fun h => absurd h.1 (by omega)⟩
  have hpos : 0 < length.toInt := by
    rw [le_iff_toInt_le, show (0 : Int32).toInt = 0 from rfl] at hlength
    omega
  rw [if_neg hlength]
  simp only [Bool.and_eq_true, decide_eq_true_eq, Bool.or_eq_true, Bool.not_eq_true',
    lt_iff_toNat_lt, toNat_toUInt32 (Int.le_of_lt hpos), hpos, true_and]
  cases fullRange <;> simp

/-- The number of indexes from a first one to a last one that is not the largest number. -/
theorem toNat_count (start last : UInt32) (hle : start.toNat ≤ last.toNat)
    (hlast : last.toNat < 2147483647) : (last - start + 1).toNat = last.toNat - start.toNat + 1 := by
  have hsub : (last - start).toNat = last.toNat - start.toNat :=
    UInt32.toNat_sub_of_le _ _ (le_iff_toNat_le.2 hle)
  rw [UInt32.toNat_add, hsub, Nat.mod_eq_of_lt (by simp; omega)]
  rfl

/-! ## Reading a range -/

variable {ds : List Int32} {range : NumericRange}

namespace Truncated

variable {ds : List Int32} {range truncated : NumericRange}

section

variable (h : Truncated ds range truncated)
include h

end

end Truncated

variable {truncated : NumericRange}

end S2opc.BuiltinTypes
