/-
Lengths of the two values of `SOPC_Variant_SetRange`.

The lengths and dimensions that the function accepts say how many elements there
are: as many in the source as the range counts, and all of those of the range in
the destination.
-/
import S2opc.BuiltinTypes.SetOutcome

namespace S2opc.BuiltinTypes

open Lib.RowMajor Lib.Tuple List

/-! ## Lengths that fit -/

variable {length : Int32} {dim : Dimension}

/-- A range that is in an array has as many elements as it counts. -/
theorem valid_count (h : isArrayValidRange length dim true = true) :
    dim.eltsInRange.toNat = dim.endIndex.toNat - dim.start.toNat + 1 ∧
      dim.start.toNat + dim.eltsInRange.toNat ≤ length.toInt.toNat ∧
      dim.eltsInRange.toNat ≤ 2147483647 := by
  obtain ⟨hpos, hstart, hend⟩ := isArrayValidRange_iff.1 h
  have hlast := hend rfl
  have hlt := length.toInt_lt
  have hle := UInt32.le_iff_toNat_le.1 dim.start_le
  have hcount := toNat_count dim.start dim.endIndex hle (by omega)
  change dim.eltsInRange.toNat = _ at hcount
  exact ⟨hcount, by omega, by omega⟩

theorem toInt_of_toUInt32_eq {n : UInt32} (h : length.toUInt32 = n) (hn : n.toNat ≤ 2147483647) :
    length.toInt = n.toNat := by
  rw [← toInt_toInt32 hn, ← h, Int32.toInt32_toUInt32]

variable {range : NumericRange} {ss : List Int32}

end S2opc.BuiltinTypes
