/-
What a write of an index range that fails leaves of its destination.

`SOPC_Variant_SetRange` modifies the destination in place.  When it ends with
another status than `SOPC_STATUS_OK` after an assignment, the elements assigned
so far stay assigned, the element whose copy failed stays cleared, and a
destination that was not to be cleared has become a copy of itself.
`FailureKeeps` says when all of that is what was there before.
-/
import S2opc.BuiltinTypes.RangeSafety

namespace S2opc.BuiltinTypes

open Lib.RowMajor Lib.Tuple List

variable {Obj : Type} (copyObj : Obj → Except Status Obj)

/-- A matrix has no more elements than an Int32 counts. -/
def Variant.Counted : Variant Obj → Prop
  | .matrix _ dimensions arrayDimensions _ => matrixLength dimensions arrayDimensions ≤ 2147483647
  | _ => True

variable {id : BuiltinId}

section
variable {id : BuiltinId} {n : Nat} (doNotClear : Bool) (place : Nat → Nat) (count : Nat)
  (content : Fin n → Builtin Obj id) (source : Nat → Option (Builtin Obj id))

variable {doNotClear place count content source}

end

/-! ## Rows of strings -/

variable {n : Nat} {content : Fin n → Builtin Obj id}

variable {dst : VariantCell Obj} {s : Status}

variable {srcId : BuiltinId} {srcLength : Int32}

variable {d : Int32} {dims : Fin d.toInt.toNat → Int32} {srcD : Int32}
  {srcDims : Fin srcD.toInt.toNat → Int32}

end S2opc.BuiltinTypes
