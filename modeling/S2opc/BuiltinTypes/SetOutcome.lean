/-
How the writing of an index range ends.

The loops of `SOPC_Variant_SetRange` go through distinct elements of the
destination, so that each assignment finds its element as it was before the
call: a loop makes all of them or stops at the first that does not end well.
`SetSafe` says, in terms of the arguments, when the function ends with a status.
-/
import S2opc.BuiltinTypes.RangeOutcome
import S2opc.BuiltinTypes.SetRange

namespace S2opc.BuiltinTypes

open Lib.RowMajor Lib.Tuple List Nat

/-! ## Loops of assignments -/

section
variable {α β : Type} {n : Nat} (op : α → β → α × Except Failure Unit)

variable (place : Nat → Nat) (source : Nat → Option β) (content : Fin n → α)

variable {count : Nat}

end

/-! ## The elements of a box are distinct -/

variable {q q' : Nat}

variable {ds : List Int32} {range : NumericRange}

variable {id : BuiltinId} {length d : Int32} {dims : Fin d.toInt.toNat → Int32}

section
variable {Obj : Type}

/-- A source of this length fits what is read as the length of the destination. -/
def Fits (dst : Variant Obj) (srcLength : Int32) (dim : Dimension) : Prop :=
  srcLength.toUInt32 = dim.eltsInRange ∧
    ∀ length, dst.lengthField = some length → isArrayValidRange length dim true = true

end

/-! ## The loops of the three kinds of destination -/

variable {count : Nat} {srcLength : Int32}

section
variable {Obj : Type} (copyObj : Obj → Except Status Obj)

variable {dst : VariantCell Obj} {content : Fin length.toInt.toNat → Builtin Obj id}

section
variable {id : BuiltinId} {n : Nat} (place : Nat → Nat) {content : Fin n → Builtin Obj id}
  {source : Nat → Option (Builtin Obj id)}

section

variable (source : Nat → Option (Builtin Obj id))

end

variable {r : (Fin n → Builtin Obj id) × Except Failure Unit}

end

variable {srcId : BuiltinId}

variable {v : Builtin Obj id}

/-- The source of a row has the length of the columns, which are in the row of the destination. -/
def StringFits (d s : SopcString) (columns : Dimension) : Prop :=
  s.length.toUInt32 = columns.eltsInRange ∧ isArrayValidRange d.length columns true = true

section
variable {id : BuiltinId} {n m : Nat} {content : Fin n → Builtin Obj id}
  {srcContent : Fin m → Builtin Obj id} {rows columns : Dimension}

end

variable {truncated : NumericRange} {franges : List FlattenedRange}

variable {srcD : Int32} {srcDims : Fin srcD.toInt.toNat → Int32}

end

end S2opc.BuiltinTypes
