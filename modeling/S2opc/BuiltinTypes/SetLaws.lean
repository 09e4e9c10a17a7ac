/-
The laws of a write to an index range.

When `SOPC_Variant_SetRange` returns `SOPC_STATUS_OK`, the source has the extents
of the range, reading the range of the destination gives the source, and what
is outside of the range is unchanged (`WriteLaw`).  `WriteLawful` says for which
arguments this holds: a source with more strings than there are rows, or more
dimensions than the range, is accepted although only a part of it is written.
-/
import S2opc.BuiltinTypes.SetFailure

namespace S2opc.BuiltinTypes

open Lib.RowMajor Lib.Tuple List Option UInt32 Int32

variable {Obj : Type} (copyObj : Obj → Except Status Obj)

/-- The number of indexes of a dimension. -/
def Dimension.size (dim : Dimension) : Nat := dim.endIndex.toNat - dim.start.toNat + 1

theorem Dimension.size_eq (dim : Dimension) :
    dim.size = dim.endIndex.toNat - dim.start.toNat + 1 := rfl

/-! ## Strings -/

/-- The characters outside of a dimension are unchanged. -/
def SameOutside (s s' : SopcString) (dim : Dimension) : Prop :=
  s'.length = s.length ∧
    ∀ i, i < dim.start.toNat ∨ dim.endIndex.toNat < i → s'.data[i]? = s.data[i]?

variable {d s : SopcString} {columns : Dimension}

/-- The lengths of a string that fits. -/
theorem StringFits.lengths (h : StringFits d s columns) :
    s.length.toInt = columns.size ∧ s.data.length = columns.size ∧
      columns.start.toNat + columns.size ≤ d.data.length := by
  obtain ⟨hcount, hle, hmax⟩ := valid_count h.2
  have hint := toInt_of_toUInt32_eq h.1 hmax
  have hs := s.wf
  have hd := d.wf
  have hsize := columns.size_eq
  exact ⟨by omega, by omega, by omega⟩

variable {id : BuiltinId} {v : Builtin Obj id}

/-- The indexes of an element are in the dimensions of a range. -/
def InRange (ks : List Nat) (range : NumericRange) : Prop :=
  List.Forall₂ (fun k dim => dim.start.toNat ≤ k ∧ k ≤ dim.endIndex.toNat) ks range

/-- The extents of a value, those of its strings included if the range goes into them, are those
    of the range. -/
def HasExtents (src : Variant Obj) (range : NumericRange) : Prop :=
  match range, src with
  | [dim], .single v => ∃ s, stringOf v = some s ∧ s.length.toInt = dim.size
  | [dim], .array _ length _ => length.toInt = dim.size
  | [rows, columns], .array _ length content => length.toInt = rows.size ∧
      ∀ i, ∃ s, stringOf (content i) = some s ∧ s.length.toInt = columns.size
  | range, .matrix _ _ dims _ =>
    (List.ofFn dims).map Int32.toInt = range.map fun dim => (dim.size : Int)
  | _, _ => False

/-- The elements, or the characters, outside of a range are unchanged. -/
inductive UnchangedOutside : NumericRange → Variant Obj → Variant Obj → Prop
  | string {dim : Dimension} {id : BuiltinId} {v v' : Builtin Obj id} {s s' : SopcString}
      (hv : stringOf v = some s) (hv' : stringOf v' = some s') (h : SameOutside s s' dim) :
      UnchangedOutside [dim] (.single v) (.single v')
  | array {dim : Dimension} {id : BuiltinId} {length : Int32}
      {content content' : Fin length.toInt.toNat → Builtin Obj id}
      (h : ∀ i, i.val < dim.start.toNat ∨ dim.endIndex.toNat < i.val → content' i = content i) :
      UnchangedOutside [dim] (.array id length content) (.array id length content')
  | strings {rows columns : Dimension} {id : BuiltinId} {length : Int32}
      {content content' : Fin length.toInt.toNat → Builtin Obj id}
      (hout : ∀ i, i.val < rows.start.toNat ∨ rows.endIndex.toNat < i.val → content' i = content i)
      (hin : ∀ i, rows.start.toNat ≤ i.val → i.val ≤ rows.endIndex.toNat →
        ∃ s s', stringOf (content i) = some s ∧ stringOf (content' i) = some s' ∧
          SameOutside s s' columns) :
      UnchangedOutside [rows, columns] (.array id length content) (.array id length content')
  | matrix {range : NumericRange} {id : BuiltinId} {d : Int32} {dims : Fin d.toInt.toNat → Int32}
      {content content' : Fin (matrixLength d dims) → Builtin Obj id}
      (h : ∀ ks, InBox ks (extentsOf (List.ofFn dims)) → ¬InRange ks range →
        elementAt content' (rowMajor (extentsOf (List.ofFn dims)) ks) =
          elementAt content (rowMajor (extentsOf (List.ofFn dims)) ks)) :
      UnchangedOutside range (.matrix id d dims content) (.matrix id d dims content')

/-- What a write that ends well has done. -/
structure Lawful (src : Variant Obj) (range : NumericRange) (before after : Variant Obj) : Prop where
  extents : HasExtents src range
  read : variantGetRange copyObj after range = .ok (.variant src)
  unchanged : UnchangedOutside range before after

section
variable {id : BuiltinId} {n : Nat} (doNotClear : Bool) (place : Nat → Nat) (count : Nat)
  (content : Fin n → Builtin Obj id) (source : Nat → Option (Builtin Obj id))

variable {doNotClear place count content source}

variable {r : (Fin n → Builtin Obj id) × Except Failure Unit}

end

/-! ## Arrays -/

variable {length : Int32} {dim : Dimension}

variable (content : Fin length.toInt.toNat → Builtin Obj id)

variable {srcLength : Int32}

variable (dst : VariantCell Obj)

variable {content : Fin length.toInt.toNat → Builtin Obj id}

variable {ks : List Nat}

namespace Truncated

variable {ds : List Int32} {range truncated : NumericRange}

end Truncated

variable {range : NumericRange}

variable {d : Int32} {dims : Fin d.toInt.toNat → Int32}
  {content : Fin (matrixLength d dims) → Builtin Obj id}

section
variable {id : BuiltinId} {d srcD : Int32} {dims : Fin d.toInt.toNat → Int32}
  {srcDims : Fin srcD.toInt.toNat → Int32} {range : NumericRange}

end

variable {srcD : Int32} {srcDims : Fin srcD.toInt.toNat → Int32}
  {srcContent : Fin (matrixLength srcD srcDims) → Builtin Obj id}

variable {first second : Dimension} {rest : NumericRange}

variable {dst dst' : VariantCell Obj}

variable {src : Variant Obj}

end S2opc.BuiltinTypes
