/-
Variants and data values (`sopc_builtintypes.h`).

`FlatValue Obj id` holds a value of the built-in type `id` when it contains no
variant, `Builtin Obj id` any value of that type, `Obj` being the type of the
decoded objects of extension objects.  The type index makes an array or a
matrix homogeneous, and its content is indexed by its own length, so that
neither a wrong element type nor a wrong number of elements can be built.  The
content pointer of an array without elements is NULL.
-/
import S2opc.BuiltinTypes.Basic
import S2opc.Lib.Bytes
import S2opc.Lib.Tuple

namespace S2opc.BuiltinTypes

open Lib.Bytes

open scoped Lib.Tuple

/-! ## The built-in types -/

/-- `SOPC_BuiltinId`. -/
inductive BuiltinId where
  | null
  | boolean
  | sByte
  | byte
  | int16
  | uint16
  | int32
  | uint32
  | int64
  | uint64
  | float
  | double
  | string
  | dateTime
  | guid
  | byteString
  | xmlElement
  | nodeId
  | expandedNodeId
  | statusCode
  | qualifiedName
  | localizedText
  | extensionObject
  | dataValue
  | variant
  | diagnosticInfo
  deriving DecidableEq, Repr

namespace BuiltinId

/-- The built-in types in the order of their numbers. -/
def all : List BuiltinId :=
  [null, boolean, sByte, byte, int16, uint16, int32, uint32, int64, uint64, float, double, string,
    dateTime, guid, byteString, xmlElement, nodeId, expandedNodeId, statusCode, qualifiedName,
    localizedText, extensionObject, dataValue, variant, diagnosticInfo]

/-- The number of a built-in type. -/
def code (id : BuiltinId) : UInt8 := UInt8.ofNat (all.idxOf id)

/-- The built-in type of a number, up to `SOPC_BUILTINID_MAX`. -/
def ofCode (code : UInt8) : Option BuiltinId := all[code.toNat]?

theorem ofCode_code (id : BuiltinId) : ofCode id.code = some id := by
  cases id <;> decide

end BuiltinId

/-- A value of a built-in type that contains no variant.  A boolean is a byte, and floating
    point values are their bit patterns. -/
inductive FlatValue (Obj : Type) : BuiltinId → Type where
  | boolean (v : UInt8) : FlatValue Obj .boolean
  | sByte (v : Int8) : FlatValue Obj .sByte
  | byte (v : UInt8) : FlatValue Obj .byte
  | int16 (v : Int16) : FlatValue Obj .int16
  | uint16 (v : UInt16) : FlatValue Obj .uint16
  | int32 (v : Int32) : FlatValue Obj .int32
  | uint32 (v : UInt32) : FlatValue Obj .uint32
  | int64 (v : Int64) : FlatValue Obj .int64
  | uint64 (v : UInt64) : FlatValue Obj .uint64
  | float (v : UInt32) : FlatValue Obj .float
  | double (v : UInt64) : FlatValue Obj .double
  | string (v : SopcString) : FlatValue Obj .string
  | dateTime (v : Int64) : FlatValue Obj .dateTime
  | guid (v : Guid) : FlatValue Obj .guid
  | byteString (v : SopcString) : FlatValue Obj .byteString
  | xmlElement (v : SopcString) : FlatValue Obj .xmlElement
  | nodeId (v : NodeId) : FlatValue Obj .nodeId
  | expandedNodeId (v : ExpandedNodeId) : FlatValue Obj .expandedNodeId
  | statusCode (v : UInt32) : FlatValue Obj .statusCode
  | qualifiedName (v : QualifiedName) : FlatValue Obj .qualifiedName
  | localizedText (v : LocalizedText) : FlatValue Obj .localizedText
  | extensionObject (v : ExtensionObject Obj) : FlatValue Obj .extensionObject
  | diagnosticInfo (v : DiagnosticInfo) : FlatValue Obj .diagnosticInfo

/-! ## Matrices -/

/-- The product of the dimensions, those that are negative counting as zero. -/
def dimensionsProduct : (n : Nat) → (Fin n → Int32) → Nat
  | 0, _ => 1
  | n + 1, dims => (dims 0).toInt.toNat * dimensionsProduct n fun i => dims i.succ

/-- The number of elements of a matrix: none without dimensions, and the product of the
    dimensions otherwise, which is 1 if `Dimensions` is negative. -/
def matrixLength (dimensions : Int32) (arrayDimensions : Fin dimensions.toInt.toNat → Int32) : Nat :=
  if dimensions = 0 then 0 else dimensionsProduct _ arrayDimensions

/-- The loop that multiplies the dimensions, which gives up on a dimension that is not
    positive and on a product beyond `INT32_MAX`. -/
def matrixLengthLoop : (n : Nat) → (Fin n → Int32) → Nat → Option Nat
  | 0, _, length => some length
  | n + 1, dims, length =>
    if 0 < dims 0 ∧ length * (dims 0).toInt.toNat ≤ 2147483647 then
      matrixLengthLoop n (fun i => dims i.succ) (length * (dims 0).toInt.toNat)
    else none

/-- The number of elements of a matrix as the functions on variants compute it. -/
def checkedMatrixLength (dimensions : Int32) (arrayDimensions : Fin dimensions.toInt.toNat → Int32) :
    Option Nat :=
  matrixLengthLoop _ arrayDimensions (if dimensions = 0 then 0 else 1)

variable {n : Nat} {dims : Fin n → Int32} {length m : Nat}

theorem matrixLengthLoop_eq_some (h : matrixLengthLoop n dims length = some m) :
    m = length * dimensionsProduct n dims := by
  induction n generalizing length with
  | zero =>
    simp only [matrixLengthLoop, Option.some.injEq] at h
    simp [dimensionsProduct, h]
  | succ n ih =>
    simp only [matrixLengthLoop] at h
    split_ifs at h
    rw [ih h, dimensionsProduct, Nat.mul_assoc]

theorem matrixLengthLoop_le (hlength : length ≤ 2147483647)
    (h : matrixLengthLoop n dims length = some m) :
    m ≤ 2147483647 := by
  induction n generalizing length with
  | zero =>
    simp only [matrixLengthLoop, Option.some.injEq] at h
    omega
  | succ n ih =>
    simp only [matrixLengthLoop] at h
    split_ifs at h with hc
    exact ih hc.2 h

/-- The product never shrinks along the loop. -/
theorem le_of_matrixLengthLoop (h : matrixLengthLoop n dims length = some m) : length ≤ m := by
  induction n generalizing length with
  | zero =>
    simp only [matrixLengthLoop, Option.some.injEq] at h
    omega
  | succ n ih =>
    simp only [matrixLengthLoop] at h
    split_ifs at h with hc
    have hpos : 0 < (dims 0).toInt := Int32.lt_iff_toInt_lt.1 hc.1
    have hmul : length * 1 ≤ length * (dims 0).toInt.toNat := Nat.mul_le_mul_left length (by omega)
    have hrest := ih h
    omega

theorem checkedMatrixLength_eq_some {d : Int32} {dims : Fin d.toInt.toNat → Int32}
    (h : checkedMatrixLength d dims = some m) : m = matrixLength d dims ∧ m ≤ 2147483647 := by
  refine ⟨?_, matrixLengthLoop_le (by split_ifs <;> omega) h⟩
  rw [matrixLengthLoop_eq_some h, matrixLength]
  split_ifs
  · exact Nat.zero_mul _
  · exact Nat.one_mul _

/-! ## Variants and data values -/

mutual

/-- A value of a built-in type. -/
inductive Builtin (Obj : Type) : BuiltinId → Type where
  | flat {id : BuiltinId} (v : FlatValue Obj id) : Builtin Obj id
  | dataValue (v : DataValue Obj) : Builtin Obj .dataValue
  | variant (v : Variant Obj) : Builtin Obj .variant

/-- `SOPC_Variant`: without a value, or with a single one, an array or a matrix of values of
    one built-in type. -/
inductive Variant (Obj : Type) : Type where
  | null
  | single {id : BuiltinId} (v : Builtin Obj id)
  | array (id : BuiltinId) (length : Int32) (content : Fin length.toInt.toNat → Builtin Obj id)
  | matrix (id : BuiltinId) (dimensions : Int32)
      (arrayDimensions : Fin dimensions.toInt.toNat → Int32)
      (content : Fin (matrixLength dimensions arrayDimensions) → Builtin Obj id)

/-- `SOPC_DataValue`. -/
inductive DataValue (Obj : Type) : Type where
  | mk (value : Variant Obj) (status : UInt32) (sourceTimestamp serverTimestamp : Int64)
      (sourcePicoSeconds serverPicoSeconds : UInt16)

end

variable {Obj : Type}

/-- The content of an array with its length. -/
@[ext]
structure ArrayValue (Obj : Type) (id : BuiltinId) where
  length : Int32
  content : Fin length.toInt.toNat → Builtin Obj id

/-- The built-in type of a variant. -/
def Variant.builtInTypeId : Variant Obj → BuiltinId
  | .null => .null
  | @Variant.single _ id _ => id
  | .array id _ _ => id
  | .matrix id _ _ _ => id

/-- `SOPC_VariantArrayType`. -/
inductive VariantArrayType where
  | singleValue
  | array
  | matrix
  deriving DecidableEq, Repr

/-- The array type of a variant. -/
def Variant.arrayType : Variant Obj → VariantArrayType
  | .null => .singleValue
  | .single _ => .singleValue
  | .array _ _ _ => .array
  | .matrix _ _ _ _ => .matrix

/-! ## Lengths -/

/-- An array length with the negative ones taken as 0. -/
def clampLength (length : Int32) : Int32 := if length < 0 then 0 else length

theorem toNat_clampLength (length : Int32) :
    (clampLength length).toInt.toNat = length.toInt.toNat := by
  unfold clampLength
  split_ifs with h
  · have hneg : length.toInt < 0 := Int32.lt_iff_toInt_lt.1 h
    rw [show (0 : Int32).toInt = 0 from rfl]
    omega
  · rfl

theorem clampLength_clampLength (length : Int32) :
    clampLength (clampLength length) = clampLength length := by
  unfold clampLength
  split_ifs with h h' <;> rfl

theorem toNat_ofNat (h : n ≤ 2147483647) : (Int32.ofNat n).toInt.toNat = n := by
  rw [Int32.toInt_ofNat_of_lt (by omega)]
  omega

theorem clampLength_ofNat (h : n ≤ 2147483647) :
    clampLength (Int32.ofNat n) = Int32.ofNat n := by
  unfold clampLength
  rw [if_neg]
  rw [Int32.lt_iff_toInt_lt, Int32.toInt_ofNat_of_lt (by omega), show (0 : Int32).toInt = 0 from rfl]
  omega

/-! ## Initial values -/

/-- The Initialize function of a built-in type. -/
def initialBuiltin (Obj : Type) : (id : BuiltinId) → id ≠ .null → Builtin Obj id
  | .null, h => absurd rfl h
  | .boolean, _ => .flat (.boolean 0)
  | .sByte, _ => .flat (.sByte 0)
  | .byte, _ => .flat (.byte 0)
  | .int16, _ => .flat (.int16 0)
  | .uint16, _ => .flat (.uint16 0)
  | .int32, _ => .flat (.int32 0)
  | .uint32, _ => .flat (.uint32 0)
  | .int64, _ => .flat (.int64 0)
  | .uint64, _ => .flat (.uint64 0)
  | .float, _ => .flat (.float 0)
  | .double, _ => .flat (.double 0)
  | .string, _ => .flat (.string .null)
  | .dateTime, _ => .flat (.dateTime 0)
  | .guid, _ => .flat (.guid ⟨0, 0, 0, Vector.replicate 8 0⟩)
  | .byteString, _ => .flat (.byteString .null)
  | .xmlElement, _ => .flat (.xmlElement .null)
  | .nodeId, _ => .flat (.nodeId ⟨0, .numeric 0⟩)
  | .expandedNodeId, _ => .flat (.expandedNodeId ⟨⟨0, .numeric 0⟩, .null, 0⟩)
  | .statusCode, _ => .flat (.statusCode 0)
  | .qualifiedName, _ => .flat (.qualifiedName ⟨0, .null⟩)
  | .localizedText, _ => .flat (.localizedText ⟨.null, .null, []⟩)
  | .extensionObject, _ => .flat (.extensionObject ⟨⟨⟨0, .numeric 0⟩, .null, 0⟩, .none⟩)
  | .dataValue, _ => .dataValue (.mk .null 0 0 0 0 0)
  | .variant, _ => .variant .null
  | .diagnosticInfo, _ => .flat (.diagnosticInfo (.leaf ⟨-1, -1, -1, -1, .null, 0⟩))

end S2opc.BuiltinTypes
