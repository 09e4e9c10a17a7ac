/-
Variants and data values in `sopc_encoder.c`.

A variant may hold data values and arrays of variants, a data value a variant:
the functions call each other, one nesting level further each time.  They are
defined by recursion on the levels left, which is what bounds the nesting in
the source as well.
-/
import S2opc.BuiltinTypes.Variant
import S2opc.Encoder.Structured

namespace S2opc.Encoder

open BuiltinTypes Lib.Bytes Lib.ByteCodec

variable {Obj : Type} (cst : EncodingConstants) (objs : ObjectCodec Obj)

/-! ## Values without a variant -/

variable (room : Nat)

variable {id : BuiltinId}

/-- The Write function of a built-in type, in `SOPC_BuiltInType_EncodingTable`. -/
def flatWrite : FlatValue Obj id → Writer
  | .boolean v => booleanWrite room v
  | .sByte v => scalarWrite .int8 room v
  | .byte v => byteWrite room v
  | .int16 v => scalarWrite .int16 room v
  | .uint16 v => uint16Write room v
  | .int32 v => int32Write room v
  | .uint32 v => uint32Write room v
  | .int64 v => int64Write room v
  | .uint64 v => scalarWrite .uint64 room v
  | .float v => floatWrite room v
  | .double v => doubleWrite room v
  | .string v => stringWrite room v
  | .dateTime v => dateTimeWrite room v
  | .guid v => guidWrite room v
  | .byteString v => byteStringWrite room v
  | .xmlElement v => byteStringWrite room v
  | .nodeId v => nodeIdWrite room v
  | .expandedNodeId v => expandedNodeIdWrite room v
  | .statusCode v => uint32Write room v
  | .qualifiedName v => qualifiedNameWrite room v
  | .localizedText v => localizedTextWrite room v
  | .extensionObject v => extensionObjectWrite objs room v
  | .diagnosticInfo v => diagnosticInfoWrite cst room v

variable (variantW : Variant Obj → Writer)

/-- The Write function of an element, given those of variants and data values. -/
def elementWrite (dataValueW : DataValue Obj → Writer)
    {id : BuiltinId} : Builtin Obj id → Writer
  | .flat v => flatWrite cst objs room v
  | .dataValue v => dataValueW v
  | .variant v => variantW v

/-- The Read function of an element, given those of variants and data values. -/
def elementRead (variantR : Reader (Variant Obj)) (dataValueR : Reader (DataValue Obj)) :
    (id : BuiltinId) → Reader (Builtin Obj id)
  | .null => throw .nok
  | .boolean => booleanRead room >>= fun v => pure (.flat (.boolean v))
  | .sByte => scalarRead .int8 room >>= fun v => pure (.flat (.sByte v))
  | .byte => byteRead room >>= fun v => pure (.flat (.byte v))
  | .int16 => scalarRead .int16 room >>= fun v => pure (.flat (.int16 v))
  | .uint16 => uint16Read room >>= fun v => pure (.flat (.uint16 v))
  | .int32 => int32Read room >>= fun v => pure (.flat (.int32 v))
  | .uint32 => uint32Read room >>= fun v => pure (.flat (.uint32 v))
  | .int64 => int64Read room >>= fun v => pure (.flat (.int64 v))
  | .uint64 => scalarRead .uint64 room >>= fun v => pure (.flat (.uint64 v))
  | .float => floatRead room >>= fun v => pure (.flat (.float v))
  | .double => doubleRead room >>= fun v => pure (.flat (.double v))
  | .string => stringRead cst room >>= fun v => pure (.flat (.string v))
  | .dateTime => dateTimeRead room >>= fun v => pure (.flat (.dateTime v))
  | .guid => guidRead room >>= fun v => pure (.flat (.guid v))
  | .byteString => byteStringRead cst room >>= fun v => pure (.flat (.byteString v))
  | .xmlElement => byteStringRead cst room >>= fun v => pure (.flat (.xmlElement v))
  | .nodeId => nodeIdRead cst room >>= fun v => pure (.flat (.nodeId v))
  | .expandedNodeId => expandedNodeIdRead cst room >>= fun v => pure (.flat (.expandedNodeId v))
  | .statusCode => uint32Read room >>= fun v => pure (.flat (.statusCode v))
  | .qualifiedName => qualifiedNameRead cst room >>= fun v => pure (.flat (.qualifiedName v))
  | .localizedText => localizedTextRead cst room >>= fun v => pure (.flat (.localizedText v))
  | .extensionObject =>
    extensionObjectRead cst objs room >>= fun v => pure (.flat (.extensionObject v))
  | .dataValue => dataValueR >>= fun v => pure (.dataValue v)
  | .variant => variantR >>= fun v => pure (.variant v)
  | .diagnosticInfo => diagnosticInfoRead cst room >>= fun v => pure (.flat (.diagnosticInfo v))

/-! ## Arrays -/

/-- `getBuiltinOptimizableSize`: the types whose arrays are copied as they lie in memory,
    with the width of an element. -/
def optimizableScalar : (id : BuiltinId) → Option (Scalar (Builtin Obj id))
  | .boolean => some (Scalar.uint8.map (fun v => .flat (.boolean v))
      (fun | .flat (.boolean v) => v) fun | .flat (.boolean _) => rfl)
  | .sByte => some (Scalar.int8.map (fun v => .flat (.sByte v))
      (fun | .flat (.sByte v) => v) fun | .flat (.sByte _) => rfl)
  | .byte => some (Scalar.uint8.map (fun v => .flat (.byte v))
      (fun | .flat (.byte v) => v) fun | .flat (.byte _) => rfl)
  | .int16 => some (Scalar.int16.map (fun v => .flat (.int16 v))
      (fun | .flat (.int16 v) => v) fun | .flat (.int16 _) => rfl)
  | .uint16 => some (Scalar.uint16.map (fun v => .flat (.uint16 v))
      (fun | .flat (.uint16 v) => v) fun | .flat (.uint16 _) => rfl)
  | .int32 => some (Scalar.int32.map (fun v => .flat (.int32 v))
      (fun | .flat (.int32 v) => v) fun | .flat (.int32 _) => rfl)
  | .uint32 => some (Scalar.uint32.map (fun v => .flat (.uint32 v))
      (fun | .flat (.uint32 v) => v) fun | .flat (.uint32 _) => rfl)
  | .int64 => some (Scalar.int64.map (fun v => .flat (.int64 v))
      (fun | .flat (.int64 v) => v) fun | .flat (.int64 _) => rfl)
  | .uint64 => some (Scalar.uint64.map (fun v => .flat (.uint64 v))
      (fun | .flat (.uint64 v) => v) fun | .flat (.uint64 _) => rfl)
  | .float => some (Scalar.uint32.map (fun v => .flat (.float v))
      (fun | .flat (.float v) => v) fun | .flat (.float _) => rfl)
  | .double => some (Scalar.uint64.map (fun v => .flat (.double v))
      (fun | .flat (.double v) => v) fun | .flat (.double _) => rfl)
  | .dateTime => some (Scalar.int64.map (fun v => .flat (.dateTime v))
      (fun | .flat (.dateTime v) => v) fun | .flat (.dateTime _) => rfl)
  | .statusCode => some (Scalar.uint32.map (fun v => .flat (.statusCode v))
      (fun | .flat (.statusCode v) => v) fun | .flat (.statusCode _) => rfl)
  | _ => none

theorem optimizableScalar_width_pos {s : Scalar (Builtin Obj id)}
    (h : optimizableScalar id = some s) : 0 < s.width := by
  cases id <;> cases h <;> exact Nat.zero_lt_succ _

/-- `WriteVariantArrayBuiltInType` below its nesting test, with `SOPC_Write_Array`.  The byte
    count of a copied array is a 32-bit product. -/
def variantArrayWrite (elem : Builtin Obj id → Writer) (array : ArrayValue Obj id) :
    Writer :=
  if id = .null then throw .invalidParameters
  else
    match optimizableScalar id with
    | some s => do
        int32Write room array.length
        writeIf (0 < array.length) (bufferWrite ((s.rawBytes array.content).take
          (array.length.toInt.toNat * s.width % 2 ^ 32)))
    | none => do
        int32Write room array.length
        writeEach _ fun i => elem (array.content i)

/-- What `ReadVariantArrayBuiltInType` and `SOPC_Read_Array` read once the length is known:
    nothing for an array without elements. -/
def arrayContentRead (elem : Reader (Builtin Obj id)) (length : Int32) :
    Reader (ArrayValue Obj id) :=
  match optimizableScalar id with
  | some s =>
    if length.toInt.toNat ≤ (2 ^ 32 - 1) / s.width then
      mapError readStatus (bufferRead (length.toInt.toNat * s.width)) >>= fun bytes =>
        pure ⟨length, s.ofRaw _ bytes.val⟩
    else throw .outOfMemory
  | none => readEach length.toInt.toNat elem >>= fun content => pure ⟨length, content⟩

/-- `ReadVariantArrayBuiltInType` below its nesting test, with `SOPC_Read_Array`. -/
def variantArrayRead (elem : Reader (Builtin Obj id)) :
    Reader (ArrayValue Obj id) :=
  if id = .null then throw .invalidParameters
  else int32Read room >>= fun read =>
    if cst.maxArrayLength < clampLength read then throw .outOfMemory
    else arrayContentRead elem (clampLength read)

/-! ## Variants -/

/-- `GetVariantEncodingMask`. -/
def getVariantEncodingMask (variant : Variant Obj) : UInt8 :=
  match variant with
  | .array id _ _ => id.code ||| 0x80
  | .matrix id _ _ _ => id.code ||| 0x80 ||| 0x40
  | v => v.builtInTypeId.code

/-- The array a matrix is written as. -/
def matrixArray {d : Int32} {dims : Fin d.toInt.toNat → Int32} {m : Nat}
    (h : checkedMatrixLength d dims = some m) (content : Fin (matrixLength d dims) → Builtin Obj id) :
    ArrayValue Obj id :=
  ⟨Int32.ofNat m, fun i => content (i.cast (by
    obtain ⟨heq, hle⟩ := checkedMatrixLength_eq_some h
    rw [toNat_ofNat hle, heq]))⟩

/-- An array as it is written: the null array as an empty one. -/
def clampedArray (length : Int32) (content : Fin length.toInt.toNat → Builtin Obj id) :
    ArrayValue Obj id :=
  ⟨clampLength length, fun i => content (i.cast (toNat_clampLength length))⟩

/-- The value of a variant in `SOPC_Variant_Write_Internal`, given how a single value and an
    array are written.  The dimensions of a matrix are all written even after a failure;
    as a failed write leaves the buffer as it is, the ones after it fail alike. -/
def variantValueWrite (single : {id : BuiltinId} → Builtin Obj id → Writer)
    (array : {id : BuiltinId} → ArrayValue Obj id → Writer) : Variant Obj → Writer
  | .null => pure ()
  | @Variant.single _ id v => if id = .variant then throw .invalidParameters else single v
  | .array _ length content =>
    if length < -1 then throw .encodingError else array (clampedArray length content)
  | .matrix _ dimensions arrayDimensions content =>
    match h : checkedMatrixLength dimensions arrayDimensions with
    | none => throw .encodingError
    | some _ => do
        array (matrixArray h content)
        int32Write room dimensions
        writeEach _ fun i => int32Write room (arrayDimensions i)

/-- The loop on the dimensions in `SOPC_Variant_Read_Internal`. -/
def dimensionsRead (room : Nat) (arrayLength : Nat) : (n : Nat) → Nat → Reader (Fin n → Int32)
  | 0, _ => pure Fin.elim0
  | n + 1, length => int32Read room >>= fun dim =>
    if 0 < dim ∧ length * dim.toInt.toNat ≤ arrayLength then
      dimensionsRead room arrayLength n (length * dim.toInt.toNat) >>= fun dims =>
        pure (Fin.cons dim dims)
    else throw .encodingError

/-- The dimensions of a matrix in `SOPC_Variant_Read_Internal`, once its elements are read. -/
def matrixRead (array : ArrayValue Obj id) : Reader (Variant Obj) := do
  let dimensions ← int32Read room
  if dimensions < 0 ∨ cst.maxArrayLength < dimensions then throw .outOfMemory
  else do
    let arrayDimensions ← dimensionsRead room array.length.toInt.toNat dimensions.toInt.toNat
      (if dimensions = 0 then 0 else 1)
    if h : matrixLength dimensions arrayDimensions = array.length.toInt.toNat then
      pure (.matrix id dimensions arrayDimensions fun i => array.content (i.cast h))
    else throw .encodingError

/-- The value of a variant in `SOPC_Variant_Read_Internal`, given how a single value and an
    array are read. -/
def variantValueRead (single : (id : BuiltinId) → Reader (Builtin Obj id))
    (array : (id : BuiltinId) → Reader (ArrayValue Obj id)) (encodingByte : UInt8) :
    Reader (Variant Obj) :=
  if encodingByte &&& 0x80 ≠ 0 then
    match BuiltinId.ofCode (encodingByte &&& 0x3F) with
    | none => throw .invalidParameters
    | some id => array id >>= fun a =>
      if encodingByte &&& 0x40 ≠ 0 then matrixRead cst room a else pure (.array id a.length a.content)
  else if encodingByte &&& 0x40 ≠ 0 then throw .invalidParameters
  else
    match BuiltinId.ofCode (encodingByte &&& 0x3F) with
    | none => throw .nok
    | some .null => pure .null
    | some .variant => throw .encodingError
    | some id => single id >>= fun v => pure (.single v)

/-- What the value of a variant gives, from what a single value, an array and a matrix give. -/
theorem variantValueRead_ends {single : (id : BuiltinId) → Reader (Builtin Obj id)}
    {array : (id : BuiltinId) → Reader (ArrayValue Obj id)} {S : (id : BuiltinId) → Builtin Obj id → Prop}
    {A : (id : BuiltinId) → ArrayValue Obj id → Prop} {Q : Variant Obj → Prop}
    (hsingle : ∀ id, Ends (single id) (S id) fun _ => True)
    (harray : ∀ id, Ends (array id) (A id) fun _ => True) (hnull : Q .null)
    (hscalar : ∀ {id} (v : Builtin Obj id), id ≠ .variant → S id v → Q (.single v))
    (hvector : ∀ {id} (a : ArrayValue Obj id), A id a → Q (.array id a.length a.content))
    (hmatrix : ∀ {id} (a : ArrayValue Obj id), A id a →
      Ends (matrixRead cst room a) Q fun _ => True) (encodingByte : UInt8) :
    Ends (variantValueRead cst room single array encodingByte) Q fun _ => True := by
  refine Ends.ite (fun _ => ?_) fun _ => Ends.refuse trivial fun _ => ?_
  · rcases BuiltinId.ofCode (encodingByte &&& 0x3F) with _ | id
    · exact Ends.throw trivial
    exact Ends.bind (harray id) fun a ha =>
      Ends.ite (fun _ => hmatrix a ha) fun _ => Ends.pure (hvector a ha)
  · split
    · exact Ends.throw trivial
    · exact Ends.pure hnull
    · exact Ends.throw trivial
    · rename_i id _ hvariant _
      exact Ends.bind (hsingle id) fun v hv => Ends.pure (hscalar v hvariant hv)

/-- `GetDataValueEncodingMask`. -/
def getDataValueEncodingMask : DataValue Obj → UInt8
  | .mk value status sourceTimestamp serverTimestamp sourcePicoSeconds serverPicoSeconds =>
    flag (value.builtInTypeId ≠ .null) 0x01 ||| flag (status ≠ 0) 0x02 |||
      flag (0 < sourceTimestamp) 0x04 ||| flag (0 < sourcePicoSeconds) 0x10 |||
      flag (0 < serverTimestamp) 0x08 ||| flag (0 < serverPicoSeconds) 0x20

/-- The fields in `SOPC_DataValue_Write_Internal`, given how the variant is written. -/
def dataValueFieldsWrite (v : DataValue Obj) : Writer :=
  match v with
  | .mk value status sourceTimestamp serverTimestamp sourcePicoSeconds serverPicoSeconds => do
      let encodingMask := getDataValueEncodingMask v
      byteWrite room encodingMask
      writeIf (encodingMask &&& 0x01 ≠ 0) (variantW value)
      writeIf (encodingMask &&& 0x02 ≠ 0) (uint32Write room status)
      writeIf (encodingMask &&& 0x04 ≠ 0) (dateTimeWrite room sourceTimestamp)
      writeIf (encodingMask &&& 0x10 ≠ 0) (uint16Write room sourcePicoSeconds)
      writeIf (encodingMask &&& 0x08 ≠ 0) (dateTimeWrite room serverTimestamp)
      writeIf (encodingMask &&& 0x20 ≠ 0) (uint16Write room serverPicoSeconds)

/-- The fields in `SOPC_DataValue_Read_Internal`, given how the variant is read. -/
def dataValueFieldsRead (variantR : Reader (Variant Obj)) : Reader (DataValue Obj) := do
  let encodingMask ← byteRead room
  let value ← readIf (encodingMask &&& 0x01 ≠ 0) variantR .null
  let status ← readIf (encodingMask &&& 0x02 ≠ 0) (uint32Read room) 0
  let sourceTimestamp ← readIf (encodingMask &&& 0x04 ≠ 0) (dateTimeRead room) 0
  let sourcePicoSeconds ← readIf (encodingMask &&& 0x10 ≠ 0) (uint16Read room) 0
  let serverTimestamp ← readIf (encodingMask &&& 0x08 ≠ 0) (dateTimeRead room) 0
  let serverPicoSeconds ← readIf (encodingMask &&& 0x20 ≠ 0) (uint16Read room) 0
  pure (.mk value status sourceTimestamp serverTimestamp sourcePicoSeconds serverPicoSeconds)

mutual

/-- `SOPC_Variant_Write`, with `room` levels left.  The elements of an array stand two levels
    further, behind the test of `WriteVariantArrayBuiltInType`. -/
def variantWriteAt : Nat → Variant Obj → Writer
  | 0, _ => throw .invalidState
  | room + 1, v => do
      byteWrite room (getVariantEncodingMask v)
      variantValueWrite room
        (fun b => elementWrite cst objs room (fun v => variantWriteAt room v)
          (fun v => dataValueWriteAt room v) b)
        (fun a =>
          match room with
          | 0 => throw .invalidState
          | room + 1 => variantArrayWrite room (fun b =>
            elementWrite cst objs room (fun v => variantWriteAt room v)
              (fun v => dataValueWriteAt room v) b) a)
        v

/-- `SOPC_DataValue_Write`, with `room` levels left. -/
def dataValueWriteAt : Nat → DataValue Obj → Writer
  | 0, _ => throw .invalidState
  | room + 1, v => dataValueFieldsWrite room (fun v => variantWriteAt room v) v

end

mutual

/-- `SOPC_Variant_Read`, with `room` levels left. -/
def variantReadAt : Nat → Reader (Variant Obj)
  | 0 => throw .invalidState
  | room + 1 => byteRead room >>= variantValueRead cst room
      (fun id => elementRead cst objs room (variantReadAt room) (dataValueReadAt room) id)
      (fun id =>
        match room with
        | 0 => throw .invalidState
        | room + 1 => variantArrayRead cst room
            (elementRead cst objs room (variantReadAt room) (dataValueReadAt room) id))

/-- `SOPC_DataValue_Read`, with `room` levels left. -/
def dataValueReadAt : Nat → Reader (DataValue Obj)
  | 0 => throw .invalidState
  | room + 1 => dataValueFieldsRead room (variantReadAt room)

end

end S2opc.Encoder
