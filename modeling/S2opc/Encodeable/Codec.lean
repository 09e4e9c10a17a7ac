/-
`SOPC_EncodeableObject_Encode`, `SOPC_EncodeableObject_Decode` and
`SOPC_EncodeableObject_Compare`.

The three are interpreters of the field descriptors.  As in the encoder of the
built-in types, `room` is the number of nesting levels left.  Extension objects
may hold objects in turn; `ObjAt k` are the objects with at most `k` levels of
them, so that the functions on objects are defined level by level.
-/
import S2opc.BuiltinTypes.Compare
import S2opc.Encodeable.Basic
import S2opc.Encoder.RoundTrip

namespace S2opc.Encodeable

open BuiltinTypes Encoder Lib.Bytes Lib.ByteCodec

variable {T Obj : Type} {types : T → EncodeableType T}

/-! ## Encoding -/

/-- The loop of `EncodeableObject_EncodeMaskOptFields`.  The shift of 1 by 32 and more has no
    meaning. -/
def encodingMaskLoop : {ms : List (Member T)} → MemberValues types Obj ms → Nat → Nat → Option Nat
  | _, .nil, _, encodingMask => some encodingMask
  | _, .required _ _ rest, i, encodingMask => encodingMaskLoop rest i encodingMask
  | _, .absent _ rest, i, encodingMask => encodingMaskLoop rest (i + 1) encodingMask
  | _, .present _ _ rest, i, encodingMask =>
    if i < 32 then encodingMaskLoop rest (i + 1) (encodingMask + 2 ^ i) else none

/-- An optional member in the loop of `SOPC_EncodeableObject_Encode`: it is skipped if it is
    not to be encoded or if its bit is not in the mask. -/
def optionalWrite (isToEncode : Bool) (encodingMask indexOptional : Nat) (w : Writer) : Writer :=
  if indexOptional < 32 then writeIf (isToEncode = true ∧ encodingMask.testBit indexOptional = true) w
  else throw .undefinedBehaviour

/-- The loop of `SOPC_EncodeableObject_Encode`, given how a member is written.  A member of the
    mask that is absent would be read through a NULL pointer. -/
def membersWrite (member : {ty : MemberType T} → MemberValue types Obj ty → Writer)
    (encodingMask : Nat) : {ms : List (Member T)} → MemberValues types Obj ms → Nat → Writer
  | _, .nil, _ => pure ()
  | m :: _, .required _ v rest, i => do
      writeIf (m.isToEncode = true) (member v)
      membersWrite member encodingMask rest i
  | m :: _, .absent _ rest, i => do
      optionalWrite m.isToEncode encodingMask i (throw .undefinedBehaviour)
      membersWrite member encodingMask rest (i + 1)
  | m :: _, .present _ v rest, i => do
      optionalWrite m.isToEncode encodingMask i (member v)
      membersWrite member encodingMask rest (i + 1)

/-- A write whose status is ignored: a failed one leaves the buffer as it is. -/
def ignoreStatus (w : Writer) : Writer := fun b =>
  match w b with
  | .ok r => .ok r
  | .error .undefinedBehaviour => .error .undefinedBehaviour
  | .error _ => .ok ((), b)

/-- The switch field of a union that selects its field number `i`. -/
def switchOf {n : Nat} (i : Fin n) : UInt32 := UInt32.ofNat (i.val + 1)

/-- `SOPC_EncodeableObject_Encode` and `EncodeableObject_EncodeUnion` below the test of the
    nesting level, given how a member is written. -/
def structWrite (room : Nat) (member : {ty : MemberType T} → MemberValue types Obj ty → Writer) :
    {e : EncodeableType T} → StructValue types Obj e → Writer
  | _, .classic vs => membersWrite member 0 vs 0
  | _, .optFields vs =>
    match encodingMaskLoop vs 0 0 with
    | none => throw .undefinedBehaviour
    | some encodingMask => do
        uint32Write room (UInt32.ofNat encodingMask)
        membersWrite member encodingMask vs 0
  | _, .selected i v => do
      ignoreStatus (uint32Write room (switchOf i))
      member (.field v)
  | _, @StructValue.unselected _ _ _ fields switchField _ => do
      ignoreStatus (uint32Write room switchField)
      if (fields.length : Int) < switchField.toInt32.toInt then throw .encodingError else pure ()

section
variable (cst : EncodingConstants) (objs : ObjectCodec Obj)

/-- The Write function of the built-in type `id`, with `room` levels left. -/
def builtinWriteAt (room : Nat) {id : BuiltinId} (value : Builtin Obj id) : Writer :=
  elementWrite cst objs room (fun v => variantWriteAt cst objs room v)
    (fun v => dataValueWriteAt cst objs room v) value

/-- `getPfnEncode`, given how the objects of other types are written. -/
def fieldWrite (room : Nat) (struct : {e : EncodeableType T} → StructValue types Obj e → Writer) :
    {ty : FieldType T} → FieldValue types Obj ty → Writer
  | _, .builtin v => builtinWriteAt cst objs room v
  | _, .struct v => struct v

/-- `SOPC_EncodeableObject_Encode`, with `room` levels left; `SOPC_Write_Array` takes one. -/
def encodeAt : Nat → {e : EncodeableType T} → StructValue types Obj e → Writer
  | 0, _, _ => throw .invalidState
  | room + 1, _, v =>
    structWrite room
      (fun
        | .field v => fieldWrite cst objs room (fun v => encodeAt room v) v
        | .array length content =>
          match room with
          | 0 => throw .invalidState
          | room + 1 => do
              int32Write room length
              writeEach _ fun i => fieldWrite cst objs room (fun v => encodeAt room v) (content i))
      v

end

/-! ## Decoding -/

/-- The loop of `SOPC_EncodeableObject_Decode`, given how a member is read and its initial
    value.  The members `EncodeableObject_AllocateOptFields` finds in the mask are present,
    even those that are not decoded. -/
def membersRead (member : (ty : MemberType T) → Reader (MemberValue types Obj ty))
    (initial : (ty : MemberType T) → MemberValue types Obj ty) (encodingMask : Nat) :
    (ms : List (Member T)) → Nat → Reader (MemberValues types Obj ms)
  | [], _ => pure .nil
  | m :: ms, i =>
    if h : m.isOptional = true then
      if encodingMask.testBit i = true then do
        let v ← readIf (m.isToEncode = true) (member m.type) (initial m.type)
        let rest ← membersRead member initial encodingMask ms (i + 1)
        pure (.present h v rest)
      else do
        let rest ← membersRead member initial encodingMask ms (i + 1)
        pure (.absent h rest)
    else do
      let v ← readIf (m.isToEncode = true) (member m.type) (initial m.type)
      let rest ← membersRead member initial encodingMask ms i
      pure (.required (required_of_not h) v rest)

/-- The mask in `EncodeableObject_AllocateOptFields`, whose unassigned bits have to be 0. -/
def encodingMaskRead (room : Nat) (members : List (Member T)) : Reader Nat := do
  let encodingMask ← uint32Read room
  if numberOfOptionalField members < 32 then
    if 2 ^ numberOfOptionalField members - 1 < encodingMask.toNat then throw .encodingError
    else pure encodingMask.toNat
  else throw .undefinedBehaviour

/-- The switch field in `EncodeableObject_DecodeUnion`, which stays 0 if it cannot be read. -/
def switchRead (room : Nat) : Reader UInt32 := fun b =>
  match uint32Read room b with
  | .ok r => .ok r
  | .error .undefinedBehaviour => .error .undefinedBehaviour
  | .error _ => .ok (0, b)

/-- The field a switch selects, if there is one. -/
def selectedField (fields : List (FieldType T)) (switchField : UInt32) : Option (Fin fields.length) :=
  if h : 0 < switchField.toInt32.toInt ∧ switchField.toInt32.toInt ≤ fields.length then
    some ⟨switchField.toInt32.toInt.toNat - 1, by omega⟩
  else none

/-- `SOPC_EncodeableObject_Decode` and `EncodeableObject_DecodeUnion` below the test of the
    nesting level, given how a field and a member are read. -/
def structRead (room : Nat) (single : (ty : FieldType T) → Reader (FieldValue types Obj ty))
    (member : (ty : MemberType T) → Reader (MemberValue types Obj ty))
    (initial : (ty : MemberType T) → MemberValue types Obj ty) :
    (e : EncodeableType T) → Reader (StructValue types Obj e)
  | .classic ms => membersRead member initial 0 ms 0 >>= fun vs => pure (.classic vs)
  | .optFields ms => encodingMaskRead room ms >>= fun encodingMask =>
    membersRead member initial encodingMask ms 0 >>= fun vs => pure (.optFields vs)
  | .union fields => switchRead room >>= fun switchField =>
    match selectedField fields switchField with
    | none => throw .encodingError
    | some i => single (fields.get i) >>= fun v => pure (.selected i v)

section
variable (cst : EncodingConstants) (objs : ObjectCodec Obj)

/-- The Read function of the built-in type `id`, with `room` levels left. -/
def builtinReadAt (room : Nat) (id : BuiltinId) : Reader (Builtin Obj id) :=
  elementRead cst objs room (variantReadAt cst objs room) (dataValueReadAt cst objs room) id

/-- `getPfnDecode`, given how the objects of other types are read. -/
def fieldRead (room : Nat) (struct : (e : EncodeableType T) → Reader (StructValue types Obj e)) :
    (ty : FieldType T) → Reader (FieldValue types Obj ty)
  | .builtin id _ => builtinReadAt cst objs room id >>= fun v => pure (.builtin v)
  | .struct t => struct (types t) >>= fun v => pure (.struct v)

/-- `SOPC_Read_Array` below its nesting test. -/
def arrayFieldRead (room : Nat) {ty : FieldType T} (elem : Reader (FieldValue types Obj ty)) :
    Reader (MemberValue types Obj (.array ty)) :=
  int32Read room >>= fun read =>
    if cst.maxArrayLength < clampLength read then throw .outOfMemory
    else readEach (clampLength read).toInt.toNat elem >>= fun content =>
      pure (.array (clampLength read) content)

/-- `SOPC_EncodeableObject_Decode`, with `room` levels left. -/
def decodeAt (initial : (ty : MemberType T) → MemberValue types Obj ty) :
    Nat → (e : EncodeableType T) → Reader (StructValue types Obj e)
  | 0, _ => throw .invalidState
  | room + 1, e =>
    structRead room (fun ty => fieldRead cst objs room (fun e => decodeAt initial room e) ty)
      (fun
        | .field ty => fieldRead cst objs room (fun e => decodeAt initial room e) ty >>= fun v =>
          pure (.field v)
        | .array ty =>
          match room with
          | 0 => throw .invalidState
          | room + 1 => arrayFieldRead cst room
              (fieldRead cst objs room (fun e => decodeAt initial room e) ty))
      initial e

end

/-! ## Comparing -/

section
variable (compareObj : Obj → Obj → Except Status Ordering)

mutual

/-- `getPfnCompare`. -/
def fieldCompare : {ty : FieldType T} → FieldValue types Obj ty → FieldValue types Obj ty →
    Except Status Ordering
  | _, .builtin l, .builtin r => builtinCompare compareObj l r
  | _, .struct l, .struct r => structCompare l r
termination_by structural _ l => l

/-- A member in the loop of `SOPC_EncodeableObject_Compare`, when it is there on both sides. -/
def memberCompare : {ty : MemberType T} → MemberValue types Obj ty → MemberValue types Obj ty →
    Except Status Ordering
  | _, .field l, .field r => fieldCompare l r
  | _, .array n l, .array m r =>
    if h : n = m then compareEach _ fun i => fieldCompare (l i) (r (i.cast (toNat_congr h)))
    else .ok (numberCompare n m)
termination_by structural _ l => l

/-- The loop of `SOPC_EncodeableObject_Compare`. -/
def membersCompare : {ms : List (Member T)} → MemberValues types Obj ms → MemberValues types Obj ms →
    Except Status Ordering
  | _, .nil, .nil => .ok .eq
  | _, .required _ l ls, .required _ r rs => thenCompare (memberCompare l r) (membersCompare ls rs)
  | _, .absent _ ls, .absent _ rs => membersCompare ls rs
  | _, .present _ l ls, .present _ r rs => thenCompare (memberCompare l r) (membersCompare ls rs)
  | _, .present _ _ _, .absent _ _ => .ok .gt
  | _, .absent _ _, .present _ _ _ => .ok .lt
  | _, _, _ => .error .undefinedBehaviour
termination_by structural _ l => l

/-- `SOPC_EncodeableObject_Compare` and `EncodeableObject_CompareUnion`. -/
def structCompare : {e : EncodeableType T} → StructValue types Obj e → StructValue types Obj e →
    Except Status Ordering
  | _, .classic ls, .classic rs => membersCompare ls rs
  | _, .optFields ls, .optFields rs => membersCompare ls rs
  | _, .selected i l, .selected j r =>
    if h : i = j then fieldCompare l (h ▸ r) else .ok (numberCompare (switchOf i) (switchOf j))
  | _, .selected i _, .unselected s _ => .ok (numberCompare (switchOf i) s)
  | _, .unselected s _, .selected i _ => .ok (numberCompare s (switchOf i))
  | _, @StructValue.unselected _ _ _ fields l _, .unselected r _ =>
    thenCompare (.ok (numberCompare l r)) <|
      if (fields.length : Int) < l.toInt32.toInt then .error .encodingError else .ok .eq
termination_by structural _ l => l

end

end

/-! ## Objects in extension objects -/

section
variable (registry : Registry T)

/-- The objects with at most the given number of levels of objects in extension objects. -/
def ObjAt : Nat → Type
  | 0 => Empty
  | k + 1 => Σ t : T, StructValue registry.types (ObjAt k) (registry.types t)

/-- The initial value of a member. -/
def Registry.initialMember (k : Nat) (ty : MemberType T) :
    MemberValue registry.types (ObjAt registry k) ty :=
  Encodeable.initialMember (registry.initial (ObjAt registry k)) ty

/-- The functions on the objects in extension objects. -/
def objectCodec (cst : EncodingConstants) : (k : Nat) → ObjectCodec (ObjAt registry k)
  | 0 =>
    { typeId := fun o => o.elim
      encode := fun _ o => o.elim
      decode := fun ns n => (registry.getEncodeableType ns n).map fun _ _ => throw .invalidState }
  | k + 1 =>
    { typeId := fun o => registry.typeId o.1
      encode := fun room o => encodeAt cst (objectCodec cst k) room o.2
      decode := fun ns n => (registry.getEncodeableType ns n).map fun t room =>
        decodeAt cst (objectCodec cst k) (registry.initialMember k) room (registry.types t) >>=
          fun v => pure ⟨t, v⟩ }

/-- The comparison of two objects in extension objects, those of different types by the
    addresses of their types. -/
def objectCompare [DecidableEq T] : (k : Nat) → ObjAt registry k → ObjAt registry k →
    Except Status Ordering
  | 0, l, _ => l.elim
  | k + 1, l, r =>
    if h : l.1 = r.1 then structCompare (objectCompare k) l.2 (h ▸ r.2)
    else .ok (if registry.address r.1 < registry.address l.1 then .gt else .lt)

end

end S2opc.Encodeable
