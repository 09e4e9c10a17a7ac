/-
How many bytes a Read function passes.

The size of an encoding follows from its bytes: from the encoding byte of a
NodeId, from the length of a string, from the bits of a mask, from the type and
the flags in the first byte of a variant.  No limit of the encoder and no value
has a part in it.  A Read function that ends well passes as many bytes.
-/
import S2opc.Encoder.Variant
import S2opc.Lib.EncodedSize

namespace S2opc.Encoder

open BuiltinTypes Lib.Bytes Lib.ByteCodec Lib.EncodedSize

/-! ## Numbers, strings and NodeIds -/

/-- A string behind its length. -/
def stringSize (l : List UInt8) : Nat := 4 + (numberAt .int32 l).toInt.toNat

/-- A Guid. -/
def guidSize : Size := inOrder [fixed 4, fixed 2, fixed 2, fixed 8]

/-- A NodeId behind its first byte, which says the format. -/
def nodeIdDataSize (encodingType : UInt8) : Size :=
  if encodingType = 0x00 then fixed 1
  else if encodingType = 0x01 then inOrder [fixed 1, fixed 2]
  else if encodingType = 0x02 then inOrder [fixed 2, fixed 4]
  else if encodingType = 0x04 then inOrder [fixed 2, guidSize]
  else inOrder [fixed 2, stringSize]

/-- A NodeId. -/
def nodeIdSize (l : List UInt8) : Nat :=
  inOrder [fixed 1, nodeIdDataSize (numberAt .uint8 l &&& 0x0F)] l

/-- A part behind a mask, if one of the bits is set. -/
def flagged (mask bits : UInt8) (s : Size) : Size := onlyIf (mask &&& bits ≠ 0) s

/-- An expanded NodeId, whose first byte has two flags. -/
def expandedNodeIdSize (l : List UInt8) : Nat :=
  inOrder [nodeIdSize, flagged (numberAt .uint8 l) 0x80 stringSize,
    flagged (numberAt .uint8 l) 0x40 (fixed 4)] l

section
variable (cst : EncodingConstants) {α : Type} {r : Reader α} {n room : Nat} {P : α → Prop}
  (l : List UInt8)

theorem passes_nested {body : Nat → Reader α} (h : ∀ room, Passes (body room) l n P) :
    Passes (nested room body) l n P := by
  cases room with
  | zero => exact .throw
  | succ room => exact h room

theorem passes_bufferRead (count : Nat) :
    Passes (bufferRead count) l count fun bytes => bytes.val = l.take count := by
  rintro b bytes b' rfl hr
  obtain ⟨-, hbytes, hdata, hpos, -⟩ := Buffer.read_eq_some.1 (bufferRead_eq_ok hr)
  refine ⟨?_, hpos, hbytes⟩
  rw [Buffer.remaining, Buffer.remaining, hdata, hpos, List.drop_drop]

theorem passes_scalarRead (s : Scalar α) :
    Passes (scalarRead s room) l s.width (· = numberAt s l) := by
  apply passes_nested
  intro room
  refine (passes_bufferRead l s.width).mapError.map ?_
  rintro bytes h
  rw [numberAt, h]

theorem passes_number (s : Scalar α) : Passes (scalarRead s room) l s.width fun _ => True :=
  (passes_scalarRead l s).mono fun _ _ => trivial

theorem passes_booleanRead : Passes (booleanRead room) l 1 fun _ => True := by
  apply passes_nested
  intro room
  exact (passes_scalarRead l .uint8).into

theorem passes_stringDataRead (length : Int32) :
    Passes (stringDataRead length) l length.toInt.toNat fun _ => True :=
  (passes_bufferRead l _).mapError.into

/-- What stands behind the length of a string. -/
theorem passes_ofNonpos {length : Int32} (h : ¬0 < length) (s : SopcString) :
    Passes (pure s : Reader SopcString) l length.toInt.toNat fun _ => True := by
  have hle : length.toInt ≤ 0 := by
    rw [Int32.lt_iff_toInt_lt] at h
    exact not_lt.1 h
  rw [Int.toNat_of_nonpos hle]
  exact .pure trivial

theorem passes_stringRead : Passes (stringRead cst room) l (stringSize l) fun _ => True := by
  apply passes_nested
  intro room
  refine (passes_scalarRead l .int32).bind ?_
  rintro length rfl
  refine .ite (fun _ => .ite (fun _ => .ite (fun _ => ?_) fun _ => .throw) fun _ => .throw) fun h => ?_
  · exact passes_stringDataRead _ _
  · exact passes_ofNonpos _ h _

theorem passes_byteStringRead : Passes (byteStringRead cst room) l (stringSize l) fun _ => True := by
  apply passes_nested
  intro room
  refine (passes_scalarRead l .int32).bind ?_
  rintro length rfl
  refine .ite (fun _ => .ite (fun _ => ?_) fun _ => .throw) fun h => ?_
  · exact passes_stringDataRead _ _
  · exact passes_ofNonpos _ h _

theorem passes_guidRead : Passes (guidRead room) l (guidSize l) fun _ => True := by
  apply passes_nested
  intro room
  apply Passes.mapError
  refine (passes_scalarRead l .uint32).first fun _ _ => (passes_scalarRead _ .uint16).first fun _ _ => ?_
  exact (passes_scalarRead _ .uint16).first fun _ _ => (passes_bufferRead _ 8).last fun _ _ => trivial

/-- The numeric type id behind the first byte of a NodeId, if it is one. -/
def typeIdDataAt (encodingType : UInt8) (l : List UInt8) : Option (UInt16 × UInt32) :=
  if encodingType = 0x00 then some (0, (numberAt .uint8 l).toUInt32)
  else if encodingType = 0x01 then
    some ((numberAt .uint8 l).toUInt16, (numberAt .uint16 (l.drop 1)).toUInt32)
  else if encodingType = 0x02 then some (numberAt .uint16 l, numberAt .uint32 (l.drop 2))
  else none

/-- The numeric id of a NodeId. -/
def numericId (nodeId : NodeId) : Option (UInt16 × UInt32) :=
  match nodeId.data with
  | .numeric n => some (nodeId.namespaceIndex, n)
  | _ => none

theorem passes_nodeIdDataRead (encodingType : UInt8) :
    Passes (nodeIdDataRead cst encodingType room) l (nodeIdDataSize encodingType l) fun nodeId =>
      numericId nodeId = typeIdDataAt encodingType l := by
  unfold nodeIdDataRead nodeIdDataSize typeIdDataAt
  split_ifs with h0 h1 h2 h3 h4
  · exact (passes_scalarRead l .uint8).map fun _ h => by rw [h]; rfl
  · exact (passes_scalarRead l .uint8).first fun _ h => (passes_scalarRead _ .uint16).last
      fun _ h' => by rw [h, h']; rfl
  · exact (passes_scalarRead l .uint16).first fun _ h => (passes_scalarRead _ .uint32).last
      fun _ h' => by rw [h, h']; rfl
  · exact absurd (h3.symm.trans h4) (by decide)
  · exact (passes_scalarRead l .uint16).first fun _ _ => (passes_stringRead cst _).last fun _ _ => rfl
  · exact (passes_scalarRead l .uint16).first fun _ _ => (passes_guidRead _).last fun _ _ => rfl
  · exact (passes_scalarRead l .uint16).first fun _ _ => (passes_byteStringRead cst _).last fun _ _ => rfl
  · exact .throw

/-- The numeric type id some bytes start with, if it is one. -/
def typeIdAt (l : List UInt8) : Option (UInt16 × UInt32) :=
  typeIdDataAt (numberAt .uint8 l &&& 0x0F) (l.drop 1)

theorem passes_internalNodeIdRead :
    Passes (internalNodeIdRead cst room) l (nodeIdSize l) fun p =>
      numericId p.1 = typeIdAt l ∧ p.2 = numberAt .uint8 l := by
  refine (passes_scalarRead l .uint8).first ?_
  rintro encodingByte rfl
  exact (passes_nodeIdDataRead cst _ _).last fun _ h => ⟨h, rfl⟩

theorem passes_nodeIdRead :
    Passes (nodeIdRead cst room) l (nodeIdSize l) fun nodeId => numericId nodeId = typeIdAt l := by
  apply passes_nested
  intro room
  exact (passes_internalNodeIdRead cst l).map fun _ h => h.1

theorem passes_flagged {mask bits : UInt8} {r : Reader α} {s : Size} {absent : α}
    (h : Passes r l (s l) fun _ => True) :
    Passes (readIf (mask &&& bits ≠ 0) r absent) l (flagged mask bits s l) fun _ => True := h.readIf

theorem passes_expandedNodeIdRead :
    Passes (expandedNodeIdRead cst room) l (expandedNodeIdSize l) fun _ => True := by
  apply passes_nested
  intro room
  refine (passes_internalNodeIdRead cst l).first ?_
  rintro ⟨nodeId, encodingByte⟩ ⟨-, rfl⟩
  refine (passes_flagged _ (passes_stringRead cst _)).first fun _ _ => ?_
  exact (passes_flagged _ (passes_number _ .uint32)).last fun _ _ => trivial

end

/-! ## Names, texts and diagnostic information -/

/-- A qualified name. -/
def qualifiedNameSize : Size := inOrder [fixed 2, stringSize]

/-- A localized text, by its mask. -/
def localizedTextSize (l : List UInt8) : Nat :=
  inOrder [fixed 1, flagged (numberAt .uint8 l) 0x01 stringSize,
    flagged (numberAt .uint8 l) 0x02 stringSize] l

/-- One level of diagnostic information, by its mask. -/
def diagnosticLevelSize (l : List UInt8) : Nat :=
  inOrder [fixed 1, flagged (numberAt .uint8 l) 0x01 (fixed 4),
    flagged (numberAt .uint8 l) 0x02 (fixed 4), flagged (numberAt .uint8 l) 0x08 (fixed 4),
    flagged (numberAt .uint8 l) 0x04 (fixed 4), flagged (numberAt .uint8 l) 0x10 stringSize,
    flagged (numberAt .uint8 l) 0x20 (fixed 4)] l

/-- Diagnostic information with so many inner levels at most. -/
def diagnosticInfoSize : Nat → Size
  | 0 => inOrder [diagnosticLevelSize]
  | left + 1 => fun l =>
    inOrder [diagnosticLevelSize, flagged (numberAt .uint8 l) 0x40 (diagnosticInfoSize left)] l

section
variable (cst : EncodingConstants) {room : Nat} (l : List UInt8)

theorem passes_qualifiedNameRead :
    Passes (qualifiedNameRead cst room) l (qualifiedNameSize l) fun _ => True := by
  apply passes_nested
  intro room
  exact (passes_scalarRead l .uint16).first fun _ _ => (passes_stringRead cst _).last fun _ _ => trivial

theorem passes_localizedTextRead :
    Passes (localizedTextRead cst room) l (localizedTextSize l) fun _ => True := by
  apply passes_nested
  intro room
  refine (passes_scalarRead l .uint8).first ?_
  rintro encodingByte rfl
  refine (passes_flagged _ (passes_stringRead cst _)).first fun _ _ => ?_
  exact (passes_flagged _ (passes_stringRead cst _)).last fun _ _ => trivial

theorem passes_diagnosticLevelRead :
    Passes (diagnosticLevelRead cst) l (diagnosticLevelSize l) fun p =>
      p.2 = decide (numberAt .uint8 l &&& 0x40 ≠ 0) := by
  refine (passes_scalarRead l .uint8).first ?_
  rintro encodingByte rfl
  refine (passes_flagged _ (passes_number _ .int32)).first fun _ _ => ?_
  refine (passes_flagged _ (passes_number _ .int32)).first fun _ _ => ?_
  refine (passes_flagged _ (passes_number _ .int32)).first fun _ _ => ?_
  refine (passes_flagged _ (passes_number _ .int32)).first fun _ _ => ?_
  refine (passes_flagged _ (passes_stringRead cst _)).first fun _ _ => ?_
  exact (passes_flagged _ (passes_number _ .uint32)).last fun _ _ => rfl

theorem passes_diagnosticInfoReadInternal (left : Nat) :
    Passes (diagnosticInfoReadInternal cst left) l (diagnosticInfoSize left l) fun _ => True := by
  induction left generalizing l with
  | zero =>
    refine (passes_diagnosticLevelRead cst l).first ?_
    rintro ⟨d, inner⟩ -
    exact .ite (fun _ => .throw) fun _ => .pure trivial
  | succ left ih =>
    refine (passes_diagnosticLevelRead cst l).first ?_
    rintro ⟨d, inner⟩ (hinner : inner = _)
    show Passes (if inner = true then _ else _) _ (inOrder [flagged _ _ _] _) _
    rw [hinner, flagged, onlyIf]
    by_cases hbit : numberAt .uint8 l &&& 0x40 ≠ 0
    · rw [if_pos (decide_eq_true hbit), if_pos hbit]
      exact (ih _).last fun _ _ => trivial
    · rw [if_neg (by simpa using hbit), if_neg hbit]
      exact .pure trivial

theorem passes_diagnosticInfoRead :
    Passes (diagnosticInfoRead cst room) l (diagnosticInfoSize cst.maxNestedDiagInfo.toNat l)
      fun _ => True := by
  apply passes_nested
  intro _
  exact passes_diagnosticInfoReadInternal cst l _

end

/-! ## Extension objects -/

/-- The sizes of the objects of known types, with so many nesting levels left. -/
abbrev ObjectSizes := UInt16 × UInt32 → Option (Nat → Size)

/-- The body of an extension object, by its encoding byte.  The object of a known type stands behind
    a length, which does not count. -/
def extObjectBodySize (object : Option Size) (encodingByte : UInt8) : Size :=
  if encodingByte = 0x00 then fixed 0
  else if encodingByte = 0x01 then
    match object with
    | none => stringSize
    | some s => inOrder [fixed 4, s]
  else stringSize

/-- An extension object. -/
def extensionObjectSize (known : ObjectSizes) (room : Nat) (l : List UInt8) : Nat :=
  inOrder [nodeIdSize, fixed 1, extObjectBodySize (((typeIdAt l).bind known).map fun s => s room)
    (numberAt .uint8 (l.drop (nodeIdSize l)))] l

/-- The objects of the known types have these sizes. -/
structure ObjectCodec.Sized {Obj : Type} (objs : ObjectCodec Obj) (known : ObjectSizes) : Prop where
  unknown : ∀ {ns n}, objs.decode ns n = none → known (ns, n) = none
  passes : ∀ {ns n decode}, objs.decode ns n = some decode →
    ∃ s, known (ns, n) = some s ∧ ∀ room l, Passes (decode room) l (s room l) fun _ => True

section
variable (cst : EncodingConstants) {Obj : Type} {objs : ObjectCodec Obj} {known : ObjectSizes}
  (hobjs : objs.Sized known)

include hobjs

/-- A known type has the size of its object, one that is not known has none. -/
theorem objectDecoder_sized (nodeId : NodeId) :
    (objectDecoder objs nodeId = none ∧ (numericId nodeId).bind known = none) ∨
    ∃ decode s, objectDecoder objs nodeId = some decode ∧ (numericId nodeId).bind known = some s ∧
      ∀ room l, Passes (decode room) l (s room l) fun _ => True := by
  obtain ⟨ns, data⟩ := nodeId
  cases data with
  | numeric n =>
    show (objs.decode ns n = none ∧ known (ns, n) = none) ∨ ∃ decode s, objs.decode ns n = some decode ∧
      known (ns, n) = some s ∧ _
    rcases hdecode : objs.decode ns n with _ | decode
    · exact .inl ⟨rfl, hobjs.unknown hdecode⟩
    · obtain ⟨s, hs, hpasses⟩ := hobjs.passes hdecode
      exact .inr ⟨decode, s, rfl, hs, hpasses⟩
  | _ => exact .inl ⟨rfl, rfl⟩

theorem passes_extObjectBodyRead (nodeId : NodeId) (encodingByte : UInt8) (room : Nat) (l : List UInt8) :
    Passes (extObjectBodyRead cst objs nodeId encodingByte room) l
      (extObjectBodySize (((numericId nodeId).bind known).map fun s => s room) encodingByte l)
      fun _ => True := by
  unfold extObjectBodyRead extObjectBodySize
  split_ifs
  · exact .pure trivial
  · rcases objectDecoder_sized hobjs nodeId with ⟨hnone, hsize⟩ | ⟨decode, s, hdecode, hsize, hpasses⟩
    · rw [hnone, hsize]
      exact (passes_byteStringRead cst l).into
    · rw [hdecode, hsize]
      exact (passes_scalarRead l .int32).first fun _ _ => (hpasses room _).last fun _ _ => trivial
  · exact (passes_byteStringRead cst l).into
  · exact .throw

theorem passes_extensionObjectRead (room : Nat) (l : List UInt8) :
    Passes (extensionObjectRead cst objs (room + 1)) l (extensionObjectSize known room l)
      fun _ => True := by
  refine (passes_nodeIdRead cst l).first fun nodeId hid => ?_
  refine (passes_scalarRead _ .uint8).first ?_
  rintro encodingByte rfl
  rw [← hid]
  exact (passes_extObjectBodyRead cst hobjs nodeId _ room _).last fun _ _ => trivial

end

/-! ## Variants -/

/-- An array behind its length, of elements of one size. -/
def arraySize (s : Size) (l : List UInt8) : Nat :=
  inOrder [fixed 4, times s (numberAt .int32 l).toInt.toNat] l

section
variable (cst : EncodingConstants) (known : ObjectSizes)

/-- An element of an array or of a variant, given the sizes of variants and data values. -/
def elementSize (room : Nat) (variantS dataValueS : Size) : BuiltinId → Size
  | .null => fixed 0
  | .boolean | .sByte | .byte => fixed 1
  | .int16 | .uint16 => fixed 2
  | .int32 | .uint32 | .float | .statusCode => fixed 4
  | .int64 | .uint64 | .double | .dateTime => fixed 8
  | .guid => guidSize
  | .string | .byteString | .xmlElement => stringSize
  | .nodeId => nodeIdSize
  | .expandedNodeId => expandedNodeIdSize
  | .qualifiedName => qualifiedNameSize
  | .localizedText => localizedTextSize
  | .extensionObject => extensionObjectSize known (room - 1)
  | .diagnosticInfo => diagnosticInfoSize cst.maxNestedDiagInfo.toNat
  | .dataValue => dataValueS
  | .variant => variantS

/-- A variant, by the type and the flags of its first byte. -/
def variantValueSize (single element : BuiltinId → Size) (l : List UInt8) : Nat :=
  match BuiltinId.ofCode (numberAt .uint8 l &&& 0x3F) with
  | none => inOrder [fixed 1] l
  | some id =>
    if numberAt .uint8 l &&& 0x80 ≠ 0 then
      inOrder [fixed 1, arraySize (element id), flagged (numberAt .uint8 l) 0x40 (arraySize (fixed 4))] l
    else inOrder [fixed 1, single id] l

/-- A data value, by its mask. -/
def dataValueFieldsSize (variantS : Size) (l : List UInt8) : Nat :=
  inOrder [fixed 1, flagged (numberAt .uint8 l) 0x01 variantS,
    flagged (numberAt .uint8 l) 0x02 (fixed 4), flagged (numberAt .uint8 l) 0x04 (fixed 8),
    flagged (numberAt .uint8 l) 0x10 (fixed 2), flagged (numberAt .uint8 l) 0x08 (fixed 8),
    flagged (numberAt .uint8 l) 0x20 (fixed 2)] l

mutual

/-- A variant with so many nesting levels left. -/
def variantSizeAt : Nat → Size
  | 0 => fixed 0
  | room + 1 => variantValueSize
      (fun id => elementSize cst known room (variantSizeAt room) (dataValueSizeAt room) id)
      (fun id =>
        match room with
        | 0 => fixed 0
        | room + 1 => elementSize cst known room (variantSizeAt room) (dataValueSizeAt room) id)

/-- A data value with so many nesting levels left. -/
def dataValueSizeAt : Nat → Size
  | 0 => fixed 0
  | room + 1 => dataValueFieldsSize (variantSizeAt room)

end

end

section
variable (cst : EncodingConstants) {Obj : Type} {objs : ObjectCodec Obj} {known : ObjectSizes}
  (hobjs : objs.Sized known) {variantS dataValueS : Size} {variantR : Reader (Variant Obj)}
  {dataValueR : Reader (DataValue Obj)} (hvariant : ∀ l, Passes variantR l (variantS l) fun _ => True)
  (hdataValue : ∀ l, Passes dataValueR l (dataValueS l) fun _ => True)

include hobjs hvariant hdataValue in
theorem passes_elementRead (room : Nat) (id : BuiltinId) (l : List UInt8) :
    Passes (elementRead cst objs room variantR dataValueR id) l
      (elementSize cst known room variantS dataValueS id l) fun _ => True := by
  cases id with
  | null => exact .throw
  | boolean => exact (passes_booleanRead l).into
  | string => exact (passes_stringRead cst l).into
  | byteString => exact (passes_byteStringRead cst l).into
  | xmlElement => exact (passes_byteStringRead cst l).into
  | guid => exact (passes_guidRead l).into
  | nodeId => exact (passes_nodeIdRead cst l).into
  | expandedNodeId => exact (passes_expandedNodeIdRead cst l).into
  | qualifiedName => exact (passes_qualifiedNameRead cst l).into
  | localizedText => exact (passes_localizedTextRead cst l).into
  | diagnosticInfo => exact (passes_diagnosticInfoRead cst l).into
  | dataValue => exact (hdataValue l).into
  | variant => exact (hvariant l).into
  | dateTime => exact (passes_nested l fun room => passes_scalarRead l .int64).into
  | extensionObject =>
    cases room with
    | zero => exact nofun
    | succ room => exact (passes_extensionObjectRead cst hobjs room l).into
  | float => exact ((passes_scalarRead l .uint32).into).into
  | double => exact ((passes_scalarRead l .uint64).into).into
  | _ => exact (passes_scalarRead l _).into

/-- A block of numbers has the size of as many elements. -/
theorem elementSize_of_optimizable {room : Nat} {id : BuiltinId} {s : Scalar (Builtin Obj id)}
    (h : optimizableScalar id = some s) :
    elementSize cst known room variantS dataValueS id = fixed s.width := by
  cases id <;> cases h <;> rfl

theorem passes_arrayContentRead {room : Nat} {id : BuiltinId} {elem : Reader (Builtin Obj id)}
    (helem : ∀ l, Passes elem l (elementSize cst known room variantS dataValueS id l) fun _ => True)
    (length : Int32) (l : List UInt8) :
    Passes (arrayContentRead elem length) l
      (times (elementSize cst known room variantS dataValueS id) length.toInt.toNat l)
      fun _ => True := by
  unfold arrayContentRead
  split
  · rename_i s hs
    rw [elementSize_of_optimizable cst hs, times_fixed]
    exact .ite (fun _ => (passes_bufferRead l _).mapError.into) fun _ => .throw
  · exact (Passes.each helem _ l).into

theorem passes_variantArrayRead {levels room : Nat} {id : BuiltinId} {elem : Reader (Builtin Obj id)}
    (helem : ∀ l, Passes elem l (elementSize cst known room variantS dataValueS id l) fun _ => True)
    (l : List UInt8) :
    Passes (variantArrayRead cst levels elem) l
      (arraySize (elementSize cst known room variantS dataValueS id) l) fun _ => True := by
  refine .ite (fun _ => .throw) fun _ => ?_
  refine (passes_scalarRead l .int32).first ?_
  rintro read rfl
  refine .ite (fun _ => .throw) fun _ => ?_
  have h := passes_arrayContentRead cst helem (clampLength (numberAt .int32 l)) (l.drop 4)
  rw [toNat_clampLength] at h
  exact h

theorem passes_dimensionsRead (room arrayLength n length : Nat) (l : List UInt8) :
    Passes (dimensionsRead room arrayLength n length) l (times (fixed 4) n l) fun _ => True := by
  induction n generalizing length l with
  | zero => exact .pure trivial
  | succ n ih =>
    refine (passes_scalarRead l .int32).bind fun dim _ => ?_
    exact .ite (fun _ => (ih _ _).into) fun _ => .throw

theorem passes_matrixRead {room : Nat} {id : BuiltinId} (array : ArrayValue Obj id) (l : List UInt8) :
    Passes (matrixRead cst room array) l (arraySize (fixed 4) l) fun _ => True := by
  refine (passes_scalarRead l .int32).first ?_
  rintro dimensions rfl
  refine .ite (fun _ => .throw) fun _ => ?_
  refine (passes_dimensionsRead room _ _ _ _).first fun dims _ => ?_
  split_ifs
  · exact .pure trivial
  · exact .throw

theorem passes_variantValueRead {room : Nat} {single : (id : BuiltinId) → Reader (Builtin Obj id)}
    {array : (id : BuiltinId) → Reader (ArrayValue Obj id)} {singleS element : BuiltinId → Size}
    (hnull : singleS .null = fixed 0)
    (hsingle : ∀ id l, Passes (single id) l (singleS id l) fun _ => True)
    (harray : ∀ id l, Passes (array id) l (arraySize (element id) l) fun _ => True) (l : List UInt8) :
    Passes (byteRead room >>= variantValueRead cst room single array) l
      (variantValueSize singleS element l) fun _ => True := by
  unfold variantValueSize
  split
  · rename_i hid
    refine (passes_scalarRead l .uint8).first ?_
    rintro encodingByte rfl
    unfold variantValueRead
    rw [hid]
    exact .ite (fun _ => .throw) fun _ => .ite (fun _ => .throw) fun _ => .throw
  rename_i id hid
  split_ifs with harrayBit
  · refine (passes_scalarRead l .uint8).first ?_
    rintro encodingByte rfl
    unfold variantValueRead
    rw [if_pos harrayBit, hid]
    refine (harray id _).first fun a _ => ?_
    rw [flagged, onlyIf]
    split_ifs
    · exact passes_matrixRead cst a _
    · exact .pure trivial
  · refine (passes_scalarRead l .uint8).first ?_
    rintro encodingByte rfl
    unfold variantValueRead
    rw [if_neg harrayBit, hid]
    refine .ite (fun _ => .throw) fun _ => ?_
    cases id with
    | null =>
      rw [hnull]
      exact .pure trivial
    | variant => exact .throw
    | _ => exact (hsingle _ _).last fun _ _ => trivial

include hvariant in
theorem passes_dataValueFieldsRead (room : Nat) (l : List UInt8) :
    Passes (dataValueFieldsRead room variantR) l (dataValueFieldsSize variantS l) fun _ => True := by
  have date : ∀ l, Passes (dateTimeRead room) l 8 fun _ => True :=
    fun l => passes_nested l fun _ => passes_number l .int64
  refine (passes_scalarRead l .uint8).first ?_
  rintro encodingMask rfl
  refine (passes_flagged _ (hvariant _)).first fun _ _ => ?_
  refine (passes_flagged _ (passes_number _ .uint32)).first fun _ _ => ?_
  refine (passes_flagged _ (date _)).first fun _ _ => ?_
  refine (passes_flagged _ (passes_number _ .uint16)).first fun _ _ => ?_
  refine (passes_flagged _ (date _)).first fun _ _ => ?_
  exact (passes_flagged _ (passes_number _ .uint16)).last fun _ _ => trivial

include hobjs in
/-- Variants and data values that are read pass their sizes, at every nesting level. -/
theorem passes_valuesAt (room : Nat) :
    (∀ l, Passes (variantReadAt cst objs room) l (variantSizeAt cst known room l) fun _ => True) ∧
      ∀ l, Passes (dataValueReadAt cst objs room) l (dataValueSizeAt cst known room l) fun _ => True := by
  induction room using Nat.strong_induction_on with
  | _ room ih =>
    rcases room with _ | room
    · exact ⟨fun _ => .throw, fun _ => .throw⟩
    obtain ⟨hvariant, hdataValue⟩ := ih room (Nat.lt_succ_self room)
    refine ⟨fun l => ?_, fun l => passes_dataValueFieldsRead hvariant room l⟩
    rw [variantReadAt, variantSizeAt]
    refine passes_variantValueRead cst rfl (passes_elementRead cst hobjs hvariant hdataValue room)
      (fun id l => ?_) l
    rcases room with _ | room
    · exact .throw
    obtain ⟨hvariant, hdataValue⟩ := ih room (by omega)
    exact passes_variantArrayRead cst (passes_elementRead cst hobjs hvariant hdataValue room id) l

end

end S2opc.Encoder
