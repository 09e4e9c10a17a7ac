/-
The messages of a fixed size: `sopc_pub_fixed_buffer.c`, with the branches of
`SOPC_UADP_NetworkMessage_Encode_Buffers` that serve it.

A writer group with a fixed size buffer encodes its message once, with initial
values of the types of its fields, and keeps where the parts that change stand.
To send the message, these parts are written over: the sequence numbers and the
timestamps, the token and the nonce, the fields, and last the signature, which
goes where the message ended when it was encoded.

A value of the type of its field takes the place of the initial one, but a field
of bad status is written as a status code, in five bytes.  As long as the values
are of the types of the fields or status codes, the message does not outgrow the
place of its signature (`updatedBuffer_signed`).
-/
import S2opc.Encoder.Copy
import S2opc.PubSub.Encode
import S2opc.PubSub.Subscriber

namespace S2opc.PubSub

open BuiltinTypes Lib.Bytes Lib.ByteCodec Encoder List

variable {Obj : Type} (cst : EncodingConstants) (objs : ObjectCodec Obj) (crypto : CryptoProvider)

/-! ## Encoding in advance -/

/-- Write a part that is there under a condition, and keep where it stands. -/
def placeIf {ε : Type} (p : Prop) [Decidable p] (w : Codec ε Unit) : Codec ε (Option Nat) :=
  if p then do
    let start ← get
    w
    pure (some start.position)
  else pure none

/-- The positions of the parts of a data set message that change: its
    `SOPC_PubFixedBuffer_Dsm_DynamicInfo` and its entries of `dataSetFields`. -/
structure DsmPlaces where
  sequenceNumber : Option Nat
  timestamp : Option Nat
  fields : List Nat
  deriving DecidableEq, Repr

/-- The loop of `Network_DataSetFields_To_UADP`, with the positions. -/
def fieldsPreencode : List (Variant Obj) → Codec Status (List Nat)
  | [] => pure []
  | value :: values => do
      let start ← get
      variantWriteAt cst objs (roomAt cst 0) value
      let places ← fieldsPreencode values
      pure (start.position :: places)

/-- `Network_DataSetFields_To_UADP`, with the positions. -/
def dataSetFieldsPreencode (fields : DataSetFields Obj) : Codec Status (List Nat) := do
  uint16Write (roomAt cst 0) fields.length
  fieldsPreencode cst objs fields.toList

/-- A data set message, with the positions. -/
def dsmPreencode (dsm : DataSetMessage Obj) : Codec Stop DsmPlaces :=
  if dsm.conf.supported then do
    flagsWrite dsm.conf.flags1
    writeIf (dsm.conf.isFlags2Enabled = true) (flagsWrite dsm.conf.flags2)
    let sequenceNumber ← placeIf (dsm.conf.dataSetMessageSequenceNumberFlag = true)
      (failWith (.error .writeDsmSeqNumFailed) (uint16Write (roomAt cst 0) dsm.sequenceNumber))
    let timestamp ← placeIf (dsm.conf.timestampFlag = true)
      (failWith (.error .writeDsmTimestampFailed) (scalarWrite .uint64 (roomAt cst 0) dsm.timestamp))
    let fields ← readIf (dsm.conf.dataSetMessageType ≠ .keepAlive)
      (failWith (.error .writeDsmFieldFailed) (dataSetFieldsPreencode cst objs dsm.fields)) []
    pure ⟨sequenceNumber, timestamp, fields⟩
  else throw .assertion

/-- The loop on the data set messages, with the positions. -/
def dsmsPreencode (sized : Bool) : Nat → List (DataSetMessage Obj) → Codec Stop (List DsmPlaces)
  | _, [] => pure []
  | index, dsm :: dsms => do
      let payload ← get
      let places ← dsmPreencode cst objs dsm
      writeIf (sized = true) (dsmSizeWrite cst index payload.position)
      let rest ← dsmsPreencode sized (index + 1) dsms
      pure (places :: rest)

/-- The buffer of the payload, with the positions. -/
def payloadPreencode (dsms : List (DataSetMessage Obj)) : Codec Stop (List DsmPlaces) := do
  writeIf (1 < dsms.length) (writeList (fun _ => failWith (.error .writeDsmPreSizeFailed)
    (uint16Write (roomAt cst 0) 0)) dsms)
  dsmsPreencode cst objs (1 < dsms.length) 0 dsms

/-- The positions of the token and of the nonce. -/
structure SecurityPlaces where
  tokenId : Nat
  nonceMessage : Nat
  deriving DecidableEq, Repr

/-- The security header, with zeros for the token and the nonce.  These writes are asserted to
    succeed. -/
def securityHeaderPreencode (security : Security) : Codec Stop SecurityPlaces := do
  flagsWrite (securityFlags security)
  let tokenId ← get
  failWith .assertion (uint32Write (roomAt cst 0) 0)
  failWith (.error .writeBufferFailed) (byteWrite (roomAt cst 0) 8)
  let nonce ← get
  failWith .assertion (writeEach 8 fun _ => byteWrite (roomAt cst 0) 0)
  pure ⟨tokenId.position, nonce.position⟩

/-- The buffer of the headers, with the positions. -/
def headerPreencode (nm : NetworkMessage Obj) (dsms : List (DataSetMessage Obj))
    (security : Option Security) : Codec Stop (Option SecurityPlaces) :=
  match nm.header.getPublisherId with
  | none => throw .assertion
  | some id => do
      networkMessageHeaderWrite cst nm.header.uadpVersion id security.isSome
      groupHeaderWrite cst nm.groupId nm.groupVersion
      payloadHeaderWrite cst dsms
      match security with
      | none => pure none
      | some security => do
          let places ← securityHeaderPreencode cst security
          pure (some places)

/-- `SOPC_PubFixedBuffer_Buffer_Ctx`, the positions of a data set message being relative to the
    start of the payload. -/
structure PreencodeBuffer where
  security : Option SecurityPlaces
  payloadStart : Nat
  dsms : List DsmPlaces
  signPosition : Option Nat
  buffer : Buffer

/-- `SOPC_DataSet_LL_NetworkMessage_Create_Preencode_Buffer`: the buffers are put together without
    a signature. -/
def createPreencodeBuffer (nm : NetworkMessage Obj) (security : Option Security)
    (now : Nat → UInt64) : Except Stop PreencodeBuffer := do
  let (places, header) ← headerPreencode cst nm (nm.sentMessages now) security
    (Buffer.empty pubSubBufferSize)
  let (dsms, payload) ← payloadPreencode cst objs (nm.sentMessages now)
    (Buffer.empty pubSubBufferSize)
  let message ← buildFinalMessage crypto none header payload
  pure
    { security := places
      payloadStart := header.position
      dsms := dsms
      signPosition := if security.isSome then some message.data.length else none
      buffer := message }

/-! ## Updating the buffer -/

/-- A write at a position. -/
abbrev Update := Nat × Codec Stop Unit

/-- One write after the other, until one fails. -/
def applyUpdates : List Update → Buffer → Buffer × Bool
  | [], buffer => (buffer, true)
  | (position, w) :: updates, buffer =>
    match (seekTo .assertion position >>= fun _ => w) buffer with
    | .ok (_, buffer) => applyUpdates updates buffer
    | .error _ => (buffer, false)

/-- The sequence number and the timestamp of a data set message, copied as they lie in memory. -/
def DsmPlaces.dynamicUpdates (payloadStart : Nat) (places : DsmPlaces) (dsm : DataSetMessage Obj)
    (now : UInt64) : List Update :=
  (places.sequenceNumber.map fun position => (payloadStart + position,
      failWith .assertion (bufferWrite (Scalar.uint16.bytes dsm.sequenceNumber)))).toList ++
    (places.timestamp.map fun position => (payloadStart + position,
      failWith .assertion (bufferWrite (Scalar.uint64.bytes now)))).toList

/-- The fields of a data set message. -/
def DsmPlaces.fieldUpdates (payloadStart : Nat) (places : DsmPlaces) (dsm : DataSetMessage Obj) :
    List Update :=
  (places.fields.zip dsm.fields.toList).map fun (position, value) => (payloadStart + position,
    failWith .assertion (variantWriteAt cst objs (roomAt cst 0) value))

/-- The parts that need the keys of the security. -/
def securedUpdates (security : Option Security) (updates : Security → GroupKeys → List Update) :
    List Update :=
  match security with
  | none => []
  | some security =>
    match security.groupKeys with
    | none => [(0, throw .assertion)]
    | some keys => updates security keys

variable (preencode : PreencodeBuffer)

/-- The writes of `SOPC_PubFixedBuffer_Get_UpdatedBuffer` but the last. -/
def PreencodeBuffer.updates (dsms : List (DataSetMessage Obj))
    (security : Option Security) (now : Nat → UInt64) : List Update :=
  (preencode.dsms.zip dsms).zipIdx.flatMap (fun ((places, dsm), i) =>
      places.dynamicUpdates preencode.payloadStart dsm (now i)) ++
    (preencode.security.toList.flatMap fun places => securedUpdates security fun security keys =>
      [(places.tokenId, failWith .assertion (uint32Write (roomAt cst 0) keys.tokenId)),
        (places.nonceMessage, failWith .assertion (nonceWrite cst security))]) ++
    (preencode.dsms.zip dsms).flatMap fun (places, dsm) =>
      places.fieldUpdates cst objs preencode.payloadStart dsm

/-- The last write: the signature of what comes before its position. -/
def PreencodeBuffer.signUpdate (security : Option Security) :
    List Update :=
  preencode.signPosition.toList.flatMap fun position => securedUpdates security fun _ keys =>
    [(position, securitySign crypto keys)]

/-- `SOPC_PubFixedBuffer_Get_UpdatedBuffer`: the buffer of the context, and if it is to be
    sent. -/
def getUpdatedBuffer (nm : NetworkMessage Obj)
    (security : Option Security) (now : Nat → UInt64) : PreencodeBuffer × Bool :=
  let dsms := nm.dataSetMessages.filter (·.enableEmission)
  let (buffer, sent) := applyUpdates
    (preencode.updates cst objs dsms security now ++ preencode.signUpdate crypto security)
    preencode.buffer
  ({ preencode with buffer := buffer }, sent)

/-! ## The sizes of the values -/

/-- The size of the values of a type, for the types of which all values have the same. -/
def fixedWidth : BuiltinId → Option Nat
  | .boolean | .sByte | .byte => some 1
  | .int16 | .uint16 => some 2
  | .int32 | .uint32 | .float | .statusCode => some 4
  | .int64 | .uint64 | .double | .dateTime => some 8
  | .guid => some 16
  | _ => none

theorem bufferWrite_puts (bytes : List UInt8) : Puts (bufferWrite bytes) bytes.length :=
  fun _ _ hw => ⟨bytes, rfl, bufferWrite_eq_ok hw⟩

variable {n : Nat}

theorem nested_puts {room : Nat} {w : Nat → Writer} (h : ∀ room', Puts (w room') n) :
    Puts (nested room w) n := by
  cases room with
  | zero => exact Puts.throw _ n
  | succ room => exact h room

variable {α : Type}

theorem scalarWrite_puts (s : Scalar α) (room : Nat) (value : α) :
    Puts (scalarWrite s room value) s.width := by
  apply nested_puts
  intro _
  have h := (bufferWrite_puts (s.bytes value)).mapErrors writeStatus
  rw [s.length_bytes] at h
  exact h

theorem guidWrite_puts (room : Nat) (guid : Guid) : Puts (guidWrite room guid) 16 := by
  apply nested_puts
  intro room'
  apply Puts.mapErrors
  have hdata4 : Puts (bufferWrite guid.data4.toList) 8 := by
    have h := bufferWrite_puts guid.data4.toList
    rw [Vector.length_toList] at h
    exact h
  exact (scalarWrite_puts .uint32 room' _).bind ((scalarWrite_puts .uint16 room' _).bind
    ((scalarWrite_puts .uint16 room' _).bind hdata4))

variable {id : BuiltinId} {k : Nat}

section
variable {cst objs}

theorem flatWrite_puts (h : fixedWidth id = some k) (room : Nat) (value : FlatValue Obj id) :
    Puts (flatWrite cst objs room value) k := by
  cases value with
  | boolean v =>
    cases h
    exact nested_puts fun room' => scalarWrite_puts .uint8 room' _
  | dateTime v =>
    cases h
    exact nested_puts fun room' => scalarWrite_puts .int64 room' v
  | guid v => cases h; exact guidWrite_puts room v
  | string | byteString | xmlElement | nodeId | expandedNodeId | qualifiedName | localizedText
  | extensionObject | diagnosticInfo => cases h
  | _ => cases h; exact scalarWrite_puts _ room _

theorem elementWrite_puts (h : fixedWidth id = some k) (room : Nat)
    (variantW : Variant Obj → Writer) (dataValueW : DataValue Obj → Writer)
    (value : Builtin Obj id) :
    Puts (elementWrite cst objs room variantW dataValueW value) k := by
  cases value with
  | flat v => exact flatWrite_puts h room v
  | dataValue v => cases h
  | variant v => cases h

/-- The size of an array depends on its type and its length. -/
theorem variantArrayWrite_puts (length : Int32) :
    ∃ n, ∀ (room : Nat) (elem : Builtin Obj id → Writer) (array : ArrayValue Obj id),
      (∀ value, Puts (elem value) k) → array.length = length →
      Puts (variantArrayWrite room elem array) n := by
  by_cases hnull : id = .null
  · refine ⟨0, fun room elem array _ _ => ?_⟩
    rw [variantArrayWrite, if_pos hnull]
    exact Puts.throw _ 0
  cases hs : (optimizableScalar id : Option (Scalar (Builtin Obj id))) with
  | some s =>
    refine ⟨4 + (if 0 < length then length.toInt.toNat * s.width % 2 ^ 32 else 0), ?_⟩
    rintro room elem ⟨length, content⟩ - rfl
    rw [variantArrayWrite, if_neg hnull, hs]
    apply (scalarWrite_puts .int32 room length).bind
    apply Puts.optional
    -- The count is a remainder, so that it is within the bytes of the array
    have h := bufferWrite_puts ((s.rawBytes content).take (length.toInt.toNat * s.width % 2 ^ 32))
    rw [length_take, Scalar.length_rawBytes, Nat.min_eq_left (Nat.mod_le _ _)] at h
    exact h
  | none =>
    refine ⟨4 + length.toInt.toNat * k, ?_⟩
    rintro room elem ⟨length, content⟩ helem rfl
    rw [variantArrayWrite, if_neg hnull, hs]
    exact (scalarWrite_puts .int32 room length).bind (Puts.each fun i => helem (content i))

theorem null_puts (room : Nat) : Puts (variantWriteAt cst objs room (.null : Variant Obj)) 1 := by
  rcases room with _ | room
  · exact Puts.throw _ 1
  rw [variantWriteAt]
  exact (scalarWrite_puts .uint8 room _).bind Puts.pure

theorem single_puts (h : fixedWidth id = some k) (room : Nat) (value : Builtin Obj id) :
    Puts (variantWriteAt cst objs room (.single value)) (1 + k) := by
  rcases room with _ | room
  · exact Puts.throw _ _
  rw [variantWriteAt]
  apply (scalarWrite_puts .uint8 room _).bind
  rw [variantValueWrite]
  split_ifs with hvariant
  · exact Puts.throw _ _
  · exact elementWrite_puts h room _ _ value

theorem array_puts (h : fixedWidth id = some k) (room : Nat) (length : Int32) :
    ∃ n, ∀ content, Puts (variantWriteAt cst objs room (Variant.array id length content)) (1 + n) := by
  obtain ⟨n, hn⟩ := @variantArrayWrite_puts Obj id k (clampLength length)
  refine ⟨n, fun content => ?_⟩
  rcases room with _ | room
  · exact Puts.throw _ _
  rw [variantWriteAt]
  apply (scalarWrite_puts .uint8 room _).bind
  rw [variantValueWrite]
  split_ifs with hlength
  · exact Puts.throw _ _
  cases room with
  | zero => exact Puts.throw _ _
  | succ room => exact hn room _ (clampedArray length content) (elementWrite_puts h room _ _) rfl

end

/-! ## The values of a field -/

/-- The length of an array.  The number of dimensions of a matrix lies at the same place in the
    variant. -/
def arrayLength : Variant Obj → Int32
  | .array _ length _ => length
  | .matrix _ dimensions _ _ => dimensions
  | _ => 0

/-- `SOPC_PubSubHelpers_IsPreencodeCompatibleVariant`. -/
def isPreencodeCompatibleVariant (field : FieldMetaData) (variant : Variant Obj) : Bool :=
  if field.builtinType = variant.builtInTypeId ∧
      field.arrayDimension.valueRank = valueRank variant then
    if h : field.arrayDimension.valueRank = 1 then
      (field.arrayDimension.arrayDimensions (Fin.mk 0 (by rw [h]; decide))).toInt32 =
        arrayLength variant
    else valueRank variant = -1
  else false

/-- The value of a field in `Initialize_DataSetField_From_WriterGroup`, if its type and its rank
    are supported.  The value of a Guid is a null pointer, which is not written, and neither is an
    array of null values. -/
def initialFieldValue (Obj : Type) (field : FieldMetaData) : Option (Variant Obj) :=
  if field.arrayDimension.valueRank = -1 then
    if h : field.builtinType = .null then some .null
    else if field.builtinType ≠ .guid ∧ (fixedWidth field.builtinType).isSome then
      some (.single (initialBuiltin Obj field.builtinType h))
    else none
  else if hrank : field.arrayDimension.valueRank = 1 then
    if h : field.builtinType = .null then none
    else if (fixedWidth field.builtinType).isSome then
      some (.array field.builtinType
        (field.arrayDimension.arrayDimensions (Fin.mk 0 (by rw [hrank]; decide))).toInt32
        fun _ => initialBuiltin Obj field.builtinType h)
    else none
  else none

/-- The values that a message of a fixed size takes for a field all have one size, that of its
    initial value. -/
def FieldSize (field : FieldMetaData) (n : Nat) : Prop :=
  1 ≤ n ∧ ∀ value : Variant Obj, isPreencodeCompatibleVariant field value = true →
    value.arrayType ≠ .matrix → Puts (variantWriteAt cst objs (roomAt cst 0) value) n

variable {field : FieldMetaData}

section
variable {cst objs}

theorem isPreencodeCompatibleVariant_iff {value : Variant Obj} :
    isPreencodeCompatibleVariant field value = true ↔
      field.builtinType = value.builtInTypeId ∧
      field.arrayDimension.valueRank = valueRank value ∧
      ((∃ h : field.arrayDimension.valueRank = 1,
          (field.arrayDimension.arrayDimensions (Fin.mk 0 (by rw [h]; decide))).toInt32 =
            arrayLength value) ∨ valueRank value = -1) := by
  rw [isPreencodeCompatibleVariant]
  by_cases hsame : field.builtinType = value.builtInTypeId ∧
      field.arrayDimension.valueRank = valueRank value
  · rw [if_pos hsame]
    by_cases hrank : field.arrayDimension.valueRank = 1
    · rw [dif_pos hrank, decide_eq_true_eq]
      constructor
      · intro h
        exact ⟨hsame.1, hsame.2, Or.inl ⟨hrank, h⟩⟩
      · rintro ⟨-, -, ⟨_, h⟩ | h⟩
        · exact h
        · rw [← hsame.2, hrank] at h
          exact absurd h (by decide)
    · rw [dif_neg hrank, decide_eq_true_eq]
      constructor
      · intro h
        exact ⟨hsame.1, hsame.2, Or.inr h⟩
      · rintro ⟨-, -, ⟨h, -⟩ | h⟩
        · exact absurd h hrank
        · exact h
  · rw [if_neg hsame]
    exact iff_of_false Bool.false_ne_true fun h => hsame ⟨h.1, h.2.1⟩

theorem fieldSize_initial {initial : Variant Obj} (h : initialFieldValue Obj field = some initial) :
    ∃ n, FieldSize cst objs field n ∧
      Puts (variantWriteAt cst objs (roomAt cst 0) initial) n := by
  rw [initialFieldValue] at h
  by_cases hscalar : field.arrayDimension.valueRank = -1
  · rw [if_pos hscalar] at h
    -- A compatible value is a scalar of the type
    by_cases hnull : field.builtinType = .null
    · rw [dif_pos hnull] at h
      cases h
      refine ⟨1, ⟨le_refl 1, fun value hcompatible _ => ?_⟩, null_puts _⟩
      obtain ⟨htype, hrank, -⟩ := isPreencodeCompatibleVariant_iff.1 hcompatible
      rw [hnull] at htype
      rw [hscalar] at hrank
      cases value with
      | null => exact null_puts _
      | single v =>
        subst htype
        cases v with
        | flat v => cases v
      | array id length content => cases hrank
      | matrix => contradiction
    · rw [dif_neg hnull] at h
      split_ifs at h with hfixed
      cases h
      obtain ⟨k, hk⟩ := Option.isSome_iff_exists.1 hfixed.2
      refine ⟨1 + k, ⟨by omega, fun value hcompatible _ => ?_⟩, single_puts hk _ _⟩
      obtain ⟨htype, hrank, -⟩ := isPreencodeCompatibleVariant_iff.1 hcompatible
      rw [hscalar] at hrank
      cases value with
      | null => exact absurd htype hnull
      | single v =>
        rw [show field.builtinType = _ from htype] at hk
        exact single_puts hk _ v
      | array id length content => cases hrank
      | matrix => contradiction
  · rw [if_neg hscalar] at h
    split_ifs at h with hrank hnull hfixed
    cases h
    obtain ⟨k, hk⟩ := Option.isSome_iff_exists.1 hfixed
    obtain ⟨n, hn⟩ := @array_puts Obj cst objs _ k hk (roomAt cst 0)
      (field.arrayDimension.arrayDimensions (Fin.mk 0 (by rw [hrank]; decide))).toInt32
    refine ⟨1 + n, ⟨by omega, fun value hcompatible hmatrix => ?_⟩, hn _⟩
    obtain ⟨htype, hsame, hlength⟩ := isPreencodeCompatibleVariant_iff.1 hcompatible
    rw [hrank] at hsame
    cases value with
    | null => cases hsame
    | single v => cases hsame
    | array id length content =>
      obtain ⟨_, hlength⟩ | hlength := hlength
      · obtain rfl : _ = length := hlength
        obtain rfl : _ = id := htype
        exact hn content
      · cases hlength
    | matrix => exact absurd rfl hmatrix

end

/-! ## The places of a message -/

/-- The parts of a data set message that change end before a position. -/
structure DsmPlaces.Fits (fields : List FieldMetaData) (stop : Nat) (places : DsmPlaces) : Prop where
  sequenceNumber : ∀ position ∈ places.sequenceNumber, position + 2 ≤ stop
  timestamp : ∀ position ∈ places.timestamp, position + 8 ≤ stop
  fields : List.Forall₂ (fun position field => ∃ n, FieldSize cst objs field n ∧ position + n ≤ stop)
    places.fields fields

/-- The values of a data set message are the initial ones of its fields. -/
def InitialValues (dsm : DataSetMessage Obj) (fields : List FieldMetaData) : Prop :=
  dsm.conf.dataSetMessageType ≠ .keepAlive ∧
    List.Forall₂ (fun value field => initialFieldValue Obj field = some value)
      dsm.fields.toList fields

variable {fields : List FieldMetaData} {stop : Nat} {places : DsmPlaces} {b b' : Buffer}
  {dsms : List (DataSetMessage Obj)} {fieldss : List (List FieldMetaData)}

section
variable {cst objs}

theorem DsmPlaces.Fits.mono {stop' : Nat} (h : places.Fits cst objs fields stop)
    (hle : stop ≤ stop') : places.Fits cst objs fields stop' where
  sequenceNumber := fun position hp => (h.sequenceNumber position hp).trans hle
  timestamp := fun position hp => (h.timestamp position hp).trans hle
  fields := h.fields.imp fun _ _ ⟨n, hn, hstop⟩ => ⟨n, hn, hstop.trans hle⟩

theorem placeIf_ok {ε : Type} {p : Prop} [Decidable p] {w : Codec ε Unit} {place : Option Nat}
    (hw : Puts w n) (h : placeIf p w b = .ok (place, b')) :
    b.position ≤ b'.position ∧ ∀ position ∈ place, position + n ≤ b'.position := by
  unfold placeIf at h
  split_ifs at h with hp
  · rw [get_bind] at h
    obtain ⟨_, b₁, hwb, h⟩ := bind_eq_ok h
    cases h
    have hpos := hw.position_eq hwb
    refine ⟨by omega, fun position hposition => ?_⟩
    obtain rfl := Option.mem_some_iff.1 hposition
    omega
  · cases h
    exact ⟨le_refl _, fun _ h => absurd h (Option.not_mem_none _)⟩

theorem fieldsPreencode_ok {values : List (Variant Obj)} {places : List Nat} (hinit : Forall₂
      (fun value field => initialFieldValue Obj field = some value) values fields)
    (h : fieldsPreencode cst objs values b = .ok (places, b')) :
    b.position ≤ b'.position ∧
      Forall₂ (fun position field => ∃ n, FieldSize cst objs field n ∧
        position + n ≤ b'.position) places fields := by
  induction hinit generalizing places b with
  | nil =>
    cases h
    exact ⟨le_refl _, .nil⟩
  | cons hfield hfields ih =>
    rw [fieldsPreencode, get_bind] at h
    obtain ⟨_, b₁, hw, h⟩ := bind_eq_ok h
    obtain ⟨rest, b₂, hrest, h⟩ := bind_eq_ok h
    cases h
    obtain ⟨n, hsize, hputs⟩ := @fieldSize_initial Obj cst objs _ _ hfield
    have hpos := hputs.position_eq hw
    obtain ⟨hle, hplaces⟩ := ih hrest
    exact ⟨by omega, .cons ⟨n, hsize, by omega⟩ hplaces⟩

theorem flagsWrite_puts (byte : UInt8) : Puts (flagsWrite byte) 1 :=
  (bufferWrite_puts [byte]).failWith _

theorem dsmPreencode_ok {dsm : DataSetMessage Obj} (hinit : InitialValues dsm fields)
    (h : dsmPreencode cst objs dsm b = .ok (places, b')) :
    b.position ≤ b'.position ∧ places.Fits cst objs fields b'.position := by
  unfold dsmPreencode at h
  by_cases hsupported : dsm.conf.supported = true
  swap
  · rw [if_neg hsupported] at h
    cases h
  rw [if_pos hsupported] at h
  obtain ⟨_, b₁, hflags1, h⟩ := bind_eq_ok h
  obtain ⟨_, b₂, hflags2, h⟩ := bind_eq_ok h
  obtain ⟨sequenceNumber, b₃, hsn, h⟩ := bind_eq_ok h
  obtain ⟨timestamp, b₄, hts, h⟩ := bind_eq_ok h
  obtain ⟨fieldPlaces, b₅, hfields, h⟩ := bind_eq_ok h
  cases h
  have hpos₁ := (flagsWrite_puts _).position_eq hflags1
  have hpos₂ := (flagsWrite_puts _).optional.position_eq hflags2
  obtain ⟨hpos₃, hsn⟩ := placeIf_ok ((scalarWrite_puts .uint16 _ _).failWith _) hsn
  obtain ⟨hpos₄, hts⟩ := placeIf_ok ((scalarWrite_puts .uint64 _ _).failWith _) hts
  rw [readIf, if_pos hinit.1] at hfields
  obtain ⟨_, b₆, hlength, hfields⟩ := bind_eq_ok (failWith_eq_ok.1 hfields)
  have hpos₆ := (scalarWrite_puts .uint16 _ _).position_eq hlength
  obtain ⟨hpos₅, hplaces⟩ := fieldsPreencode_ok hinit.2 hfields
  refine ⟨by omega, ?_, ?_, hplaces⟩
  · intro position hposition
    have : position + 2 ≤ b₃.position := hsn position hposition
    omega
  · intro position hposition
    have : position + 8 ≤ b₄.position := hts position hposition
    omega

variable {index : Nat}

theorem dsmSizeWrite_position {dsmStart : Nat}
    (h : dsmSizeWrite cst index dsmStart b = .ok ((), b')) : b'.position = b.position := by
  rw [dsmSizeWrite, get_bind] at h
  obtain ⟨_, b₁, -, h⟩ := bind_eq_ok h
  obtain ⟨_, b₂, -, h⟩ := bind_eq_ok h
  exact (Buffer.seek_eq_some.1 (seekTo_eq_ok h)).2.2.1

theorem dsmsPreencode_ok {sized : Bool} {places : List DsmPlaces}
    (hinit : Forall₂ InitialValues dsms fieldss)
    (h : dsmsPreencode cst objs sized index dsms b = .ok (places, b')) :
    b.position ≤ b'.position ∧
      Forall₂ (fun places fields => places.Fits cst objs fields b'.position) places fieldss := by
  induction hinit generalizing index places b with
  | nil =>
    cases h
    exact ⟨le_refl _, .nil⟩
  | cons hdsm hdsms ih =>
    rw [dsmsPreencode, get_bind] at h
    obtain ⟨first, b₁, hfirst, h⟩ := bind_eq_ok h
    obtain ⟨_, b₂, hsize, h⟩ := bind_eq_ok h
    obtain ⟨rest, b₃, hrest, h⟩ := bind_eq_ok h
    cases h
    obtain ⟨hpos₁, hfits⟩ := dsmPreencode_ok hdsm hfirst
    have hpos₂ : b₂.position = b₁.position := by
      rw [writeIf] at hsize
      split_ifs at hsize
      · exact dsmSizeWrite_position hsize
      · cases hsize
        rfl
    obtain ⟨hpos₃, hplaces⟩ := ih hrest
    exact ⟨by omega, .cons (hfits.mono (by omega)) hplaces⟩

end

/-- The parts of a message that change end before a position. -/
structure PreencodeBuffer.Fits (fieldss : List (List FieldMetaData)) (stop : Nat)
    (preencode : PreencodeBuffer) : Prop where
  security : ∀ places ∈ preencode.security,
    places.tokenId + 4 ≤ stop ∧ places.nonceMessage + 8 ≤ stop
  dsms : ∃ payloadStop, preencode.payloadStart + payloadStop ≤ stop ∧
    List.Forall₂ (fun places fields => places.Fits cst objs fields payloadStop)
      preencode.dsms fieldss

variable {security : Option Security} {nm : NetworkMessage Obj} {header message : Buffer}
  {preencode : PreencodeBuffer}

section
variable {cst objs crypto}

theorem securityHeaderPreencode_ok {security : Security} {places : SecurityPlaces}
    (h : securityHeaderPreencode cst security b = .ok (places, b')) :
    places.tokenId + 4 ≤ b'.position ∧ places.nonceMessage + 8 ≤ b'.position := by
  obtain ⟨_, b₁, -, h⟩ := bind_eq_ok h
  rw [get_bind] at h
  obtain ⟨_, b₂, htoken, h⟩ := bind_eq_ok h
  obtain ⟨_, b₃, hlength, h⟩ := bind_eq_ok h
  rw [get_bind] at h
  obtain ⟨_, b₄, hnonce, h⟩ := bind_eq_ok h
  obtain ⟨rfl, rfl⟩ := Prod.mk.inj (Except.ok.inj h)
  have hpos₂ : b₂.position = b₁.position + 4 :=
    ((scalarWrite_puts .uint32 _ _).failWith _).position_eq htoken
  have hpos₃ : b₃.position = b₂.position + 1 :=
    ((scalarWrite_puts .uint8 _ _).failWith _).position_eq hlength
  have hpos₄ : b₄.position = b₃.position + 8 * 1 :=
    ((Puts.each fun _ => scalarWrite_puts .uint8 _ 0).failWith _).position_eq hnonce
  constructor
  · show b₁.position + 4 ≤ b₄.position
    omega
  · show b₃.position + 8 ≤ b₄.position
    omega

theorem headerPreencode_ok {place : Option SecurityPlaces}
    (h : headerPreencode cst nm dsms security b = .ok (place, b')) :
    ∀ places ∈ place, places.tokenId + 4 ≤ b'.position ∧ places.nonceMessage + 8 ≤ b'.position := by
  unfold headerPreencode at h
  rcases hid : nm.header.getPublisherId with _ | id
  · rw [hid] at h; cases h
  rw [hid] at h
  obtain ⟨_, b₁, -, h⟩ := bind_eq_ok h
  obtain ⟨_, b₂, -, h⟩ := bind_eq_ok h
  obtain ⟨_, b₃, -, h⟩ := bind_eq_ok h
  rcases security with _ | security
  · cases h
    exact fun _ h => absurd h (Option.not_mem_none _)
  obtain ⟨places, b₄, hplaces, h⟩ := bind_eq_ok h
  cases h
  rintro _ hp
  obtain rfl := Option.mem_some_iff.1 hp
  exact securityHeaderPreencode_ok hplaces

theorem flushPayload_data {payload : List UInt8} (h : flushPayload header payload = .ok message) :
    message.data = header.data ++ payload ∧ message.position = message.data.length := by
  unfold flushPayload at h
  rcases hw : (header.seek header.data.length).bind (·.write payload) with _ | written
  · rw [hw] at h; cases h
  rw [hw] at h
  cases h
  obtain ⟨start, hseek, hwrite⟩ := Option.bind_eq_some_iff.1 hw
  obtain ⟨-, hdata, hpos, -⟩ := Buffer.seek_eq_some.1 hseek
  obtain ⟨-, hdata', hpos', -⟩ := Buffer.write_eq_some.1 hwrite
  rw [hdata, hpos, take_length, drop_eq_nil_of_le (Nat.le_add_right _ _),
    append_nil] at hdata'
  rw [hpos', hdata', hpos, length_append]
  exact ⟨rfl, rfl⟩

variable (crypto) in
/-- The signature at the end of `BuildFinalMessage`. -/
def signatureWrite : Option (Security × GroupKeys) → Codec Stop Unit
  | some (security, keys) => writeIf (security.signedEnabled = true) (securitySign crypto keys)
  | none => pure ()

variable {payload : Buffer}

/-- The steps of a message that is put together. -/
theorem buildFinalMessage_ok (h : buildFinalMessage crypto security header payload = .ok message) :
    ∃ keyed sent flushed signed, withKeys security = .ok keyed ∧
      sentPayload crypto keyed payload.data = .ok sent ∧ flushPayload header sent = .ok flushed ∧
      signatureWrite crypto keyed flushed = .ok ((), signed) ∧ message.data = signed.data := by
  obtain ⟨keyed, hkeyed, h⟩ := except_bind_eq_ok h
  obtain ⟨sent, hsent, h⟩ := except_bind_eq_ok h
  obtain ⟨flushed, hflushed, h⟩ := except_bind_eq_ok h
  obtain ⟨⟨_, signed⟩, hsigned, h⟩ := except_bind_eq_ok h
  obtain ⟨⟨_, final⟩, hseek, h⟩ := except_bind_eq_ok h
  cases h
  refine ⟨keyed, sent, flushed, signed, hkeyed, hsent, hflushed, hsigned, ?_⟩
  exact (Buffer.seek_eq_some.1 (seekTo_eq_ok hseek)).2.1

theorem buildFinalMessage_none (h : buildFinalMessage crypto none header payload = .ok message) :
    message.data = header.data ++ payload.data := by
  obtain ⟨keyed, sent, flushed, signed, hkeyed, hsent, hflushed, hsigned, hdata⟩ :=
    buildFinalMessage_ok h
  cases hkeyed
  cases hsent
  cases hsigned
  rw [hdata]
  exact (flushPayload_data hflushed).1

theorem createPreencodeBuffer_ok {now : Nat → UInt64}
    (hinit : Forall₂ InitialValues (nm.sentMessages now) fieldss)
    (h : createPreencodeBuffer cst objs crypto nm security now = .ok preencode) :
    preencode.Fits cst objs fieldss preencode.buffer.data.length ∧
      preencode.signPosition =
        if security.isSome then some preencode.buffer.data.length else none := by
  obtain ⟨⟨place, header⟩, hheader, h⟩ := except_bind_eq_ok h
  obtain ⟨⟨places, payload⟩, hpayload, h⟩ := except_bind_eq_ok h
  obtain ⟨message, hmessage, h⟩ := except_bind_eq_ok h
  cases h
  have hlength : message.data.length = header.data.length + payload.data.length := by
    rw [buildFinalMessage_none hmessage, length_append]
  have hheaderPos := header.position_le
  have hpayloadPos := payload.position_le
  refine ⟨⟨fun places hplaces => ?_, payload.position, ?_, ?_⟩, rfl⟩
  · have hsecurity := headerPreencode_ok hheader places hplaces
    show places.tokenId + 4 ≤ message.data.length ∧ places.nonceMessage + 8 ≤ message.data.length
    omega
  · show header.position + payload.position ≤ message.data.length
    omega
  · obtain ⟨_, b₁, -, hdsms⟩ := bind_eq_ok hpayload
    exact (dsmsPreencode_ok hinit hdsms).2

end

/-! ## The updated buffer -/

/-- A write that ends before a position. -/
def Update.Within (stop : Nat) (update : Update) : Prop :=
  ∃ n, Puts update.2 n ∧ update.1 + n ≤ stop

/-- What is written for a field: a value of its type, or a status code. -/
def FieldValue (value : Variant Obj) (field : FieldMetaData) : Prop :=
  (isPreencodeCompatibleVariant field value = true ∧ value.arrayType ≠ .matrix) ∨
    ∃ status, value = .single (.flat (.statusCode status))

theorem Update.Within.mono {stop' : Nat} {update : Update} (h : update.Within stop)
    (hle : stop ≤ stop') : update.Within stop' :=
  h.imp fun _ hn => ⟨hn.1, hn.2.trans hle⟩

theorem applyUpdates_append (updates updates' : List Update) (buffer : Buffer) :
    applyUpdates (updates ++ updates') buffer =
      if (applyUpdates updates buffer).2 then applyUpdates updates' (applyUpdates updates buffer).1
      else ((applyUpdates updates buffer).1, false) := by
  induction updates generalizing buffer with
  | nil => rfl
  | cons update updates ih =>
    obtain ⟨position, w⟩ := update
    rw [cons_append, applyUpdates, applyUpdates]
    cases (seekTo Stop.assertion position >>= fun _ => w) buffer with
    | error e => rfl
    | ok r => exact ih r.2

/-- Two lists along a third one: what stands at the same place in both is related to one of its
    elements. -/
theorem forall₂_mem_zip {β γ : Type} {R : α → γ → Prop} {S : β → γ → Prop} {as : List α}
    {bs : List β} {cs : List γ} {a : α} {b : β} (has : Forall₂ R as cs)
    (hbs : Forall₂ S bs cs) (h : (a, b) ∈ as.zip bs) : ∃ c, R a c ∧ S b c := by
  induction has generalizing bs with
  | nil => cases h
  | cons hac _ ih =>
    cases hbs with
    | cons hbc hrest =>
      rcases mem_cons.1 h with heq | hmem
      · cases heq
        exact ⟨_, hac, hbc⟩
      · exact ih hrest hmem

theorem seek_puts_length {position : Nat} {w : Codec Stop Unit} (hw : Puts w n)
    (hstop : position + n ≤ stop) (hb : b.data.length ≤ stop)
    (h : (seekTo Stop.assertion position >>= fun _ => w) b = .ok ((), b')) :
    b'.data.length ≤ stop := by
  obtain ⟨_, b₁, hseek, hwrite⟩ := bind_eq_ok h
  obtain ⟨-, hdata, hpos, -⟩ := Buffer.seek_eq_some.1 (seekTo_eq_ok hseek)
  rw [hw.length_eq hwrite, hdata, hpos]
  omega

theorem applyUpdates_length {updates : List Update} {buffer : Buffer}
    (hupdates : ∀ update ∈ updates, update.Within stop) (hb : buffer.data.length ≤ stop) :
    (applyUpdates updates buffer).1.data.length ≤ stop := by
  induction updates generalizing buffer with
  | nil => exact hb
  | cons update updates ih =>
    obtain ⟨position, w⟩ := update
    obtain ⟨n, hw, hstop⟩ := hupdates _ mem_cons_self
    rw [applyUpdates]
    rcases h : (seekTo Stop.assertion position >>= fun _ => w) buffer with e | r
    · exact hb
    exact ih (fun u hu => hupdates u (mem_cons_of_mem _ hu)) (seek_puts_length hw hstop hb h)

section
variable {cst objs crypto}

theorem nonceWrite_puts (security : Security) : Puts (nonceWrite cst security) 8 := by
  unfold nonceWrite
  rcases security.msgNonceRandom with _ | random
  · exact Puts.throw _ 8
  have hrandom := bufferWrite_puts random.toList
  rw [Vector.length_toList] at hrandom
  exact hrandom.bind (scalarWrite_puts .uint32 _ _)

/-- A status code takes five bytes, at most four more than the value that it stands for. -/
theorem fieldValue_within {value : Variant Obj} {position : Nat} (hvalue : FieldValue value field)
    (hsize : FieldSize cst objs field n) (hstop : position + n ≤ stop) :
    ∃ m, Puts (variantWriteAt cst objs (roomAt cst 0) value) m ∧ position + m ≤ stop + 4 := by
  obtain ⟨hpos, hputs⟩ := hsize
  rcases hvalue with ⟨hcompatible, hmatrix⟩ | ⟨status, rfl⟩
  · exact ⟨n, hputs value hcompatible hmatrix, by omega⟩
  · exact ⟨1 + 4, single_puts rfl _ _, by omega⟩

variable {payloadStart payloadStop : Nat}

theorem dynamicUpdates_within (hfits : places.Fits cst objs fields payloadStop)
    (hstop : payloadStart + payloadStop ≤ stop) (dsm : DataSetMessage Obj) (now : UInt64) :
    ∀ update ∈ places.dynamicUpdates payloadStart dsm now, update.Within (stop + 4) := by
  intro update hupdate
  rcases mem_append.1 hupdate with hsn | hts
  · obtain ⟨position, hposition, rfl⟩ := Option.map_eq_some_iff.1 (Option.mem_toList.1 hsn)
    have hp := hfits.sequenceNumber position hposition
    refine ⟨2, (bufferWrite_puts _).failWith _, ?_⟩
    omega
  obtain ⟨position, hposition, rfl⟩ := Option.map_eq_some_iff.1 (Option.mem_toList.1 hts)
  have hp := hfits.timestamp position hposition
  refine ⟨8, (bufferWrite_puts _).failWith _, ?_⟩
  omega

theorem fieldUpdates_within {dsm : DataSetMessage Obj}
    (hfits : places.Fits cst objs fields payloadStop) (hstop : payloadStart + payloadStop ≤ stop)
    (hvalues : Forall₂ FieldValue dsm.fields.toList fields) :
    ∀ update ∈ places.fieldUpdates cst objs payloadStart dsm, update.Within (stop + 4) := by
  intro update hupdate
  obtain ⟨⟨position, value⟩, hmem, rfl⟩ := mem_map.1 hupdate
  obtain ⟨field, ⟨n, hsize, hn⟩, hvalue⟩ := forall₂_mem_zip hfits.fields hvalues hmem
  obtain ⟨m, hputs, hm⟩ := fieldValue_within hvalue hsize hn
  refine ⟨m, hputs.failWith _, ?_⟩
  show payloadStart + position + m ≤ stop + 4
  omega

theorem securedUpdates_within {updates : Security → GroupKeys → List Update}
    (h : ∀ security keys, ∀ update ∈ updates security keys, update.Within stop) :
    ∀ update ∈ securedUpdates security updates, update.Within stop := by
  intro update hupdate
  unfold securedUpdates at hupdate
  rcases security with _ | security
  · cases hupdate
  rcases hkeys : security.groupKeys with _ | keys
  · simp only [hkeys, mem_singleton] at hupdate
    subst hupdate
    exact ⟨0, Puts.throw _ 0, Nat.zero_le _⟩
  simp only [hkeys] at hupdate
  exact h security keys update hupdate

theorem updates_within (hfits : preencode.Fits cst objs fieldss stop) (hvalues : Forall₂ (fun
      dsm fields => Forall₂ FieldValue dsm.fields.toList fields) dsms fieldss)
    (security : Option Security) (now : Nat → UInt64) :
    ∀ update ∈ preencode.updates cst objs dsms security now, update.Within (stop + 4) := by
  obtain ⟨payloadStop, hstop, hdsms⟩ := hfits.dsms
  intro update hupdate
  rcases mem_append.1 hupdate with hupdate | hfield
  · rcases mem_append.1 hupdate with hdynamic | hsecured
    · obtain ⟨⟨⟨places, dsm⟩, i⟩, hmem, hdynamic⟩ := mem_flatMap.1 hdynamic
      obtain ⟨fields, hplaces, -⟩ := forall₂_mem_zip hdsms hvalues (fst_mem_of_mem_zipIdx hmem)
      exact dynamicUpdates_within hplaces hstop dsm (now i) update hdynamic
    obtain ⟨places, hplaces, hsecured⟩ := mem_flatMap.1 hsecured
    obtain ⟨htoken, hnonce⟩ := hfits.security places (Option.mem_toList.1 hplaces)
    refine securedUpdates_within (fun security keys update hupdate => ?_) update hsecured
    rcases mem_cons.1 hupdate with rfl | hupdate
    · exact ⟨4, (scalarWrite_puts .uint32 _ _).failWith _, htoken.trans (Nat.le_add_right _ _)⟩
    · obtain rfl := mem_singleton.1 hupdate
      exact ⟨8, (nonceWrite_puts security).failWith _, hnonce.trans (Nat.le_add_right _ _)⟩
  · obtain ⟨⟨places, dsm⟩, hmem, hfield⟩ := mem_flatMap.1 hfield
    obtain ⟨fields, hplaces, hfields⟩ := forall₂_mem_zip hdsms hvalues hmem
    exact fieldUpdates_within hplaces hstop hfields update hfield

/-- The signature of the bytes before the cursor ends the message, if the message is not longer. -/
theorem securitySign_data {keys : GroupKeys}
    (hlength : b.data.length ≤ b.position + crypto.signatureSize)
    (h : securitySign crypto keys b = .ok ((), b')) :
    ∃ signature, crypto.symmetricSign keys.signingKey (b.data.take b.position) = some signature ∧
      b'.data = b.data.take b.position ++ signature.val := by
  unfold securitySign at h
  rcases hsign : crypto.symmetricSign keys.signingKey (b.data.take b.position) with _ | signature
  · rw [hsign] at h; cases h
  rw [hsign] at h
  obtain ⟨-, hdata, -⟩ := Buffer.write_eq_some.1 (bufferWrite_eq_ok (failWith_eq_ok.1 h))
  rw [signature.property, drop_eq_nil_of_le hlength, append_nil] at hdata
  exact ⟨signature, rfl, hdata⟩

/-- A message of a fixed size does not outgrow the place of its signature, and it is signed when
    it is sent. -/
theorem updatedBuffer_signed {preencode' : PreencodeBuffer} {security : Security}
    {now : Nat → UInt64} {sent : Bool} (hsize : 4 ≤ crypto.signatureSize)
    (hfits : preencode.Fits cst objs fieldss stop) (hsign : preencode.signPosition = some stop)
    (hlength : preencode.buffer.data.length ≤ stop + crypto.signatureSize)
    (hvalues : Forall₂ (fun dsm fields => Forall₂ FieldValue dsm.fields.toList fields)
      (nm.dataSetMessages.filter (·.enableEmission)) fieldss)
    (h : getUpdatedBuffer cst objs crypto preencode nm (some security) now = (preencode', sent)) :
    preencode'.buffer.data.length ≤ stop + crypto.signatureSize ∧
      (sent = true → ∃ keys body signature, security.groupKeys = some keys ∧
        crypto.symmetricSign keys.signingKey body = some signature ∧
        preencode'.buffer.data = body ++ signature.val) := by
  cases h
  have hwithin := updates_within hfits hvalues (some security) now
  have hupdated := applyUpdates_length
    (fun u hu => (hwithin u hu).mono (Nat.add_le_add_left hsize stop)) hlength
  rw [applyUpdates_append]
  generalize applyUpdates (preencode.updates cst objs
    (nm.dataSetMessages.filter (·.enableEmission)) (some security) now) preencode.buffer = updated
    at hupdated
  obtain ⟨buffer, ok⟩ := updated
  rcases ok with _ | _
  · exact ⟨hupdated, nofun⟩
  rw [if_pos rfl, PreencodeBuffer.signUpdate, hsign]
  rcases hkeys : security.groupKeys with _ | keys
  · -- The write that stands for the missing keys fails
    have hnone : ((some stop).toList.flatMap fun position => securedUpdates (some security)
        fun _ keys => [(position, securitySign crypto keys)]) = [(0, throw .assertion)] := by
      simp [securedUpdates, hkeys]
    rw [hnone]
    exact ⟨hupdated, nofun⟩
  have hsome : ((some stop).toList.flatMap fun position => securedUpdates (some security)
      fun _ keys => [(position, securitySign crypto keys)]) =
      [(stop, securitySign crypto keys)] := by
    simp [securedUpdates, hkeys]
  rw [hsome, applyUpdates]
  rcases hlast : (seekTo Stop.assertion stop >>= fun _ => securitySign crypto keys) buffer with e | r
  · exact ⟨hupdated, nofun⟩
  obtain ⟨_, b₁, hseek, hsigned⟩ := bind_eq_ok hlast
  obtain ⟨-, hdata, hpos, -⟩ := Buffer.seek_eq_some.1 (seekTo_eq_ok hseek)
  obtain ⟨signature, hsignature, hfinal⟩ :=
    securitySign_data (by rw [hdata, hpos]; exact hupdated) hsigned
  have hlengthFinal : r.2.data.length ≤ stop + crypto.signatureSize := by
    rw [hfinal, length_append, length_take, signature.property, hpos]
    omega
  exact ⟨hlengthFinal, fun _ => ⟨keys, _, signature, rfl, hsignature, hfinal⟩⟩

end

end S2opc.PubSub
