/-
The primitives of `sopc_encoder.c`: numbers, strings and Guids.

Every Write and Read function of the source gets the number of structures it is
nested in and refuses to run once that number reaches `max_nested_struct`.
Here a function gets instead the `room` left, `max_nested_struct` minus the
source's `nestedStructLevel`: the test is `room = 0`, and the increment before
a call is a step down.

The 32-bit sum of the cursor and a count may wrap around in `SOPC_Buffer_Write`
and `SOPC_Buffer_Read`; the copy then leaves the buffer, which is reported as
`Status.undefinedBehaviour`.  The machine is little-endian and allocations
succeed.
-/
import S2opc.BuiltinTypes.Basic
import S2opc.Lib.ByteCodec

namespace S2opc.Encoder

open BuiltinTypes Lib.Bytes Lib.ByteCodec

/-- `SOPC_Common_EncodingConstants`. -/
structure EncodingConstants where
  maxStringLength : Int32
  maxArrayLength : Int32
  maxNestedDiagInfo : UInt32
  maxNestedStruct : UInt32
  deriving DecidableEq, Repr

/-- A Write function runs on a buffer. -/
abbrev Writer := Codec Status Unit

/-- A Read function runs on a buffer and yields a value. -/
abbrev Reader (α : Type) := Codec Status α

variable {slack : Nat}

/-! ## The buffer -/

/-- `SOPC_Buffer_Write`. -/
def bufferWrite (bytes : List UInt8) : Writer := fun b =>
  if (b.position + bytes.length) % 2 ^ 32 ≤ b.maximumSize.toNat then
    match b.write bytes with
    | some b' => .ok ((), b')
    | none => .error .undefinedBehaviour
  else .error .outOfMemory

/-- `SOPC_Buffer_Read`. -/
def bufferRead (count : Nat) : Reader { bytes : List UInt8 // bytes.length = count } := fun b =>
  if (b.position + count) % 2 ^ 32 ≤ b.data.length then
    match h : b.read count with
    | some (bytes, b') => .ok (⟨bytes, Buffer.read_length h⟩, b')
    | none => .error .undefinedBehaviour
  else .error .outOfMemory

theorem bufferRead_eq_ok {count : Nat} {bytes : { bytes : List UInt8 // bytes.length = count }}
    {b b' : Buffer} (h : bufferRead count b = .ok (bytes, b')) :
    b.read count = some (bytes.val, b') := by
  unfold bufferRead at h
  split_ifs at h
  split at h
  · rename_i hread
    cases h
    exact hread
  · cases h

theorem readOnly_bufferRead (count : Nat) : ReadOnly (bufferRead count) := by
  intro b bytes b' h
  exact (Buffer.read_eq_some.1 (bufferRead_eq_ok h)).2.2.1

variable {bytes : List UInt8} {b b' : Buffer}

theorem bufferWrite_eq_ok (h : bufferWrite bytes b = .ok ((), b')) :
    b.write bytes = some b' := by
  unfold bufferWrite at h
  by_cases hle : (b.position + bytes.length) % 2 ^ 32 ≤ b.maximumSize.toNat
  · rw [if_pos hle] at h
    cases hw : b.write bytes with
    | none => rw [hw] at h; cases h
    | some x => rw [hw] at h; cases h; rfl
  · rw [if_neg hle] at h
    cases h

theorem bufferRead_of_read (h : b.read bytes.length = some (bytes, b')) :
    bufferRead bytes.length b = .ok (⟨bytes, rfl⟩, b') := by
  have hle := (Buffer.read_eq_some.1 h).1
  have hlen := b.length_le
  have hmax := b.maximumSize.toNat_lt
  unfold bufferRead
  rw [if_pos (by rw [Nat.mod_eq_of_lt (by omega)]; omega)]
  split
  · rename_i bytes' b'' h'
    rw [h] at h'
    cases h'
    rfl
  rename_i h'
  rw [h] at h'
  cases h'

theorem bufferWrite_roundTrip {count : Nat} (hlen : bytes.length = count) :
    RoundTrip slack (bufferWrite bytes) (bufferRead count) ⟨bytes, hlen⟩ := by
  subst hlen
  intro b b' hw _
  exact ⟨bytes, bufferWrite_eq_ok hw, fun x x' hx => bufferRead_of_read hx⟩

theorem bufferWrite_nil : bufferWrite [] = pure () := by
  funext b
  have hpos := b.position_le
  have hlen := b.length_le
  have hmax := b.maximumSize.toNat_lt
  unfold bufferWrite
  rw [if_pos, Buffer.write_nil]
  · rfl
  · rw [List.length_nil, Nat.add_zero, Nat.mod_eq_of_lt (by omega)]
    omega

/-- The status an encoding function gives for a failed write. -/
def writeStatus : Status → Status
  | .outOfMemory => .wouldBlock
  | .undefinedBehaviour => .undefinedBehaviour
  | _ => .encodingError

/-- The status a decoding function gives for a failed read. -/
def readStatus : Status → Status
  | .undefinedBehaviour => .undefinedBehaviour
  | _ => .encodingError

/-! ## Nesting -/

/-- The test on the nesting level at the start of every function. -/
def nested {α : Type} (room : Nat) (body : Nat → Codec Status α) : Codec Status α :=
  match room with
  | 0 => throw .invalidState
  | room + 1 => body room

variable {α : Type} {room : Nat}

@[simp] theorem nested_succ (room : Nat) (body : Nat → Codec Status α) :
    nested (room + 1) body = body room := rfl

theorem nested_roundTrip {w : Nat → Writer} {r : Nat → Reader α} {a : α}
    (h : ∀ room', room = room' + 1 → RoundTrip slack (w room') (r room') a) :
    RoundTrip slack (nested room w) (nested room r) a := by
  cases room with
  | zero => exact .fail _ _ _
  | succ room => exact h room rfl

/-! ## Numbers -/

/-- A number, as all of them are written. -/
def scalarWrite {α : Type} (s : Scalar α) (room : Nat) (value : α) : Writer :=
  nested room fun _ => mapError writeStatus (bufferWrite (s.bytes value))

/-- A number, as all of them are read. -/
def scalarRead {α : Type} (s : Scalar α) (room : Nat) : Reader α :=
  nested room fun _ => mapError readStatus (bufferRead s.width) >>= fun bytes =>
    pure (s.ofBytes bytes.val)

theorem readOnly_nested {body : Nat → Codec Status α} (h : ∀ room, ReadOnly (body room)) :
    ReadOnly (nested room body) := by
  cases room with
  | zero => exact .throw _
  | succ room => exact h room

theorem readOnly_scalarRead (s : Scalar α) (room : Nat) : ReadOnly (scalarRead s room) :=
  readOnly_nested fun _ => (readOnly_bufferRead _).mapError.bind fun _ => .pure _

theorem scalar_roundTrip (s : Scalar α) (room : Nat) (value : α) :
    RoundTrip slack (scalarWrite s room value) (scalarRead s room) value := by
  refine nested_roundTrip fun room' _ => ?_
  have h : RoundTrip slack _ _ _ := bufferWrite_roundTrip (s.length_bytes value)
  exact (h.mapErrors writeStatus readStatus).last (s.ofBytes_bytes value)

/-- `SOPC_Byte_Write`. -/
def byteWrite : Nat → UInt8 → Writer := scalarWrite .uint8

/-- `SOPC_Byte_Read`. -/
def byteRead : Nat → Reader UInt8 := scalarRead .uint8

/-- `SOPC_UInt16_Write`. -/
def uint16Write : Nat → UInt16 → Writer := scalarWrite .uint16

/-- `SOPC_UInt16_Read`. -/
def uint16Read : Nat → Reader UInt16 := scalarRead .uint16

/-- `SOPC_Int32_Write`. -/
def int32Write : Nat → Int32 → Writer := scalarWrite .int32

/-- `SOPC_Int32_Read`. -/
def int32Read : Nat → Reader Int32 := scalarRead .int32

/-- `SOPC_UInt32_Write`, also `SOPC_StatusCode_Write`. -/
def uint32Write : Nat → UInt32 → Writer := scalarWrite .uint32

/-- `SOPC_UInt32_Read`, also `SOPC_StatusCode_Read`. -/
def uint32Read : Nat → Reader UInt32 := scalarRead .uint32

/-- `SOPC_Int64_Write`. -/
def int64Write : Nat → Int64 → Writer := scalarWrite .int64

/-- `SOPC_Int64_Read`. -/
def int64Read : Nat → Reader Int64 := scalarRead .int64

/-- `SOPC_Boolean_Write`: true is written as 1. -/
def booleanWrite (room : Nat) (value : UInt8) : Writer :=
  nested room fun room => byteWrite room (if value = 0 then value else 1)

/-- `SOPC_Boolean_Read`. -/
def booleanRead (room : Nat) : Reader UInt8 :=
  nested room fun room => byteRead room >>= fun value => pure (if value ≠ 0 then 1 else value)

/-- `SOPC_DateTime_Write`. -/
def dateTimeWrite (room : Nat) (date : Int64) : Writer := nested room fun room => int64Write room date

/-- `SOPC_DateTime_Read`. -/
def dateTimeRead (room : Nat) : Reader Int64 := nested room int64Read

/-- A boolean reduced to 0 or 1. -/
def booleanValue (value : UInt8) : UInt8 := if value = 0 then 0 else 1

theorem boolean_roundTrip (room : Nat) (value : UInt8) :
    RoundTrip slack (booleanWrite room value) (booleanRead room) (booleanValue value) := by
  refine nested_roundTrip fun room' _ => ?_
  refine (scalar_roundTrip .uint8 room' _).last ?_
  unfold booleanValue
  by_cases h : value = 0 <;> simp [h]

theorem dateTime_roundTrip (room : Nat) (date : Int64) :
    RoundTrip slack (dateTimeWrite room date) (dateTimeRead room) date :=
  nested_roundTrip fun room' _ => scalar_roundTrip .int64 room' date

/-! ## Floating point

A float is its bit pattern.  `fpclassify` puts a pattern with an extreme exponent and a
fraction that is not zero among the NaNs or the subnormals. -/

/-- `normalize_float`: NaN and subnormal patterns become the quiet NaN. -/
def normalizeFloat (bits : UInt32) : UInt32 :=
  let exponent := (bits >>> 23) &&& 0xFF
  let fraction := bits &&& 0x7FFFFF
  if (exponent = 0xFF ∨ exponent = 0) ∧ fraction ≠ 0 then 0x7FC00000 else bits

/-- `normalize_double`. -/
def normalizeDouble (bits : UInt64) : UInt64 :=
  let exponent := (bits >>> 52) &&& 0x7FF
  let fraction := bits &&& 0xFFFFFFFFFFFFF
  if (exponent = 0x7FF ∨ exponent = 0) ∧ fraction ≠ 0 then 0x7FF8000000000000 else bits

theorem normalizeFloat_idem (bits : UInt32) :
    normalizeFloat (normalizeFloat bits) = normalizeFloat bits := by
  by_cases h : normalizeFloat bits = bits
  · rw [h, h]
  have hnan : normalizeFloat bits = 0x7FC00000 := by
    unfold normalizeFloat at h ⊢
    simp only at h ⊢
    split_ifs at h ⊢ with hc
    · rfl
    · exact absurd rfl h
  rw [hnan]
  decide

theorem normalizeDouble_idem (bits : UInt64) :
    normalizeDouble (normalizeDouble bits) = normalizeDouble bits := by
  by_cases h : normalizeDouble bits = bits
  · rw [h, h]
  have hnan : normalizeDouble bits = 0x7FF8000000000000 := by
    unfold normalizeDouble at h ⊢
    simp only at h ⊢
    split_ifs at h ⊢ with hc
    · rfl
    · exact absurd rfl h
  rw [hnan]
  decide

/-- `SOPC_Float_Write`. -/
def floatWrite (room : Nat) (value : UInt32) : Writer := scalarWrite .uint32 room (normalizeFloat value)

/-- `SOPC_Float_Read`. -/
def floatRead (room : Nat) : Reader UInt32 :=
  scalarRead .uint32 room >>= fun value => pure (normalizeFloat value)

/-- `SOPC_Double_Write`. -/
def doubleWrite (room : Nat) (value : UInt64) : Writer :=
  scalarWrite .uint64 room (normalizeDouble value)

/-- `SOPC_Double_Read`. -/
def doubleRead (room : Nat) : Reader UInt64 :=
  scalarRead .uint64 room >>= fun value => pure (normalizeDouble value)

/-! ## Strings -/

variable {s : SopcString}

section
variable (cst : EncodingConstants)

/-- The length a string is written with. -/
def writtenLength (s : SopcString) : Int32 := if 0 < s.length then s.length else -1

/-- `SOPC_String_Write`. -/
def stringWrite (room : Nat) (str : SopcString) : Writer :=
  nested room fun room => do
    int32Write room (writtenLength str)
    writeIf (0 < str.length) (mapError writeStatus (bufferWrite str.data))

/-- `SOPC_ByteString_Write`, also `SOPC_XmlElement_Write`: a failure on the length gets a
    status of its own. -/
def byteStringWrite (room : Nat) (str : SopcString) : Writer :=
  nested room fun room => do
    mapError writeStatus (int32Write room (writtenLength str))
    writeIf (0 < str.length) (mapError writeStatus (bufferWrite str.data))

/-- The bytes of a string, once its length is read and found small enough. -/
def stringDataRead (length : Int32) : Reader SopcString :=
  mapError readStatus (bufferRead length.toInt.toNat) >>= fun bytes =>
    pure ⟨length, bytes.val, bytes.property⟩

/-- `SOPC_String_ReadWithLimitedLength`, the limit 0 meaning no other limit than
    `max_string_length`. -/
def stringReadWithLimitedLength (maxLength : Int32) (room : Nat) : Reader SopcString :=
  nested room fun room => do
    let length ← int32Read room
    if 0 < length then
      if length ≤ cst.maxStringLength then
        if maxLength = 0 ∨ length ≤ maxLength then stringDataRead length else throw .wouldBlock
      else throw .outOfMemory
    else pure .null

/-- `SOPC_String_Read`. -/
def stringRead (room : Nat) : Reader SopcString := stringReadWithLimitedLength cst 0 room

theorem readOnly_stringRead (room : Nat) : ReadOnly (stringRead cst room) := by
  refine readOnly_nested fun room => (readOnly_scalarRead _ room).bind fun length => ?_
  refine .ite (.ite (.ite ?_ (.throw _)) (.throw _))
    (.pure _)
  exact (readOnly_bufferRead _).mapError.bind fun _ => .pure _

/-- `SOPC_ByteString_Read`, also `SOPC_XmlElement_Read`. -/
def byteStringRead (room : Nat) : Reader SopcString :=
  nested room fun room => do
    let length ← int32Read room
    if 0 < length then
      if length ≤ cst.maxStringLength then stringDataRead length else throw .outOfMemory
    else pure .null

/-- A string as it is read back: an empty one as the null string. -/
def stringReadBack (s : SopcString) : SopcString := if 0 < s.length then s else .null

/-- What follows the length of a string, in both directions. -/
theorem stringBody_roundTrip (hs : s.length ≤ cst.maxStringLength) :
    RoundTrip slack (writeIf (0 < s.length) (mapError writeStatus (bufferWrite s.data)))
      (if 0 < writtenLength s then
        if writtenLength s ≤ cst.maxStringLength then stringDataRead (writtenLength s)
        else throw .outOfMemory
      else pure .null) (stringReadBack s) := by
  unfold writtenLength stringReadBack writeIf
  by_cases h : 0 < s.length
  · simp only [if_pos h, if_pos hs]
    have hdata : RoundTrip slack _ _ _ := bufferWrite_roundTrip s.wf
    exact (hdata.mapErrors writeStatus readStatus).last rfl
  simp only [if_neg h]
  rw [if_neg (by decide)]
  exact .pure rfl

theorem string_roundTrip (room : Nat) (hs : s.length ≤ cst.maxStringLength) :
    RoundTrip slack (stringWrite room s) (stringRead cst room) (stringReadBack s) := by
  refine nested_roundTrip fun room' _ => ?_
  refine (scalar_roundTrip .int32 room' _).bind ?_
  exact stringBody_roundTrip cst hs

theorem byteString_roundTrip (room : Nat) (hs : s.length ≤ cst.maxStringLength) :
    RoundTrip slack (byteStringWrite room s) (byteStringRead cst room) (stringReadBack s) := by
  refine nested_roundTrip fun room' _ => ?_
  have hlen : RoundTrip slack _ _ _ :=
    (scalar_roundTrip .int32 room' (writtenLength s)).mapWriteError writeStatus
  exact hlen.bind (stringBody_roundTrip cst hs)

end

/-! ## Guids -/

/-- `SOPC_Guid_Write`. -/
def guidWrite (room : Nat) (guid : Guid) : Writer :=
  nested room fun room => mapError writeStatus do
    uint32Write room guid.data1
    uint16Write room guid.data2
    uint16Write room guid.data3
    bufferWrite guid.data4.toList

/-- `SOPC_Guid_Read`. -/
def guidRead (room : Nat) : Reader Guid :=
  nested room fun room => mapError readStatus do
    let data1 ← uint32Read room
    let data2 ← uint16Read room
    let data3 ← uint16Read room
    let data4 ← bufferRead 8
    pure ⟨data1, data2, data3, ⟨data4.val.toArray, by simp [data4.property]⟩⟩

theorem guid_roundTrip (room : Nat) (guid : Guid) :
    RoundTrip slack (guidWrite room guid) (guidRead room) guid := by
  refine nested_roundTrip fun room' _ => ?_
  refine .mapErrors _ _ ?_
  refine (scalar_roundTrip .uint32 room' _).bind ?_
  refine (scalar_roundTrip .uint16 room' _).bind ?_
  refine (scalar_roundTrip .uint16 room' _).bind ?_
  refine (bufferWrite_roundTrip (by simp)).last ?_
  have hbytes : guid.data4.toList.toArray = guid.data4.toArray := Array.toArray_toList
  simp only [hbytes]

end S2opc.Encoder
