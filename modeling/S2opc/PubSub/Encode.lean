/-
The UADP encoding of network messages: `SOPC_UADP_NetworkMessage_Encode_Buffers`
and `SOPC_UADP_NetworkMessage_BuildFinalMessage` of `sopc_network_layer.c`.

The headers and the payload go to two buffers.  The sizes of the data set
messages are written at the start of the payload when there are several, as
zeros first and then one after the other when its message is written.  The final
message is the headers, the payload, encrypted or not, and the signature.  The
buffers of a publisher that encodes its messages in advance are left out.
-/
import S2opc.PubSub.NetworkMessage

namespace S2opc.PubSub

open BuiltinTypes Lib.Bytes Lib.ByteCodec Encoder

variable {Obj : Type} (cst : EncodingConstants) (objs : ObjectCodec Obj) (crypto : CryptoProvider)

/-- `SOPC_PUBSUB_BUFFER_SIZE`. -/
def pubSubBufferSize : UInt32 := 4096

/-! ## The headers -/

/-- A byte of flags. -/
def flagsWrite (byte : UInt8) : Codec Stop Unit :=
  failWith (.error .writeBufferFailed) (bufferWrite [byte])

/-- The first byte: the version, with the publisher id, the group header and the payload header
    enabled. -/
def versionFlags (version : UInt8) (flags1 : Bool) : UInt8 :=
  setBoolBit (setBoolBit (setBoolBit (setBoolBit version 0x10 true) 0x20 true) 0x40 true) 0x80 flags1

/-- The byte of the extended flags. -/
def extendedFlags1 (type : UInt8) (securityEnabled : Bool) : UInt8 :=
  setBoolBit (setBoolBit (setBoolBit (setBoolBit (setBoolBit type 0x08 false) 0x10 securityEnabled)
    0x20 false) 0x40 false) 0x80 false

/-- `Network_Layer_Is_Flags1_Enabled`. -/
def isFlags1Enabled (id : PublisherId) (security : Bool) : Bool := id.type ≠ 0 || security

/-- `Network_Layer_PublisherId_Write`. -/
def publisherIdWrite : PublisherId → Writer
  | .byte id => byteWrite (roomAt cst 0) id
  | .uint16 id => uint16Write (roomAt cst 0) id
  | .uint32 id => uint32Write (roomAt cst 0) id
  | .uint64 id => scalarWrite .uint64 (roomAt cst 0) id
  | .string id => stringWrite (roomAt cst 0) id

/-- The flags and the publisher id. -/
def networkMessageHeaderWrite (version : UInt8) (id : PublisherId) (securityEnabled : Bool) :
    Codec Stop Unit := do
  flagsWrite (versionFlags version (isFlags1Enabled id securityEnabled))
  writeIf (isFlags1Enabled id securityEnabled = true)
    (flagsWrite (extendedFlags1 id.type securityEnabled))
  failWith (.error .writePubIdFailed) (publisherIdWrite cst id)

/-- The group header, with the identifier and the version of the group. -/
def groupHeaderWrite (groupId : UInt16) (groupVersion : UInt32) : Codec Stop Unit := do
  flagsWrite (setBoolBit (setBoolBit (setBoolBit (setBoolBit 0 0x01 true) 0x02 true) 0x04 false)
    0x08 false)
  failWith (.error .writeGroupIdFailed) (uint16Write (roomAt cst 0) groupId)
  failWith (.error .writeGroupVersionFailed) (uint32Write (roomAt cst 0) groupVersion)

variable (dsms : List (DataSetMessage Obj))

/-- The payload header: the number of messages, and the identifiers of their writers. -/
def payloadHeaderWrite : Codec Stop Unit := do
  flagsWrite (UInt8.ofNat dsms.length)
  writeList (fun dsm => failWith (.error .writeWriterIdFailed)
    (uint16Write (roomAt cst 0) dsm.writerId)) dsms

variable (security : Security)

/-- `SOPC_PubSub_Security_Write_Nonce`. -/
def nonceWrite : Writer :=
  match security.msgNonceRandom with
  | none => throw .invalidParameters
  | some random => do
      bufferWrite random.toList
      uint32Write (roomAt cst 0) security.sequenceNumber

/-- The security flags. -/
def securityFlags : UInt8 :=
  setBoolBit (setBoolBit (setBoolBit (setBoolBit 0 0x01 security.signedEnabled) 0x02
    security.encryptedEnabled) 0x04 false) 0x08 false

/-- The security header: the flags, the token, and the nonce with its length. -/
def securityHeaderWrite (keys : GroupKeys) : Codec Stop Unit := do
  flagsWrite (securityFlags security)
  failWith (.error .writeTokenIdFailed) (uint32Write (roomAt cst 0) keys.tokenId)
  failWith (.error .writeBufferFailed) (byteWrite (roomAt cst 0) 8)
  failWith (.error .writeSecuHdrFailed) (nonceWrite cst security)

variable (nm : NetworkMessage Obj)

/-- The buffer of the headers.  Without a publisher id, the null pointer stops the program. -/
def headerBufferWrite (dsms : List (DataSetMessage Obj))
    (security : Option (Security × GroupKeys)) : Codec Stop Unit :=
  match nm.header.getPublisherId with
  | none => throw .assertion
  | some id => do
      networkMessageHeaderWrite cst nm.header.uadpVersion id security.isSome
      groupHeaderWrite cst nm.groupId nm.groupVersion
      payloadHeaderWrite cst dsms
      match security with
      | none => pure ()
      | some (security, keys) => securityHeaderWrite cst security keys

/-! ## The payload -/

variable (conf : ContentMask)

/-- `Network_Layer_DataSetMessage_Is_Flags2_Enabled`. -/
def ContentMask.isFlags2Enabled : Bool :=
  conf.dataSetMessageType ≠ .keyFrame || conf.timestampFlag || conf.picoSecondsFlag

/-- The first flags of a data set message. -/
def ContentMask.flags1 : UInt8 :=
  let byte := conf.fieldEncoding.code <<< 1
  let byte := setBoolBit byte 0x01 conf.validFlag
  let byte := setBoolBit byte 0x08 conf.dataSetMessageSequenceNumberFlag
  let byte := setBoolBit byte 0x10 conf.statusFlag
  let byte := setBoolBit byte 0x20 conf.configurationVersionMajorVersionFlag
  let byte := setBoolBit byte 0x40 conf.configurationVersionMinorFlag
  setBoolBit byte 0x80 conf.isFlags2Enabled

/-- The second flags of a data set message. -/
def ContentMask.flags2 : UInt8 :=
  setBoolBit (setBoolBit conf.dataSetMessageType.code 0x10 conf.timestampFlag) 0x20
    conf.picoSecondsFlag

/-- What the assertions on the content mask of a message ask for. -/
def ContentMask.supported : Bool :=
  conf.fieldEncoding = .variant && conf.validFlag && !conf.statusFlag &&
    !conf.configurationVersionMajorVersionFlag && !conf.configurationVersionMinorFlag &&
    (!conf.isFlags2Enabled || (conf.dataSetMessageType ≠ .deltaFrame &&
      conf.dataSetMessageType.code ≤ 3 && !conf.picoSecondsFlag))

/-- `Network_DataSetFields_To_UADP`. -/
def dataSetFieldsWrite (fields : DataSetFields Obj) : Writer := do
  uint16Write (roomAt cst 0) fields.length
  writeEach _ fun i => variantWriteAt cst objs (roomAt cst 0) (fields.content i)

/-- A data set message. -/
def dataSetMessageWrite (dsm : DataSetMessage Obj) : Codec Stop Unit :=
  if dsm.conf.supported then do
    flagsWrite dsm.conf.flags1
    writeIf (dsm.conf.isFlags2Enabled = true) (flagsWrite dsm.conf.flags2)
    writeIf (dsm.conf.dataSetMessageSequenceNumberFlag = true)
      (failWith (.error .writeDsmSeqNumFailed) (uint16Write (roomAt cst 0) dsm.sequenceNumber))
    writeIf (dsm.conf.timestampFlag = true)
      (failWith (.error .writeDsmTimestampFailed) (scalarWrite .uint64 (roomAt cst 0) dsm.timestamp))
    writeIf (dsm.conf.dataSetMessageType ≠ .keepAlive)
      (failWith (.error .writeDsmFieldFailed) (dataSetFieldsWrite cst objs dsm.fields))
  else throw .assertion

/-- The size of a message is put at its place at the start of the payload, and the cursor back
    at its end. -/
def dsmSizeWrite (index : Nat) (dsmStart : Nat) : Codec Stop Unit := do
  let payload ← get
  seekTo (.error .writeDsmSizeFailed) (2 * index)
  failWith (.error .writeDsmSizeFailed)
    (uint16Write (roomAt cst 0) (UInt16.ofNat (payload.position - dsmStart)))
  seekTo (.error .writeDsmSizeFailed) payload.position

/-- The loop on the data set messages, from an index on. -/
def dataSetMessagesWrite (sized : Bool) : Nat → List (DataSetMessage Obj) → Codec Stop Unit
  | _, [] => pure ()
  | index, dsm :: dsms => do
      let payload ← get
      dataSetMessageWrite cst objs dsm
      writeIf (sized = true) (dsmSizeWrite cst index payload.position)
      dataSetMessagesWrite sized (index + 1) dsms

/-- The buffer of the payload.  There are no sizes for a single message. -/
def payloadBufferWrite : Codec Stop Unit := do
  writeIf (1 < dsms.length) (writeList (fun _ => failWith (.error .writeDsmPreSizeFailed)
    (uint16Write (roomAt cst 0) 0)) dsms)
  dataSetMessagesWrite cst objs (1 < dsms.length) 0 dsms

/-! ## The message -/

/-- The message gets the time at which it is encoded, if it has a timestamp. -/
def DataSetMessage.stamp (now : UInt64) (dsm : DataSetMessage Obj) : DataSetMessage Obj :=
  if dsm.conf.timestampFlag then { dsm with timestamp := now } else dsm

/-- The enabled messages with their timestamps, `now i` being the time at which the `i`-th of them
    is encoded. -/
def NetworkMessage.sentMessages (now : Nat → UInt64) :
    List (DataSetMessage Obj) :=
  (nm.dataSetMessages.filter (·.enableEmission)).mapIdx fun i dsm => dsm.stamp (now i)

/-- The keys of a security, which are needed to use it. -/
def withKeys : Option Security → Except Stop (Option (Security × GroupKeys))
  | none => .ok none
  | some security =>
    match security.groupKeys with
    | none => .error (.error .invalidParameters)
    | some keys => .ok (some (security, keys))

/-- `SOPC_UADP_NetworkMessage_Encode_Buffers`: the buffer of the headers and that of the payload.
    The timestamps of `sentMessages` are also stored in the network message. -/
def encodeBuffers (security : Option Security) (now : Nat → UInt64) :
    Except Stop (Buffer × Buffer) := do
  let security ← withKeys security
  let (_, header) ← headerBufferWrite cst nm (nm.sentMessages now) security
    (Buffer.empty pubSubBufferSize)
  let (_, payload) ← payloadBufferWrite cst objs (nm.sentMessages now)
    (Buffer.empty pubSubBufferSize)
  pure (header, payload)

/-- The payload as it is sent. -/
def sentPayload (security : Option (Security × GroupKeys)) (payload : List UInt8) :
    Except Stop (List UInt8) :=
  match security with
  | none => .ok payload
  | some (security, _) =>
    if security.encryptedEnabled = true ∧ payload ≠ [] then
      match securityEncrypt crypto security payload with
      | none => .error (.error .writeEncryptPayloadFailed)
      | some encrypted => .ok encrypted.val
    else .ok payload

/-- `SOPC_Buffer_ReadFrom` at the end of the headers. -/
def flushPayload (header : Buffer) (payload : List UInt8) : Except Stop Buffer :=
  match (header.seek header.data.length).bind (·.write payload) with
  | none => .error (.error .writePayloadFlushFailed)
  | some message => .ok message

/-- `SOPC_UADP_NetworkMessage_BuildFinalMessage`. -/
def buildFinalMessage (security : Option Security) (header payload : Buffer) :
    Except Stop Buffer := do
  let security ← withKeys security
  let sent ← sentPayload crypto security payload.data
  let message ← flushPayload header sent
  let (_, message) ← (match security with
    | some (security, keys) => writeIf (security.signedEnabled = true) (securitySign crypto keys)
    | none => pure ()) message
  let (_, message) ← seekTo .assertion 0 message
  pure message

end S2opc.PubSub
