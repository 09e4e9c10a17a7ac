/-
The decoding of UADP network messages: `SOPC_UADP_NetworkMessage_Decode` of
`sopc_network_layer.c`.

The decoder reads the headers, asks its callbacks for the group of the message
and for the readers of its writers, checks the security of the message, and
then decodes the data set messages and hands them over one after the other.
What the callbacks did before the decoder stops remains done.

The bytes of optional flags count as 0 when they are not there, which is how
their absence is treated.  The checks of `Decode_Message_V1` on the timestamp,
picoseconds and promoted fields of the message are left out: the header is
refused before if it has one of them.
-/
import S2opc.Lib.Stateful
import S2opc.PubSub.NetworkMessage

namespace S2opc.PubSub

open BuiltinTypes Lib.Bytes Lib.ByteCodec Lib.Stateful Encoder

/-! ## The callbacks -/

/-- `SOPC_PubSub_SecurityStatus`, but for `SOPC_PUBSUB_STATUS_SECURITY_OK`. -/
inductive SecurityStatus where
  | noContextPublisher
  | noContextWriterGroup
  | noKeys
  | sksKeysOlder
  | sksKeysNewer
  | oldTokenId
  deriving DecidableEq, Repr

/-- `SOPC_UADP_NetworkMessage_Reader_Configuration`, for a connection, with a state `σ` of the
    callbacks.  A security is found by the publisher and the group, and `setSecurity` writes to
    the one that was found; a target variable is a `Target`. -/
structure ReaderConfiguration (σ Group DataSetReader Target Obj : Type) where
  getGroup : UadpConfiguration → Option PublisherId → (groupVersion : UInt32) → (groupId : UInt16) →
    Option Group
  groupId : Group → UInt16
  getReader : Group → (writerId : UInt16) → Option DataSetReader
  setDsm : DataSetMessage Obj → DataSetReader → Option Target → Action σ Stop Bool
  getSecurity : (tokenId : UInt32) → ConfPublisherId → (groupId : UInt16) → σ →
    Except SecurityStatus Security × σ
  setSecurity : ConfPublisherId → (groupId : UInt16) → Security → σ → σ
  checkDataSetMessageSN : ConfPublisherId → (groupId writerId receivedSN : UInt16) → σ → Bool × σ
  updateTimeout : ConfPublisherId → (groupId writerId : UInt16) → σ → σ
  targetVariable : ConfPublisherId → (groupId writerId : UInt16) → σ → Option Target

variable {σ Group DataSetReader Target Obj : Type} (cst : EncodingConstants)
  (objs : ObjectCodec Obj) (crypto : CryptoProvider)
  (rc : ReaderConfiguration σ Group DataSetReader Target Obj)

/-- Read from a buffer. -/
def readFrom {α : Type} (r : Codec Stop α) (buffer : Buffer) : Action σ Stop (α × Buffer) :=
  Action.ofExcept (r buffer)

/-- A byte of flags. -/
def flagsRead : Codec Stop UInt8 := failWith (.error .readByteFailed) (byteRead (roomAt cst 0))

/-! ## The headers -/

/-- `Network_Layer_PublisherId_Read`. -/
def publisherIdRead (type : UInt8) : Reader PublisherId :=
  if type = 0 then byteRead (roomAt cst 0) >>= fun id => pure (.byte id)
  else if type = 1 then uint16Read (roomAt cst 0) >>= fun id => pure (.uint16 id)
  else if type = 2 then uint32Read (roomAt cst 0) >>= fun id => pure (.uint32 id)
  else if type = 3 then scalarRead .uint64 (roomAt cst 0) >>= fun id => pure (.uint64 id)
  else if type = 4 then stringRead cst (roomAt cst 0) >>= fun id => pure (.string id)
  else throw .invalidParameters

/-- The header that the three bytes of flags and the publisher id make. -/
def headerOf (data flags1 flags2 : UInt8) (id : PublisherId) : Header where
  uadpVersion := data &&& 0x0F
  publisherId := id
  flagsConfig :=
    { publisherIdFlag := getBoolBit data 0x10
      groupHeaderFlag := getBoolBit data 0x20
      groupIdFlag := false
      groupVersionFlag := false
      networkMessageNumberFlag := false
      sequenceNumberFlag := false
      payloadHeaderFlag := getBoolBit data 0x40
      timestampFlag := getBoolBit flags1 0x20
      picoSecondsFlag := getBoolBit flags1 0x40
      dataSetClassIdFlag := getBoolBit flags1 0x08
      securityFlag := getBoolBit flags1 0x10
      promotedFieldsFlag := getBoolBit flags2 0x02 }

/-- `SOPC_UADP_NetworkMessageHeader_Decode`.  The version has 4 bits, as
    `SOPC_Dataset_LL_NetworkMessage_SetVersion` asserts. -/
def networkMessageHeaderRead : Codec Stop Header := do
  let data ← flagsRead cst
  if 15 < data &&& 0x0F then throw .assertion
  else do
    let flags1 ← readIf (getBoolBit data 0x80 = true) (flagsRead cst) 0
    if getBoolBit flags1 0x20 || getBoolBit flags1 0x40 then throw (.error .unsupportedFlags1)
    else do
      let flags2 ← readIf (getBoolBit flags1 0x80 = true) (flagsRead cst) 0
      if getBoolBit flags2 0x01 || getBoolBit flags2 0x02 || (flags2 >>> 2) &&& 0x07 ≠ 0 then
        throw (.error .unsupportedFlags2)
      else do
        let id ← readIf (getBoolBit data 0x10 = true)
          (failWith (.error .unsupportedPubIdType) (publisherIdRead cst (flags1 &&& 0x07))) (.byte 0)
        if getBoolBit flags1 0x08 then throw (.error .unsupportedClassId)
        else pure (headerOf data flags1 flags2 id)

variable (header : Header)

/-- `Decode_GroupHeader`: the header with the flags of the group, the identifier of the group and
    its version. -/
def groupHeaderRead : Codec Stop (Header × UInt16 × UInt32) := do
  let data ← readIf (header.flagsConfig.groupHeaderFlag = true) (flagsRead cst) 0
  let groupId ← readIf (getBoolBit data 0x01 = true)
    (failWith (.error .readShortFailed) (uint16Read (roomAt cst 0))) 0
  let groupVersion ← readIf (getBoolBit data 0x02 = true)
    (failWith (.error .readIntFailed) (uint32Read (roomAt cst 0))) 0
  if getBoolBit data 0x04 then throw (.error .unsupportedMessageNum)
  else if getBoolBit data 0x08 then throw (.error .unsupportedSeqNum)
  else
    pure ({ header with
      flagsConfig :=
        { header.flagsConfig with
          groupIdFlag := getBoolBit data 0x01
          groupVersionFlag := getBoolBit data 0x02 } }, groupId, groupVersion)

/-- The loop on the writers of the messages, `mustDecode` being true once there is a reader for
    one of them.  Without any, this is the error even after a failed read. -/
def writersRead (group : Group) :
    Nat → (mustDecode : Bool) → Codec Stop (List (UInt16 × Option DataSetReader))
  | 0, mustDecode => if mustDecode then pure [] else throw (.error .readNoMatchingReader)
  | n + 1, mustDecode => do
      let writerId ← failWith
        (.error (if mustDecode then .readShortFailed else .readNoMatchingReader))
        (uint16Read (roomAt cst 0))
      let writers ← writersRead group n (mustDecode || (rc.getReader group writerId).isSome)
      pure ((writerId, rc.getReader group writerId) :: writers)

/-- The payload header in `Decode_Message_V1`: the writers of the messages, with their
    readers. -/
def payloadHeaderRead (group : Group) :
    Codec Stop (List (UInt16 × Option DataSetReader)) := do
  let msgCount ← readIf (header.flagsConfig.payloadHeaderFlag = true) (flagsRead cst) 1
  if msgCount = 0 then throw (.error .readInvalidMessageCount)
  else writersRead cst rc group msgCount.toNat false

/-! ## Security -/

/-- `SOPC_Is_UInt32_Sequence_Number_Newer`. -/
def isUInt32SequenceNumberNewer (received processed : UInt32) : Bool :=
  received - 1 - processed < 1073741824

/-- The security flags and the token of a message: is it signed, is it encrypted, and the
    token. -/
def securityFlagsRead : Codec Stop (Bool × Bool × UInt32) := do
  let data ← flagsRead cst
  if getBoolBit data 0x04 || getBoolBit data 0x08 then
    throw (.error .unsupportedSecurityFooterReset)
  else do
    let tokenId ← failWith (.error .readIntFailed) (uint32Read (roomAt cst 0))
    pure (getBoolBit data 0x01, getBoolBit data 0x02, tokenId)

/-- The nonce of a message: 4 random bytes and a sequence number. -/
def nonceRead : Codec Stop (Vector UInt8 4 × UInt32) := do
  let length ← flagsRead cst
  if length ≠ 8 then throw (.error .readSecurityNonceFailed)
  else do
    let random ← failWith (.error .readByteFailed) (bufferRead 4)
    let sequenceNumber ← failWith (.error .readSeqNumFailed) (uint32Read (roomAt cst 0))
    pure (⟨random.val.toArray, by simp [random.property]⟩, sequenceNumber)

/-- The error code for a security that `getSecurity` did not give. -/
def securityStatusCode : SecurityStatus → ErrorCode
  | .noContextPublisher => .readSecurityConfFailed
  | .noContextWriterGroup => .readSecurityConfFailed
  | _ => .readSecurityGetValidKeysFailed

variable (pubId : ConfPublisherId) (groupId : UInt16)

/-- The security that is found for a message with a security header.  Its keys are asserted to be
    those of the token. -/
def receivedSecurity (ssigned encrypted : Bool) (tokenId : UInt32) : Action σ Stop Security := do
  let found ← Action.step (rc.getSecurity tokenId pubId groupId)
  match found with
  | .error status => throw (.error (securityStatusCode status))
  | .ok security =>
    if checkReceivedSecurityMode security.mode ssigned encrypted = false then
      throw (.error .readSecurityConfFailed)
    else if security.groupKeys.any (·.tokenId ≠ tokenId) then throw .assertion
    else pure security

/-- The payload of a message, decrypted. -/
def decryptPayload (security : Security) (buffer : Buffer) : Option Buffer :=
  if buffer.data.length - buffer.position < crypto.signatureSize then none
  else securityDecrypt crypto security buffer
    (buffer.data.length - buffer.position - crypto.signatureSize)

/-- `Decode_SecurityHeader`: the buffer of the payload.  The message starts at
    `payloadPosition`. -/
def decodeSecurityHeader (payloadPosition : Nat) (buffer : Buffer) : Action σ Stop Buffer :=
  let pubId := convertPublisherId header.getPublisherId
  if groupId = 0 ∨ header.flagsConfig.publisherIdFlag = false then
    throw (.error .readSecurityFailed)
  else do
    let ((ssigned, encrypted, tokenId), buffer) ← readFrom (securityFlagsRead cst) buffer
    let security ← receivedSecurity rc pubId groupId ssigned encrypted tokenId
    if ssigned = true ∧ securityVerify crypto security buffer payloadPosition = false then
      throw (.error .readSecuritySignFailed)
    else do
      let ((random, sequenceNumber), buffer) ← readFrom (nonceRead cst) buffer
      if security.sequenceNumberSet = true ∧
          isUInt32SequenceNumberNewer sequenceNumber security.sequenceNumber = false then
        throw (.error .readSeqNumFailed)
      else do
        let security :=
          { security with sequenceNumber := sequenceNumber, sequenceNumberSet := true }
        Action.update (rc.setSecurity pubId groupId security)
        if encrypted then
          match decryptPayload crypto { security with msgNonceRandom := some random } buffer with
          | none => throw (.error .readSecurityDecryptFailed)
          | some payload => pure payload
        else pure buffer

/-- The check that no security is expected for a message without a security header. -/
def checkNoSecurity : Action σ Stop Unit := do
  let found ← Action.step (rc.getSecurity 0 (convertPublisherId header.getPublisherId) groupId)
  match found with
  | .error .noContextPublisher => pure ()
  | .error .noContextWriterGroup => pure ()
  | .error _ => throw (.error .readSecurityNoneFailed)
  | .ok security =>
    if checkReceivedSecurityMode security.mode false false then pure ()
    else throw (.error .readSecurityNoneFailed)

/-- The security of a message in `Decode_Message_V1`: the buffer of its payload. -/
def decodeSecurity (payloadPosition : Nat) (buffer : Buffer) :
    Action σ Stop Buffer :=
  if header.flagsConfig.securityFlag then
    decodeSecurityHeader cst crypto rc header groupId payloadPosition buffer
  else do
    checkNoSecurity rc header groupId
    pure buffer

/-! ## Data set messages -/

/-- The two bytes of flags of a data set message. -/
def dsmFlagsRead : Codec Stop ContentMask := do
  let data ← flagsRead cst
  if getBoolBit data 0x01 = false then throw (.error .readInvalidBit)
  else if (data &&& 0x06) >>> 1 ≠ FieldEncoding.variant.code then
    throw (.error .unsupportedEncodingType)
  else do
    let flags2 ← readIf (getBoolBit data 0x80 = true) (flagsRead cst) 0
    if DataSetMessageType.ofCode (flags2 &&& 0x0F) = .deltaFrame then
      throw (.error .unsupportedDsmType)
    else
      pure
        { ContentMask.initial with
          dataSetMessageSequenceNumberFlag := getBoolBit data 0x08
          statusFlag := getBoolBit data 0x10
          configurationVersionMajorVersionFlag := getBoolBit data 0x20
          configurationVersionMinorFlag := getBoolBit data 0x40
          dataSetMessageType := .ofCode (flags2 &&& 0x0F)
          timestampFlag := getBoolBit flags2 0x10
          picoSecondsFlag := getBoolBit flags2 0x20 }

/-- `UADP_To_DataSetFields`. -/
def dataSetFieldsRead : Reader (DataSetFields Obj) := do
  let length ← uint16Read (roomAt cst 0)
  let content ← readEach length.toNat (variantReadAt cst objs (roomAt cst 0))
  pure ⟨length, content⟩

/-- What follows the sequence number of a data set message: its timestamp and its fields.  The
    picoseconds, the status and the versions are not used. -/
def dsmBodyRead (conf : ContentMask) : Codec Stop (UInt64 × DataSetFields Obj) := do
  let timestamp ← readIf (conf.timestampFlag = true)
    (failWith (.error .readDsmTimeStamp) (scalarRead .uint64 (roomAt cst 0))) 0
  let _ ← readIf (conf.picoSecondsFlag = true)
    (failWith (.error .unsupportedDsmPicoseconds) (uint16Read (roomAt cst 0))) 0
  let _ ← readIf (conf.statusFlag = true)
    (failWith (.error .readShortFailed) (uint16Read (roomAt cst 0))) 0
  let _ ← readIf (conf.configurationVersionMajorVersionFlag = true)
    (failWith (.error .readIntFailed) (uint32Read (roomAt cst 0))) 0
  let _ ← readIf (conf.configurationVersionMinorFlag = true)
    (failWith (.error .readIntFailed) (uint32Read (roomAt cst 0))) 0
  let fields ← readIf (conf.dataSetMessageType ≠ .keepAlive)
    (failWith (.error .readDsmFieldsFailed) (dataSetFieldsRead cst objs)) (.empty Obj)
  pure (timestamp, fields)

/-- The sequence number of a data set message, kept if it is newer than the one of its writer:
    the message is decoded anyway. -/
def decodeSequenceNumber (writerId : UInt16) (conf : ContentMask) (payload : Buffer) :
    Action σ Stop (UInt16 × Buffer) :=
  if conf.dataSetMessageSequenceNumberFlag then do
    let (dsmSN, payload) ← readFrom
      (failWith (.error .readDsmSeqNumFailed) (uint16Read (roomAt cst 0))) payload
    if writerId = 0 then pure (0, payload)
    else do
      let newer ← Action.step (rc.checkDataSetMessageSN pubId groupId writerId dsmSN)
      pure (if newer then dsmSN else 0, payload)
  else pure (0, payload)

/-- `decode_dataSetMessage`, `dsmSize` being 0 if it is not known. -/
def decodeDataSetMessage (writerId dsmSize : UInt16) (payload : Buffer) :
    Action σ Stop (DataSetMessage Obj × Buffer) := do
  let (conf, afterFlags) ← readFrom (dsmFlagsRead cst) payload
  let (sequenceNumber, afterNumber) ←
    decodeSequenceNumber cst rc pubId groupId writerId conf afterFlags
  let ((timestamp, fields), afterBody) ← readFrom (dsmBodyRead cst objs conf) afterNumber
  if dsmSize ≠ 0 ∧ UInt16.ofNat (afterBody.position - payload.position) ≠ dsmSize then
    throw (.error .readDsmSizeCheckFailed)
  else pure (⟨conf, timestamp, fields, writerId, sequenceNumber, false⟩, afterBody)

/-- A decoded message is handed over to its reader, with its target variables. -/
def receiveDataSetMessage (reader : DataSetReader) (dsm : DataSetMessage Obj) :
    Action σ Stop Unit := do
  let target ← Action.query fun s =>
    if dsm.conf.dataSetMessageType = .keepAlive then none
    else rc.targetVariable pubId groupId dsm.writerId s
  if dsm.conf.dataSetMessageType ≠ .keepAlive ∧ target.isNone then
    throw (.error .readBadMetaData)
  else do
    let set ← rc.setDsm dsm reader target
    if set then Action.update (rc.updateTimeout pubId groupId dsm.writerId)
    else throw (.error .readBadMetaData)

/-- The sizes of the messages, which are there if there are several. -/
def dsmSizesRead (count : Nat) : Codec Stop (List (Option UInt16)) :=
  if 1 < count then
    readList (failWith (.error .readDsmSizeFailed) (uint16Read (roomAt cst 0))) count >>= fun sizes =>
      pure (sizes.map some)
  else pure (List.replicate count none)

/-- A message without a reader is skipped; if there are not as many bytes, the cursor stays. -/
def skipDataSetMessage (size : UInt16) (payload : Buffer) : Buffer :=
  match payload.read size.toNat with
  | some (_, payload) => payload
  | none => payload

/-- The loop on the data set messages in `Decode_Message_V1`. -/
def decodeDataSetMessages (pubId : ConfPublisherId) (groupId : UInt16) :
    List ((UInt16 × Option DataSetReader) × Option UInt16) → Buffer →
      Action σ Stop (List (DataSetMessage Obj))
  | [], _ => pure []
  | ((_, none), none) :: _, _ => throw (.error .readDsmSizeCheckFailed)
  | ((writerId, none), some size) :: rest, payload => do
      let dsms ← decodeDataSetMessages pubId groupId rest (skipDataSetMessage size payload)
      pure (.initial Obj writerId :: dsms)
  | ((writerId, some reader), size) :: rest, payload => do
      let (dsm, payload) ← decodeDataSetMessage cst objs rc pubId groupId writerId (size.getD 0) payload
      receiveDataSetMessage rc pubId groupId reader dsm
      let dsms ← decodeDataSetMessages pubId groupId rest payload
      pure (dsm :: dsms)

/-! ## The message -/

/-- The payload of a message: the sizes of its data set messages, and these. -/
def decodePayload (group : Group) (writers : List (UInt16 × Option DataSetReader))
    (payload : Buffer) : Action σ Stop (List (DataSetMessage Obj)) := do
  let (sizes, payload) ← readFrom (dsmSizesRead cst writers.length) payload
  decodeDataSetMessages cst objs rc (convertPublisherId header.getPublisherId) (rc.groupId group)
    (writers.zip sizes) payload

/-- `Decode_Message_V1`. -/
def decodeMessageV1 (group : Group) (payloadPosition : Nat) (buffer : Buffer) :
    Action σ Stop (List (DataSetMessage Obj)) := do
  let (writers, buffer) ← readFrom (payloadHeaderRead cst rc header group) buffer
  let payload ← decodeSecurity cst crypto rc header (rc.groupId group) payloadPosition buffer
  decodePayload cst objs rc header group writers payload

/-- The headers of a message up to its group. -/
def headersRead : Codec Stop (Header × UInt16 × UInt32) := do
  let header ← networkMessageHeaderRead cst
  groupHeaderRead cst header

/-- `SOPC_UADP_NetworkMessage_Decode`. -/
def networkMessageDecode (buffer : Buffer) : Action σ Stop (NetworkMessage Obj) := do
  let ((header, groupId, groupVersion), afterHeaders) ← readFrom (headersRead cst) buffer
  match rc.getGroup header.flagsConfig header.getPublisherId groupVersion groupId with
  | none => throw (.error .readNoMatchingGroup)
  | some group =>
    if header.uadpVersion = 1 then do
      let dsms ← decodeMessageV1 cst objs crypto rc header group buffer.position afterHeaders
      pure ⟨header, groupId, groupVersion, dsms⟩
    else throw (.error .unsupportedVersion)

end S2opc.PubSub
