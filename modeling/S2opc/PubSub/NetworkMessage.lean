/-
Network messages and their security (`sopc_dataset_ll_layer.c`,
`sopc_pubsub_security.c` and the identifiers of `sopc_pubsub_helpers.c`).

A network message has a header, a group and data set messages, whose fields are
variants.  The cryptography is a parameter: a provider signs, verifies and
encrypts, and encrypting twice is how one decrypts.  A failed `SOPC_ASSERT` stops
the program; it is an outcome of its own beside the error codes.
-/
import S2opc.BuiltinTypes.NodeId
import S2opc.Encoder.RoundTrip

namespace S2opc.PubSub

open BuiltinTypes Lib.Bytes Lib.ByteCodec Encoder

/-! ## Outcomes -/

/-- `SOPC_NetworkMessage_Error_Code`, for UADP. -/
inductive ErrorCode where
  | invalidParameters
  | writeBufferFailed
  | writePubIdFailed
  | writeGroupIdFailed
  | writeGroupVersionFailed
  | writeWriterIdFailed
  | writeTokenIdFailed
  | writeSecuHdrFailed
  | writeDsmSizeFailed
  | writeDsmPreSizeFailed
  | writeDsmFieldFailed
  | writeDsmSeqNumFailed
  | writeDsmTimestampFailed
  | writeEncryptPayloadFailed
  | writePayloadFlushFailed
  | writeSignFailed
  | readByteFailed
  | readShortFailed
  | readIntFailed
  | readSecurityFailed
  | readSecurityConfFailed
  | readSecurityGetValidKeysFailed
  | readSecuritySignFailed
  | readSecurityNonceFailed
  | readSecurityDecryptFailed
  | readSecurityNoneFailed
  | readSeqNumFailed
  | readDsmSizeFailed
  | readDsmSeqNumFailed
  | readInvalidBit
  | readDsmFieldsFailed
  | readDsmSizeCheckFailed
  | readDsmTimeStamp
  | readNoMatchingGroup
  | readNoMatchingReader
  | readInvalidMessageCount
  | readBadMetaData
  | unsupportedVersion
  | unsupportedFlags1
  | unsupportedFlags2
  | unsupportedPubIdType
  | unsupportedClassId
  | unsupportedMessageNum
  | unsupportedSeqNum
  | unsupportedSecurityFooterReset
  | unsupportedEncodingType
  | unsupportedDsmType
  | unsupportedDsmPicoseconds
  deriving DecidableEq, Repr

/-- Why a function of the network layer ends without a result: an error code, or a failed
    `SOPC_ASSERT`. -/
inductive Stop where
  | error (code : ErrorCode)
  | assertion
  deriving DecidableEq, Repr

/-! ## Identifiers -/

/-- `SOPC_Dataset_LL_PublisherId`. -/
inductive PublisherId where
  | byte (id : UInt8)
  | uint16 (id : UInt16)
  | uint32 (id : UInt32)
  | uint64 (id : UInt64)
  | string (id : SopcString)
  deriving DecidableEq, Repr

/-- `SOPC_DataSet_LL_PublisherIdType`. -/
def PublisherId.type : PublisherId → UInt8
  | .byte _ => 0
  | .uint16 _ => 1
  | .uint32 _ => 2
  | .uint64 _ => 3
  | .string _ => 4

/-- `SOPC_Conf_PublisherId`. -/
inductive ConfPublisherId where
  | null
  | uInteger (id : UInt64)
  | string (id : SopcString)
  deriving DecidableEq, Repr

/-- `SOPC_Helper_Convert_PublisherId`. -/
def convertPublisherId : Option PublisherId → ConfPublisherId
  | none => .null
  | some (.byte id) => .uInteger id.toUInt64
  | some (.uint16 id) => .uInteger id.toUInt64
  | some (.uint32 id) => .uInteger id.toUInt64
  | some (.uint64 id) => .uInteger id
  | some (.string id) => .string id

/-- `SOPC_Helper_PublisherId_Compare`, whose status is always `SOPC_STATUS_OK` here. -/
def publisherIdCompare : ConfPublisherId → ConfPublisherId → Bool
  | .uInteger left, .uInteger right => left = right
  | .string left, .string right => stringEqual left right
  | .null, .null => true
  | _, _ => false

/-! ## Messages -/

/-- `SOPC_UADP_Configuration`. -/
structure UadpConfiguration where
  publisherIdFlag : Bool
  groupHeaderFlag : Bool
  groupIdFlag : Bool
  groupVersionFlag : Bool
  networkMessageNumberFlag : Bool
  sequenceNumberFlag : Bool
  payloadHeaderFlag : Bool
  timestampFlag : Bool
  picoSecondsFlag : Bool
  dataSetClassIdFlag : Bool
  securityFlag : Bool
  promotedFieldsFlag : Bool
  deriving DecidableEq, Repr

/-- `SOPC_Dataset_LL_NetworkMessage_Header`. -/
structure Header where
  uadpVersion : UInt8
  flagsConfig : UadpConfiguration
  publisherId : PublisherId
  deriving DecidableEq, Repr

/-- `SOPC_Dataset_LL_NetworkMessage_Get_PublisherId`. -/
def Header.getPublisherId (header : Header) : Option PublisherId :=
  if header.flagsConfig.publisherIdFlag then some header.publisherId else none

/-- `SOPC_DataSet_LL_DataSetMessageType`, with the values that a received byte may have
    beside its members. -/
inductive DataSetMessageType where
  | keyFrame
  | deltaFrame
  | event
  | keepAlive
  | other (code : UInt8)
  deriving DecidableEq, Repr

/-- The number of a type of messages. -/
def DataSetMessageType.code : DataSetMessageType → UInt8
  | .keyFrame => 0
  | .deltaFrame => 1
  | .event => 2
  | .keepAlive => 3
  | .other code => code

/-- The type of messages of a number. -/
def DataSetMessageType.ofCode (code : UInt8) : DataSetMessageType :=
  if code = 0 then .keyFrame
  else if code = 1 then .deltaFrame
  else if code = 2 then .event
  else if code = 3 then .keepAlive
  else .other code

/-- `SOPC_DataSet_LL_FieldEncoding`. -/
inductive FieldEncoding where
  | variant
  | rawData
  | dataValue
  deriving DecidableEq, Repr

/-- The number of a field encoding. -/
def FieldEncoding.code : FieldEncoding → UInt8
  | .variant => 0
  | .rawData => 1
  | .dataValue => 2

/-- `SOPC_DataSet_LL_UadpDataSetMessageContentMask`. -/
structure ContentMask where
  validFlag : Bool
  fieldEncoding : FieldEncoding
  dataSetMessageSequenceNumberFlag : Bool
  statusFlag : Bool
  configurationVersionMajorVersionFlag : Bool
  configurationVersionMinorFlag : Bool
  dataSetMessageType : DataSetMessageType
  timestampFlag : Bool
  picoSecondsFlag : Bool
  deriving DecidableEq, Repr

/-- The content mask of a message that was just allocated. -/
def ContentMask.initial : ContentMask :=
  ⟨false, .variant, false, false, false, false, .keyFrame, false, false⟩

/-- The fields of a data set message. -/
structure DataSetFields (Obj : Type) where
  length : UInt16
  content : Fin length.toNat → Variant Obj

/-- No field. -/
def DataSetFields.empty (Obj : Type) : DataSetFields Obj := ⟨0, fun i => i.elim0⟩

/-- `SOPC_Dataset_LL_DataSetMessage`. -/
structure DataSetMessage (Obj : Type) where
  conf : ContentMask
  timestamp : UInt64
  fields : DataSetFields Obj
  writerId : UInt16
  sequenceNumber : UInt16
  enableEmission : Bool

/-- A data set message that was just allocated, with its writer. -/
def DataSetMessage.initial (Obj : Type) (writerId : UInt16) : DataSetMessage Obj :=
  ⟨.initial, 0, .empty Obj, writerId, 0, false⟩

/-- `SOPC_Dataset_LL_NetworkMessage`. -/
structure NetworkMessage (Obj : Type) where
  header : Header
  groupId : UInt16
  groupVersion : UInt32
  dataSetMessages : List (DataSetMessage Obj)

/-! ## Bits -/

/-- `Network_Message_Get_Bool_Bit`, with the mask of the bit. -/
def getBoolBit (byte mask : UInt8) : Bool := byte &&& mask ≠ 0

/-- `Network_Message_Set_Bool_Bit`, with the mask of the bit. -/
def setBoolBit (byte mask : UInt8) (b : Bool) : UInt8 :=
  if b then byte ||| mask else byte &&& (255 - mask)

/-! ## Security -/

/-- `SOPC_SecurityMode_Type`. -/
inductive SecurityMode where
  | invalid
  | none
  | sign
  | signAndEncrypt
  deriving DecidableEq, Repr

/-- `Network_Check_ReceivedSecurityMode`. -/
def checkReceivedSecurityMode : SecurityMode → Bool → Bool → Bool
  | .invalid, _, _ => false
  | .none, ssigned, encrypted => !ssigned && !encrypted
  | .sign, ssigned, encrypted => ssigned && !encrypted
  | .signAndEncrypt, ssigned, encrypted => ssigned && encrypted

/-- `SOPC_PubSubSKS_Keys`. -/
structure GroupKeys where
  tokenId : UInt32
  signingKey : List UInt8
  encryptKey : List UInt8
  keyNonce : List UInt8
  deriving DecidableEq, Repr

/-- The cryptography of a PubSub security policy: signatures of one size, and a cipher that
    takes the keys, 4 random bytes and the sequence number of the message, and keeps the length
    of its input. -/
structure CryptoProvider where
  signatureSize : Nat
  symmetricSign : (key data : List UInt8) → Option { s : List UInt8 // s.length = signatureSize }
  symmetricVerify : (key data signature : List UInt8) → Bool
  pubSubCrypt : (key keyNonce : List UInt8) → Vector UInt8 4 → UInt32 → (input : List UInt8) →
    Option { output : List UInt8 // output.length = input.length }

theorem length_masked (key input : List UInt8) :
    (input.map (· ^^^ key.headD 0)).length = input.length := List.length_map ..

/-- A provider for examples: the signature is the sum of the bytes, and the cipher adds the key to
    each byte by exclusive or. -/
def checksumCrypto : CryptoProvider where
  signatureSize := 1
  symmetricSign := fun key data => some ⟨[(key ++ data).foldl (· + ·) 0], rfl⟩
  symmetricVerify := fun key data signature => signature = [(key ++ data).foldl (· + ·) 0]
  pubSubCrypt := fun key _ _ _ input => some ⟨input.map (· ^^^ key.headD 0), length_masked key input⟩

/-- `SOPC_PubSub_SecurityType`, without its group and its provider. -/
structure Security where
  mode : SecurityMode
  groupKeys : Option GroupKeys
  msgNonceRandom : Option (Vector UInt8 4)
  sequenceNumber : UInt32
  sequenceNumberSet : Bool
  deriving DecidableEq, Repr

/-- The messages of a security are signed. -/
def Security.signedEnabled (security : Security) : Bool :=
  security.mode = .sign || security.mode = .signAndEncrypt

/-- The messages of a security are encrypted. -/
def Security.encryptedEnabled (security : Security) : Bool := security.mode = .signAndEncrypt

section
variable (crypto : CryptoProvider)

/-- `SOPC_PubSub_Security_Encrypt`, on the bytes of the payload. -/
def securityEncrypt (security : Security) (payload : List UInt8) :
    Option { output : List UInt8 // output.length = payload.length } :=
  match security.groupKeys, security.msgNonceRandom with
  | some keys, some random =>
    if payload = [] then none
    else crypto.pubSubCrypt keys.encryptKey keys.keyNonce random security.sequenceNumber payload
  | _, _ => none

/-- `SOPC_PubSub_Security_Decrypt`: the next `len` bytes of a buffer, in a buffer of their
    own. -/
def securityDecrypt (security : Security) (src : Buffer) (len : Nat) : Option Buffer :=
  if h : len = 0 ∨ src.data.length < src.position + len then none
  else
    match securityEncrypt crypto security (src.remaining.take len) with
    | none => none
    | some clear => some (Buffer.attach clear.val (by
      have hlen := src.length_le
      have hmax := src.maximumSize.toNat_lt
      rw [clear.property, List.length_take, Buffer.length_remaining]
      omega))

/-- `SOPC_PubSub_Security_Sign`: the signature of the bytes before the cursor is put there. -/
def securitySign (keys : GroupKeys) : Codec Stop Unit := fun src =>
  match crypto.symmetricSign keys.signingKey (src.data.take src.position) with
  | none => .error (.error .writeSignFailed)
  | some signature => failWith (.error .writeSignFailed) (bufferWrite signature.val) src

/-- `SOPC_PubSub_Security_Verify`: the signature at the end of the buffer is that of what comes
    before it, from a position on. -/
def securityVerify (security : Security) (src : Buffer) (payloadPosition : Nat) : Bool :=
  match security.groupKeys with
  | none => false
  | some keys =>
    if src.data.length ≤ crypto.signatureSize + payloadPosition then false
    else
      let lenPayload := src.data.length - payloadPosition - crypto.signatureSize
      crypto.symmetricVerify keys.signingKey ((src.data.drop payloadPosition).take lenPayload)
        ((src.data.drop (payloadPosition + lenPayload)).take crypto.signatureSize)

end

end S2opc.PubSub
