/-
The subscriber: `sopc_sub_scheduler.c`, `sopc_reader_layer.c`,
`sopc_sub_target_variable.c` and `SOPC_PubSubHelpers_IsCompatibleVariant`.

When it starts, the scheduler makes a security context for each publisher and
group of its configuration that is to be secured, and a writer context, with its
target variables, for each data set reader.  A received message is decoded with
the group and the readers that its headers select; the security context and the
writer context are looked up for it by identifiers, each with its own loop.

The Security Key Service is a parameter of what happens, so that each of its
answers is arbitrary.  The calls of the callback that sets the variables are
recorded.  The transports and the clocks are left out: a timeout is an event.
-/
import S2opc.Lib.FirstMatch
import S2opc.PubSub.Decode

namespace S2opc.PubSub

open BuiltinTypes Lib.Bytes Lib.ByteCodec Lib.Stateful Lib.FirstMatch
  S2opc.Encoder

/-! ## The configuration -/

/-- `SOPC_PubSub_ArrayDimension`: the rank of a scalar, or the rank of an array with that many
    bounds. -/
structure ArrayDimension where
  valueRank : Int32
  arrayDimensions : Fin valueRank.toInt.toNat → UInt32
  valid : valueRank = -1 ∨ 0 < valueRank

theorem valid_scalar : (-1 : Int32) = -1 ∨ (0 : Int32) < -1 := .inl rfl

/-- `SOPC_FieldTarget`, as far as it goes to the written values. -/
structure FieldTarget where
  nodeId : NodeId
  attributeId : UInt32
  targetIndexRange : SopcString
  deriving DecidableEq

/-- `SOPC_FieldMetaData`. -/
structure FieldMetaData where
  builtinType : BuiltinId
  arrayDimension : ArrayDimension
  targetVariable : FieldTarget

/-- `SOPC_DataSetReader`.  A reader without fields is refused when the subscriber starts. -/
structure DataSetReader where
  dataSetWriterId : UInt16
  fieldMetaData : List FieldMetaData
  fieldMetaData_ne_nil : fieldMetaData ≠ []

/-- `SOPC_ReaderGroup`.  A group without readers is refused when the subscriber starts. -/
structure ReaderGroup where
  groupId : UInt16
  groupVersion : UInt32
  publisherId : ConfPublisherId
  securityMode : SecurityMode
  securityGroupId : Option String
  readers : List DataSetReader
  readers_ne_nil : readers ≠ []

/-- The messages of a group are to be signed. -/
def ReaderGroup.secured (group : ReaderGroup) : Bool :=
  group.securityMode = .sign || group.securityMode = .signAndEncrypt

/-- `SOPC_PubSubConnection`.  A connection without groups is refused when the subscriber
    starts. -/
structure Connection where
  readerGroups : List ReaderGroup
  readerGroups_ne_nil : readerGroups ≠ []

/-! ## The groups and the readers of a message -/

/-- `SOPC_Sub_Filter_Reader_PublisherId`. -/
def filterReaderPublisherId : ConfPublisherId → PublisherId → Bool
  | .null, _ => true
  | .string conf, .string id => stringCompare conf id = .eq
  | .string _, _ => false
  | .uInteger conf, .byte id => conf = id.toUInt64
  | .uInteger conf, .uint16 id => conf = id.toUInt64
  | .uInteger conf, .uint32 id => conf = id.toUInt64
  | .uInteger conf, .uint64 id => conf = id
  | .uInteger _, .string _ => false

/-- The test of a group in `SOPC_Sub_GetReaderGroup`.  The publisher id is there if its flag
    is. -/
def matchesGroup (conf : UadpConfiguration) (pubId : Option PublisherId) (groupVersion : UInt32)
    (groupId : UInt16) (group : ReaderGroup) : Bool :=
  (!conf.groupVersionFlag || group.groupVersion = groupVersion || group.groupVersion = 0) &&
    (!conf.groupIdFlag || group.groupId = groupId || group.groupId = 0) &&
    (!conf.publisherIdFlag || pubId.any (filterReaderPublisherId group.publisherId))

/-- `SOPC_Sub_GetReaderGroup`. -/
def getReaderGroup (connection : Connection) (conf : UadpConfiguration) (pubId : Option PublisherId)
    (groupVersion : UInt32) (groupId : UInt16) : Option ReaderGroup :=
  connection.readerGroups.find? (matchesGroup conf pubId groupVersion groupId)

/-- `SOPC_Sub_GetReader`. -/
def getReader (group : ReaderGroup) (writerId : UInt16) : Option DataSetReader :=
  group.readers.find? fun reader => reader.dataSetWriterId = writerId && writerId ≠ 0

/-! ## Compatible values -/

variable {Obj : Type}

/-- `SOPC_Variant_Get_ValueRank`. -/
def valueRank : Variant Obj → Int32
  | .null => -1
  | .single _ => -1
  | .array _ _ _ => 1
  | .matrix _ dimensions _ _ => dimensions

/-- `SOPC_ValueRank_IsAssignableInto`. -/
def valueRankIsAssignableInto (dest src : Int32) : Except Stop Bool :=
  if dest ≤ -4 ∨ src ≤ -4 then .error .assertion
  else if dest = src then .ok true
  else if dest = -3 then .ok (src = -1 || src = 1)
  else if dest = -2 then .ok true
  else if dest = -1 then .ok (src = -1)
  else if dest = 0 then .ok (0 < src)
  else .ok false

/-- A dimension is within its bound, 0 being none. -/
def withinBound (bound : UInt32) (length : Int32) : Bool := bound = 0 || length ≤ bound.toInt32

/-- `SOPC_ArrayDimensions_isCompatible`.  There are no bounds for the rank of a scalar. -/
def arrayDimensionsIsCompatible (dest : ArrayDimension) : Variant Obj → Bool
  | .null => true
  | .single _ => true
  | .array _ length _ =>
    if h : dest.valueRank = 1 then
      withinBound (dest.arrayDimensions (Fin.mk 0 (by rw [h]; decide))) length
    else false
  | .matrix _ dimensions arrayDimensions _ =>
    if h : dest.valueRank ≠ -1 ∧ dest.valueRank = dimensions then
      decide (∀ i, withinBound (dest.arrayDimensions (i.cast (by rw [h.2]))) (arrayDimensions i) = true)
    else false

/-- The status code of a variant that is one, if it is bad. -/
def badStatus : Variant Obj → Option UInt32
  | .single (.flat (.statusCode status)) => if status &&& 0x80000000 ≠ 0 then some status else none
  | _ => none

/-- `SOPC_PubSubHelpers_IsCompatibleVariant`: is it compatible, and is it a bad status. -/
def isCompatibleVariant (field : FieldMetaData) (variant : Variant Obj) :
    Except Stop (Bool × Option UInt32) :=
  if field.builtinType = .null then .ok (true, none)
  else if field.builtinType = variant.builtInTypeId then
    match valueRankIsAssignableInto field.arrayDimension.valueRank (valueRank variant) with
    | .error stop => .error stop
    | .ok assignable =>
      .ok (assignable && arrayDimensionsIsCompatible field.arrayDimension variant, none)
  else if variant.builtInTypeId = .null then .ok (true, none)
  else .ok ((badStatus variant).isSome, badStatus variant)

/-- The loop of `SOPC_Sub_Filter_Reader_FieldMetaData`. -/
def allCompatible {Obj : Type} : List (FieldMetaData × Variant Obj) → Except Stop Bool
  | [] => .ok true
  | (field, variant) :: rest =>
    match isCompatibleVariant field variant with
    | .error stop => .error stop
    | .ok (true, _) => allCompatible rest
    | .ok (false, _) => .ok false

/-- The fields of a message in a list. -/
def DataSetFields.toList (fields : DataSetFields Obj) : List (Variant Obj) :=
  List.ofFn fields.content

/-- `SOPC_Sub_Filter_Reader_FieldMetaData`. -/
def filterReaderFieldMetaData (reader : DataSetReader) (dsm : DataSetMessage Obj) :
    Except Stop Bool :=
  if dsm.fields.toList.length = reader.fieldMetaData.length then
    allCompatible (reader.fieldMetaData.zip dsm.fields.toList)
  else .ok false

/-! ## The state -/

/-- `SOPC_PubSubState`. -/
inductive PubSubState where
  | disabled
  | paused
  | operational
  | error
  deriving DecidableEq, Repr

/-- `OpcUa_WriteValue`, with the fields that are set. -/
structure WriteValue (Obj : Type) where
  target : FieldTarget
  value : Variant Obj
  status : UInt32
  sourceTimestamp : Int64

/-- `SOPC_SubScheduler_Security_Reader_Ctx`. -/
structure ReaderCtx where
  writerGroupId : UInt16
  securityGroupId : String
  security : Security
  deriving DecidableEq

/-- `SOPC_SubScheduler_Security_Pub_Ctx`. -/
structure PubCtx where
  pubId : ConfPublisherId
  readers : List ReaderCtx
  deriving DecidableEq

/-- `SOPC_SubScheduler_Writer_Ctx`, without its timeout. -/
structure WriterCtx (Obj : Type) where
  pubId : ConfPublisherId
  writerId : UInt16
  groupId : UInt16
  connectionMode : PubSubState
  dataSetMessageSequenceNumberSet : Bool
  dataSetMessageSequenceNumber : UInt16
  writeValues : List (WriteValue Obj)

/-- A call of `SOPC_SetTargetVariables_Func`, with the writer context of the target variables. -/
structure Write (Obj : Type) where
  pubId : ConfPublisherId
  groupId : UInt16
  writerId : UInt16
  values : List (WriteValue Obj)

/-- The variables of the scheduler, and the calls of the callback so far. -/
structure Subscriber (Obj : Type) where
  state : PubSubState
  securityCtx : List PubCtx
  writerCtx : List (WriterCtx Obj)
  written : List (Write Obj)

/-- `SOPC_PubSubSKS_GetUpdateSecurityKeys`: the keys of a security group for a token. -/
abbrev KeyService := (securityGroupId : String) → (tokenId : UInt32) → Option GroupKeys

section

/-! ## Security contexts -/

variable (pubId : ConfPublisherId)

/-- A security context of a publisher. -/
def isPubCtx (ctx : PubCtx) : Bool := publisherIdCompare ctx.pubId pubId

/-- A security context of a group. -/
def isReaderCtx (groupId : UInt16) (ctx : ReaderCtx) : Bool := ctx.writerGroupId = groupId

variable (s : Subscriber Obj)

/-- The security context that `SOPC_SubScheduler_Get_Security_Infos` finds. -/
def Subscriber.findReaderCtx (pubId : ConfPublisherId) (groupId : UInt16) :
    Except SecurityStatus ReaderCtx :=
  match s.securityCtx.find? (isPubCtx pubId) with
  | none => .error .noContextPublisher
  | some pubCtx =>
    match pubCtx.readers.find? (isReaderCtx groupId) with
    | none => .error .noContextWriterGroup
    | some readerCtx => .ok readerCtx

/-- A change of the security that is found for a publisher and a group. -/
def Subscriber.updateSecurity (pubId : ConfPublisherId) (groupId : UInt16)
    (f : Security → Security) : Subscriber Obj :=
  { s with
    securityCtx := updateFirst (isPubCtx pubId)
      (fun pubCtx =>
        { pubCtx with
          readers := updateFirst (isReaderCtx groupId)
            (fun readerCtx => { readerCtx with security := f readerCtx.security }) pubCtx.readers })
      s.securityCtx }

variable (sks : KeyService)

/-- The part of `SOPC_SubScheduler_Get_Security_Infos` on a context: the keys are those of the
    token, after an answer of the service if they are missing or older.  The token 0,
    `SOPC_PUBSUB_SKS_CURRENT_TOKENID`, is never older. -/
def validSecurity (tokenId : UInt32) (ctx : ReaderCtx) :
    Except SecurityStatus Security :=
  if ctx.security.groupKeys.all (·.tokenId < tokenId) then
    match sks ctx.securityGroupId tokenId with
    | none => .error .noKeys
    | some keys =>
      if keys.tokenId = tokenId then
        .ok { ctx.security with groupKeys := some keys, sequenceNumber := 0, sequenceNumberSet := false }
      else if keys.tokenId < tokenId then .error .sksKeysOlder
      else .error .sksKeysNewer
  else if ctx.security.groupKeys.any (tokenId < ·.tokenId) && tokenId ≠ 0 then .error .oldTokenId
  else .ok ctx.security

/-- `SOPC_SubScheduler_Get_Security_Infos`. -/
def getSecurityInfos (tokenId : UInt32) (pubId : ConfPublisherId)
    (groupId : UInt16) (s : Subscriber Obj) : Except SecurityStatus Security × Subscriber Obj :=
  match s.findReaderCtx pubId groupId with
  | .error status => (.error status, s)
  | .ok ctx =>
    match validSecurity sks tokenId ctx with
    | .error status => (.error status, s)
    | .ok security => (.ok security, s.updateSecurity pubId groupId fun _ => security)

/-! ## Writer contexts -/

/-- The writer context of three identifiers. -/
def isWriterCtx (groupId writerId : UInt16) (ctx : WriterCtx Obj) : Bool :=
  ctx.writerId = writerId && ctx.groupId = groupId && publisherIdCompare ctx.pubId pubId

/-- `findWriterContext`. -/
def Subscriber.findWriterContext (pubId : ConfPublisherId)
    (groupId writerId : UInt16) : Option (WriterCtx Obj) :=
  s.writerCtx.find? (isWriterCtx pubId groupId writerId)

/-- A change of the writer context that is found. -/
def Subscriber.updateWriterContext (pubId : ConfPublisherId)
    (groupId writerId : UInt16) (f : WriterCtx Obj → WriterCtx Obj) : Subscriber Obj :=
  { s with writerCtx := updateFirst (isWriterCtx pubId groupId writerId) f s.writerCtx }

/-- `SOPC_Is_UInt16_Sequence_Number_Newer`. -/
def isUInt16SequenceNumberNewer (received processed : UInt16) : Bool :=
  received - 1 - processed < 16384

/-- `SOPC_SubScheduler_Is_Writer_SN_Newer`. -/
def isWriterSNNewer (groupId writerId receivedSN : UInt16)
    (s : Subscriber Obj) : Bool × Subscriber Obj :=
  match s.findWriterContext pubId groupId writerId with
  | none => (false, s)
  | some ctx =>
    if ctx.dataSetMessageSequenceNumberSet = true ∧
        isUInt16SequenceNumberNewer receivedSN ctx.dataSetMessageSequenceNumber = false then
      (false, s)
    else
      (true, s.updateWriterContext pubId groupId writerId fun ctx =>
        { ctx with
          dataSetMessageSequenceNumberSet := true
          dataSetMessageSequenceNumber := receivedSN })

/-- `SOPC_UpdateDSMTimeout`, with `SOPC_SubScheduler_UpdateDsmState` for the operational state. -/
def updateDSMTimeout (groupId writerId : UInt16) (s : Subscriber Obj) :
    Subscriber Obj :=
  s.updateWriterContext pubId groupId writerId fun ctx => { ctx with connectionMode := .operational }

/-- `SOPC_SubScheduler_UpdateDsmState` with `SOPC_PubSubState_Error`, for the writer context at an
    index: the sequence numbers of the context and of its security are reset. -/
def updateDsmStateError (s : Subscriber Obj) (index : Nat) : Subscriber Obj :=
  match s.writerCtx[index]? with
  | none => s
  | some ctx =>
    if ctx.connectionMode = .error then s
    else
      let s := { s with writerCtx := s.writerCtx.modify index fun ctx =>
        { ctx with
          connectionMode := .error
          dataSetMessageSequenceNumberSet := false
          dataSetMessageSequenceNumber := 0 } }
      match getSecurityInfos sks 0 ctx.pubId ctx.groupId s with
      | (.error _, s) => s
      | (.ok _, s) => s.updateSecurity ctx.pubId ctx.groupId fun security =>
        { security with sequenceNumber := 0, sequenceNumberSet := false }

/-- `set_new_state` with `SOPC_PubSubState_Error`. -/
def setNewStateError (s : Subscriber Obj) : Subscriber Obj :=
  if s.state = .error then s
  else (List.range s.writerCtx.length).foldl (updateDsmStateError sks) { s with state := .error }

/-! ## Target variables -/

/-- The loop of `SOPC_SubTargetVariable_SetVariables`: the values, and whether all of them are
    set. -/
def setValues (timestamp : UInt64) :
    List (WriteValue Obj × FieldMetaData × Variant Obj) → Except Stop (List (WriteValue Obj) × Bool)
  | [] => .ok ([], true)
  | (value, field, variant) :: rest =>
    match isCompatibleVariant field variant with
    | .error stop => .error stop
    | .ok (false, _) => .ok (value :: rest.map (·.1), false)
    | .ok (true, some status) =>
      (setValues timestamp rest).map fun set => ({ value with status := status } :: set.1, set.2)
    | .ok (true, none) =>
      (setValues timestamp rest).map fun set =>
        ({ value with value := variant, sourceTimestamp := timestamp.toInt64 } :: set.1, set.2)

/-- `SOPC_TargetVariableCtx`, found by the identifiers of its writer context. -/
structure TargetVariable where
  pubId : ConfPublisherId
  groupId : UInt16
  writerId : UInt16

/-- The callback is called with the values of a writer context if all of them are set, and they
    are cleared. -/
def Subscriber.write (target : TargetVariable) (values : List (WriteValue Obj))
    (set : Bool) : Subscriber Obj :=
  let s := s.updateWriterContext target.pubId target.groupId target.writerId fun ctx =>
    { ctx with writeValues := values.map fun value => { value with value := .null } }
  if set then
    { s with written := s.written ++ [⟨target.pubId, target.groupId, target.writerId, values⟩] }
  else s

/-- `SOPC_SubTargetVariable_SetVariables`.  There are as many fields in the message as in the
    reader, since the message passed `SOPC_Sub_Filter_Reader_FieldMetaData`. -/
def setVariables (callback : Option (List (WriteValue Obj) → Bool)) (target : Option TargetVariable)
    (reader : DataSetReader) (dsm : DataSetMessage Obj) : Action (Subscriber Obj) Stop Bool :=
  match target with
  | none => pure false
  | some target => do
      let found ← Action.query fun s =>
        s.findWriterContext target.pubId target.groupId target.writerId
      match found with
      | none => pure false
      | some ctx =>
        if dsm.fields.toList.length ≠ ctx.writeValues.length then pure false
        else
          match callback with
          | none => pure true
          | some callback => do
              let (values, set) ← Action.ofExcept (setValues dsm.timestamp
                (ctx.writeValues.zip (reader.fieldMetaData.zip dsm.fields.toList)))
              Action.update fun s => s.write target values set
              pure (set && callback values)

/-- `SOPC_SubTargetVariableConfig`: it may be missing, and so may its callback. -/
abbrev TargetVariableConfig (Obj : Type) := Option (Option (List (WriteValue Obj) → Bool))

variable (targetConfig : TargetVariableConfig Obj)

/-- `SOPC_Sub_ReceiveDsm`. -/
def receiveDsm (dsm : DataSetMessage Obj)
    (reader : DataSetReader) (target : Option TargetVariable) : Action (Subscriber Obj) Stop Bool :=
  if dsm.conf.dataSetMessageType = .keepAlive then pure true
  else do
    let compatible ← Action.ofExcept (filterReaderFieldMetaData reader dsm)
    if compatible then
      match targetConfig with
      | none => pure true
      | some callback => setVariables callback target reader dsm
    else pure false

/-! ## Received messages -/

/-- The callbacks that `SOPC_Reader_Read_UADP` and `on_message_received` give to the decoder. -/
def subscriberCallbacks (sks : KeyService)
    (connection : Connection) :
    ReaderConfiguration (Subscriber Obj) ReaderGroup DataSetReader TargetVariable Obj where
  getGroup := getReaderGroup connection
  groupId := ReaderGroup.groupId
  getReader := getReader
  setDsm := receiveDsm targetConfig
  getSecurity := getSecurityInfos sks
  setSecurity := fun pubId groupId security s => s.updateSecurity pubId groupId fun _ => security
  checkDataSetMessageSN := isWriterSNNewer
  updateTimeout := updateDSMTimeout
  targetVariable := fun pubId groupId writerId s =>
    (s.findWriterContext pubId groupId writerId).map fun ctx => ⟨ctx.pubId, ctx.groupId, ctx.writerId⟩

/-- How `on_message_received` ends: with `SOPC_STATUS_OK`, with `SOPC_STATUS_NOK`, or with a
    failed assertion. -/
inductive Reception where
  | ok
  | nok
  | assertionFailed
  deriving DecidableEq, Repr

end

variable (cst : EncodingConstants) (objs : ObjectCodec Obj) (crypto : CryptoProvider)
  (targetConfig : TargetVariableConfig Obj) (sks : KeyService)

/-- `SOPC_Reader_Read_UADP`. -/
def readUadp (connection : Connection) (buffer : Buffer) :
    Action (Subscriber Obj) Stop (NetworkMessage Obj) :=
  networkMessageDecode cst objs crypto (subscriberCallbacks targetConfig sks connection) buffer

/-- `on_message_received`, in the state of the scheduler. -/
def onMessageReceived (connection : Connection) (buffer : Buffer)
    (s : Subscriber Obj) : Reception × Subscriber Obj :=
  if s.state = .operational then
    match Action.exec (readUadp cst objs crypto targetConfig sks connection buffer) s with
    | (.ok _, s) => (.ok, s)
    | (.error .assertion, s) => (.assertionFailed, s)
    | (.error (.error .invalidParameters), s) => (.nok, setNewStateError sks s)
    | (.error (.error _), s) => (.ok, s)
  else (.ok, s)

/-! ## Runs -/

variable (group : ReaderGroup)

/-- `SOPC_SubScheduler_Reader_Ctx_Create`, which needs a security group: `SOPC_strdup` has nothing
    to copy without one.  The crypto provider is always created: for the fixed security policy
    `SOPC_CryptoProvider_CreatePubSub` is null only when memory is missing. -/
def readerCtxCreate : Option ReaderCtx :=
  group.securityGroupId.map fun id => ⟨group.groupId, id, ⟨group.securityMode, none, none, 0, false⟩⟩

/-- The context of a group is added to that of its publisher. -/
def PubCtx.addReader (pubCtx : PubCtx) : PubCtx :=
  if pubCtx.readers.any (isReaderCtx group.groupId) then pubCtx
  else { pubCtx with readers := pubCtx.readers ++ (readerCtxCreate group).toList }

/-- `SOPC_SubScheduler_Add_Security_Ctx`. -/
def addSecurityCtx (securityCtx : List PubCtx) (group : ReaderGroup) : List PubCtx :=
  if group.secured then
    updateFirst (isPubCtx group.publisherId) (·.addReader group)
      (if securityCtx.any (isPubCtx group.publisherId) then securityCtx
        else securityCtx ++ [⟨group.publisherId, []⟩])
  else securityCtx

/-- `SOPC_SubTargetVariable_TargetVariablesCtx_Create`. -/
def targetVariablesCtxCreate (Obj : Type) (reader : DataSetReader) : List (WriteValue Obj) :=
  reader.fieldMetaData.map fun field => ⟨field.targetVariable, .null, 0, 0⟩

/-- `SOPC_SubScheduler_Init_Writer_Ctx`. -/
def initWriterCtx (writerCtx : List (WriterCtx Obj)) (reader : DataSetReader) :
    List (WriterCtx Obj) :=
  if reader.dataSetWriterId ≠ 0 ∧
      writerCtx.any (isWriterCtx group.publisherId group.groupId reader.dataSetWriterId) = true then
    writerCtx
  else
    writerCtx ++ [⟨group.publisherId, reader.dataSetWriterId, group.groupId, .disabled, false, 0,
      targetVariablesCtxCreate Obj reader⟩]

/-- `init_sub_scheduler_ctx` for a group. -/
def initGroup (s : Subscriber Obj) (group : ReaderGroup) : Subscriber Obj :=
  { s with
    securityCtx := addSecurityCtx s.securityCtx group
    writerCtx := group.readers.foldl (initWriterCtx group) s.writerCtx }

/-- The groups of a configuration, in the order in which they are initialised. -/
def allGroups (connections : List Connection) : List ReaderGroup :=
  connections.flatMap Connection.readerGroups

/-- `SOPC_SubScheduler_Start`. -/
def start (Obj : Type) (connections : List Connection) : Subscriber Obj :=
  (allGroups connections).foldl initGroup ⟨.operational, [], [], []⟩

/-- What happens to a subscriber: a message is received on a connection, the timeout of a writer
    context is over, or `SOPC_SubScheduler_ResetSequenceNumber` is called. -/
inductive Event where
  | received (sks : KeyService) (connection : Connection) (buffer : Buffer)
  | timeout (sks : KeyService) (index : Nat)
  | resetSequenceNumber (pubId : ConfPublisherId) (groupId writerId : UInt16)

/-- `SOPC_Sub_TimeoutCheck` for a writer context whose timeout is over. -/
def timeoutCheck (index : Nat) (s : Subscriber Obj) : Subscriber Obj :=
  match s.writerCtx[index]? with
  | none => s
  | some ctx =>
    if s.state = .operational ∧ ctx.connectionMode = .operational then
      updateDsmStateError sks s index
    else s

/-- A subscriber after an event. -/
def Subscriber.step (s : Subscriber Obj) : Event → Subscriber Obj
  | .received sks connection buffer =>
    (onMessageReceived cst objs crypto targetConfig sks connection buffer s).2
  | .timeout sks index => timeoutCheck sks index s
  | .resetSequenceNumber pubId groupId writerId =>
    s.updateWriterContext pubId groupId writerId fun ctx =>
      { ctx with dataSetMessageSequenceNumber := 0 }

/-! ## An example -/

/-- A connection for examples, with one group and one reader of a byte. -/
def sampleConnection (mode : SecurityMode) (securityGroupId : Option String) : Connection where
  readerGroups := [
    { groupId := 1
      groupVersion := 0
      publisherId := .uInteger 1
      securityMode := mode
      securityGroupId := securityGroupId
      readers := [
        { dataSetWriterId := 1
          fieldMetaData := [⟨.byte, ⟨-1, fun i => i.elim0, Or.inl rfl⟩, ⟨0, .numeric 1⟩, 13, .null⟩]
          fieldMetaData_ne_nil := List.cons_ne_nil _ _ }]
      readers_ne_nil := List.cons_ne_nil _ _ }]
  readerGroups_ne_nil := List.cons_ne_nil _ _

/-- A key service for examples, which has the keys of each token. -/
def sampleKeys : KeyService := fun _ tokenId => some ⟨tokenId, [1], [2], [3]⟩

end S2opc.PubSub
