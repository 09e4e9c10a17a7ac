/-
The publisher: `sopc_pub_scheduler.c`, with the creation of its messages in
`sopc_dataset_layer.c`.

When the publisher starts, one security context is created for each security
group, with the mode of the first writer group that uses it, and all writer
groups with this security group share the context.  The messages of a writer
group are encoded with the mode of the context, not with that of the group.

A context is named here by its security group id.  The transports and the
publishing times say when a message is sent, not what is in it: whether a
connection can be opened and its times are accepted is a parameter, and a run is
any list of timeouts, of acyclic sends and of changes of the enabled writers.
The JSON encoding of a message, which has no security, is a parameter as well.
A failed assertion ends the program; here its event changes nothing.
-/
import S2opc.PubSub.FixedBuffer

namespace S2opc.PubSub

open BuiltinTypes Lib.Bytes Lib.ByteCodec Encoder Option

/-! ## The configuration -/

/-- `SOPC_PublishedDataSetSourceType`. -/
inductive SourceType where
  | publishedDataItems
  | publishedEvents
  | customSource
  deriving DecidableEq, Repr

/-- `SOPC_DataSetWriter` with its options and the fields of its data set. -/
structure DataSetWriter where
  id : UInt16
  noUseSeqNum : Bool
  noTimestamp : Bool
  disableEmission : Bool
  sourceType : SourceType
  fieldMetaData : List FieldMetaData
  length_le : fieldMetaData.length < 2 ^ 16

/-- `SOPC_Pubsub_MessageEncodingType`. -/
inductive MessageEncoding where
  | uadp
  | json
  deriving DecidableEq, Repr

/-- `SOPC_WriterGroup`. -/
structure WriterGroup where
  id : UInt16
  version : UInt32
  encoding : MessageEncoding
  securityMode : SecurityMode
  securityGroupId : Option String
  useFixedSizeBuffer : Bool
  dataSetWriters : List DataSetWriter

/-- The messages of a group are to be signed. -/
def WriterGroup.secured (group : WriterGroup) : Bool :=
  group.securityMode = .sign || group.securityMode = .signAndEncrypt

/-- `SOPC_PubSubConnection` of a publisher. -/
structure PubConnection where
  publisherId : ConfPublisherId
  acyclicPublisher : Bool
  writerGroups : List WriterGroup

/-! ## The security contexts -/

/-- A security context with its security group id. -/
abbrev SecurityGroup := String × Security

/-- `SecurityGroup_Initialize`. -/
def securityGroupInitialize (securityGroupId : String) (group : WriterGroup) : SecurityGroup :=
  (securityGroupId, ⟨group.securityMode, none, none, 0, false⟩)

variable (securityGroups : List SecurityGroup)

/-- `SecurityGroup_FindWithId`. -/
def findWithId (securityGroupId : String) : Option Security :=
  securityGroups.lookup securityGroupId

/-- One turn of the loop of `SecurityGroups_Initialize_Array`. -/
def addSecurityGroup (group : WriterGroup) :
    Option (List SecurityGroup) :=
  if group.secured then
    match group.securityGroupId with
    | none => none
    | some id =>
      match findWithId securityGroups id with
      | some _ => some securityGroups
      | none => some (securityGroups ++ [securityGroupInitialize id group])
  else some securityGroups

/-- All writer groups, in the order of the loops. -/
def allWriterGroups (config : List PubConnection) : List WriterGroup :=
  config.flatMap (·.writerGroups)

/-- `SecurityGroups_Initialize_Array`. -/
def securityGroupsInitialize (config : List PubConnection) : Option (List SecurityGroup) :=
  (allWriterGroups config).foldlM addSecurityGroup []

/-- What `SOPC_PubSubSKS_GetUpdateSecurityKeys` answers for a security group, given the keys of its
    context: if its status is OK, and the keys then. -/
abbrev KeyAnswer := (securityGroupId : String) → Option GroupKeys → Bool × Option GroupKeys

/-- `SecurityGroup_Update`, with the random bytes it gets, and if its status is OK. -/
def securityGroupUpdate (answer : KeyAnswer) (random : Option (Vector UInt8 4))
    (securityGroupId : String) (security : Security) : Security × Bool :=
  let prevTokenId := (security.groupKeys.map (·.tokenId)).getD 0
  let (ok, groupKeys) := answer securityGroupId security.groupKeys
  match ok, groupKeys with
  | true, some keys =>
    match random with
    | some random =>
      ({ security with
          groupKeys := some keys
          msgNonceRandom := some random
          sequenceNumber :=
            if keys.tokenId ≠ prevTokenId then 1 else security.sequenceNumber + 1 }, true)
    | none => ({ security with groupKeys := some keys, msgNonceRandom := none }, false)
  | ok, groupKeys => ({ security with groupKeys := groupKeys }, ok)

/-! ## The messages -/

variable {Obj : Type}

/-- The fields with the values of a list. -/
def DataSetFields.ofList (values : List (Variant Obj)) : DataSetFields Obj :=
  ⟨UInt16.ofNat values.length, fun i => values.getD i .null⟩

/-- `SOPC_NetworkMessage_Set_PublisherId`: a number takes the smallest type that holds it. -/
def publisherIdOf : ConfPublisherId → PublisherId
  | .null => .string .null
  | .string id => .string id
  | .uInteger id =>
    if 0xFFFFFFFF < id then .uint64 id
    else if 0xFFFF < id then .uint32 id.toUInt32
    else if 0xFF < id then .uint16 id.toUInt16
    else .byte id.toUInt8

variable (writer : DataSetWriter)

/-- The content mask of the messages of a writer. -/
def DataSetWriter.contentMask (isKeepAlive : Bool) : ContentMask where
  validFlag := true
  fieldEncoding := .variant
  dataSetMessageSequenceNumberFlag := !writer.noUseSeqNum
  statusFlag := false
  configurationVersionMajorVersionFlag := false
  configurationVersionMinorFlag := false
  dataSetMessageType :=
    if writer.sourceType = .publishedDataItems then .keyFrame
    else if isKeepAlive then .keepAlive else .event
  timestampFlag := !writer.noTimestamp
  picoSecondsFlag := false

/-- The data set message of a writer. -/
def DataSetWriter.message (isKeepAlive : Bool) : DataSetMessage Obj where
  conf := writer.contentMask isKeepAlive
  timestamp := 0
  fields :=
    if isKeepAlive then .empty Obj else .ofList (writer.fieldMetaData.map fun _ => .null)
  writerId := writer.id
  sequenceNumber := 0
  enableEmission := !writer.disableEmission

/-- `SOPC_Create_NetworkMessage_From_WriterGroup`.  A writer of data items has no keep-alive
    messages: this is asserted. -/
def networkMessageFrom (pubId : ConfPublisherId) (group : WriterGroup) (isKeepAlive : Bool) :
    Except Stop (NetworkMessage Obj) :=
  if isKeepAlive ∧ group.dataSetWriters.any (·.sourceType = .publishedDataItems) then
    .error .assertion
  else
    .ok
      { header :=
          { uadpVersion := 1
            flagsConfig := ⟨true, false, false, false, false, false, false, false, false, false, false,
              false⟩
            publisherId := publisherIdOf pubId }
        groupId := group.id
        groupVersion := group.version
        dataSetMessages := group.dataSetWriters.map (·.message isKeepAlive) }

/-- The initial values of the message of a writer. -/
def initializeFields (dsm : DataSetMessage Obj) :
    Option (DataSetMessage Obj) := do
  let values ← writer.fieldMetaData.mapM (initialFieldValue Obj)
  pure { dsm with fields := .ofList values }

/-- `Initialize_DataSetField_From_WriterGroup`. -/
def initializeDataSetFields (writers : List DataSetWriter) (dsms : List (DataSetMessage Obj)) :
    Option (List (DataSetMessage Obj)) :=
  (writers.zip dsms).mapM fun (writer, dsm) => initializeFields writer dsm

/-! ## The contexts of the writer groups -/

/-- `SOPC_DataSetMessageCtx_t`, without the source of its values. -/
structure DataSetMessageCtx where
  sequenceNumber : UInt16
  enableEmission : Bool
  deriving DecidableEq, Repr

/-- `MessageCtx`, with the preencoded buffer of its message and the id of its security context. -/
structure MessageCtx (Obj : Type) where
  group : WriterGroup
  isAcyclic : Bool
  message : NetworkMessage Obj
  messageKeepAlive : Option (NetworkMessage Obj)
  preencode : Option PreencodeBuffer
  securityGroupId : Option String
  dataSetMessageCtx : List DataSetMessageCtx
  nbOfDsmActive : Nat

/-- What leaves the publisher: the bytes, for a writer group, with the message that was encoded
    and the security context that was used. -/
structure Sent (Obj : Type) where
  group : WriterGroup
  message : NetworkMessage Obj
  security : Option Security
  now : Nat → UInt64
  bytes : List UInt8

/-- `pubSchedulerCtx`, with all that was sent. -/
structure Publisher (Obj : Type) where
  messages : List (MessageCtx Obj)
  securityGroups : List SecurityGroup
  sent : List (Sent Obj)

section
variable (cst : EncodingConstants) (objs : ObjectCodec Obj) (crypto : CryptoProvider)

/-- The preencoded buffer of a message, with its initial values, for a group that has one. -/
def preencodeInit (group : WriterGroup) (security : Option Security) (now : Nat → UInt64)
    (message : NetworkMessage Obj) : Except Stop (NetworkMessage Obj × Option PreencodeBuffer) :=
  if group.useFixedSizeBuffer then
    if group.securityMode = .signAndEncrypt then .error .assertion
    else
      match initializeDataSetFields group.dataSetWriters message.dataSetMessages with
      | none => .error .assertion
      | some dsms => do
          let message := { message with dataSetMessages := dsms }
          let preencode ← createPreencodeBuffer cst objs crypto message security now
          pure (message, some preencode)
  else .ok (message, none)

variable (securityGroups : List SecurityGroup)

/-- `MessageCtx_Array_Init_Next`.  Whether it stops or refuses the group, the publisher does not
    start. -/
def messageCtxInit (now : Nat → UInt64)
    (connection : PubConnection) (group : WriterGroup) : Except Stop (MessageCtx Obj) :=
  if group.dataSetWriters = [] then .error .assertion
  else do
    let message ← networkMessageFrom connection.publisherId group false
    let messageKeepAlive ← (if connection.acyclicPublisher then
      some <$> networkMessageFrom connection.publisherId group true else pure none)
    let securityGroupId := if group.secured then group.securityGroupId else none
    let security := securityGroupId.bind (findWithId securityGroups)
    let (message, preencode) ← preencodeInit cst objs crypto group security now message
    pure
      { group := group
        isAcyclic := connection.acyclicPublisher
        message := message
        messageKeepAlive := messageKeepAlive
        preencode := preencode
        securityGroupId := securityGroupId
        dataSetMessageCtx := group.dataSetWriters.map fun writer => ⟨1, !writer.disableEmission⟩
        nbOfDsmActive := (group.dataSetWriters.filter (!·.disableEmission)).length }

/-- `SOPC_PubScheduler_Start`.  `accepted` is what the transports and the publishing times say. -/
def startPublisher (accepted : PubConnection → Bool) (now : Nat → UInt64)
    (config : List PubConnection) : Except Stop (Publisher Obj) :=
  match securityGroupsInitialize config with
  | none => .error .assertion
  | some securityGroups =>
    if config = [] ∨ config.any (fun c => c.writerGroups = [] || !accepted c) then
      .error .assertion
    else do
      let messages ← (config.flatMap fun connection => connection.writerGroups.map
        (connection, ·)).mapM fun pair =>
          messageCtxInit cst objs crypto securityGroups now pair.1 pair.2
      pure ⟨messages, securityGroups, []⟩

/-! ## The values of the fields -/

/-- What a send takes from outside: the values and the statuses of the fields, by data set message
    and field, what the key service answers, the random bytes, and the times. -/
structure Inputs (Obj : Type) where
  source : (dsm field : Nat) → Variant Obj × UInt32
  answer : KeyAnswer
  random : Option (Vector UInt8 4)
  now : Nat → UInt64

/-- The check of one value in `MessageCtx_Send_Publish_Message`: what is stored in the message, and
    if the check succeeds.  A bad status is stored in place of the value. -/
def checkField (isPreencoded : Bool) (field : FieldMetaData) (value : Variant Obj) (status : UInt32) :
    Except Stop (Variant Obj × Bool) := do
  let (isCompatible, isBad) ← (if isPreencoded then
    pure (isPreencodeCompatibleVariant field value, false)
    else do
      let (isCompatible, bad) ← isCompatibleVariant field value
      pure (isCompatible, bad.isSome))
  if isCompatible = true ∧ status &&& 0x80000000 ≠ 0 then
    pure (if value.builtInTypeId = .statusCode then value else .single (.flat (.statusCode status)),
      true)
  else pure (value, isCompatible && !isBad)

/-- The loop on the fields of a data set message, from an index on, with the values there: as many
    as the fields.  It ends with the first check that fails. -/
def checkFields (isPreencoded : Bool) (source : Nat → Variant Obj × UInt32) :
    Nat → List FieldMetaData → List (Variant Obj) → Bool → Except Stop (List (Variant Obj) × Bool)
  | _, _, values, false => .ok (values, false)
  | _, [], _, true => .ok ([], true)
  | i, field :: fields, values, true => do
      let (value, ok) ← checkField isPreencoded field (source i).1 (source i).2
      let (values, ok) ← checkFields isPreencoded source (i + 1) fields values.tail ok
      pure (value :: values, ok)

/-- The state of the loop on the data set messages: those done with their contexts, the
    preencoded buffer, and if all checks succeeded. -/
structure Publication (Obj : Type) where
  done : List (DataSetMessage Obj × DataSetMessageCtx)
  preencode : Option PreencodeBuffer
  typeChecking : Bool

/-- The preencoded buffer is built again when a message is enabled or disabled.  If this fails, a
    pointer to the freed buffer is kept and used. -/
def rebuildPreencode (security : Option Security) (now : Nat → UInt64) (message : NetworkMessage Obj)
    (changed : Bool) : Option PreencodeBuffer → Except Stop (Option PreencodeBuffer)
  | none => .ok none
  | some preencode =>
    if changed then some <$> createPreencodeBuffer cst objs crypto message security now
    else .ok (some preencode)

/-- The loop on the data set messages of `MessageCtx_Send_Publish_Message`. -/
def publishLoop (security : Option Security) (inputs : Inputs Obj) (message : NetworkMessage Obj) :
    Publication Obj → List (DataSetWriter × DataSetMessage Obj × DataSetMessageCtx) →
    Except Stop (Publication Obj)
  | st, [] => .ok st
  | st, (writer, dsm, ctx) :: rest => do
      let enabled := { dsm with enableEmission := ctx.enableEmission }
      let preencode ← rebuildPreencode cst objs crypto security inputs.now
        { message with dataSetMessages :=
            st.done.map (·.1) ++ enabled :: rest.map (·.2.1) }
        (ctx.enableEmission ≠ dsm.enableEmission) st.preencode
      if ctx.enableEmission then
        let (values, ok) ← checkFields preencode.isSome (inputs.source st.done.length) 0
          writer.fieldMetaData dsm.fields.toList st.typeChecking
        publishLoop security inputs message
          ⟨st.done ++ [({ enabled with
              sequenceNumber := ctx.sequenceNumber
              fields := .ofList values }, { ctx with sequenceNumber := ctx.sequenceNumber + 1 })],
            preencode, ok⟩ rest
      else
        publishLoop security inputs message
          ⟨st.done ++ [(enabled, ctx)], preencode, st.typeChecking⟩ rest

/-! ## Sending -/

/-- Put a security context in its place. -/
def setSecurity (id : String) (security : Security) :
    List SecurityGroup :=
  securityGroups.map fun group => if group.1 = id then (id, security) else group

/-- The security of a message that is to be sent, if it has one, and if its status is OK. -/
def updateSecurity (inputs : Inputs Obj) (securityGroupId : Option String)
    (securityGroups : List SecurityGroup) : List SecurityGroup × Option Security × Bool :=
  match securityGroupId with
  | none => (securityGroups, none, true)
  | some id =>
    match findWithId securityGroups id with
    | none => (securityGroups, none, false)
    | some security =>
      let (security, ok) := securityGroupUpdate inputs.answer inputs.random id security
      (setSecurity securityGroups id security, some security, ok)

/-- The random bytes of a security are cleared once its message is sent. -/
def clearNonce (securityGroupId : Option String) (security : Option Security)
    (securityGroups : List SecurityGroup) : List SecurityGroup :=
  match securityGroupId, security with
  | some id, some security => setSecurity securityGroups id { security with msgNonceRandom := none }
  | _, _ => securityGroups

/-- The bytes of a message that is encoded when it is sent, if there is no error. -/
def encodeMessage (message : NetworkMessage Obj) (security : Option Security) (now : Nat → UInt64) :
    Except Stop (Option (List UInt8)) :=
  match (do
    let (header, payload) ← encodeBuffers cst objs message security now
    buildFinalMessage crypto security header payload) with
  | .ok buffer => .ok (some buffer.data)
  | .error (.error _) => .ok none
  | .error .assertion => .error .assertion

variable (json : NetworkMessage Obj → Option (List UInt8))

/-- The bytes of the message of a group, with its preencoded buffer.  The JSON encoding refuses a
    security. -/
def encodePublish (ctx : MessageCtx Obj) (security : Option Security) (now : Nat → UInt64) :
    Except Stop (Option PreencodeBuffer × Option (List UInt8)) :=
  if ctx.group.encoding = .json then
    .ok (ctx.preencode, if security.isSome then none else json ctx.message)
  else
    match ctx.preencode with
    | some preencode =>
      let (preencode, sent) := getUpdatedBuffer cst objs crypto preencode ctx.message security now
      .ok (some preencode, if sent then some preencode.buffer.data else none)
    | none => do
        let bytes ← encodeMessage cst objs crypto ctx.message security now
        pure (none, bytes)

/-- What a send does: the context of the group, the security contexts, and what is sent. -/
abbrev Sending (Obj : Type) := MessageCtx Obj × List SecurityGroup × Option (Sent Obj)

/-- The context of a group after the loop on its messages. -/
def MessageCtx.published (ctx : MessageCtx Obj) (st : Publication Obj) : MessageCtx Obj :=
  { ctx with
    message := { ctx.message with dataSetMessages := st.done.map (·.1) }
    preencode := st.preencode
    dataSetMessageCtx := st.done.map (·.2) }

variable (inputs : Inputs Obj)

variable (securityGroups : List SecurityGroup)

/-- The end of `MessageCtx_Send_Publish_Message`: the message is encoded and sent. -/
def sendPublished (ctx : MessageCtx Obj) :
    Except Stop (Sending Obj) :=
  match updateSecurity inputs ctx.securityGroupId securityGroups with
  | (securityGroups, _, false) => .ok (ctx, securityGroups, none)
  | (securityGroups, security, true) => do
      let (preencode, bytes) ← encodePublish cst objs crypto json ctx security inputs.now
      pure ({ ctx with preencode := preencode },
        clearNonce ctx.securityGroupId security securityGroups,
        bytes.map fun bytes => ⟨ctx.group, ctx.message, security, inputs.now, bytes⟩)

/-- `MessageCtx_Send_Publish_Message`. -/
def sendPublishMessage (ctx : MessageCtx Obj) : Except Stop (Sending Obj) := do
  let st ← publishLoop cst objs crypto (ctx.securityGroupId.bind (findWithId securityGroups)) inputs
    ctx.message ⟨[], ctx.preencode, true⟩
    (ctx.group.dataSetWriters.zip (ctx.message.dataSetMessages.zip ctx.dataSetMessageCtx))
  if st.typeChecking then
    sendPublished cst objs crypto json inputs securityGroups (ctx.published st)
  else pure (ctx.published st, securityGroups, none)

/-- The data set messages of a keep-alive message, with their sequence numbers. -/
def keepAliveMessages (dsms : List (DataSetMessage Obj)) (ctxs : List DataSetMessageCtx) :
    List (DataSetMessage Obj) :=
  (dsms.zip ctxs).map fun (dsm, ctx) => { dsm with sequenceNumber := ctx.sequenceNumber }

/-- `Send_KeepAlive_Message`. -/
def sendKeepAliveMessage (ctx : MessageCtx Obj) : Except Stop (Sending Obj) :=
  match ctx.messageKeepAlive with
  | none => .error .assertion
  | some message => do
      let message := { message with
        dataSetMessages := keepAliveMessages message.dataSetMessages ctx.dataSetMessageCtx }
      let ctx := { ctx with
        messageKeepAlive := some message
        dataSetMessageCtx := ctx.dataSetMessageCtx.map fun dsmCtx =>
          { dsmCtx with sequenceNumber := dsmCtx.sequenceNumber + 1 } }
      let (securityGroups, security, ok) := updateSecurity inputs ctx.securityGroupId securityGroups
      let bytes ← (if ok then encodeMessage cst objs crypto message security inputs.now
        else pure none)
      pure (ctx, clearNonce ctx.securityGroupId security securityGroups,
        bytes.map fun bytes => ⟨ctx.group, message, security, inputs.now, bytes⟩)

/-! ## Runs -/

/-- What happens to a publisher: a context times out, the application asks for a message, or it
    enables or disables a data set message. -/
inductive PubEvent (Obj : Type) where
  | timeout (index : Nat) (inputs : Inputs Obj)
  | acyclicSend (index : Nat) (inputs : Inputs Obj)
  | setEnableEmission (index dsm : Nat) (enableEmission : Bool)

variable (publisher : Publisher Obj)

/-- The context of a group after a send, unless the program stops. -/
def Publisher.commit (index : Nat) :
    Except Stop (Sending Obj) → Publisher Obj
  | .error _ => publisher
  | .ok (ctx, securityGroups, sent) =>
    { messages := publisher.messages.set index ctx
      securityGroups := securityGroups
      sent := publisher.sent ++ sent.toList }

/-- `SOPC_PubScheduler_Set_EnableEmission_DataSetMessage`. -/
def setEnableEmission (dsm : Nat) (enableEmission : Bool) (ctx : MessageCtx Obj) : MessageCtx Obj :=
  match ctx.dataSetMessageCtx[dsm]? with
  | none => ctx
  | some dsmCtx =>
    { ctx with
      dataSetMessageCtx := ctx.dataSetMessageCtx.set dsm
        { dsmCtx with enableEmission := enableEmission }
      nbOfDsmActive :=
        if dsmCtx.enableEmission = enableEmission then ctx.nbOfDsmActive
        else if enableEmission then ctx.nbOfDsmActive + 1 else ctx.nbOfDsmActive - 1 }

/-- One event: a turn of `Thread_Start_Publish`, `SOPC_PubScheduler_AcyclicSend`,
    `SOPC_PubScheduler_Enable_DataSetMessage` or `SOPC_PubScheduler_Disable_DataSetMessage`. -/
def Publisher.step :
    PubEvent Obj → Publisher Obj
  | .timeout index inputs =>
    match publisher.messages[index]? with
    | none => publisher
    | some ctx =>
      if ctx.nbOfDsmActive = 0 then publisher
      else publisher.commit index (if ctx.isAcyclic then
        sendKeepAliveMessage cst objs crypto inputs publisher.securityGroups ctx
        else sendPublishMessage cst objs crypto json inputs publisher.securityGroups ctx)
  | .acyclicSend index inputs =>
    match publisher.messages[index]? with
    | none => publisher
    | some ctx =>
      if ctx.nbOfDsmActive = 0 then publisher
      else publisher.commit index
        (sendPublishMessage cst objs crypto json inputs publisher.securityGroups ctx)
  | .setEnableEmission index dsm enableEmission =>
    match publisher.messages[index]? with
    | none => publisher
    | some ctx =>
      { publisher with messages :=
          publisher.messages.set index (setEnableEmission dsm enableEmission ctx) }

/-- All events of a run. -/
def Publisher.run (events : List (PubEvent Obj)) : Publisher Obj :=
  events.foldl (Publisher.step cst objs crypto json) publisher

end

/-! ## The modes of the security contexts -/

/-- The mode of the first writer group with a security group. -/
def firstMode (groups : List WriterGroup) (securityGroupId : String) : Option SecurityMode :=
  (groups.find? fun group => group.secured && group.securityGroupId = some securityGroupId).map
    (·.securityMode)

variable (securityGroups : List SecurityGroup)

/-- The mode of a security context. -/
def modeOf (securityGroupId : String) : Option SecurityMode :=
  (findWithId securityGroups securityGroupId).map (·.mode)

theorem findWithId_append (id id' : String)
    (security : Security) :
    findWithId (securityGroups ++ [(id, security)]) id' =
      (findWithId securityGroups id').or (if id' = id then some security else none) := by
  unfold findWithId
  rw [List.lookup_append]
  congr 1
  split_ifs with h
  · rw [h, List.lookup_cons_self]
  · rw [List.lookup_cons, beq_false_of_ne h]
    rfl

variable {securityGroups securityGroups' : List SecurityGroup}

theorem addSecurityGroup_modeOf {group : WriterGroup}
    (h : addSecurityGroup securityGroups group = some securityGroups') (id : String) :
    modeOf securityGroups' id = (modeOf securityGroups id).or (firstMode [group] id) := by
  unfold addSecurityGroup at h
  split_ifs at h with hsecured
  · rcases hgroup : group.securityGroupId with _ | groupId
    · rw [hgroup] at h; cases h
    have hfirst : firstMode [group] id =
        if id = groupId then some group.securityMode else none := by
      unfold firstMode
      by_cases hid : id = groupId
      · simp [hsecured, hgroup, hid]
      · simp [hsecured, hgroup, hid, Ne.symm hid]
    rw [hgroup] at h
    cases hfind : findWithId securityGroups groupId with
    | some security =>
      simp only [hfind, Option.some.injEq] at h
      subst h
      -- The group has a context already
      by_cases hid : id = groupId
      · rw [modeOf, hid, hfind]
        rfl
      · rw [hfirst, if_neg hid, or_none]
    | none =>
      simp only [hfind, Option.some.injEq] at h
      subst h
      rw [hfirst, modeOf, securityGroupInitialize, findWithId_append, modeOf]
      by_cases hid : id = groupId
      · rw [if_pos hid, if_pos hid, hid, hfind]
        rfl
      · rw [if_neg hid, if_neg hid, or_none, or_none]
  · cases h
    unfold firstMode
    simp [hsecured]

theorem firstMode_cons (group : WriterGroup) (groups : List WriterGroup) (id : String) :
    firstMode (group :: groups) id = (firstMode [group] id).or (firstMode groups id) := by
  unfold firstMode
  rw [List.find?_cons, List.find?_cons]
  cases group.secured && decide (group.securityGroupId = some id) with
  | true => rfl
  | false => rfl

variable {groups : List WriterGroup}

/-- The loop of `SecurityGroups_Initialize_Array`. -/
theorem foldlM_addSecurityGroup_modeOf
    (h : groups.foldlM addSecurityGroup securityGroups = some securityGroups') (id : String) :
    modeOf securityGroups' id = (modeOf securityGroups id).or (firstMode groups id) := by
  induction groups generalizing securityGroups with
  | nil =>
    cases h
    rw [show firstMode [] id = none from rfl, or_none]
  | cons group groups ih =>
    rw [List.foldlM_cons] at h
    obtain ⟨next, hnext, h⟩ := bind_eq_some_iff.1 h
    rw [ih h, addSecurityGroup_modeOf hnext, firstMode_cons group groups, Option.or_assoc]

/-- A context has the mode of the first writer group that uses it. -/
theorem securityGroupsInitialize_modeOf {config : List PubConnection}
    (h : securityGroupsInitialize config = some securityGroups) (id : String) :
    modeOf securityGroups id = firstMode (allWriterGroups config) id :=
  foldlM_addSecurityGroup_modeOf h id

theorem foldlM_addSecurityGroup_secured
    (h : groups.foldlM addSecurityGroup securityGroups = some securityGroups') :
    ∀ group ∈ groups, group.secured = true → group.securityGroupId.isSome = true := by
  induction groups generalizing securityGroups with
  | nil => intro _ hmem; cases hmem
  | cons first groups ih =>
    rw [List.foldlM_cons] at h
    obtain ⟨next, hnext, h⟩ := bind_eq_some_iff.1 h
    intro group hmem hsecured
    rcases List.mem_cons.1 hmem with rfl | hmem
    · rw [addSecurityGroup, if_pos hsecured] at hnext
      cases hid : group.securityGroupId with
      | none => rw [hid] at hnext; cases hnext
      | some id => rfl
    · exact ih h group hmem hsecured

variable {id : String} {security old : Security}

theorem findWithId_setSecurity_self (h : findWithId securityGroups id = some old) :
    findWithId (setSecurity securityGroups id security) id = some security := by
  unfold findWithId setSecurity at *
  induction securityGroups with
  | nil => cases h
  | cons first rest ih =>
    rw [List.map_cons]
    by_cases hid : first.1 = id
    · rw [if_pos hid, List.lookup_cons_self]
    have hne : (id == first.1) = false := beq_false_of_ne (Ne.symm hid)
    rw [List.lookup_cons, hne] at h
    rw [if_neg hid, List.lookup_cons, hne]
    exact ih h

theorem findWithId_setSecurity_of_ne {id' : String} (h : id' ≠ id) :
    findWithId (setSecurity securityGroups id security) id' = findWithId securityGroups id' := by
  unfold findWithId setSecurity
  induction securityGroups with
  | nil => rfl
  | cons first rest ih =>
    rw [List.map_cons, List.lookup_cons]
    by_cases hid : first.1 = id
    · have hne : (id' == id) = false := beq_false_of_ne h
      rw [if_pos hid, List.lookup_cons, hid, hne]
      exact ih
    rw [if_neg hid, List.lookup_cons]
    cases id' == first.1 with
    | true => rfl
    | false => exact ih

/-- A security context keeps its mode. -/
theorem modeOf_setSecurity (hfind : findWithId securityGroups id = some old)
    (hmode : security.mode = old.mode) :
    modeOf (setSecurity securityGroups id security) = modeOf securityGroups := by
  funext id'
  unfold modeOf
  by_cases hid : id' = id
  · rw [hid, findWithId_setSecurity_self hfind, hfind, map_some, map_some, hmode]
  · rw [findWithId_setSecurity_of_ne hid]

theorem securityGroupUpdate_mode (answer : KeyAnswer) (random : Option (Vector UInt8 4)) (id : String)
    (security : Security) : (securityGroupUpdate answer random id security).1.mode = security.mode := by
  unfold securityGroupUpdate
  obtain ⟨ok, keys⟩ := answer id security.groupKeys
  rcases ok with _ | _
  · rfl
  rcases keys with _ | keys
  · rfl
  cases random with
  | none => rfl
  | some random => rfl

section
variable {Obj : Type}

theorem updateSecurity_modeOf (inputs : Inputs Obj) (securityGroupId : Option String)
    (securityGroups : List SecurityGroup) :
    modeOf (updateSecurity inputs securityGroupId securityGroups).1 = modeOf securityGroups := by
  unfold updateSecurity
  rcases securityGroupId with _ | id
  · rfl
  rcases hfind : findWithId securityGroups id with _ | security
  · simp only [hfind]
  simp only [hfind]
  exact modeOf_setSecurity hfind (securityGroupUpdate_mode ..)

variable {security : Option Security}

/-- The security of a message has the mode of its context, and it is stored there. -/
theorem updateSecurity_some {inputs : Inputs Obj} {ok : Bool}
    (h : updateSecurity inputs (some id) securityGroups = (securityGroups', security, ok)) :
    security.map (·.mode) = modeOf securityGroups id ∧
      (security.isSome = true → findWithId securityGroups' id = security) ∧
      (ok = true → security.isSome = true) := by
  unfold updateSecurity at h
  unfold modeOf
  rcases hfind : findWithId securityGroups id with _ | old
  · simp only [hfind, Prod.mk.injEq] at h
    obtain ⟨-, rfl, rfl⟩ := h
    exact ⟨rfl, nofun, nofun⟩
  simp only [hfind, Prod.mk.injEq] at h
  obtain ⟨rfl, rfl, rfl⟩ := h
  refine ⟨?_, fun _ => findWithId_setSecurity_self hfind, fun _ => rfl⟩
  rw [map_some, map_some, securityGroupUpdate_mode]

theorem clearNonce_modeOf {securityGroupId : Option String} (h : ∀ id ∈ securityGroupId,
      security.isSome = true → findWithId securityGroups id = security) :
    modeOf (clearNonce securityGroupId security securityGroups) = modeOf securityGroups := by
  unfold clearNonce
  rcases securityGroupId with _ | id
  · rfl
  cases security with
  | none => rfl
  | some security => exact modeOf_setSecurity (h id rfl rfl) rfl

end

end S2opc.PubSub
