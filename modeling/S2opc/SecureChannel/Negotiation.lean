/-
The limits of a connection: `sopc_common_constants.c`, the HEL and ACK messages
of `sopc_secure_connection_state_mgr.c`, and the sizes of the chunks in
`sopc_chunks_mgr.c`.

Each side starts from its own encoding constants.  The server adapts its limits
to those of the HEL message and the client to those of the ACK message.  The
chunks of a message are then counted by the sender and checked by the receiver,
each under its own limits.
-/
import S2opc.SecureChannel.ChunkSizes

namespace S2opc.SecureChannel

/-! ## The encoding constants -/

/-- `SOPC_Common_EncodingConstants`, for the TCP UA configuration.  A maximum of 0 is no limit. -/
structure EncodingConstants where
  bufferSize : UInt32
  receiveMaxMsgSize : UInt32
  receiveMaxNbChunks : UInt32
  sendMaxMsgSize : UInt32
  sendMaxNbChunks : UInt32
  deriving DecidableEq, Repr

/-- The outcome of a call that may stop at an assertion. -/
inductive SetOutcome where
  | accepted (config : EncodingConstants)
  | rejected
  | assertionFailed
  deriving DecidableEq, Repr

/-- The constraints that `SOPC_Common_SetEncodingConstants` checks. -/
def EncodingConstants.isCompliant (config : EncodingConstants) : Bool :=
  !(config.receiveMaxMsgSize != 0 && config.receiveMaxMsgSize < config.bufferSize ||
      config.sendMaxMsgSize != 0 && config.sendMaxMsgSize < config.bufferSize) &&
    !(config.receiveMaxMsgSize == 0 && config.receiveMaxNbChunks == 0 ||
      config.sendMaxMsgSize == 0 && config.sendMaxNbChunks == 0)

/-- The configuration that is stored: the maximum size of a message to send is always defined. -/
def EncodingConstants.withDefinedMax (config : EncodingConstants) : EncodingConstants :=
  { config with
    sendMaxMsgSize :=
      if config.sendMaxMsgSize = 0 then config.sendMaxNbChunks * config.bufferSize
      else config.sendMaxMsgSize }

/-- `SOPC_Common_SetEncodingConstants`. -/
def setEncodingConstants (globalEncodingConfigSet : Bool) (config : EncodingConstants) : SetOutcome :=
  if config.isCompliant = false then .rejected
  else if globalEncodingConfigSet = true then .rejected
  else if config.sendMaxMsgSize = 0 ∧ config.sendMaxNbChunks = 0 then .assertionFailed
  -- What is asserted is `receive_max_msg_size` again, not `receive_max_nb_chunks`, so that the
  -- maximum size is never computed from the number of chunks
  else if config.receiveMaxMsgSize = 0 then .assertionFailed
  else .accepted config.withDefinedMax

/-! ## The exchange -/

/-- `SOPC_TCP_UA_MIN_BUFFER_SIZE`. -/
def minBufferSize : UInt32 := 8192

/-- `SOPC_SecureConnection_TcpProperties`. -/
structure TcpProperties where
  protocolVersion : UInt32
  receiveBufferSize : UInt32
  sendBufferSize : UInt32
  receiveMaxMessageSize : UInt32
  sendMaxMessageSize : UInt32
  receiveMaxChunkCount : UInt32
  sendMaxChunkCount : UInt32
  deriving DecidableEq, Repr

/-- The limits in a HEL or in an ACK message. -/
structure TcpLimits where
  protocolVersion : UInt32
  receiveBufferSize : UInt32
  sendBufferSize : UInt32
  maxMessageSize : UInt32
  maxChunkCount : UInt32
  deriving DecidableEq, Repr

namespace TcpProperties

/-- The properties of a new connection; `SOPC_PROTOCOL_VERSION` is 0. -/
def ofConfig (config : EncodingConstants) : TcpProperties where
  protocolVersion := 0
  receiveBufferSize := config.bufferSize
  sendBufferSize := config.bufferSize
  receiveMaxMessageSize := config.receiveMaxMsgSize
  sendMaxMessageSize := config.sendMaxMsgSize
  receiveMaxChunkCount := config.receiveMaxNbChunks
  sendMaxChunkCount := config.sendMaxNbChunks

/-- What a client writes in its HEL message, and a server in its ACK message. -/
def limits (props : TcpProperties) : TcpLimits where
  protocolVersion := props.protocolVersion
  receiveBufferSize := props.receiveBufferSize
  sendBufferSize := props.sendBufferSize
  maxMessageSize := props.receiveMaxMessageSize
  maxChunkCount := props.receiveMaxChunkCount

/-- The adaptation of a maximum to the one of the peer. -/
def adaptMax (value peer : UInt32) : UInt32 :=
  if peer ≠ 0 ∧ (value > peer ∨ value = 0) then peer else value

/-- The adaptation of the size of a buffer to the one of the peer.  A client refuses a size that is
    larger than what it requested. -/
def adaptBufferSize (isClient : Bool) (value peer : UInt32) : Option UInt32 :=
  if value > peer then
    if minBufferSize ≤ peer then some peer else none
  else if isClient = true ∧ value < peer then none
  else some value

/-- The limits of the peer are applied: `SC_ServerTransition_TcpInit_To_TcpNegotiate` for a HEL
    message, `SC_ClientTransition_TcpNegotiate_To_ScInit` for an ACK message. -/
def receiveLimits (isClient : Bool) (props : TcpProperties) (peer : TcpLimits) :
    Option TcpProperties := do
  let sendBufferSize ← adaptBufferSize isClient props.sendBufferSize peer.receiveBufferSize
  let receiveBufferSize ← adaptBufferSize isClient props.receiveBufferSize peer.sendBufferSize
  return {
    protocolVersion :=
      if props.protocolVersion > peer.protocolVersion then peer.protocolVersion
      else props.protocolVersion
    receiveBufferSize := receiveBufferSize
    sendBufferSize := sendBufferSize
    receiveMaxMessageSize := props.receiveMaxMessageSize
    sendMaxMessageSize := adaptMax props.sendMaxMessageSize peer.maxMessageSize
    receiveMaxChunkCount := props.receiveMaxChunkCount
    sendMaxChunkCount := adaptMax props.sendMaxChunkCount peer.maxChunkCount }

/-- The exchange of a HEL and of an ACK message: the properties of the client and those of the
    server, if both sides accept. -/
def negotiate (client server : TcpProperties) : Option (TcpProperties × TcpProperties) := do
  let server ← server.receiveLimits false client.limits
  let client ← client.receiveLimits true server.limits
  return (client, server)

end TcpProperties

/-! ## The sizes of chunks -/

/-- The subtraction of `uint32_t`, on natural numbers. -/
def subUInt32 (a b : Nat) : Nat := (a + (2 ^ 32 - b % 2 ^ 32)) % 2 ^ 32

theorem subUInt32_eq {a b : Nat} (ha : a < 2 ^ 32) (hb : b ≤ a) : subUInt32 a b = a - b := by
  unfold subUInt32
  omega

/-- `OpcUa_MessageSecurityMode`. -/
inductive MessageSecurityMode where
  | none
  | sign
  | signAndEncrypt
  deriving DecidableEq, Repr

/-- The sizes that the symmetric algorithms of a channel give to its chunks.  The plain and the
    cipher blocks of a policy are of one size. -/
structure SymmetricSizes where
  mode : MessageSecurityMode
  symmLenBlock : Nat
  symmLenSignature : Nat
  block_pos : 0 < symmLenBlock
  block_le : symmLenBlock ≤ 256
  signature_le : symmLenSignature ≤ 256

namespace SymmetricSizes

variable (sizes : SymmetricSizes)

/-- The size of the blocks to compute with. -/
def blockSize : Nat :=
  if sizes.mode = .signAndEncrypt then sizes.symmLenBlock else 1

/-- The size of the signature. -/
def signatureSize : Nat :=
  if sizes.mode = .none then 0 else sizes.symmLenSignature

/-- The number of the padding size fields, where `SC_Chunks_Is_ExtraPaddingSizePresent` adds one. -/
def paddingSizeFields : Nat :=
  if sizes.mode = .signAndEncrypt then if 256 < sizes.symmLenBlock then 2 else 1 else 0

/-- `SC_Chunks_ComputeMaxBodySize`, after the 16 bytes of the headers that are not encrypted. -/
def maxBodySize (chunkSize : Nat) : Nat :=
  subUInt32 (sizes.blockSize * (subUInt32 chunkSize 16 / sizes.blockSize))
    (8 + sizes.signatureSize + sizes.paddingSizeFields)

/-- `SC_Chunks_GetPaddingSize`. -/
def paddingSize (bytesToEncrypt : Nat) : Nat :=
  let missing := (bytesToEncrypt + sizes.signatureSize + sizes.paddingSizeFields) % sizes.blockSize
  let size := if missing ≠ 0 then sizes.blockSize - missing else 0
  if size ≤ 65535 then size else 0

/-- The size of a chunk, by `SC_Chunks_EncodeMessageSize`, with a body of a given size. -/
def chunkSize (bodySize : Nat) : Nat :=
  if sizes.mode = .signAndEncrypt then
    16 + (8 + bodySize + sizes.paddingSizeFields + sizes.paddingSize (8 + bodySize) +
      sizes.signatureSize)
  else 24 + bodySize + sizes.signatureSize

end SymmetricSizes

namespace TcpProperties

/-- `SC_Chunks_ComputeNbChunksToSend`: the number of chunks, or `none` for a message that is too
    large. -/
def computeNbChunksToSend (props : TcpProperties) (maxBodySize : Nat) (isMsg : Bool)
    (msgBodyLength : Nat) : Option Nat :=
  if props.sendMaxMessageSize = 0 ∨ msgBodyLength ≤ props.sendMaxMessageSize.toNat then
    if msgBodyLength ≤ maxBodySize then some 1
    else if isMsg = true then
      let requestedNbChunks :=
        msgBodyLength / maxBodySize + if msgBodyLength % maxBodySize ≠ 0 then 1 else 0
      if props.sendMaxChunkCount = 0 ∨ requestedNbChunks ≤ props.sendMaxChunkCount.toNat then
        some requestedNbChunks
      else none
    else none
  else none

/-- The sizes of the bodies of the chunks that `SC_Chunks_NextOutputChunkBuffer` fills, for a number
    of chunks and the bytes that remain. -/
def chunkBodySizes (maxBodySize : Nat) : Nat → Nat → List Nat
  | 0, _ => []
  | nbChunks + 1, remaining =>
    min remaining maxBodySize :: chunkBodySizes maxBodySize nbChunks (remaining - maxBodySize)

/-- The checks on the chunks of a message by `SC_Chunks_CheckMultiChunkContext` and
    `SC_Chunks_TreatMsgMultiChunks`, with the number and the total size of the intermediate chunks
    before them.  The last chunk of the list is the final one. -/
def acceptsChunks (props : TcpProperties) : Nat → Nat → List Nat → Bool
  | _, _, [] => false
  | _, totalSize, [size] => (totalSize + size) % 2 ^ 32 ≤ props.receiveMaxMessageSize.toNat
  | nbIntermediate, totalSize, size :: sizes =>
    !(props.receiveMaxChunkCount != 0 &&
        decide (props.receiveMaxChunkCount.toNat ≤ nbIntermediate + 1)) &&
      decide ((totalSize + size) % 2 ^ 32 ≤ props.receiveMaxMessageSize.toNat) &&
      acceptsChunks props (nbIntermediate + 1) (totalSize + size) sizes

end TcpProperties

/-! ## Soundness of the limits -/

/-- A maximum of a sender is within the one of a receiver, where 0 is no limit. -/
def WithinMax (value limit : UInt32) : Prop :=
  limit = 0 ∨ value ≠ 0 ∧ value ≤ limit

/-- The limits of a sender suit those of the receiver. -/
structure SoundFor (sender receiver : TcpProperties) : Prop where
  buffer_le : sender.sendBufferSize ≤ receiver.receiveBufferSize
  buffer_min : minBufferSize ≤ sender.sendBufferSize
  message_within : WithinMax sender.sendMaxMessageSize receiver.receiveMaxMessageSize
  message_min : sender.sendMaxMessageSize = 0 ∨ minBufferSize ≤ sender.sendMaxMessageSize
  chunks_within : WithinMax sender.sendMaxChunkCount receiver.receiveMaxChunkCount
  /-- The receiver accepts every message that the sender agrees to send. -/
  accepted : ∀ (sizes : SymmetricSizes) (isMsg : Bool) (msgBodyLength nbChunks : Nat),
    sender.computeNbChunksToSend (sizes.maxBodySize sender.sendBufferSize.toNat) isMsg
      msgBodyLength = some nbChunks →
    (∀ bodySize ∈ TcpProperties.chunkBodySizes (sizes.maxBodySize sender.sendBufferSize.toNat)
        nbChunks msgBodyLength,
      sizes.chunkSize bodySize ≤ receiver.receiveBufferSize.toNat) ∧
    receiver.acceptsChunks 0 0 (TcpProperties.chunkBodySizes
      (sizes.maxBodySize sender.sendBufferSize.toNat) nbChunks msgBodyLength) = true

/-- The configurations of a client and of a server do not fail an assertion and, if they are
    accepted, the limits after the exchange are sound in both directions. -/
structure Sound (client server : EncodingConstants) : Prop where
  client_returns : setEncodingConstants false client ≠ .assertionFailed
  server_returns : setEncodingConstants false server ≠ .assertionFailed
  negotiated : ∀ c s, setEncodingConstants false client = .accepted c →
    setEncodingConstants false server = .accepted s →
    ∀ props, (TcpProperties.ofConfig c).negotiate (TcpProperties.ofConfig s) = some props →
      SoundFor props.1 props.2 ∧ SoundFor props.2 props.1

/-! ## The chunks of a message are accepted -/

namespace SymmetricSizes

variable (sizes : SymmetricSizes) {size bodySize : Nat}

theorem blockSize_pos : 0 < sizes.blockSize := by
  unfold blockSize
  have := sizes.block_pos
  split_ifs <;> omega

theorem blockSize_le : sizes.blockSize ≤ 256 := by
  unfold blockSize
  have := sizes.block_le
  split_ifs <;> omega

theorem overhead_le :
    sizes.signatureSize + sizes.paddingSizeFields ≤ 258 := by
  unfold signatureSize paddingSizeFields
  have := sizes.signature_le
  split_ifs <;> omega

/-- In a buffer of the minimum size no subtraction wraps around. -/
theorem maxBodySize_eq (hmin : 8192 ≤ size) (hsize : size < 2 ^ 32) :
    sizes.maxBodySize size + (8 + sizes.signatureSize + sizes.paddingSizeFields) =
        sizes.blockSize * ((size - 16) / sizes.blockSize) ∧
      0 < sizes.maxBodySize size := by
  have hle := Nat.mul_div_le (size - 16) sizes.blockSize
  have hlt := Nat.lt_mul_div_succ (size - 16) sizes.blockSize_pos
  have hblock := sizes.blockSize_le
  have hover := sizes.overhead_le
  rw [Nat.mul_succ] at hlt
  unfold maxBodySize
  rw [subUInt32_eq hsize (by omega : 16 ≤ size), subUInt32_eq (by omega) (by omega)]
  omega

/-- The padding completes a block, if all of its bytes fit in whole blocks. -/
theorem add_paddingSize_le (bytes nbBlocks : Nat)
    (h : bytes + sizes.signatureSize + sizes.paddingSizeFields ≤ sizes.blockSize * nbBlocks) :
    bytes + sizes.signatureSize + sizes.paddingSizeFields + sizes.paddingSize bytes ≤
      sizes.blockSize * nbBlocks := by
  have hle : sizes.paddingSize bytes ≤
      missing sizes.blockSize (bytes + sizes.signatureSize + sizes.paddingSizeFields) := by
    change (if missing _ _ ≤ 65535 then missing _ _ else 0) ≤ _
    split_ifs <;> omega
  exact (Nat.add_le_add_left hle _).trans (missing_le h)

/-- A chunk whose body is within the maximum fits in the buffer. -/
theorem chunkSize_le (hmin : 8192 ≤ size) (hsize : size < 2 ^ 32)
    (hbody : bodySize ≤ sizes.maxBodySize size) : sizes.chunkSize bodySize ≤ size := by
  obtain ⟨hmax, -⟩ := sizes.maxBodySize_eq hmin hsize
  have hle := Nat.mul_div_le (size - 16) sizes.blockSize
  have hpad := sizes.add_paddingSize_le (8 + bodySize) ((size - 16) / sizes.blockSize) (by omega)
  unfold chunkSize
  split_ifs <;> omega

end SymmetricSizes

namespace TcpProperties

variable {sender receiver : TcpProperties} {maxBodySize nbChunks remaining : Nat}

theorem le_of_mem_chunkBodySizes {bodySize : Nat}
    (h : bodySize ∈ chunkBodySizes maxBodySize nbChunks remaining) : bodySize ≤ maxBodySize := by
  induction nbChunks generalizing remaining with
  | zero => simp [chunkBodySizes] at h
  | succ nbChunks ih =>
    rcases List.mem_cons.1 h with rfl | h
    · exact Nat.min_le_right _ _
    · exact ih h

/-- The chunks are accepted if the whole message and their number are within the limits. -/
theorem acceptsChunks_chunkBodySizes {nbIntermediate totalSize : Nat} (hpos : 0 < nbChunks)
    (hmessage : totalSize + remaining ≤ receiver.receiveMaxMessageSize.toNat)
    (hchunks : receiver.receiveMaxChunkCount = 0 ∨
      nbIntermediate + nbChunks ≤ receiver.receiveMaxChunkCount.toNat) :
    receiver.acceptsChunks nbIntermediate totalSize
      (chunkBodySizes maxBodySize nbChunks remaining) = true := by
  induction nbChunks generalizing nbIntermediate totalSize remaining with
  | zero => omega
  | succ nbChunks ih =>
    -- a partial sum is at most the whole message, and so is its remainder modulo 2 ^ 32
    have hpart : (totalSize + min remaining maxBodySize) % 2 ^ 32 ≤
        receiver.receiveMaxMessageSize.toNat := by omega
    rcases nbChunks with _ | nbChunks
    · show decide _ = true
      exact decide_eq_true hpart
    have hrest : receiver.acceptsChunks (nbIntermediate + 1)
        (totalSize + min remaining maxBodySize)
        (chunkBodySizes maxBodySize (nbChunks + 1) (remaining - maxBodySize)) = true := by
      apply ih
      · omega
      · omega
      · exact hchunks.imp_right fun hcount => by omega
    rw [chunkBodySizes] at hrest ⊢
    rw [chunkBodySizes, acceptsChunks, hrest, decide_eq_true hpart]
    · rcases hchunks with hnone | hcount
      · simp [hnone]
      · have hfew : ¬ receiver.receiveMaxChunkCount.toNat ≤ nbIntermediate + 1 := by omega
        simp [hfew]
    · simp

variable {isMsg : Bool} {msgBodyLength : Nat}

/-- What `SC_Chunks_ComputeNbChunksToSend` ensures. -/
theorem computeNbChunksToSend_some (hmax : 0 < maxBodySize)
    (h : sender.computeNbChunksToSend maxBodySize isMsg msgBodyLength = some nbChunks) :
    0 < nbChunks ∧
      (sender.sendMaxMessageSize = 0 ∨ msgBodyLength ≤ sender.sendMaxMessageSize.toNat) ∧
      (nbChunks = 1 ∨ sender.sendMaxChunkCount = 0 ∨
        nbChunks ≤ sender.sendMaxChunkCount.toNat) := by
  unfold computeNbChunksToSend at h
  dsimp only at h
  generalize hrequested : msgBodyLength / maxBodySize +
    (if msgBodyLength % maxBodySize ≠ 0 then 1 else 0) = requested at h
  split_ifs at h with hmessage hone hmsg hchunks <;> obtain rfl := Option.some.inj h
  · exact ⟨by omega, hmessage, .inl rfl⟩
  · have hpos : 0 < msgBodyLength / maxBodySize := Nat.div_pos (by omega) hmax
    exact ⟨by omega, hmessage, .inr hchunks⟩

/-- A message that the sender agrees to send is accepted, under limits that are within those of a
    receiver with a maximum size. -/
theorem acceptsChunks_of_computeNbChunksToSend (hmax : 0 < maxBodySize)
    (hreceive : receiver.receiveMaxMessageSize ≠ 0)
    (hmessage : WithinMax sender.sendMaxMessageSize receiver.receiveMaxMessageSize)
    (hchunks : WithinMax sender.sendMaxChunkCount receiver.receiveMaxChunkCount)
    (h : sender.computeNbChunksToSend maxBodySize isMsg msgBodyLength = some nbChunks) :
    receiver.acceptsChunks 0 0 (chunkBodySizes maxBodySize nbChunks msgBodyLength) = true := by
  obtain ⟨hpos, hlength, hcount⟩ := computeNbChunksToSend_some hmax h
  obtain ⟨hsend, hle⟩ := hmessage.resolve_left hreceive
  have hle : sender.sendMaxMessageSize.toNat ≤ receiver.receiveMaxMessageSize.toNat := hle
  have hlength := hlength.resolve_left hsend
  apply acceptsChunks_chunkBodySizes hpos (by omega)
  rcases hchunks with hnone | ⟨hsome, hle⟩
  · exact .inl hnone
  have hle : sender.sendMaxChunkCount.toNat ≤ receiver.receiveMaxChunkCount.toNat := hle
  have hone : 0 < sender.sendMaxChunkCount.toNat :=
    Nat.pos_of_ne_zero fun hzero => hsome (UInt32.toNat_inj.1 hzero)
  right
  rcases hcount with rfl | hzero | hcount
  · omega
  · exact absurd hzero hsome
  · omega

/-! ## The result of an exchange -/

/-- The properties of a side after an exchange with a peer. -/
def adapted (own peer : EncodingConstants) : TcpProperties where
  protocolVersion := 0
  receiveBufferSize := if own.bufferSize ≤ peer.bufferSize then own.bufferSize else peer.bufferSize
  sendBufferSize := if own.bufferSize ≤ peer.bufferSize then own.bufferSize else peer.bufferSize
  receiveMaxMessageSize := own.receiveMaxMsgSize
  sendMaxMessageSize := adaptMax own.sendMaxMsgSize peer.receiveMaxMsgSize
  receiveMaxChunkCount := own.receiveMaxNbChunks
  sendMaxChunkCount := adaptMax own.sendMaxNbChunks peer.receiveMaxNbChunks

theorem adaptBufferSize_server (own peer : UInt32) :
    adaptBufferSize false own peer =
      if own ≤ peer ∨ minBufferSize ≤ peer then some (if own ≤ peer then own else peer)
      else none := by
  unfold adaptBufferSize
  grind

theorem adaptBufferSize_client (own peer : UInt32) :
    adaptBufferSize true own peer =
      if peer = own ∨ peer < own ∧ minBufferSize ≤ peer then some peer else none := by
  unfold adaptBufferSize
  grind

/-- The exchange succeeds for buffers of one size, and for sizes that are at least the minimum. -/
theorem negotiate_ofConfig (client server : EncodingConstants) :
    (ofConfig client).negotiate (ofConfig server) =
      if client.bufferSize = server.bufferSize ∨
          minBufferSize ≤ client.bufferSize ∧ minBufferSize ≤ server.bufferSize then
        some (adapted client server, adapted server client)
      else none := by
  obtain ⟨clientSize, _, _, _, _⟩ := client
  obtain ⟨serverSize, _, _, _, _⟩ := server
  have hcases : clientSize = serverSize ∨ clientSize < serverSize ∨ serverSize < clientSize := by
    grind
  rcases hcases with rfl | hlt | hgt
  · simp [negotiate, receiveLimits, adaptBufferSize, ofConfig, limits, adapted]
  · have hle : clientSize ≤ serverSize := by grind
    have hnot : ¬ serverSize ≤ clientSize := by grind
    have hne : clientSize ≠ serverSize := by grind
    by_cases hmin : minBufferSize ≤ clientSize
    · have hmin' : minBufferSize ≤ serverSize := by grind
      simp [negotiate, receiveLimits, adaptBufferSize_server, adaptBufferSize_client, ofConfig, limits,
        adapted, hle, hnot, hmin, hmin']
    · simp [negotiate, receiveLimits, adaptBufferSize_server, ofConfig, limits, hnot, hne, hmin]
  · have hle : serverSize ≤ clientSize := by grind
    have hne : clientSize ≠ serverSize := by grind
    by_cases hmin : minBufferSize ≤ serverSize
    · have hmin' : minBufferSize ≤ clientSize := by grind
      simp [negotiate, receiveLimits, adaptBufferSize_server, adaptBufferSize_client, ofConfig, limits,
        adapted, hle, hgt, hmin, hmin']
    · simp [negotiate, receiveLimits, adaptBufferSize_server, adaptBufferSize_client, ofConfig, limits,
        hle, hne, hne.symm, hmin]

theorem withinMax_adaptMax (value peer : UInt32) : WithinMax (adaptMax value peer) peer := by
  unfold WithinMax adaptMax
  grind

theorem adaptMax_min {value peer : UInt32} (hpeer : minBufferSize ≤ peer) :
    adaptMax value peer = 0 ∨ minBufferSize ≤ adaptMax value peer ↔
      value = 0 ∨ minBufferSize ≤ value := by
  unfold adaptMax minBufferSize at *
  grind

/-- The limits of a side suit its peer, if the buffers have the minimum size. -/
theorem soundFor_adapted {own peer : EncodingConstants}
    (hpeer : minBufferSize ≤ peer.receiveMaxMsgSize) (hown : minBufferSize ≤ own.bufferSize)
    (hbuffer : minBufferSize ≤ peer.bufferSize)
    (hsend : own.sendMaxMsgSize = 0 ∨ minBufferSize ≤ own.sendMaxMsgSize) :
    SoundFor (adapted own peer) (adapted peer own) := by
  have hle : (adapted own peer).sendBufferSize ≤ (adapted peer own).receiveBufferSize := by
    simp only [adapted]
    grind
  have hmin : minBufferSize ≤ (adapted own peer).sendBufferSize := by
    simp only [adapted]
    grind
  have hreceive : peer.receiveMaxMsgSize ≠ 0 := by
    unfold minBufferSize at hpeer
    grind
  refine ⟨hle, hmin, withinMax_adaptMax _ _, (adaptMax_min hpeer).2 hsend, withinMax_adaptMax _ _, ?_⟩
  intro sizes isMsg msgBodyLength nbChunks hnb
  have hlt := (adapted own peer).sendBufferSize.toNat_lt
  constructor
  · intro bodySize hmem
    apply Nat.le_trans _ hle
    exact sizes.chunkSize_le hmin hlt (le_of_mem_chunkBodySizes hmem)
  · exact acceptsChunks_of_computeNbChunksToSend (sizes.maxBodySize_eq hmin hlt).2 hreceive
      (withinMax_adaptMax _ _) (withinMax_adaptMax _ _) hnb

end TcpProperties

/-! ## The configurations with a sound exchange -/

variable {config : EncodingConstants}

theorem EncodingConstants.le_of_isCompliant (h : config.isCompliant = true) :
    (config.receiveMaxMsgSize = 0 ∨ config.bufferSize ≤ config.receiveMaxMsgSize) ∧
      (config.sendMaxMsgSize = 0 ∨ config.bufferSize ≤ config.sendMaxMsgSize) := by
  simp only [isCompliant, Bool.and_eq_true, Bool.not_eq_true', Bool.or_eq_false_iff,
    Bool.and_eq_false_iff, bne_eq_false_iff_eq, decide_eq_false_iff_not, UInt32.not_lt] at h
  exact h.1

theorem EncodingConstants.min_le_receiveMaxMsgSize (config : EncodingConstants)
    (h : config.isCompliant = true) (hreceive : config.receiveMaxMsgSize ≠ 0)
    (hmin : minBufferSize ≤ config.bufferSize) : minBufferSize ≤ config.receiveMaxMsgSize := by
  have hle := (le_of_isCompliant h).1
  grind

theorem setEncodingConstants_eq (config : EncodingConstants) :
    setEncodingConstants false config =
      if config.isCompliant = true then
        if config.receiveMaxMsgSize = 0 then .assertionFailed
        else .accepted config.withDefinedMax
      else .rejected := by
  unfold setEncodingConstants
  have hsend : config.isCompliant = true →
      ¬ (config.sendMaxMsgSize = 0 ∧ config.sendMaxNbChunks = 0) := by
    rintro h ⟨hsize, hchunks⟩
    simp [EncodingConstants.isCompliant, hsize, hchunks] at h
  rcases hc : config.isCompliant with _ | _
  · simp
  · simp [hsend hc]

theorem setEncodingConstants_returns_iff (config : EncodingConstants) :
    setEncodingConstants false config ≠ .assertionFailed ↔
      (config.isCompliant = true → config.receiveMaxMsgSize ≠ 0) := by
  rw [setEncodingConstants_eq]
  split_ifs <;> simp_all

theorem setEncodingConstants_accepted_iff (config stored : EncodingConstants) :
    setEncodingConstants false config = .accepted stored ↔
      config.isCompliant = true ∧ config.receiveMaxMsgSize ≠ 0 ∧ config.withDefinedMax = stored := by
  rw [setEncodingConstants_eq]
  split_ifs <;> simp_all

/-- The maximum size of a message, where it is computed from the number of chunks, is not below the
    minimum: the product may wrap around. -/
def EncodingConstants.ComputedMaxFits (config : EncodingConstants) : Prop :=
  config.sendMaxMsgSize = 0 →
    config.sendMaxNbChunks * config.bufferSize = 0 ∨
      minBufferSize ≤ config.sendMaxNbChunks * config.bufferSize

theorem EncodingConstants.withDefinedMax_min (h : config.isCompliant = true)
    (hmin : minBufferSize ≤ config.bufferSize) :
    (config.withDefinedMax.sendMaxMsgSize = 0 ∨
      minBufferSize ≤ config.withDefinedMax.sendMaxMsgSize) ↔ config.ComputedMaxFits := by
  have hle := (le_of_isCompliant h).2
  unfold ComputedMaxFits withDefinedMax
  grind

/-- The limits after an exchange are sound exactly if the maximum size of a message to receive is
    given, two buffers of one size have at least the minimum size, and the product that gives the
    maximum size of a message to send does not wrap around to a small size. -/
theorem negotiation_sound_iff (client server : EncodingConstants) :
    Sound client server ↔
      (client.isCompliant = true → client.receiveMaxMsgSize ≠ 0) ∧
      (server.isCompliant = true → server.receiveMaxMsgSize ≠ 0) ∧
      (client.isCompliant = true → server.isCompliant = true →
        (client.bufferSize = server.bufferSize → minBufferSize ≤ client.bufferSize) ∧
        (minBufferSize ≤ client.bufferSize → minBufferSize ≤ server.bufferSize →
          client.ComputedMaxFits ∧ server.ComputedMaxFits)) := by
  constructor
  · rintro ⟨hclient, hserver, hnegotiated⟩
    rw [setEncodingConstants_returns_iff] at hclient hserver
    refine ⟨hclient, hserver, fun hc hs => ?_⟩
    have hsound := hnegotiated _ _ ((setEncodingConstants_accepted_iff _ _).2 ⟨hc, hclient hc, rfl⟩)
      ((setEncodingConstants_accepted_iff _ _).2 ⟨hs, hserver hs, rfl⟩)
    rw [TcpProperties.negotiate_ofConfig] at hsound
    constructor
    · intro heq
      obtain ⟨hsound, -⟩ := hsound _ (if_pos (.inl heq))
      have hmin := hsound.buffer_min
      simpa [TcpProperties.adapted, EncodingConstants.withDefinedMax, heq] using hmin
    · intro hcmin hsmin
      obtain ⟨hsend, hreceive⟩ := hsound _ (if_pos (.inr ⟨hcmin, hsmin⟩))
      rw [← EncodingConstants.withDefinedMax_min hc hcmin,
        ← EncodingConstants.withDefinedMax_min hs hsmin]
      -- each side adapts to a maximum of its peer that is at least the size of a buffer
      exact ⟨(TcpProperties.adaptMax_min (server.min_le_receiveMaxMsgSize hs (hserver hs) hsmin)).1
          hsend.message_min,
        (TcpProperties.adaptMax_min (client.min_le_receiveMaxMsgSize hc (hclient hc) hcmin)).1
          hreceive.message_min⟩
  · rintro ⟨hclient, hserver, hboth⟩
    refine ⟨(setEncodingConstants_returns_iff _).2 hclient,
      (setEncodingConstants_returns_iff _).2 hserver, ?_⟩
    intro c s hcset hsset props hprops
    obtain ⟨hc, -, rfl⟩ := (setEncodingConstants_accepted_iff _ _).1 hcset
    obtain ⟨hs, -, rfl⟩ := (setEncodingConstants_accepted_iff _ _).1 hsset
    obtain ⟨hequal, hfits⟩ := hboth hc hs
    rw [TcpProperties.negotiate_ofConfig] at hprops
    obtain ⟨hbuffers, rfl⟩ := (Option.ite_none_right_eq_some.1 hprops).imp_right Option.some.inj
    have hmins : minBufferSize ≤ client.bufferSize ∧ minBufferSize ≤ server.bufferSize := by
      rcases hbuffers with heq | hmins
      · have heq : client.bufferSize = server.bufferSize := heq
        exact ⟨hequal heq, heq ▸ hequal heq⟩
      · exact hmins
    obtain ⟨hcfits, hsfits⟩ := hfits hmins.1 hmins.2
    constructor
    · apply TcpProperties.soundFor_adapted
      · exact server.min_le_receiveMaxMsgSize hs (hserver hs) hmins.2
      · exact hmins.1
      · exact hmins.2
      · exact (EncodingConstants.withDefinedMax_min hc hmins.1).2 hcfits
    · apply TcpProperties.soundFor_adapted
      · exact client.min_le_receiveMaxMsgSize hc (hclient hc) hmins.1
      · exact hmins.2
      · exact hmins.1
      · exact (EncodingConstants.withDefinedMax_min hs hmins.2).2 hsfits

/-- A compliant configuration without a maximum size for the messages to receive: their number of
    chunks is limited, and the call fails its assertion. -/
theorem receive_size_without_limit_asserts :
    ¬ Sound ⟨65535, 0, 5, 0, 5⟩ ⟨65535, 0, 5, 0, 5⟩ := by
  intro h
  apply h.client_returns
  decide

end S2opc.SecureChannel
