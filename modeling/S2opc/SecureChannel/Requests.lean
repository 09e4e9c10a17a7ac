/-
The requests of a client secure connection: the sent request contexts of
`sopc_chunks_mgr.c` and the events on them in
`sopc_secure_connection_state_mgr.c`.

A context is recorded with the final chunk of a request, with a timer.  It is
found again by the request id: by the chunks of the response, by the timer, and
when the connection is closed.  Each of them may give an outcome of the request
to the services: its response, its timeout, or a failure.

A received buffer may hold several chunks.  The messages they complete are
given to the state manager when all of the buffer is treated, and none is if a
chunk of the buffer is refused.
-/
import S2opc.Lib.FirstMatch
import S2opc.Lib.Run

namespace S2opc.SecureChannel.Requests

open Lib.FirstMatch Lib.Run

/-! ## The contexts -/

/-- The types of the requests of a client that expect a response. -/
inductive MsgType where
  | opn
  | msg
  deriving DecidableEq, Repr

/-- `SOPC_SentRequestMsg_Context`, with its request id.  The timer is armed until it expires or is
    cancelled; it expires once. -/
structure SentRequest where
  requestId : UInt32
  requestHandle : UInt32
  msgType : MsgType
  timerArmed : Bool
  timeoutExpired : Bool
  deriving DecidableEq, Repr

/-- The timer of a request expired or was cancelled. -/
def SentRequest.disarmed (r : SentRequest) : SentRequest :=
  { r with timerArmed := false }

/-- The timeout of a request was treated: its response is ignored from then on. -/
def SentRequest.expired (r : SentRequest) : SentRequest :=
  { r with timeoutExpired := true }

/-- The events towards the services that end a request. -/
inductive Outcome where
  | response (requestHandle : UInt32)
  | requestTimeout (requestHandle : UInt32)
  | sndFailure (requestHandle : UInt32)
  deriving DecidableEq, Repr

/-- The request of an outcome. -/
def Outcome.requestHandle : Outcome → UInt32
  | .response requestHandle => requestHandle
  | .requestTimeout requestHandle => requestHandle
  | .sndFailure requestHandle => requestHandle

/-- The states of a connection, as far as requests are concerned. -/
inductive ConnectionState where
  | connecting
  | connected
  | closed
  deriving DecidableEq, Repr

/-- A client connection, with the requests it was given and their outcomes. -/
structure Connection where
  state : ConnectionState
  sentRequestIds : List SentRequest
  clientNextReqId : UInt32
  /-- The request id of the chunks before, in a message of several chunks. -/
  currentMsgRequestId : Option UInt32
  /-- The request ids of the timers that expired, whose events are in the queue. -/
  timerEvents : List UInt32
  accepted : List UInt32
  outcomes : List Outcome
  deriving DecidableEq, Repr

namespace Connection

def init : Connection where
  state := .connecting
  sentRequestIds := []
  clientNextReqId := 0
  currentMsgRequestId := none
  timerEvents := []
  accepted := []
  outcomes := []

variable (s : Connection)

/-- An event is posted to the services. -/
def post (outcome : Outcome) : Connection :=
  { s with outcomes := s.outcomes ++ [outcome] }

variable (requestId : UInt32)

/-- The context of a request id: `SOPC_SLinkedList_FindFromId`. -/
def findFromId : Option SentRequest :=
  s.sentRequestIds.find? (·.requestId == requestId)

/-- `SOPC_SLinkedList_RemoveFromId`, for the contexts that remain. -/
def withoutId : List SentRequest :=
  s.sentRequestIds.eraseP (·.requestId == requestId)

/-- `SC_CloseSecureConnection`: `SC_Client_ClearPendingRequest` is applied to each context. -/
def close : Connection :=
  if s.state = .closed then s
  else
    { s with
      state := .closed
      sentRequestIds := []
      currentMsgRequestId := none
      outcomes := s.outcomes ++
        (s.sentRequestIds.filter (·.msgType = .msg)).map fun r => .sndFailure r.requestHandle }

/-! ## Requests that are sent -/

/-- The request id for the next message: 0 is not one. -/
def nextRequestId : UInt32 :=
  if s.clientNextReqId = 0 then 1 else s.clientNextReqId

/-- `SC_Chunks_EncodeRequestId`, for a final chunk. -/
def useRequestId : Connection :=
  { s with clientNextReqId := (s.nextRequestId + 1) % 4294967295 }

/-- Request ids are used for chunks that are not sent. -/
def useRequestIds : Nat → Connection → Connection
  | 0, s => s
  | nbIds + 1, s => useRequestIds nbIds s.useRequestId

variable (requestHandle : UInt32)

/-- `SC_Chunks_CreateClientSentRequestContext`, with the request id of the final chunk. -/
def createClientSentRequestContext (msgType : MsgType) :
    Connection :=
  { s.useRequestId with
    sentRequestIds := s.sentRequestIds ++
      [⟨s.nextRequestId, requestHandle, msgType, true, false⟩] }

/-- The result of `SC_Chunks_TreatSendMessageBuffer`.  A failure may have used request ids. -/
inductive SendResult where
  | sent
  | abortSent (nbIds : Nat)
  | failed (nbIds : Nat)
  deriving DecidableEq, Repr

/-- `INT_SC_SND_MSG_CHUNKS` and the event that its result raises. -/
def sendMsgChunks : SendResult → Connection
  | .sent => s.createClientSentRequestContext requestHandle .msg
  | .abortSent nbIds => (useRequestIds nbIds s).post (.sndFailure requestHandle)
  | .failed nbIds => ((useRequestIds nbIds s).post (.sndFailure requestHandle)).close

/-- `SC_SERVICE_SND_MSG`. -/
def serviceSndMsg (result : SendResult) : Connection :=
  let s := { s with accepted := s.accepted ++ [requestHandle] }
  if s.state = .connected then s.sendMsgChunks requestHandle result
  else s.post (.sndFailure requestHandle)

/-- `INT_SC_SND_OPN`: an OPN request has no request handle, and a failure to send it is posted with
    the handle 0. -/
def sendOpn (isSent : Bool) : Connection :=
  if s.state = .closed then s
  else if isSent then s.createClientSentRequestContext 0 .opn
  else (s.post (.sndFailure 0)).close

/-! ## Timers -/

/-- The timer of a request expires, and its event is put in the queue. -/
def expire : Connection :=
  match s.sentRequestIds.find? (fun r => r.requestId == requestId && r.timerArmed) with
  | none => s
  | some _ =>
    { s with
      sentRequestIds := updateFirst (fun r => r.requestId == requestId && r.timerArmed)
        SentRequest.disarmed s.sentRequestIds
      timerEvents := s.timerEvents ++ [requestId] }

/-- `TIMER_SC_REQUEST_TIMEOUT`, for a request id. -/
def requestTimeout (s : Connection) (requestId : UInt32) : Connection :=
  if s.state = .closed then s
  else
    match s.findFromId requestId with
    | none => s
    | some r =>
      let s := if r.msgType = .msg then s.post (.requestTimeout r.requestHandle) else s
      { s with
        sentRequestIds :=
          updateFirst (·.requestId == requestId) SentRequest.expired s.sentRequestIds }

/-- The first event of a timer in the queue is treated. -/
def onTimerEvent : Connection :=
  match s.timerEvents with
  | [] => s
  | requestId :: timerEvents => { s with timerEvents := timerEvents }.requestTimeout requestId

end Connection

/-! ## Chunks that are received -/

/-- `SOPC_Msg_IsFinal`. -/
inductive IsFinal where
  | intermediate
  | final
  | abort
  deriving DecidableEq, Repr

/-- A chunk, with the results of the checks on the rest of it. -/
inductive Chunk where
  /-- A chunk that is refused before its request id is checked: the header, the limits, the
      security and the sequence number. -/
  | refused
  /-- An ACK or an ERR message, and whether the connection goes on after it. -/
  | tcp (goesOn : Bool)
  /-- An OPN response, whether its padding is removed, and whether the response is right. -/
  | opn (requestId : UInt32) (isComplete isRight : Bool)
  /-- A chunk of a response, whether its padding is removed and the total size is accepted, and
      whether the content of an abort chunk is decoded. -/
  | msg (requestId : UInt32) (isFinal : IsFinal) (isComplete isDecoded : Bool)
  deriving DecidableEq, Repr

/-- The events for the messages that are received. -/
inductive RcvEvent where
  | tcp (goesOn : Bool)
  | opn (isRight : Bool)
  | msgChunks (requestHandle : UInt32)
  | msgChunkAbort (requestHandle : UInt32) (isDecoded : Bool)
  deriving DecidableEq, Repr

namespace Connection

variable (s : Connection)

/-- `SC_Chunks_CheckSequenceHeaderRequestId`, on the side of a client: the request handle of a final
    chunk, and whether the request expired.  An error comes with the contexts it leaves. -/
def checkSequenceHeaderRequestId (requestId : UInt32) (isFinal : IsFinal)
    (msgType : MsgType) : Except Connection (Connection × UInt32 × Bool) :=
  if s.currentMsgRequestId.any (· != requestId) then .error s
  else
    match s.findFromId requestId with
    | none => .error s
    | some r =>
      if r.msgType ≠ msgType then
        .error { s with sentRequestIds := s.withoutId requestId ++ [r.disarmed] }
      else if isFinal = .intermediate then
        .ok ({ s with
          sentRequestIds := r :: s.withoutId requestId
          currentMsgRequestId := some requestId }, requestId, r.timeoutExpired)
      else
        .ok ({ s with
          sentRequestIds := s.withoutId requestId
          currentMsgRequestId := some r.requestHandle }, r.requestHandle, r.timeoutExpired)

/-- `SC_Chunks_TreatTcpPayload`, for a chunk with a request id, and the event for a complete message
    of a request that did not expire. -/
def treatTcpPayload (requestId : UInt32) (isFinal : IsFinal) (msgType : MsgType)
    (isComplete : Bool) (event : UInt32 → RcvEvent) : Except Connection (Connection × Option RcvEvent) :=
  match s.checkSequenceHeaderRequestId requestId isFinal msgType with
  | .error s => .error s
  | .ok (s, requestHandle, isExpired) =>
    if isComplete = false then .error s
    else if isFinal = .intermediate then .ok (s, none)
    else .ok ({ s with currentMsgRequestId := none },
      if isExpired = true then none else some (event requestHandle))

/-- A chunk is treated, with the event of `SC_Chunks_MsgTypeToRcvEvent` for a complete message. -/
def treatChunk : Chunk → Except Connection (Connection × Option RcvEvent)
  | .refused => .error s
  | .tcp goesOn => .ok ({ s with currentMsgRequestId := none }, some (.tcp goesOn))
  | .opn requestId isComplete isRight =>
    s.treatTcpPayload requestId .final .opn isComplete fun _ => .opn isRight
  | .msg requestId isFinal isComplete isDecoded =>
    s.treatTcpPayload requestId isFinal .msg isComplete fun requestHandle =>
      if isFinal = .abort then .msgChunkAbort requestHandle isDecoded else .msgChunks requestHandle

/-- The loop of `SC_Chunks_TreatReceivedBuffer`, with the events of the chunks before. -/
def treatChunks : Connection → List RcvEvent → List Chunk →
    Except Connection (Connection × List RcvEvent)
  | s, events, [] => .ok (s, events)
  | s, events, c :: chunks =>
    match s.treatChunk c with
    | .error s => .error s
    | .ok (s, event) => treatChunks s (events ++ event.toList) chunks

/-- `SOPC_SecureConnectionStateMgr_OnInternalEvent`, for the messages that are received. -/
def onInternalEvent : RcvEvent → Connection
  | .tcp goesOn => if goesOn then s else s.close
  | .opn isRight =>
    if s.state = .closed then s
    else if isRight then { s with state := .connected } else s.close
  | .msgChunks requestHandle =>
    if s.state = .connected then s.post (.response requestHandle) else s.close
  -- the state is not tested here
  | .msgChunkAbort requestHandle isDecoded =>
    if isDecoded then s.post (.sndFailure requestHandle) else s.close

/-- `SOCKET_RCV_BYTES`: the events are treated if each chunk is accepted; otherwise they are lost
    and the connection is closed. -/
def receive (chunks : List Chunk) : Connection :=
  if s.state = .closed then s
  else
    match s.treatChunks [] chunks with
    | .ok (s, events) => events.foldl onInternalEvent s
    | .error s => s.close

end Connection

/-! ## Runs -/

/-- What happens on a connection.  It is closed for reasons other than a message that is received:
    on request, on a socket failure, or for a token that cannot be renewed. -/
inductive Input where
  | serviceSndMsg (requestHandle : UInt32) (result : Connection.SendResult)
  | sendOpn (isSent : Bool)
  | expire (requestId : UInt32)
  | timerEvent
  | receive (chunks : List Chunk)
  | close
  deriving DecidableEq, Repr

def step (s : Connection) : Input → Connection
  | .serviceSndMsg requestHandle result => s.serviceSndMsg requestHandle result
  | .sendOpn isSent => s.sendOpn isSent
  | .expire requestId => s.expire requestId
  | .timerEvent => s.onTimerEvent
  | .receive chunks => s.receive chunks
  | .close => s.close

end S2opc.SecureChannel.Requests
