/-
The publish requests of a session: `subscription_mgr_i.imp`, the publish queue
of `subscription_core_i.imp` and `publish_request_queue_bs.c`, and what
`service_mgr_i.imp` sends.

A publish request is answered at once, by a subscription or by a service
fault, or it is put in the queue of the session, where the publishing timers of
the subscriptions, the expiry of the request, a queue that is full and the
deletion of the last subscription take it.  The responses are kept as a
history.  All the allocations succeed, and a closed subscription is no longer
one of the session.
-/
import S2opc.Subscription.Priority
import S2opc.Subscription.Publish

namespace S2opc.SubscriptionCore

open Subscription.Priority (SessionPriorities metSubscriptions)

variable {V E : Type}

/-! ## The variables of a session -/

/-- The status codes of the service faults that answer a publish request. -/
inductive PublishFault where
  | badNoSubscription
  | badTooManyPublishRequests
  | badTimeout
  | badOutOfMemory
  | badInvalidState
  deriving DecidableEq, Repr

/-- The result of the acknowledgement of a message. -/
inductive AckResult where
  | ok
  | badSequenceNumberUnknown
  | badSubscriptionIdInvalid
  deriving DecidableEq, Repr

/-- The response to a publish request. -/
inductive PublishResponse (V E : Type) where
  | published (subscription : Nat) (available : List Nat) (message : Subscription.Response V E)
      (results : List AckResult)
  | fault (status : PublishFault)
  deriving DecidableEq, Repr

/-- A publish request in the queue: `number` stands for its handle and its context. -/
structure PublishRequest where
  number : Nat
  expirationTime : Nat
  results : List AckResult
  deriving DecidableEq, Repr

/-- The constants of the configuration that the operations on sessions use. -/
structure SessionLimits where
  subscription : Limits
  subscriptionPerSessionMax : Nat
  publishRequestPerSessionMax : Nat
  genericOperationPerReqMax : Nat

/-- The constants of `sopc_toolkit_config_constants.h`. -/
def SessionLimits.default : SessionLimits where
  subscription := .default
  subscriptionPerSessionMax := 10
  publishRequestPerSessionMax := 3 * 10
  genericOperationPerReqMax := 5000

/-- The variables of a session, with the number of publish requests that were received and the
    responses that were sent. -/
structure Session (V E : Type) where
  priorities : SessionPriorities
  subscriptions : Nat → Option (Subscription V E)
  publishQueue : Option (List PublishRequest)
  received : Nat
  responses : List (Nat × PublishResponse V E)

namespace Session

/-- A session without any subscription. -/
def init : Session V E where
  priorities := .init
  subscriptions := fun _ => none
  publishQueue := none
  received := 0
  responses := []

variable (session : Session V E)

def setSubscription (id : Nat) (sub : Subscription V E) :
    Session V E :=
  { session with subscriptions := Function.update session.subscriptions id (some sub) }

/-- The responses are sent. -/
def respond (responses : List (Nat × PublishResponse V E)) :
    Session V E :=
  { session with responses := session.responses ++ responses }

/-- `reconfigure_session_priority_subscriptions_queue_last_sub`. -/
def reconfigureLastSub (s : SessionPriorities) (id : Nat) : SessionPriorities :=
  match s.priority id with
  | none => s
  | some p =>
    if s.priorityIdx p ≠ 0 then
      match s.subsQueue (s.priorityIdx p) with
      | none => s
      | some queue =>
        s.setQueue (s.priorityIdx p)
          (some (if id ∈ queue then queue.erase id ++ [id] else queue))
    else s

/-- `fill_publish_response_msg`, and the response with its status. -/
def publishResponse (id : Nat) (sub : Subscription V E)
    (response : Subscription.Response V E) (results : List AckResult) :
    PublishResponse V E :=
  match response with
  | .failed _ => .fault .badOutOfMemory
  | .invalidState => .fault .badInvalidState
  | .notification .. => .published id (availableSeqNums sub.notifRepublishQueue) response results
  | .keepAlive _ => .published id (availableSeqNums sub.notifRepublishQueue) response results

/-! ## The publish queue -/

/-- `pop_invalid_and_check_valid_publishReqQueued`: the requests that are expired are answered, up
    to the first one that is not.  The clock gives the time of each test. -/
def popInvalid (clock : Nat → Nat) :
    List PublishRequest → List (Nat × PublishResponse V E) × List PublishRequest
  | [] => ([], [])
  | request :: queue =>
    if request.expirationTime ≤ clock 0 then
      let popped := popInvalid (fun k => clock (k + 1)) queue
      ((request.number, .fault .badTimeout) :: popped.1, popped.2)
    else ([], request :: queue)

/-- `enqueue_publish_request`.  There is no response if there is no queue. -/
def enqueue (limits : SessionLimits) (session : Session V E) (request : PublishRequest) :
    Option (Session V E) :=
  match session.publishQueue with
  | none => some session
  | some queue =>
    if queue.length = limits.publishRequestPerSessionMax then
      -- `discard_oldest_publish_request`, by `SOPC_SLinkedList_PopLast`
      match queue.getLast? with
      | none => none
      | some old =>
        some (respond { session with publishQueue := some (queue.dropLast ++ [request]) }
          [(old.number, .fault .badTooManyPublishRequests)])
    else some { session with publishQueue := some (queue ++ [request]) }

/-- `deallocate_publish_queue_and_gen_no_sub_responses`. -/
def deallocateQueue : Session V E :=
  match session.publishQueue with
  | none => session
  | some queue =>
    respond { session with publishQueue := none }
      (queue.map fun request => (request.number, .fault .badNoSubscription))

/-! ## The services -/

/-- `treat_create_subscription_request`, for an identifier that is not used. -/
def createSubscription (limits : SessionLimits) (session : Session V E) (id : Nat) (p : UInt8)
    (sub : Subscription V E) : Session V E :=
  match session.priorities.priority id with
  | some _ => session
  | none =>
    let priorities :=
      session.priorities.createSubscription limits.subscriptionPerSessionMax id p
    if (priorities.priority id).isSome then
      let created := { session.setSubscription id sub with priorities := priorities }
      if session.priorities.nbSubscriptions = 0 ∧ priorities.nbSubscriptions ≠ 0 then
        { created with publishQueue := some [] }
      else created
    else session

/-- `treat_modify_subscription_request`. -/
def modifySubscription (limits : SessionLimits) (session : Session V E) (id : Nat) (p : UInt8)
    (lifetimeCount maxKeepAlive maxNotifsPerPublish : Nat) : Session V E :=
  match session.subscriptions id with
  | none => session
  | some sub =>
    let priorities :=
      session.priorities.modifySubscription limits.subscriptionPerSessionMax id p
    if priorities.priority id = some p then
      { session.setSubscription id (sub.modify lifetimeCount maxKeepAlive maxNotifsPerPublish) with
        priorities := priorities }
    else session

/-- `close_subscription`. -/
def closeSubscription (id : Nat) : Session V E :=
  { session with
    priorities := session.priorities.deleteSubscription id
    subscriptions := Function.update session.subscriptions id none }

/-- `fill_delete_subscriptions_response`. -/
def closeSubscriptions (session : Session V E) : List Nat → Session V E
  | [] => session
  | id :: ids =>
    closeSubscriptions
      (if (session.subscriptions id).isSome then session.closeSubscription id else session) ids

/-- `treat_delete_subscriptions_request`. -/
def deleteSubscriptions (limits : SessionLimits) (session : Session V E) (ids : List Nat) :
    Session V E :=
  if 0 < ids.length ∧ ids.length ≤ limits.genericOperationPerReqMax then
    let closed := session.closeSubscriptions ids
    if session.priorities.nbSubscriptions ≠ 0 ∧ closed.priorities.nbSubscriptions = 0 then
      closed.deallocateQueue
    else closed
  else session

/-- `fill_publish_response_msg_ack_results`. -/
def acknowledge (session : Session V E) :
    List (Nat × Nat) → Session V E × List AckResult
  | [] => (session, [])
  | (id, seqNum) :: acks =>
    match session.subscriptions id with
    | none =>
      let rest := acknowledge session acks
      (rest.1, .badSubscriptionIdInvalid :: rest.2)
    | some sub =>
      let removed := ackNotifMsg sub.notifRepublishQueue seqNum
      let rest := acknowledge
        (session.setSubscription id { sub with notifRepublishQueue := removed.1 }) acks
      (rest.1, (if removed.2 then AckResult.ok else .badSequenceNumberUnknown) :: rest.2)

section Publish

variable (limits : SessionLimits)
    (copy : NotificationMessage V E → Option (NotificationMessage V E))

/-- The loop of `treat_subscription_publish_request` on the subscriptions: it ends at the first one
    that uses the request. -/
def offerRequest (session : Session V E) :
    List Nat → Option (Session V E × Option (Nat × Subscription.Response V E))
  | [] => some (session, none)
  | id :: ids =>
    match session.subscriptions id with
    | none => offerRequest session ids
    | some sub =>
      match sub.receivePublishRequest limits.subscription copy true with
      | none => none
      | some (sub, none) => offerRequest (session.setSubscription id sub) ids
      | some (sub, some response) => some (session.setSubscription id sub, some (id, response))

variable (session : Session V E)

/-- A subscription has used a publish request: the response is sent, and the subscription goes to
    the end of the queue of its priority, unless the response is a fault. -/
def sendResponse (request : PublishRequest) (id : Nat)
    (response : Subscription.Response V E) : Session V E :=
  match session.subscriptions id with
  | none => session
  | some sub =>
    respond
      (match response with
        | .failed _ => session
        | .invalidState => session
        | .notification .. =>
          { session with priorities := reconfigureLastSub session.priorities id }
        | .keepAlive _ =>
          { session with priorities := reconfigureLastSub session.priorities id })
      [(request.number, publishResponse id sub response request.results)]

/-- `treat_subscription_publish_request`, and the response of `encode_session_service_resp`. -/
def publishRequest (acks : List (Nat × Nat)) (expirationTime : Nat) :
    Option (Session V E) :=
  let number := session.received
  let session := { session with received := session.received + 1 }
  if session.priorities.nbPriorities = 0 then
    some (session.respond [(number, .fault .badNoSubscription)])
  else if acks.length ≤ limits.genericOperationPerReqMax then
    let acknowledged := session.acknowledge acks
    let request : PublishRequest := ⟨number, expirationTime, acknowledged.2⟩
    match offerRequest limits copy acknowledged.1 (metSubscriptions session.priorities) with
    | none => none
    | some (session, none) => session.enqueue limits request
    | some (session, some (id, response)) => some (session.sendResponse request id response)
  else
    -- `e_sc_bad_too_many_ops`, with `async_resp_msg` set: no response is sent
    some session

/-! ## The publishing timer -/

/-- The loop of `server_subscription_publish_timeout` on the requests of the queue: those that are
    expired are answered, and the other ones are used as long as there are more notifications. -/
def returnMoreNotifs (clock : Nat → Nat) (id : Nat) (moreNotifs : Bool) (session : Session V E)
    (sub : Subscription V E) : List PublishRequest → Option (Session V E)
  | [] => some { session.setSubscription id sub with publishQueue := some [] }
  | request :: queue =>
    if moreNotifs then
      if request.expirationTime ≤ clock 0 then
        returnMoreNotifs (fun k => clock (k + 1)) id moreNotifs
          (session.respond [(request.number, .fault .badTimeout)]) sub queue
      else
        match sub.sendNotificationMsg limits.subscription copy true with
        | none => none
        | some (sub, response) =>
          returnMoreNotifs (fun k => clock (k + 1)) id response.moreNotifs
            ((session.setSubscription id sub).sendResponse request id response) sub queue
    else some { session.setSubscription id sub with publishQueue := some (request :: queue) }

/-- The publishing timer after the expired requests were answered, for a queue `queue`. -/
def publishTimeout (clock : Nat → Nat) (session : Session V E) (id : Nat)
    (sub : Subscription V E) (queue : List PublishRequest) : Option (Session V E) :=
  let checked := sub.checkLifetime (!queue.isEmpty)
  if checked.2 then
    let closed := session.closeSubscription id
    some (if closed.priorities.nbSubscriptions = 0 then closed.deallocateQueue else closed)
  else
    match checked.1.publishTimeout limits.subscription copy (!queue.isEmpty) true, queue with
    | none, _ => none
    | some (sub, none), _ => some (session.setSubscription id sub)
    | some (sub, some _), [] => some (session.setSubscription id sub)
    | some (sub, some response), request :: queue =>
      returnMoreNotifs limits copy clock id response.moreNotifs
        ((session.setSubscription id sub).sendResponse request id response) sub queue

/-- `server_subscription_publish_timeout`.  The two clocks are those of the two tests of the
    requests of the queue. -/
def publishTimer (id : Nat) (clock clock' : Nat → Nat) :
    Option (Session V E) :=
  match session.subscriptions id, session.publishQueue with
  | none, _ => some session
  | some sub, none => publishTimeout limits copy clock' session id sub []
  | some sub, some queue =>
    let popped := popInvalid clock queue
    publishTimeout limits copy clock'
      (respond { session with publishQueue := some popped.2 } popped.1) id sub popped.2

end Publish

/-! ## Runs of a session -/

/-- What happens to a session.  The inputs of one subscription are those on its items and on its
    notifications, and the mode of publishing. -/
inductive Input (V E : Type) where
  | createSubscription (id : Nat) (p : UInt8)
      (lifetimeCount maxKeepAlive maxNotifsPerPublish : Nat) (publishEnabled : Bool)
  | modifySubscription (id : Nat) (p : UInt8)
      (lifetimeCount maxKeepAlive maxNotifsPerPublish : Nat)
  | deleteSubscriptions (ids : List Nat)
  | publishRequest (acks : List (Nat × Nat)) (expirationTime : Nat)
  | publishTimer (id : Nat) (clock clock' : Nat → Nat)
  | subscription (id : Nat) (input : Subscription.Input V E)

/-- An input of a subscription that is not one of its session. -/
def isOwnInput : Subscription.Input V E → Bool
  | .publishRequest _ => false
  | .publishTimer _ => false
  | .modify .. => false
  | .acknowledge _ => false
  | .close => false
  | _ => true

/-- A step of a session, or `none` if the process stops at an assertion. -/
def step (limits : SessionLimits)
    (copy : NotificationMessage V E → Option (NotificationMessage V E))
    (session : Session V E) : Input V E → Option (Session V E)
  | .createSubscription id p lifetimeCount maxKeepAlive maxNotifsPerPublish publishEnabled =>
    some (session.createSubscription limits id p
      (.create lifetimeCount maxKeepAlive maxNotifsPerPublish publishEnabled))
  | .modifySubscription id p lifetimeCount maxKeepAlive maxNotifsPerPublish =>
    some (session.modifySubscription limits id p lifetimeCount maxKeepAlive maxNotifsPerPublish)
  | .deleteSubscriptions ids => some (session.deleteSubscriptions limits ids)
  | .publishRequest acks expirationTime => session.publishRequest limits copy acks expirationTime
  | .publishTimer id clock clock' => session.publishTimer limits copy id clock clock'
  | .subscription id input =>
    match session.subscriptions id with
    | none => some session
    | some sub =>
      if isOwnInput input then
        (sub.step limits.subscription copy input).map fun sub => session.setSubscription id sub
      else some session

/-- A step of a process that may be stopped. -/
def stepOrStop (limits : SessionLimits)
    (copy : NotificationMessage V E → Option (NotificationMessage V E))
    (session : Option (Session V E)) (input : Input V E) :
    Option (Session V E) :=
  session.bind fun session => session.step limits copy input

end Session

end S2opc.SubscriptionCore
