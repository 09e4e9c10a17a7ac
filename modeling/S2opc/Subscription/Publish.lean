/-
The messages of a subscription: the sending macros of
`subscription_core_i.imp`, its transitions on a publish request and on the
publishing timer, and the republish queue of
`notification_republish_queue_bs.c`.
-/
import S2opc.Subscription.Core

namespace S2opc.SubscriptionCore

variable {V E : Type}

/-! ## The republish queue -/

section Republish

variable {Message : Type}

variable (queue : List (Nat × Message))

/-- `discard_oldest_republish_notif`, by `SOPC_SLinkedList_PopLast`. -/
def discardOldestRepublishNotif : List (Nat × Message) :=
  queue.dropLast

variable (copy : Message → Option Message)

/-- `add_republish_notif_to_queue`: a copy of the message is appended, if there is one. -/
def addRepublishNotif (queue : List (Nat × Message)) (seqNum : Nat)
    (msg : Message) : List (Nat × Message) :=
  match copy msg with
  | none => queue
  | some stored => queue ++ [(seqNum, stored)]

/-- The message that is sent is put in the republish queue, which keeps at most `max` messages. -/
def storeRepublishNotif (max : Nat) (copy : Message → Option Message)
    (queue : List (Nat × Message)) (seqNum : Nat) (msg : Message) : List (Nat × Message) :=
  addRepublishNotif copy (if queue.length = max then discardOldestRepublishNotif queue else queue)
    seqNum msg

/-- `subscription_ack_notif_msg`: `SOPC_SLinkedList_RemoveFromId`. -/
def ackNotifMsg (seqNum : Nat) : List (Nat × Message) × Bool :=
  (queue.eraseP (·.1 == seqNum), queue.any (·.1 == seqNum))

/-- `treat_subscription_republish_request`: a copy of the message of the sequence number, if there
    is one. -/
def republish (queue : List (Nat × Message)) (seqNum : Nat) :
    Option Message :=
  (queue.find? (·.1 == seqNum)).bind fun entry => copy entry.2

/-- `fill_publish_response_msg_available_seq_nums`. -/
def availableSeqNums : List Nat :=
  queue.map Prod.fst

end Republish

/-! ## The content of a message -/

/-- `get_next_subscription_sequence_number`. -/
def nextSequenceNumber (prev : Nat) : Nat :=
  if prev = 2 ^ 32 - 1 then 1 else prev + 1

/-- The numbers of data and of event notifications of a message of at most `max`, and whether there
    are more, for a sum `avail` of the available ones. -/
def shareNbNotifs (max : Nat) (avail : Int) (availData availEvent : Nat) : Nat × Nat × Bool :=
  if avail > max then
    if availEvent = 0 then (max, availEvent, true)
    else if availData = 0 then (availData, max, true)
    else
      let overflow := avail.toNat - max
      -- The category with more notifications loses first, then both equally
      let diff := if availEvent > availData then availEvent - availData else availData - availEvent
      let first := if diff > overflow then overflow else diff
      let nbEvent := if availEvent > availData then availEvent - first else availEvent
      let nbData := if availEvent < availData then availData - first else availData
      let rest := overflow - first
      (nbData - rest / 2, nbEvent - (rest - rest / 2), true)
  else (availData, availEvent, false)

/-- `local_compute_msg_nb_notifs`: the sum of the available notifications is a 32-bit integer. -/
def computeMsgNbNotifs (limits : Limits) (maxNotifs availData availEvent : Nat) : Nat × Nat × Bool :=
  shareNbNotifs
    (if 0 < maxNotifs ∧ maxNotifs < limits.monitoredItemNotifMax then maxNotifs
      else limits.monitoredItemNotifMax)
    ((availData + availEvent : Int).bmod (2 ^ 32)) availData availEvent

/-- The loop on the queue of an item: at most `n` elements are popped, and each is read for the
    message. -/
def popNotifications {α : Type} (read : NotificationElement V E → Option α) :
    Nat → List (NotificationElement V E) →
      Option (List α × List (NotificationElement V E))
  | 0, queue => some ([], queue)
  | _ + 1, [] => some ([], [])
  | n + 1, elt :: queue => do
      let notif ← read elt
      let (notifs, rest) ← popNotifications read n queue
      return (notif :: notifs, rest)

/-- `local_fill_data_notification_message` and `local_fill_event_notification_message`: the loop on
    the items in reporting mode of a kind, for at most `n` notifications. -/
def fillNotificationMessage {α : Type} (isEvent : Bool)
    (read : MonitoredItem V E → NotificationElement V E → Option α) :
    Nat → List (MonitoredItem V E) → Option (List α × List (MonitoredItem V E))
  | _, [] => some ([], [])
  | n, item :: items => do
      if item.monitoringMode = .reporting ∧ item.isEvent = isEvent then
        let (notifs, queue) ← popNotifications (read item) n item.notifQueue
        let (others, items) ← fillNotificationMessage isEvent read (n - notifs.length) items
        return (notifs ++ others, { item with notifQueue := queue } :: items)
      else
        let (others, items) ← fillNotificationMessage isEvent read n items
        return (others, item :: items)

namespace Subscription

variable (limits : Limits)
  (copy : NotificationMessage V E → Option (NotificationMessage V E))
  (sub : Subscription V E)

/-- The data notifications of a message, with the counter. -/
def fillDataNotifs (n : Nat) :
    Option (List (Nat × WriteValue V) × Subscription V E) := do
  let (notifs, items) ← fillNotificationMessage false
    (fun item elt => elt.value.map fun value => (item.clientHandle, value)) n sub.monitoredItems
  return (notifs,
    { sub with
      monitoredItems := items
      availableDataNotifs := sub.availableDataNotifs - notifs.length })

/-- The event notifications of a message, with the counter. -/
def fillEventNotifs (n : Nat) :
    Option (List E × Subscription V E) := do
  let (notifs, items) ← fillNotificationMessage true (fun _ elt => elt.eventValues) n
    sub.monitoredItems
  return (notifs,
    { sub with
      monitoredItems := items
      availableEventNotifs := sub.availableEventNotifs - notifs.length })

/-! ## Sending -/

/-- What a subscription makes of a publish request: nothing, or a response with a message, with its
    flag MoreNotifications.  `failed` is `e_sc_bad_out_of_memory`. -/
inductive Response (V E : Type) where
  | notification (msg : NotificationMessage V E) (moreNotifs : Bool)
  | keepAlive (sequenceNumber : Nat)
  | failed (moreNotifs : Bool)
  | invalidState
  deriving DecidableEq, Repr

/-- The flag MoreNotifications of a response. -/
def Response.moreNotifs : Response V E → Bool
  | .notification _ moreNotifs => moreNotifs
  | .failed moreNotifs => moreNotifs
  | .keepAlive _ => false
  | .invalidState => false

@[simp] theorem Response.moreNotifs_notification (msg : NotificationMessage V E)
    (moreNotifs : Bool) : (Response.notification msg moreNotifs).moreNotifs = moreNotifs :=
  rfl

/-- A message is filled with the numbers of notifications of `nb`, put in the republish queue and
    sent. -/
def fillAndSend (nb : Nat × Nat × Bool) (sub : Subscription V E) :
    Option (Subscription V E × Response V E) := do
  let seqNum := sub.seqNum
  let (dataNotifs, sub) ← fillDataNotifs { sub with seqNum := nextSequenceNumber seqNum } nb.1
  let (eventNotifs, sub) ← sub.fillEventNotifs nb.2.1
  let msg : NotificationMessage V E := ⟨seqNum, dataNotifs, eventNotifs⟩
  return (
    { sub with
      notifRepublishQueue :=
        storeRepublishNotif limits.republishNotifPerSubMax copy sub.notifRepublishQueue seqNum msg
      moreNotifications := nb.2.2
      messageSent := true
      sent := sub.sent ++ [.notification msg] },
    .notification msg nb.2.2)

/-- The numbers of notifications of the next message, and whether there are more. -/
def msgNbNotifs : Nat × Nat × Bool :=
  computeMsgNbNotifs limits sub.maxNotifsPerPublish sub.availableDataNotifs sub.availableEventNotifs

/-- `d_send_notification_msg`.  An empty message needs no allocation. -/
def sendNotificationMsg (allocated : Bool) (sub : Subscription V E) :
    Option (Subscription V E × Response V E) :=
  if allocated || ((sub.msgNbNotifs limits).1 == 0 && (sub.msgNbNotifs limits).2.1 == 0) then
    sub.fillAndSend limits copy (sub.msgNbNotifs limits)
  else some ({ sub with moreNotifications := true, messageSent := true }, .failed true)

/-- `d_send_keepalive_msg`: with the number of the next message. -/
def sendKeepaliveMsg :
    Subscription V E × Response V E :=
  ({ sub with messageSent := true, sent := sub.sent ++ [.keepAlive sub.seqNum] },
    .keepAlive sub.seqNum)

/-- A notification is available. -/
def notificationAvailable : Bool :=
  0 < sub.availableDataNotifs || 0 < sub.availableEventNotifs

section Transitions

variable (limits : Limits)
    (copy : NotificationMessage V E → Option (NotificationMessage V E))

/-- `receive_publish_request`.  There is no response if the request is not used. -/
def receivePublishRequest (allocated : Bool) (sub : Subscription V E) :
    Option (Subscription V E × Option (Response V E)) :=
  -- #4 and #13
  if sub.state = .normal ∧ (sub.publishingEnabled = false ∨ sub.moreNotifications = false) ∨
      sub.state = .keepAlive then
    some (sub, none)
  -- #5
  else if sub.state = .normal ∧ sub.publishingEnabled = true ∧ sub.moreNotifications = true then do
    let (sub, response) ← sendNotificationMsg limits copy allocated sub.resetLifetimeCounter
    return (sub, some response)
  -- #10
  else if sub.state = .late ∧ sub.publishingEnabled = true ∧
      (sub.moreNotifications = true ∨ sub.notificationAvailable = true) then do
    let (sub, response) ←
      sendNotificationMsg limits copy allocated (resetLifetimeCounter { sub with state := .normal })
    return (sub, some response)
  -- #11
  else if sub.state = .late ∧ (sub.publishingEnabled = false ∨
      sub.notificationAvailable = false ∧ sub.moreNotifications = false) then
    let (sub, response) := sendKeepaliveMsg
      (resetKeepAliveCounter (resetLifetimeCounter { sub with state := .keepAlive }))
    some (sub, some response)
  else some (sub, some .invalidState)

/-- `server_subscription_core_publish_timeout_check_lifetime`: whether the subscription is to be
    closed. -/
def checkLifetime (validPublishReqQueued : Bool) (sub : Subscription V E) :
    Subscription V E × Bool :=
  if validPublishReqQueued then (sub.resetLifetimeCounter, false)
  else if sub.lifetimeCounter ≤ 1 then (sub, true)
  else ({ sub with lifetimeCounter := sub.lifetimeCounter - 1 }, false)

/-- `server_subscription_core_publish_timeout`.  A response uses the first publish request of the
    queue. -/
def publishTimeout (validPublishReqQueued allocated : Bool) (sub : Subscription V E) :
    Option (Subscription V E × Option (Response V E)) :=
  let nothingToReport : Bool := !sub.publishingEnabled || !sub.notificationAvailable
  -- #6
  if sub.state = .normal ∧ validPublishReqQueued ∧ !nothingToReport then do
    let (sub, response) ← sendNotificationMsg limits copy allocated sub
    return (sub, some response)
  -- #7
  else if sub.state = .normal ∧ validPublishReqQueued ∧ !sub.messageSent ∧ nothingToReport then
    let (sub, response) := sub.sendKeepaliveMsg
    some (sub, some response)
  -- #8
  else if sub.state = .normal ∧ !validPublishReqQueued ∧ (!sub.messageSent ∨ !nothingToReport) then
    some ({ sub with state := .late }, none)
  -- #9
  else if sub.state = .normal ∧ sub.messageSent ∧ nothingToReport then
    some (decrementKeepAliveCounter (resetKeepAliveCounter { sub with state := .keepAlive }), none)
  -- #12
  else if sub.state = .late then some (sub, none)
  -- #14
  else if sub.state = .keepAlive ∧ !nothingToReport ∧ validPublishReqQueued then do
    let (sub, response) ← sendNotificationMsg limits copy allocated { sub with state := .normal }
    return (sub, some response)
  -- #15
  else if sub.state = .keepAlive ∧ validPublishReqQueued ∧ sub.keepAliveCounter ≤ 1 ∧
      nothingToReport then
    let (sub, response) := sub.resetKeepAliveCounter.sendKeepaliveMsg
    some (sub, some response)
  -- #16
  else if sub.state = .keepAlive ∧ 1 < sub.keepAliveCounter ∧ nothingToReport then
    some (sub.decrementKeepAliveCounter, none)
  -- #17
  else if sub.state = .keepAlive ∧ !validPublishReqQueued ∧
      (sub.keepAliveCounter ≤ 1 ∨ !nothingToReport) then
    some ({ sub with state := .late }, none)
  else some (sub, none)

/-- The loop of `server_subscription_publish_timeout` after a first response, by
    `server_subscription_core_publish_timeout_return_moreNotifs`.  Each element is a valid publish
    request that is still in the queue, with the success of the allocation of its message. -/
def returnMoreNotifs (moreNotifs : Bool) (sub : Subscription V E) :
    List Bool → Option (Subscription V E × List (Response V E))
  | [] => some (sub, [])
  | allocated :: requests =>
    if moreNotifs then do
      let (sub, response) ← sendNotificationMsg limits copy allocated sub
      let (sub, responses) ← returnMoreNotifs response.moreNotifs sub requests
      return (sub, response :: responses)
    else some (sub, [])

/-- `server_subscription_publish_timeout`, for the valid publish requests of the session. -/
def publishTimer (requests : List Bool) (sub : Subscription V E) :
    Option (Subscription V E × List (Response V E)) :=
  let (sub, closed) := sub.checkLifetime (!requests.isEmpty)
  if closed then some (sub.close, [])
  else do
    let (sub, response) ←
      sub.publishTimeout limits copy (!requests.isEmpty) (requests.headD false)
    match response with
    | none => return (sub, [])
    | some response =>
      let (sub, responses) ← returnMoreNotifs limits copy response.moreNotifs sub requests.tail
      return (sub, response :: responses)

end Transitions

/-! ## Runs of a subscription -/

/-- What happens to a subscription.  The values and the events are absent when they could not be
    allocated. -/
inductive Input (V E : Type) where
  | createMonitoredItem (id : Nat) (isEvent : Bool) (mode : MonitoringMode) (params : ItemParams)
      (value : Option (WriteValue V))
  | modifyMonitoredItem (id : Nat) (params : ItemParams) (overflow : Option E)
  | deleteMonitoredItem (id : Nat)
  | setMonitMode (id : Nat) (mode : MonitoringMode)
  | clearNotifications (id : Nat)
  | valueChange (id : Nat) (value : Option (WriteValue V))
  | nodeChange (id : Nat) (value : Option (WriteValue V))
  | event (id : Nat) (event overflow : Option E)
  | publishRequest (allocated : Bool)
  | publishTimer (requests : List Bool)
  | setPublishingEnabled (enabled : Bool)
  | modify (lifetimeCount maxKeepAlive maxNotifsPerPublish : Nat)
  | acknowledge (seqNum : Nat)
  | republish (seqNum : Nat)
  | close
  deriving DecidableEq, Repr

/-- A step of a subscription, or `none` if the process stops at an assertion.  Nothing happens to
    one that is closed. -/
def step (input : Input V E) : Option (Subscription V E) :=
  if sub.state = .indet then some sub
  else
    match input with
    | .createMonitoredItem id isEvent mode params value =>
      -- The identifier of a new item is a fresh one
      if (sub.findItem id).isSome then some sub
      else sub.createMonitoredItem limits id isEvent mode params value
    | .modifyMonitoredItem id params overflow => sub.modifyMonitoredItem limits id params overflow
    | .deleteMonitoredItem id => some (sub.deleteMonitoredItem id)
    | .setMonitMode id mode => some (sub.setMonitMode id mode)
    | .clearNotifications id => some (sub.clearNotifications id)
    | .valueChange id value => sub.addNotificationOnValueChange id value
    | .nodeChange id value => sub.addNotificationOnNodeChange id value
    | .event id event overflow => sub.addNotificationOnEvent id event overflow
    | .publishRequest allocated => (sub.receivePublishRequest limits copy allocated).map Prod.fst
    | .publishTimer requests => (sub.publishTimer limits copy requests).map Prod.fst
    | .setPublishingEnabled enabled => some (sub.setPublishingEnabled enabled)
    | .modify lifetimeCount maxKeepAlive maxNotifsPerPublish =>
      some (sub.modify lifetimeCount maxKeepAlive maxNotifsPerPublish)
    | .acknowledge seqNum =>
      some { sub with notifRepublishQueue := (ackNotifMsg sub.notifRepublishQueue seqNum).1 }
    | .republish _ => some sub.resetLifetimeCounter
    | .close => some sub.close

/-- A step of a process that may be stopped. -/
def stepOrStop (sub : Option (Subscription V E)) (input : Input V E) :
    Option (Subscription V E) :=
  sub.bind fun sub => sub.step limits copy input

end Subscription

end S2opc.SubscriptionCore
