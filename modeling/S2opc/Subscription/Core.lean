/-
A subscription: `subscription_core_i.imp`, with the variables of
`subscription_core_2_i.imp`.

The record holds the variables of one subscription.  The operations on its
monitored items keep two counters of the available notifications, and the
transitions of its state machine, numbered as in the standard, send
notification and keep-alive messages.  The messages that were sent are kept as
a history, which no operation reads.
-/
import S2opc.Subscription.NotificationQueue

namespace S2opc.SubscriptionCore

/-! ## The variables of a subscription -/

/-- The constants of the configuration that the operations on subscriptions use. -/
structure Limits where
  monitoredItemNotifMax : Nat
  notifQueueSizeMax : Nat
  notifEventQueueSizeMin : Nat
  notifEventQueueSizeDefault : Nat
  notifEventQueueSizeMax : Nat
  republishNotifPerSubMax : Nat
  monitoredItemNotifMax_pos : 0 < monitoredItemNotifMax
  notifQueueSizeMax_pos : 0 < notifQueueSizeMax
  notifEventQueueSizeMin_pos : 0 < notifEventQueueSizeMin
  notifEventQueueSizeDefault_pos : 0 < notifEventQueueSizeDefault
  notifEventQueueSizeMax_pos : 0 < notifEventQueueSizeMax
  republishNotifPerSubMax_pos : 0 < republishNotifPerSubMax

/-- The constants of `sopc_toolkit_config_constants.h`. -/
def Limits.default : Limits where
  monitoredItemNotifMax := 5000
  notifQueueSizeMax := 50
  notifEventQueueSizeMin := 50
  notifEventQueueSizeDefault := 100
  notifEventQueueSizeMax := 500
  republishNotifPerSubMax := 2 * (3 * 10)
  monitoredItemNotifMax_pos := by decide
  notifQueueSizeMax_pos := by decide
  notifEventQueueSizeMin_pos := by decide
  notifEventQueueSizeDefault_pos := by decide
  notifEventQueueSizeMax_pos := by decide
  republishNotifPerSubMax_pos := by decide

/-- `t_subscriptionState`: `indet` is the state of a subscription that is closed. -/
inductive SubscriptionState where
  | indet
  | normal
  | late
  | keepAlive
  deriving DecidableEq, Repr

/-- `OpcUa_NotificationMessage`: the values with the handle of their item, and the events. -/
structure NotificationMessage (V E : Type) where
  sequenceNumber : Nat
  dataNotifs : List (Nat × WriteValue V)
  eventNotifs : List E
  deriving DecidableEq, Repr

/-- The number of notifications of a message. -/
def NotificationMessage.nbNotifs {V E : Type} (msg : NotificationMessage V E) : Nat :=
  msg.dataNotifs.length + msg.eventNotifs.length

/-- A message of the history of a subscription. -/
inductive SentMessage (V E : Type) where
  | notification (msg : NotificationMessage V E)
  | keepAlive (sequenceNumber : Nat)
  deriving DecidableEq, Repr

/-- The variables of a subscription. -/
structure Subscription (V E : Type) where
  state : SubscriptionState
  messageSent : Bool
  publishingEnabled : Bool
  moreNotifications : Bool
  lifetimeExpCount : Nat
  lifetimeCounter : Nat
  keepAliveExpCount : Nat
  keepAliveCounter : Nat
  maxNotifsPerPublish : Nat
  seqNum : Nat
  notifRepublishQueue : List (Nat × NotificationMessage V E)
  monitoredItems : List (MonitoredItem V E)
  availableDataNotifs : Nat
  availableEventNotifs : Nat
  sent : List (SentMessage V E)
  deriving DecidableEq, Repr

variable {V E : Type}

namespace Subscription

/-- The variables that `create_subscription` sets: the sequence number is the one of the first
    message, `c_sub_seq_num_init`. -/
def create (lifetimeCount maxKeepAlive maxNotifsPerPublish : Nat) (publishEnabled : Bool) :
    Subscription V E where
  state := .normal
  messageSent := false
  publishingEnabled := publishEnabled
  moreNotifications := false
  lifetimeExpCount := lifetimeCount
  lifetimeCounter := lifetimeCount
  keepAliveExpCount := maxKeepAlive
  keepAliveCounter := lifetimeCount
  maxNotifsPerPublish := maxNotifsPerPublish
  seqNum := 1
  notifRepublishQueue := []
  monitoredItems := []
  availableDataNotifs := 0
  availableEventNotifs := 0
  sent := []

variable (sub : Subscription V E)

/-- `modify_subscription`, whatever the priority. -/
def modify (lifetimeCount maxKeepAlive maxNotifsPerPublish : Nat) :
    Subscription V E :=
  { sub with
    lifetimeExpCount := lifetimeCount
    lifetimeCounter := lifetimeCount
    keepAliveExpCount := maxKeepAlive
    maxNotifsPerPublish := maxNotifsPerPublish }

/-- `set_subscription_PublishingEnabled`. -/
def setPublishingEnabled (enabled : Bool) :
    Subscription V E :=
  { sub with
    publishingEnabled := enabled
    moreNotifications := false
    lifetimeCounter := sub.lifetimeExpCount }

/-- `local_close_subscription`. -/
def close : Subscription V E :=
  { sub with
    state := .indet
    notifRepublishQueue := []
    monitoredItems := []
    availableDataNotifs := 0
    availableEventNotifs := 0 }

def resetLifetimeCounter : Subscription V E :=
  { sub with lifetimeCounter := sub.lifetimeExpCount }

def resetKeepAliveCounter : Subscription V E :=
  { sub with keepAliveCounter := sub.keepAliveExpCount }

def decrementKeepAliveCounter : Subscription V E :=
  { sub with keepAliveCounter := sub.keepAliveCounter - 1 }

/-! ## The available notifications -/

/-- The new value of a counter in `local_update_available_notifs`: it does not go over `MAXINT`. -/
def updateCount (count lenBefore lenAfter : Nat) : Nat :=
  if lenBefore ≤ lenAfter then
    if lenAfter - lenBefore ≤ 2 ^ 31 - 1 - count then count + (lenAfter - lenBefore) else 2 ^ 31 - 1
  else if lenBefore - lenAfter ≤ count then count - (lenBefore - lenAfter)
  else 0

/-- `local_update_available_notifs`, with the mode of the item. -/
def updateAvailableNotifs (mode : MonitoringMode) (isEvent : Bool) (lenBefore lenAfter : Nat) :
    Subscription V E :=
  if mode = .reporting then
    if isEvent then
      { sub with
        availableEventNotifs := updateCount sub.availableEventNotifs lenBefore lenAfter }
    else
      { sub with availableDataNotifs := updateCount sub.availableDataNotifs lenBefore lenAfter }
  else sub

variable (id : Nat)

/-- The item of an identifier, if it is one of the subscription. -/
def findItem : Option (MonitoredItem V E) :=
  sub.monitoredItems.find? (·.monitoredItemId == id)

/-- The item of an identifier is replaced. -/
def replaceItem (id : Nat) (item : MonitoredItem V E) :
    List (MonitoredItem V E) → List (MonitoredItem V E)
  | [] => []
  | other :: items =>
    if other.monitoredItemId = id then item :: items else other :: replaceItem id item items

/-- An item after an operation on its queue, with the counter of its kind of notifications. -/
def setQueue (old new : MonitoredItem V E) :
    Subscription V E :=
  updateAvailableNotifs
    { sub with monitoredItems := replaceItem old.monitoredItemId new sub.monitoredItems }
    new.monitoringMode old.isEvent old.notifQueue.length new.notifQueue.length

/-! ## Operations on the monitored items -/

/-- `local_compute_create_monitored_item_revised_params`: the size of the queue. -/
def revisedQueueSize (limits : Limits) (isEvent : Bool) (reqQueueSize : Nat) : Nat :=
  if isEvent then
    if reqQueueSize = 0 then limits.notifEventQueueSizeDefault
    else if reqQueueSize = 1 then limits.notifEventQueueSizeMin
    else if limits.notifEventQueueSizeMax < reqQueueSize then limits.notifEventQueueSizeMax
    else reqQueueSize
  else if reqQueueSize ≤ 1 then 1
  else if limits.notifQueueSizeMax < reqQueueSize then limits.notifQueueSizeMax
  else reqQueueSize

/-- The parameters of a monitored item in a request. -/
structure ItemParams where
  clientHandle : Nat
  discardOldest : Bool
  queueSize : Nat
  deriving DecidableEq, Repr

/-- `create_monitored_item`, for an item that was allocated.  A first notification is added to the
    queue of a data item that is not disabled; the creation fails if it cannot be. -/
def createMonitoredItem (limits : Limits) (sub : Subscription V E) (id : Nat) (isEvent : Bool)
    (mode : MonitoringMode) (params : ItemParams) (value : Option (WriteValue V)) :
    Option (Subscription V E) :=
  let queueSize := revisedQueueSize limits isEvent params.queueSize
  let item : MonitoredItem V E :=
    { monitoredItemId := id
      clientHandle := params.clientHandle
      isEvent := isEvent
      monitoringMode := mode
      discardOldest := params.discardOldest
      queueSize := queueSize
      notifQueue := []
      capacity := if isEvent then queueSize + 1 else queueSize
      queueOverflowEventTriggered := false }
  if mode ≠ .disabled ∧ isEvent = false then do
    let (item, added) ← item.addFirstNotification value
    if added then
      return updateAvailableNotifs { sub with monitoredItems := sub.monitoredItems ++ [item] } mode
        isEvent 0 item.notifQueue.length
    else return sub
  else some { sub with monitoredItems := sub.monitoredItems ++ [item] }

/-- `modify_monitored_item`, with a filter that is valid. -/
def modifyMonitoredItem (limits : Limits) (sub : Subscription V E) (id : Nat)
    (params : ItemParams) (overflow : Option E) : Option (Subscription V E) :=
  match sub.findItem id with
  | none => some sub
  | some item => do
      let resized ← MonitoredItem.resizeNotificationQueue
        { item with
          clientHandle := params.clientHandle
          discardOldest := params.discardOldest
          queueSize := revisedQueueSize limits item.isEvent params.queueSize } overflow
      return sub.setQueue item resized

/-- `delete_monitored_item`. -/
def deleteMonitoredItem : Subscription V E :=
  match sub.findItem id with
  | none => sub
  | some item =>
    updateAvailableNotifs
      { sub with monitoredItems := sub.monitoredItems.eraseP (·.monitoredItemId == id) }
      item.monitoringMode item.isEvent item.notifQueue.length 0

/-- `set_monit_mode_monitored_item`: the notifications of the queue are removed from the counter
    with the previous mode, and added to it with the new one. -/
def setMonitMode (mode : MonitoringMode) :
    Subscription V E :=
  match sub.findItem id with
  | none => sub
  | some item =>
    let removed :=
      sub.updateAvailableNotifs item.monitoringMode item.isEvent item.notifQueue.length 0
    updateAvailableNotifs
      { removed with
        monitoredItems := replaceItem id { item with monitoringMode := mode } removed.monitoredItems }
      mode item.isEvent 0 item.notifQueue.length

/-- `clear_monitored_item_notifications`. -/
def clearNotifications : Subscription V E :=
  match sub.findItem id with
  | none => sub
  | some item => sub.setQueue item { item with notifQueue := [] }

/-- A notification is added to the queue of an item by an operation that may fail.  The counter is
    updated if it succeeds, or always for an event, as an event that is not added may have another
    one discarded. -/
def addNotification (always : Bool)
    (add : MonitoredItem V E → Option (MonitoredItem V E × Bool)) :
    Option (Subscription V E) :=
  match sub.findItem id with
  | none => some sub
  | some item => do
      let (item', added) ← add item
      if added || always then return sub.setQueue item item' else return sub

/-- `server_subscription_add_notification_on_value_change`. -/
def addNotificationOnValueChange (value : Option (WriteValue V)) :
    Option (Subscription V E) :=
  sub.addNotification id false fun item =>
    if item.isEvent then some (item, false) else item.addDataNotification value

/-- `server_subscription_add_notification_on_node_or_monitMode_change`. -/
def addNotificationOnNodeChange (value : Option (WriteValue V)) :
    Option (Subscription V E) :=
  sub.addNotification id false fun item => item.addFirstNotification value

/-- `server_subscription_add_notification_on_event_if_triggered`, for an event that is selected. -/
def addNotificationOnEvent (event overflow : Option E) :
    Option (Subscription V E) :=
  sub.addNotification id true fun item => item.addEventNotification event overflow

end Subscription

end S2opc.SubscriptionCore
