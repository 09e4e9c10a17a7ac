/-
The notification queue of a monitored item:
`monitored_item_notification_queue_bs.c` over `sopc_circular_queue.c`.

The queue of a data item keeps at most the queue size, and the queue of an
event item one element more, for the event that says that events were lost.  A
full queue loses its oldest or its newest element for a new one.  The process
stops at an assertion of the code, which is `none`.
-/
import Mathlib

namespace S2opc.SubscriptionCore

open Option

/-! ## Monitored items -/

/-- `OpcUa_WriteValue`: a value with its status, or the bad status alone. -/
structure WriteValue (V : Type) where
  value : Option V
  status : UInt32
  deriving DecidableEq, Repr

/-- `SOPC_InternalNotificationElement`. -/
structure NotificationElement (V E : Type) where
  value : Option (WriteValue V)
  eventValues : Option E
  isQueueOverflowEvent : Bool
  deriving DecidableEq, Repr

/-- `t_monitoringMode`. -/
inductive MonitoringMode where
  | disabled
  | sampling
  | reporting
  deriving DecidableEq, Repr

/-- `SOPC_InternalMonitoredItem`.  `isEvent` is what `is_eventMI` says of the filter: it is the one
    of the attribute, as the filter is checked against it.  The circular queue is its elements in
    order and its maximal length. -/
structure MonitoredItem (V E : Type) where
  monitoredItemId : Nat
  clientHandle : Nat
  isEvent : Bool
  monitoringMode : MonitoringMode
  discardOldest : Bool
  queueSize : Nat
  notifQueue : List (NotificationElement V E)
  capacity : Nat
  queueOverflowEventTriggered : Bool
  deriving DecidableEq, Repr

variable {V E : Type}

/-- `SOPC_DataValueOverflowStatusMask`. -/
def dataValueOverflowStatusMask : UInt32 := 0x00000480

def dataElement (value : WriteValue V) : NotificationElement V E :=
  ⟨some value, none, false⟩

def eventElement (event : E) : NotificationElement V E :=
  ⟨none, some event, false⟩

def overflowElement (event : E) : NotificationElement V E :=
  ⟨none, some event, true⟩

/-- `SOPC_InternalGetDiscardedNotification`: the element and what is left. -/
def getDiscardedNotification (discardOldest : Bool) (queue : List (NotificationElement V E)) :
    Option (NotificationElement V E × List (NotificationElement V E)) :=
  if discardOldest then
    match queue with
    | [] => none
    | elt :: rest => some (elt, rest)
  else queue.getLast?.map fun elt => (elt, queue.dropLast)

/-- The status of an element with the overflow bit. -/
def NotificationElement.setOverflowBit (elt : NotificationElement V E) :
    Option (NotificationElement V E) :=
  elt.value.map fun value =>
    { elt with value := some { value with status := value.status ||| dataValueOverflowStatusMask } }

/-- `SOPC_InternalSetOverflowBitAfterDiscard`: on the new oldest element, or on the new last one. -/
def setOverflowBitAfterDiscard (discardOldest : Bool)
    (queue : List (NotificationElement V E)) :
    Option (List (NotificationElement V E)) :=
  if discardOldest then
    match queue with
    | [] => none
    | elt :: rest => elt.setOverflowBit.map (· :: rest)
  else
    queue.getLast?.bind fun elt => elt.setOverflowBit.map fun elt => queue.dropLast ++ [elt]

/-- The overflow bit is set under a condition. -/
def setOverflowBitIf (condition : Prop) [Decidable condition] (discardOldest : Bool)
    (queue : List (NotificationElement V E)) :
    Option (List (NotificationElement V E)) :=
  if condition then setOverflowBitAfterDiscard discardOldest queue else some queue

namespace MonitoredItem

/-! ## Notifications of data -/

variable (item : MonitoredItem V E)

/-- `SOPC_InternalAddCommonFinishAddNotifDataElt`, from the append on. -/
def addDataElement (value : WriteValue V) :
    Option (MonitoredItem V E × Bool) :=
  if item.notifQueue.length < item.capacity then
    some ({ item with notifQueue := item.notifQueue ++ [dataElement value] }, true)
  else if 0 < item.capacity ∧ item.notifQueue.length = item.capacity then do
    let (_, rest) ← getDiscardedNotification item.discardOldest item.notifQueue
    -- A queue of one element is not considered as a queue: no overflow bit
    let queue ← setOverflowBitIf (item.capacity ≠ 1) item.discardOldest (rest ++ [dataElement value])
    return ({ item with notifQueue := queue }, true)
  else some (item, false)

/-- `add_first_monitored_item_notification_to_queue`.  No value is given when an allocation or a
    copy fails. -/
def addFirstNotification (value : Option (WriteValue V)) :
    Option (MonitoredItem V E × Bool) :=
  if 2 ^ 31 - 1 ≤ item.notifQueue.length then some (item, false)
  else
    match value with
    | none => some (item, false)
    | some value => item.addDataElement value

/-- `add_monitored_item_data_notification_to_queue`. -/
def addDataNotification (value : Option (WriteValue V)) :
    Option (MonitoredItem V E × Bool) :=
  if item.isEvent then none
  else
    match value with
    | none => some (item, false)
    | some value => item.addDataElement value

/-! ## Notifications of events -/

/-- The loop of `SOPC_InternalAddCommonFinishAddNotifEventElt` that discards an event: if the first
    element met is the overflow event, it is kept and the next one is discarded. -/
def discardEvent :
    Option (Option (NotificationElement V E) × List (NotificationElement V E)) := do
  let (first, rest) ← getDiscardedNotification item.discardOldest item.notifQueue
  if first.isQueueOverflowEvent then
    let (second, rest) ← getDiscardedNotification item.discardOldest rest
    if second.isQueueOverflowEvent ∨ item.discardOldest = false then none
    else return (some first, rest)
  else return (none, rest)

/-- `SOPC_InternalCreateQueueOverflowNotif` where it is called: once only in the life of an item.
    The result is false if the event could not be generated. -/
def createQueueOverflowNotif (kept : Option (NotificationElement V E)) (overflow : Option E) :
    Option (MonitoredItem V E × Option (NotificationElement V E) × Bool) :=
  if item.queueOverflowEventTriggered then some (item, kept, true)
  else
    match kept, overflow with
    | some _, _ => none
    | none, none => some (item, none, false)
    | none, some event =>
      some ({ item with queueOverflowEventTriggered := true }, some (overflowElement event), true)

/-- `SOPC_CircularQueue_Append`. -/
def appendElement (elt : NotificationElement V E) :
    MonitoredItem V E × Bool :=
  if item.notifQueue.length < item.capacity then
    ({ item with notifQueue := item.notifQueue ++ [elt] }, true)
  else (item, false)

/-- `SOPC_CircularQueue_Prepend`. -/
def prependElement (elt : NotificationElement V E) :
    MonitoredItem V E × Bool :=
  if item.notifQueue.length < item.capacity then
    ({ item with notifQueue := elt :: item.notifQueue }, true)
  else (item, false)

/-- The overflow event, kept or created, is put back at the beginning or at the end. -/
def restoreOverflow (overflow : Option (NotificationElement V E)) : MonitoredItem V E × Bool :=
  match overflow with
  | none => (item, true)
  | some elt => if item.discardOldest then item.prependElement elt else item.appendElement elt

/-- `SOPC_InternalAddCommonFinishAddNotifEventElt`.  One element of the capacity is reserved. -/
def addEventElement (event : E) (overflow : Option E) :
    Option (MonitoredItem V E × Bool) :=
  if item.notifQueue.length < item.capacity - 1 then
    some ({ item with notifQueue := item.notifQueue ++ [eventElement event] }, true)
  else if 0 < item.capacity - 1 then do
    let (kept, rest) ← item.discardEvent
    let (item, notif, created) ←
      createQueueOverflowNotif { item with notifQueue := rest } kept overflow
    if created then
      let (item, restored) := item.restoreOverflow notif
      if restored then return item.appendElement (eventElement event) else return (item, false)
    else return (item, false)
  else some (item, false)

/-- `add_monitored_item_event_notification_to_queue`. -/
def addEventNotification (event : Option E)
    (overflow : Option E) : Option (MonitoredItem V E × Bool) :=
  if item.isEvent = false then none
  else
    match event with
    | none => some (item, false)
    | some event => item.addEventElement event overflow

/-! ## Resizing -/

/-- The loop that discards notifications down to a size, for at most `fuel` of them. -/
def discardLoop (discardOldest : Bool) (size : Nat) :
    Nat → List (NotificationElement V E) → List (NotificationElement V E)
  | 0, queue => queue
  | fuel + 1, queue =>
    if size < queue.length then
      discardLoop discardOldest size fuel (if discardOldest then queue.tail else queue.dropLast)
    else queue

/-- `SOPC_CircularQueue_SetCapacity`, the success of which is asserted. -/
def setCapacity (sizeMax : Nat) :
    Option (MonitoredItem V E) :=
  if sizeMax = 0 ∨ sizeMax < item.notifQueue.length then none
  else some { item with capacity := sizeMax }

/-- `resize_data_notif_queue`. -/
def resizeDataNotifQueue : Option (MonitoredItem V E) := do
  let queue := discardLoop item.discardOldest item.queueSize item.notifQueue.length item.notifQueue
  let queue ← setOverflowBitIf (queue.length < item.notifQueue.length ∧ 1 < item.queueSize)
    item.discardOldest queue
  setCapacity { item with notifQueue := queue } item.queueSize

/-- The last overflow event of a queue is taken out of it. -/
def removeOverflow (queue : List (NotificationElement V E)) :
    Option (NotificationElement V E) × List (NotificationElement V E) :=
  match queue with
  | [] => (none, [])
  | elt :: rest =>
    match removeOverflow rest with
    | (some found, rest) => (some found, elt :: rest)
    | (none, rest) => if elt.isQueueOverflowEvent then (some elt, rest) else (none, elt :: rest)

/-- `is_discard_necessary_and_overflow_event_in_notif_queue`: the number of real notifications. -/
def nbRealNotifs : Nat :=
  if item.queueOverflowEventTriggered then
    (item.notifQueue.filter fun elt => !elt.isQueueOverflowEvent).length
  else item.notifQueue.length

/-- The newest element, which is put back as the last one after newest elements were discarded, with
    the overflow event before it. -/
def finishResizeEvent (newest : Option (NotificationElement V E))
    (notif : Option (NotificationElement V E)) : Option (MonitoredItem V E) :=
  if item.discardOldest then some (item.restoreOverflow notif).1
  else do
    let newest ← newest
    let (_, rest) ← getDiscardedNotification false item.notifQueue
    let restored := (restoreOverflow { item with notifQueue := rest } notif).1
    return (restored.appendElement newest).1

/-- `resize_event_notif_queue`. -/
def resizeEventNotifQueue (overflow : Option E) :
    Option (MonitoredItem V E) :=
  if item.nbRealNotifs ≤ item.queueSize then item.setCapacity (item.queueSize + 1)
  else do
    -- The overflow event is removed for a while, so that only real notifications are discarded
    let (kept, queue) :=
      if item.queueOverflowEventTriggered then removeOverflow item.notifQueue
      else (none, item.notifQueue)
    let discarded := discardLoop item.discardOldest item.queueSize queue.length queue
    if discarded.length < queue.length then
      let (item, notif, _) ←
        createQueueOverflowNotif { item with notifQueue := discarded } kept overflow
      let item ← item.finishResizeEvent queue.getLast? notif
      item.setCapacity (item.queueSize + 1)
    else setCapacity { item with notifQueue := queue } (item.queueSize + 1)

/-- `resize_monitored_item_notification_queue`. -/
def resizeNotificationQueue (overflow : Option E) :
    Option (MonitoredItem V E) :=
  if item.isEvent then item.resizeEventNotifQueue overflow else item.resizeDataNotifQueue

/-! ## The kind of an item -/

/-- The operations on a queue change neither the mode of the item nor its kind. -/
structure SameKind (item item' : MonitoredItem V E) : Prop where
  mode : item'.monitoringMode = item.monitoringMode
  event : item'.isEvent = item.isEvent

theorem SameKind.refl : SameKind item item :=
  ⟨rfl, rfl⟩

variable {item item' : MonitoredItem V E}

theorem SameKind.trans {item'' : MonitoredItem V E} (h : SameKind item item')
    (h' : SameKind item' item'') : SameKind item item'' :=
  ⟨h'.mode.trans h.mode, h'.event.trans h.event⟩

/-- Only the queue and its overflow flag change. -/
theorem SameKind.of_queue {queue : List (NotificationElement V E)}
    (h : SameKind { item with notifQueue := queue } item') : SameKind item item' :=
  ⟨h.mode, h.event⟩

variable {out : MonitoredItem V E × Bool}

theorem sameKind_addDataElement {value : WriteValue V}
    (h : item.addDataElement value = some out) :
    SameKind item out.1 := by
  unfold addDataElement at h
  split_ifs at h
  · cases h
    exact ⟨rfl, rfl⟩
  · obtain ⟨discarded, -, h⟩ := bind_eq_some_iff.1 h
    obtain ⟨queue, -, h⟩ := bind_eq_some_iff.1 h
    cases h
    exact ⟨rfl, rfl⟩
  · cases h
    exact .refl _

variable {value : Option (WriteValue V)}

theorem sameKind_addFirstNotification (h : item.addFirstNotification value = some out) :
    SameKind item out.1 := by
  unfold addFirstNotification at h
  split_ifs at h
  · cases h
    exact .refl _
  cases value with
  | none =>
    cases h
    exact .refl _
  | some value => exact sameKind_addDataElement h

theorem sameKind_addDataNotification (h : item.addDataNotification value = some out) :
    SameKind item out.1 := by
  unfold addDataNotification at h
  split_ifs at h
  cases value with
  | none =>
    cases h
    exact .refl _
  | some value => exact sameKind_addDataElement h

theorem sameKind_appendElement (item : MonitoredItem V E)
    (elt : NotificationElement V E) : SameKind item (item.appendElement elt).1 := by
  unfold appendElement
  split_ifs
  · exact ⟨rfl, rfl⟩
  · exact .refl _

theorem sameKind_restoreOverflow (item : MonitoredItem V E)
    (overflow : Option (NotificationElement V E)) :
    SameKind item (item.restoreOverflow overflow).1 := by
  unfold restoreOverflow prependElement
  rcases overflow with _ | elt
  · exact .refl _
  split_ifs
  · exact ⟨rfl, rfl⟩
  · exact .refl _
  · exact sameKind_appendElement item elt

variable {overflow : Option E}

theorem sameKind_createQueueOverflowNotif {kept : Option (NotificationElement V E)}
    {out : MonitoredItem V E × Option (NotificationElement V E) × Bool}
    (h : item.createQueueOverflowNotif kept overflow = some out) : SameKind item out.1 := by
  unfold createQueueOverflowNotif at h
  split_ifs at h
  · cases h
    exact .refl _
  cases kept with
  | some elt => cases h
  | none =>
    rcases overflow with _ | event
    · cases h
      exact .refl _
    cases h
    exact ⟨rfl, rfl⟩

theorem sameKind_addEventElement {event : E}
    (h : item.addEventElement event overflow = some out) : SameKind item out.1 := by
  unfold addEventElement at h
  split_ifs at h
  · cases h
    exact ⟨rfl, rfl⟩
  · obtain ⟨⟨kept, rest⟩, -, h⟩ := bind_eq_some_iff.1 h
    obtain ⟨⟨created, notif, done⟩, hcreated, h⟩ := bind_eq_some_iff.1 h
    have hkind := (sameKind_createQueueOverflowNotif hcreated).of_queue
    dsimp only at h hkind
    have hrestored := hkind.trans (sameKind_restoreOverflow created notif)
    split_ifs at h
    · cases h
      exact hrestored.trans (sameKind_appendElement _ _)
    · cases h
      exact hrestored
    · cases h
      exact hkind
  · cases h
    exact .refl _

theorem sameKind_addEventNotification {event : Option E}
    (h : item.addEventNotification event overflow = some out) :
    SameKind item out.1 := by
  unfold addEventNotification at h
  split_ifs at h
  cases event with
  | none =>
    cases h
    exact .refl _
  | some event => exact sameKind_addEventElement h

variable {out : MonitoredItem V E}

theorem sameKind_setCapacity {sizeMax : Nat} (h : item.setCapacity sizeMax = some out) :
    SameKind item out := by
  unfold setCapacity at h
  split_ifs at h
  cases h
  exact ⟨rfl, rfl⟩

theorem sameKind_finishResizeEvent {newest notif : Option (NotificationElement V E)}
    (h : item.finishResizeEvent newest notif = some out) : SameKind item out := by
  unfold finishResizeEvent at h
  split_ifs at h
  · cases h
    exact sameKind_restoreOverflow item notif
  obtain ⟨elt, -, h⟩ := bind_eq_some_iff.1 h
  obtain ⟨⟨discarded, rest⟩, -, h⟩ := bind_eq_some_iff.1 h
  cases h
  exact (sameKind_restoreOverflow _ notif).of_queue.trans (sameKind_appendElement _ _)

theorem sameKind_resizeNotificationQueue (h : item.resizeNotificationQueue overflow = some out) :
    SameKind item out := by
  unfold resizeNotificationQueue at h
  split_ifs at h
  · unfold resizeEventNotifQueue at h
    split_ifs at h
    · exact sameKind_setCapacity h
    all_goals
      dsimp only at h
      split_ifs at h
      · obtain ⟨⟨created, notif, done⟩, hcreated, h⟩ := bind_eq_some_iff.1 h
        obtain ⟨finished, hfinished, h⟩ := bind_eq_some_iff.1 h
        have hkind := (sameKind_createQueueOverflowNotif hcreated).of_queue
        exact (hkind.trans (sameKind_finishResizeEvent hfinished)).trans (sameKind_setCapacity h)
      · exact (sameKind_setCapacity h).of_queue
  · unfold resizeDataNotifQueue at h
    obtain ⟨queue, -, h⟩ := bind_eq_some_iff.1 h
    exact (sameKind_setCapacity h).of_queue

end MonitoredItem

end S2opc.SubscriptionCore
