/-
The counters of the available notifications of a subscription.

They are kept by differences: each operation gives the length of a queue
before and after it.  A counter and the total of the queues it stands for are
related by a relation that these differences keep: they are equal as long as
the totals are integers of the code, and the counter is never over the total.
-/
import S2opc.Lib.Run
import S2opc.Subscription.Transitions

namespace S2opc.SubscriptionCore

open Lib.Run List Option

variable {V E : Type}

/-! ## The totals -/

variable (isEvent : Bool)

/-- The notifications in the queues of the items in reporting mode, of data or of events. -/
def reportingTotal (items : List (MonitoredItem V E)) : Nat :=
  ((items.filter fun item => item.monitoringMode = .reporting ∧ item.isEvent = isEvent).map
    fun item => item.notifQueue.length).sum

/-- What an item counts for in the total. -/
def MonitoredItem.weight (item : MonitoredItem V E) : Nat :=
  if item.monitoringMode = .reporting ∧ item.isEvent = isEvent then item.notifQueue.length else 0

@[simp] theorem reportingTotal_nil :
    reportingTotal isEvent ([] : List (MonitoredItem V E)) = 0 :=
  rfl

@[simp] theorem reportingTotal_cons (item : MonitoredItem V E)
    (items : List (MonitoredItem V E)) :
    reportingTotal isEvent (item :: items) = item.weight isEvent + reportingTotal isEvent items := by
  by_cases h : item.monitoringMode = .reporting ∧ item.isEvent = isEvent <;>
    simp [reportingTotal, MonitoredItem.weight, h]

theorem reportingTotal_append (items others : List (MonitoredItem V E)) :
    reportingTotal isEvent (items ++ others) =
      reportingTotal isEvent items + reportingTotal isEvent others := by
  simp [reportingTotal]

variable {items : List (MonitoredItem V E)} {id : Nat} {old : MonitoredItem V E}

theorem reportingTotal_replaceItem (h : items.find? (·.monitoredItemId == id) = some old)
    (new : MonitoredItem V E) :
    reportingTotal isEvent (Subscription.replaceItem id new items) + old.weight isEvent =
      reportingTotal isEvent items + new.weight isEvent := by
  induction items with
  | nil => cases h
  | cons item items ih =>
    rw [find?_cons] at h
    rw [Subscription.replaceItem]
    by_cases hid : item.monitoredItemId = id
    · rw [beq_iff_eq.2 hid] at h
      cases h
      rw [if_pos hid, reportingTotal_cons, reportingTotal_cons]
      omega
    rw [beq_eq_false_iff_ne.2 hid] at h
    rw [if_neg hid, reportingTotal_cons, reportingTotal_cons]
    have := ih h
    omega

theorem reportingTotal_eraseP (h : items.find? (·.monitoredItemId == id) = some old) :
    reportingTotal isEvent (items.eraseP (·.monitoredItemId == id)) + old.weight isEvent =
      reportingTotal isEvent items := by
  induction items with
  | nil => cases h
  | cons item items ih =>
    rw [find?_cons] at h
    rw [eraseP_cons]
    by_cases hid : item.monitoredItemId = id
    · rw [beq_iff_eq.2 hid] at h ⊢
      cases h
      rw [cond_true, reportingTotal_cons]
      omega
    rw [beq_eq_false_iff_ne.2 hid] at h ⊢
    rw [cond_false, reportingTotal_cons, reportingTotal_cons]
    have := ih h
    omega

/-! ## Relations that the differences keep -/

/-- A relation between a counter and its total that the updates keep, as long as the total meets a
    bound. -/
structure CountRel (R : Nat → Nat → Prop) (ok : Nat → Prop) : Prop where
  zero : R 0 0
  update : ∀ {count total lenBefore lenAfter : Nat}, R count total → lenBefore ≤ total →
    ok (total - lenBefore + lenAfter) →
    R (Subscription.updateCount count lenBefore lenAfter) (total - lenBefore + lenAfter)
  decrease : ∀ {count total n : Nat}, R count total → n ≤ total → R (count - n) (total - n)
  bound_mono : ∀ {total smaller : Nat}, ok total → smaller ≤ total → ok smaller

/-- The counters are exact as long as the totals are integers of the code. -/
theorem countRel_eq : CountRel (· = ·) (· < 2 ^ 31) where
  zero := rfl
  update := by
    rintro count _ lenBefore lenAfter rfl hle hok
    unfold Subscription.updateCount
    split_ifs <;> omega
  decrease := by
    rintro count _ n rfl _
    rfl
  bound_mono := fun h hle => Nat.lt_of_le_of_lt hle h

/-- The counters are never over the totals, and they are integers of the code. -/
theorem countRel_le : CountRel (fun count total => count ≤ total ∧ count < 2 ^ 31) (fun _ => True) where
  zero := by decide
  update := by
    rintro count total lenBefore lenAfter ⟨hle, hlt⟩ _ _
    unfold Subscription.updateCount
    split_ifs <;> omega
  decrease := by
    rintro count total n ⟨hle, hlt⟩ _
    omega
  bound_mono := fun _ _ => trivial

namespace Subscription

/-- The counters of a subscription are related to the totals of its queues. -/
structure Counts (R : Nat → Nat → Prop) (sub : Subscription V E) : Prop where
  data : R sub.availableDataNotifs (reportingTotal false sub.monitoredItems)
  event : R sub.availableEventNotifs (reportingTotal true sub.monitoredItems)

/-- The totals meet a bound. -/
structure Bounded (ok : Nat → Prop) (sub : Subscription V E) : Prop where
  data : ok (reportingTotal false sub.monitoredItems)
  event : ok (reportingTotal true sub.monitoredItems)

@[simp] theorem monitoredItems_updateAvailableNotifs (sub : Subscription V E)
    (mode : MonitoringMode) (isEvent : Bool) (lenBefore lenAfter : Nat) :
    (sub.updateAvailableNotifs mode isEvent lenBefore lenAfter).monitoredItems = sub.monitoredItems := by
  unfold updateAvailableNotifs
  split_ifs <;> rfl

variable {R : Nat → Nat → Prop} {ok : Nat → Prop} {sub sub' : Subscription V E} {isEvent : Bool}
    {mode : MonitoringMode} {id : Nat} {old item : MonitoredItem V E}

/-- The counter of a kind of notifications. -/
def available (sub : Subscription V E) (isEvent : Bool) : Nat :=
  if isEvent then sub.availableEventNotifs else sub.availableDataNotifs

theorem counts_iff : sub.Counts R ↔
    ∀ kind, R (sub.available kind) (reportingTotal kind sub.monitoredItems) := by
  constructor
  · rintro ⟨hdata, hevent⟩ (_ | _)
    · exact hdata
    · exact hevent
  · exact fun h => ⟨h false, h true⟩

theorem available_updateAvailableNotifs (sub : Subscription V E) (mode : MonitoringMode)
    (isEvent kind : Bool) (lenBefore lenAfter : Nat) :
    (sub.updateAvailableNotifs mode isEvent lenBefore lenAfter).available kind =
      if mode = .reporting ∧ isEvent = kind then updateCount (sub.available kind) lenBefore lenAfter
      else sub.available kind := by
  unfold updateAvailableNotifs
  by_cases hmode : mode = .reporting <;> cases isEvent <;> cases kind <;> simp [available, hmode]

theorem Bounded.kind {lenBefore lenAfter : Nat}
    (h : (sub.updateAvailableNotifs mode isEvent lenBefore lenAfter).Bounded ok) (kind : Bool) :
    ok (reportingTotal kind sub.monitoredItems) := by
  obtain ⟨hdata, hevent⟩ := h
  rw [monitoredItems_updateAvailableNotifs] at hdata hevent
  cases kind with
  | false => exact hdata
  | true => exact hevent

/-- The rule of the differences: an operation that changes the totals by the lengths it gives, those
    of the queue of an item before and after it, keeps the relation. -/
theorem Counts.update (hR : CountRel R ok) (h : sub.Counts R)
    (hsame : ∀ kind, sub'.available kind = sub.available kind)
    (hmode : item.monitoringMode = old.monitoringMode) (hevent : item.isEvent = old.isEvent)
    (htotal : ∀ kind, reportingTotal kind sub'.monitoredItems + old.weight kind =
      reportingTotal kind sub.monitoredItems + item.weight kind)
    (hle : ∀ kind, old.weight kind ≤ reportingTotal kind sub.monitoredItems)
    (hok : ∀ kind, ok (reportingTotal kind sub'.monitoredItems)) :
    Counts R (sub'.updateAvailableNotifs item.monitoringMode item.isEvent old.notifQueue.length
      item.notifQueue.length) := by
  rw [counts_iff] at h ⊢
  intro kind
  have htotal := htotal kind
  have hle := hle kind
  unfold MonitoredItem.weight at htotal hle
  rw [← hmode, ← hevent] at htotal hle
  rw [available_updateAvailableNotifs, monitoredItems_updateAvailableNotifs, hsame]
  by_cases hcounts : item.monitoringMode = .reporting ∧ item.isEvent = kind
  · rw [if_pos hcounts] at htotal hle ⊢
    rw [if_pos hcounts] at htotal
    have hnew : reportingTotal kind sub'.monitoredItems = reportingTotal kind sub.monitoredItems -
        old.notifQueue.length + item.notifQueue.length := by
      omega
    rw [hnew]
    exact hR.update (h kind) hle (hnew ▸ hok kind)
  · -- The queue of the item does not count for this kind
    rw [if_neg hcounts, if_neg hcounts] at htotal
    rw [if_neg hcounts, show reportingTotal kind sub'.monitoredItems = _ by omega]
    exact h kind

theorem weight_empty (h : item.notifQueue = []) (kind : Bool) : item.weight kind = 0 := by
  simp [MonitoredItem.weight, h]

theorem findItem_id (h : sub.findItem id = some item) : item.monitoredItemId = id := by
  have := find?_some h
  simpa using this

/-- The notifications of an item are among those of the total. -/
theorem weight_le_reportingTotal (h : sub.findItem id = some item) (kind : Bool) :
    item.weight kind ≤ reportingTotal kind sub.monitoredItems := by
  have := reportingTotal_eraseP kind h
  omega

/-- The relation is about the counters and the totals only. -/
theorem Counts.congr (h : sub.Counts R) (hdata : sub'.availableDataNotifs = sub.availableDataNotifs)
    (hevent : sub'.availableEventNotifs = sub.availableEventNotifs)
    (htotal : ∀ isEvent, reportingTotal isEvent sub'.monitoredItems =
      reportingTotal isEvent sub.monitoredItems) :
    sub'.Counts R := by
  constructor
  · rw [hdata, htotal]
    exact h.data
  · rw [hevent, htotal]
    exact h.event

/-- The rule for an operation on the queue of an item. -/
theorem Counts.setQueue (hR : CountRel R ok) (h : sub.Counts R) (hold : sub.findItem id = some old)
    (hmode : item.monitoringMode = old.monitoringMode) (hevent : item.isEvent = old.isEvent)
    (hok : (sub.setQueue old item).Bounded ok) : (sub.setQueue old item).Counts R := by
  rw [Subscription.setQueue, findItem_id hold, ← hevent] at hok ⊢
  apply h.update hR ?_ hmode hevent ?_ (weight_le_reportingTotal hold) hok.kind
  · exact fun _ => rfl
  · exact fun kind => reportingTotal_replaceItem kind hold item

/-! ## The operations on the items -/

variable {limits : Limits} {params : ItemParams}

section

variable (hR : CountRel R ok)
include hR

theorem Counts.createMonitoredItem (h : sub.Counts R)
    {value : Option (WriteValue V)}
    (hstep : sub.createMonitoredItem limits id isEvent mode params value = some sub')
    (hok : sub'.Bounded ok) : sub'.Counts R := by
  have htotal (item : MonitoredItem V E) (kind : Bool) :
      reportingTotal kind (sub.monitoredItems ++ [item]) =
        reportingTotal kind sub.monitoredItems + item.weight kind := by
    rw [reportingTotal_append, reportingTotal_cons, reportingTotal_nil, Nat.add_zero]
  unfold Subscription.createMonitoredItem at hstep
  by_cases hfirst : mode ≠ .disabled ∧ isEvent = false
  · rw [if_pos hfirst] at hstep
    obtain ⟨⟨item, added⟩, hadd, hstep⟩ := bind_eq_some_iff.1 hstep
    have hkind := MonitoredItem.sameKind_addFirstNotification hadd
    dsimp only at hstep
    split_ifs at hstep
    · cases hstep
      rw [← show item.monitoringMode = mode from hkind.mode,
        ← show item.isEvent = isEvent from hkind.event] at hok ⊢
      -- Before the operation, the item has an empty queue
      let old : MonitoredItem V E := { item with notifQueue := [] }
      have hempty (kind : Bool) : old.weight kind = 0 := weight_empty rfl kind
      apply h.update hR ?_ (show item.monitoringMode = old.monitoringMode from rfl) rfl ?_ ?_ hok.kind
      · exact fun _ => rfl
      · intro kind
        rw [hempty]
        exact htotal item kind
      · intro kind
        rw [hempty]
        exact Nat.zero_le _
    · cases hstep
      exact h
  · -- The queue of the new item is empty
    rw [if_neg hfirst] at hstep
    cases hstep
    refine h.congr rfl rfl fun kind => ?_
    rw [htotal, weight_empty rfl, Nat.add_zero]

theorem Counts.modifyMonitoredItem (h : sub.Counts R) {overflow : Option E}
    (hstep : sub.modifyMonitoredItem limits id params overflow = some sub')
    (hok : sub'.Bounded ok) :
    sub'.Counts R := by
  unfold Subscription.modifyMonitoredItem at hstep
  rcases hitem : sub.findItem id with _ | item
  · rw [hitem] at hstep
    cases hstep
    exact h
  rw [hitem] at hstep
  obtain ⟨resized, hresized, hstep⟩ := bind_eq_some_iff.1 hstep
  have hkind := MonitoredItem.sameKind_resizeNotificationQueue hresized
  cases hstep
  exact h.setQueue hR hitem hkind.mode hkind.event hok

theorem Counts.deleteMonitoredItem (h : sub.Counts R) (id : Nat)
    (hok : (sub.deleteMonitoredItem id).Bounded ok) :
    (sub.deleteMonitoredItem id).Counts R := by
  unfold Subscription.deleteMonitoredItem at hok ⊢
  rcases hitem : sub.findItem id with _ | item
  · exact h
  rw [hitem] at hok
  let muted : MonitoredItem V E := { item with notifQueue := [] }
  apply h.update hR ?_ (show muted.monitoringMode = item.monitoringMode from rfl) rfl ?_
    (weight_le_reportingTotal hitem) hok.kind
  · exact fun _ => rfl
  · intro kind
    rw [weight_empty (show muted.notifQueue = [] from rfl)]
    exact reportingTotal_eraseP kind hitem

/-- The mode of an item: its notifications leave the counter, then join it again. -/
theorem Counts.setMonitMode (h : sub.Counts R) (id : Nat)
    (mode : MonitoringMode) (hok : (sub.setMonitMode id mode).Bounded ok) :
    (sub.setMonitMode id mode).Counts R := by
  unfold Subscription.setMonitMode at hok ⊢
  rcases hitem : sub.findItem id with _ | item
  · exact h
  rw [hitem] at hok
  dsimp only at hok ⊢
  rw [monitoredItems_updateAvailableNotifs] at hok ⊢
  let muted : MonitoredItem V E := { item with notifQueue := [] }
  let renewed : MonitoredItem V E := { item with monitoringMode := mode }
  let hushed : MonitoredItem V E := { renewed with notifQueue := [] }
  have hmuted_empty (kind : Bool) : muted.weight kind = 0 := weight_empty rfl kind
  have hhushed_empty (kind : Bool) : hushed.weight kind = 0 := weight_empty rfl kind
  have hmuted (kind : Bool) := reportingTotal_replaceItem kind hitem muted
  have hrenewed (kind : Bool) := reportingTotal_replaceItem kind hitem renewed
  simp only [hmuted_empty] at hmuted
  -- Between the two updates, the counters are those of a subscription whose item is empty
  let between : Subscription V E :=
    { sub with monitoredItems := replaceItem id muted sub.monitoredItems }
  have hbetween : (between.updateAvailableNotifs item.monitoringMode item.isEvent
      item.notifQueue.length 0).Counts R := by
    apply h.update hR ?_ (show muted.monitoringMode = item.monitoringMode from rfl) rfl ?_
      (weight_le_reportingTotal hitem) ?_
    · exact fun _ => rfl
    · intro kind
      rw [hmuted_empty]
      exact hmuted kind
    · intro kind
      apply hR.bound_mono (hok.kind kind)
      have hmuted := hmuted kind
      have hrenewed := hrenewed kind
      show reportingTotal kind (replaceItem id muted sub.monitoredItems) ≤
        reportingTotal kind (replaceItem id renewed sub.monitoredItems)
      omega
  apply hbetween.update hR ?_ (show renewed.monitoringMode = hushed.monitoringMode from rfl) rfl ?_ ?_
    hok.kind
  · intro kind
    rw [available_updateAvailableNotifs]
    exact available_updateAvailableNotifs ..
  · intro kind
    have hmuted := hmuted kind
    have hrenewed := hrenewed kind
    rw [hhushed_empty, monitoredItems_updateAvailableNotifs]
    show reportingTotal kind (replaceItem id renewed sub.monitoredItems) + 0 =
      reportingTotal kind (replaceItem id muted sub.monitoredItems) + _
    omega
  · intro kind
    rw [hhushed_empty]
    exact Nat.zero_le _

theorem Counts.clearNotifications (h : sub.Counts R) (id : Nat)
    (hok : (sub.clearNotifications id).Bounded ok) :
    (sub.clearNotifications id).Counts R := by
  unfold Subscription.clearNotifications at hok ⊢
  rcases hitem : sub.findItem id with _ | item
  · exact h
  rw [hitem] at hok
  exact h.setQueue hR hitem rfl rfl hok

/-- The notifications are added by operations that keep the kind of the item. -/
theorem Counts.addNotification (h : sub.Counts R) {always : Bool}
    {add : MonitoredItem V E → Option (MonitoredItem V E × Bool)}
    (hkind : ∀ item out, add item = some out → MonitoredItem.SameKind item out.1)
    (hstep : sub.addNotification id always add = some sub') (hok : sub'.Bounded ok) :
    sub'.Counts R := by
  unfold Subscription.addNotification at hstep
  rcases hitem : sub.findItem id with _ | item
  · rw [hitem] at hstep
    cases hstep
    exact h
  rw [hitem] at hstep
  obtain ⟨⟨item', added⟩, hadd, hstep⟩ := bind_eq_some_iff.1 hstep
  have hsame := hkind item _ hadd
  dsimp only at hstep
  split_ifs at hstep
  · cases hstep
    exact h.setQueue hR hitem hsame.mode hsame.event hok
  · cases hstep
    exact h

end

/-! ## The messages -/

end Subscription

variable {α : Type} {n : Nat} {notifs : List α}

/-- As many notifications are popped as there are, up to the number asked. -/
theorem popNotifications_length {read : NotificationElement V E → Option α}
    {queue rest : List (NotificationElement V E)}
    (h : popNotifications read n queue = some (notifs, rest)) :
    notifs.length = min n queue.length ∧ rest.length = queue.length - notifs.length := by
  induction n generalizing queue notifs rest with
  | zero =>
    cases h
    simp
  | succ n ih =>
    rcases queue with _ | ⟨elt, queue⟩
    · cases h
      simp
    obtain ⟨notif, -, h⟩ := bind_eq_some_iff.1 h
    obtain ⟨⟨others, left⟩, hothers, h⟩ := bind_eq_some_iff.1 h
    cases h
    obtain ⟨hlength, hrest⟩ := ih hothers
    simp only [length_cons]
    omega

/-- A message takes the notifications of its kind, up to the number asked, and leaves the others. -/
theorem fillNotificationMessage_spec {isEvent : Bool}
    {read : MonitoredItem V E → NotificationElement V E → Option α}
    {items' : List (MonitoredItem V E)}
    (h : fillNotificationMessage isEvent read n items = some (notifs, items')) :
    notifs.length = min n (reportingTotal isEvent items) ∧
      reportingTotal isEvent items' = reportingTotal isEvent items - notifs.length ∧
      reportingTotal (!isEvent) items' = reportingTotal (!isEvent) items := by
  induction items generalizing n notifs items' with
  | nil =>
    cases h
    simp
  | cons item items ih =>
    rw [fillNotificationMessage] at h
    split_ifs at h with hreporting
    · obtain ⟨⟨popped, queue⟩, hpopped, h⟩ := bind_eq_some_iff.1 h
      obtain ⟨⟨others, left⟩, hothers, h⟩ := bind_eq_some_iff.1 h
      cases h
      obtain ⟨hlength, hqueue⟩ := popNotifications_length hpopped
      obtain ⟨hothers_length, htotal, hother⟩ := ih hothers
      have hweight : item.weight isEvent = item.notifQueue.length := if_pos hreporting
      have hweight' : MonitoredItem.weight isEvent { item with notifQueue := queue } =
          queue.length := if_pos hreporting
      have hnot (queue : List (NotificationElement V E)) :
          MonitoredItem.weight (!isEvent) { item with notifQueue := queue } = 0 := by
        simp [MonitoredItem.weight, hreporting.2]
      rw [reportingTotal_cons, reportingTotal_cons, reportingTotal_cons, reportingTotal_cons, hweight,
        hweight', hnot, hnot item.notifQueue, length_append]
      omega
    · obtain ⟨⟨others, left⟩, hothers, h⟩ := bind_eq_some_iff.1 h
      cases h
      obtain ⟨hothers_length, htotal, hother⟩ := ih hothers
      have hweight : item.weight isEvent = 0 := if_neg hreporting
      rw [reportingTotal_cons, reportingTotal_cons, reportingTotal_cons, reportingTotal_cons, hweight]
      omega

namespace Subscription

variable {R : Nat → Nat → Prop} {ok : Nat → Prop} {limits : Limits}
    {copy : NotificationMessage V E → Option (NotificationMessage V E)}

/-- What the sending of a notification message changes, for the numbers `nb` of notifications. -/
structure SendsMessage (limits : Limits)
    (copy : NotificationMessage V E → Option (NotificationMessage V E)) (nb : Nat × Nat × Bool)
    (sub sub' : Subscription V E) (msg : NotificationMessage V E) : Prop where
  number : msg.sequenceNumber = sub.seqNum
  nextNumber : sub'.seqNum = nextSequenceNumber sub.seqNum
  sent : sub'.sent = sub.sent ++ [.notification msg]
  queue : sub'.notifRepublishQueue = storeRepublishNotif limits.republishNotifPerSubMax copy
    sub.notifRepublishQueue msg.sequenceNumber msg
  dataLength : msg.dataNotifs.length = min nb.1 (reportingTotal false sub.monitoredItems)
  eventLength : msg.eventNotifs.length = min nb.2.1 (reportingTotal true sub.monitoredItems)
  data : sub'.availableDataNotifs = sub.availableDataNotifs - msg.dataNotifs.length
  event : sub'.availableEventNotifs = sub.availableEventNotifs - msg.eventNotifs.length
  dataTotal : reportingTotal false sub'.monitoredItems =
    reportingTotal false sub.monitoredItems - msg.dataNotifs.length
  eventTotal : reportingTotal true sub'.monitoredItems =
    reportingTotal true sub.monitoredItems - msg.eventNotifs.length

variable {sub sub' : Subscription V E} {n : Nat}

/-- What the data notifications of a message take from the items and from the counter. -/
theorem fillDataNotifs_spec {notifs : List (Nat × WriteValue V)}
    (h : sub.fillDataNotifs n = some (notifs, sub')) :
    notifs.length = min n (reportingTotal false sub.monitoredItems) ∧
      reportingTotal false sub'.monitoredItems =
        reportingTotal false sub.monitoredItems - notifs.length ∧
      reportingTotal true sub'.monitoredItems = reportingTotal true sub.monitoredItems ∧
      sub' = { sub with
        monitoredItems := sub'.monitoredItems
        availableDataNotifs := sub.availableDataNotifs - notifs.length } := by
  obtain ⟨⟨notifs', items⟩, hfill, h⟩ := bind_eq_some_iff.1 h
  obtain ⟨hlength, htotal, hother⟩ := fillNotificationMessage_spec hfill
  cases h
  exact ⟨hlength, htotal, hother, rfl⟩

/-- What the event notifications of a message take from the items and from the counter. -/
theorem fillEventNotifs_spec {notifs : List E}
    (h : sub.fillEventNotifs n = some (notifs, sub')) :
    notifs.length = min n (reportingTotal true sub.monitoredItems) ∧
      reportingTotal true sub'.monitoredItems =
        reportingTotal true sub.monitoredItems - notifs.length ∧
      reportingTotal false sub'.monitoredItems = reportingTotal false sub.monitoredItems ∧
      sub' = { sub with
        monitoredItems := sub'.monitoredItems
        availableEventNotifs := sub.availableEventNotifs - notifs.length } := by
  obtain ⟨⟨notifs', items⟩, hfill, h⟩ := bind_eq_some_iff.1 h
  obtain ⟨hlength, htotal, hother⟩ := fillNotificationMessage_spec hfill
  cases h
  exact ⟨hlength, htotal, hother, rfl⟩

variable {response : Response V E}

theorem fillAndSend_spec {nb : Nat × Nat × Bool}
    (h : sub.fillAndSend limits copy nb = some (sub', response)) :
    ∃ msg, response = .notification msg nb.2.2 ∧ SendsMessage limits copy nb sub sub' msg := by
  unfold fillAndSend at h
  obtain ⟨⟨dataNotifs, filled⟩, hdata, h⟩ := bind_eq_some_iff.1 h
  obtain ⟨⟨eventNotifs, done⟩, hevent, h⟩ := bind_eq_some_iff.1 h
  obtain ⟨hdata_length, hdata_total, hdata_other, hfilled⟩ := fillDataNotifs_spec hdata
  obtain ⟨hevent_length, hevent_total, hevent_other, hdone⟩ := fillEventNotifs_spec hevent
  cases h
  refine ⟨⟨sub.seqNum, dataNotifs, eventNotifs⟩, rfl, rfl, ?_, ?_, ?_, hdata_length, ?_, ?_, ?_, ?_,
    ?_⟩
  · rw [hdone, hfilled]
  · rw [hdone, hfilled]
  · rw [hdone, hfilled]
  · show eventNotifs.length = _
    rw [hevent_length, hdata_other]
  · rw [hdone, hfilled]
  · rw [hdone, hfilled]
  · show reportingTotal false done.monitoredItems = _
    rw [hevent_other, hdata_total]
  · show reportingTotal true done.monitoredItems = _
    rw [hevent_total, hdata_other]

variable {allocated : Bool}

/-- The two outcomes of `d_send_notification_msg`. -/
theorem sendNotificationMsg_cases
    (h : sub.sendNotificationMsg limits copy allocated = some (sub', response)) :
    (∃ msg, response = .notification msg (sub.msgNbNotifs limits).2.2 ∧
      SendsMessage limits copy (sub.msgNbNotifs limits) sub sub' msg) ∨
    response = .failed true ∧
      sub' = { sub with moreNotifications := true, messageSent := true } := by
  unfold sendNotificationMsg at h
  split_ifs at h
  · exact .inl (fillAndSend_spec h)
  · cases h
    exact .inr ⟨rfl, rfl⟩

theorem Counts.sendNotificationMsg (hR : CountRel R ok) (h : sub.Counts R)
    (hsend : sub.sendNotificationMsg limits copy allocated = some (sub', response)) :
    sub'.Counts R := by
  rcases sendNotificationMsg_cases hsend with ⟨msg, -, hsends⟩ | ⟨-, rfl⟩
  · have hdata := hsends.dataLength
    have hevent := hsends.eventLength
    constructor
    · rw [hsends.data, hsends.dataTotal]
      exact hR.decrease h.data (by omega)
    · rw [hsends.event, hsends.eventTotal]
      exact hR.decrease h.event (by omega)
  · exact h.congr rfl rfl fun _ => rfl

theorem Counts.sameContent (h : sub.Counts R) (hsame : SameContent sub sub') : sub'.Counts R := by
  apply h.congr hsame.data hsame.event
  intro isEvent
  rw [hsame.items]

theorem Counts.publishes (hR : CountRel R ok) {degraded : Prop}
    {response : Option (Response V E)} (h : sub.Counts R)
    (hpublishes : Publishes limits copy degraded sub sub' response) : sub'.Counts R := by
  cases hpublishes with
  | nothing same _ => exact h.sameContent same
  | notification same _ sends => exact (h.sameContent same).sendNotificationMsg hR sends
  | keepAlive same => exact (h.sameContent same).congr rfl rfl fun _ => rfl

theorem Counts.close (hR : CountRel R ok) (sub : Subscription V E) : sub.close.Counts R :=
  ⟨hR.zero, hR.zero⟩

theorem Counts.publishTimer (hR : CountRel R ok) {requests : List Bool}
    {responses : List (Response V E)} (h : sub.Counts R)
    (htimer : sub.publishTimer limits copy requests = some (sub', responses)) : sub'.Counts R := by
  rcases publishTimer_cases htimer with rfl | ⟨sub₁, sub₂, response, hsame, hpublishes, hrest⟩
  · exact .close hR sub
  have hfirst : sub₂.Counts R := (h.sameContent hsame).publishes hR hpublishes
  rcases hrest with ⟨-, rfl⟩ | ⟨r, others, -, hchain⟩
  · exact hfirst
  obtain ⟨-, hlast⟩ := returnMoreNotifs_invariant (P := fun _ sub => sub.Counts R)
    (fun hcounts hsend => hcounts.sendNotificationMsg hR hsend) requests.tail hfirst hchain
  exact hlast

/-! ## The runs -/

/-- A step keeps the relation, if the totals it leads to meet the bound. -/
theorem Counts.step (hR : CountRel R ok) {input : Input V E} (h : sub.Counts R)
    (hstep : sub.step limits copy input = some sub') (hok : sub'.Bounded ok) : sub'.Counts R := by
  unfold Subscription.step at hstep
  split_ifs at hstep
  · cases hstep
    exact h
  cases input with
  | createMonitoredItem id isEvent mode params value =>
    dsimp only at hstep
    split_ifs at hstep
    · cases hstep
      exact h
    · exact h.createMonitoredItem hR hstep hok
  | modifyMonitoredItem id params overflow => exact h.modifyMonitoredItem hR hstep hok
  | deleteMonitoredItem id =>
    cases hstep
    exact h.deleteMonitoredItem hR id hok
  | setMonitMode id mode =>
    cases hstep
    exact h.setMonitMode hR id mode hok
  | clearNotifications id =>
    cases hstep
    exact h.clearNotifications hR id hok
  | valueChange id value =>
    refine h.addNotification hR (fun item out hadd => ?_) hstep hok
    split_ifs at hadd
    · cases hadd
      exact .refl item
    · exact MonitoredItem.sameKind_addDataNotification hadd
  | nodeChange id value =>
    exact h.addNotification hR
      (fun _ _ hadd => MonitoredItem.sameKind_addFirstNotification hadd) hstep hok
  | event id event overflow =>
    exact h.addNotification hR
      (fun _ _ hadd => MonitoredItem.sameKind_addEventNotification hadd) hstep hok
  | publishRequest allocated =>
    obtain ⟨⟨sub₁, response⟩, hreceive, hstep⟩ := map_eq_some_iff.1 hstep
    cases hstep
    exact h.publishes hR (receivePublishRequest_publishes hreceive)
  | publishTimer requests =>
    obtain ⟨⟨sub₁, responses⟩, htimer, hstep⟩ := map_eq_some_iff.1 hstep
    cases hstep
    exact h.publishTimer hR htimer
  | close =>
    cases hstep
    exact .close hR sub
  | _ =>
    -- The items and the counters are not touched
    cases hstep
    exact h.congr rfl rfl fun _ => rfl

/-- The counters are the totals of the queues of the items in reporting mode. -/
def ExactCounters (sub : Subscription V E) : Prop :=
  sub.availableDataNotifs = reportingTotal false sub.monitoredItems ∧
    sub.availableEventNotifs = reportingTotal true sub.monitoredItems

/-- The totals of the queues of the items in reporting mode are integers of the code. -/
def TotalsFit (sub : Subscription V E) : Prop :=
  reportingTotal false sub.monitoredItems < 2 ^ 31 ∧ reportingTotal true sub.monitoredItems < 2 ^ 31

/-- In every run of a subscription, as long as the totals are integers of the code, the counters
    of the available notifications are exact. -/
theorem exactCounters_run (limits : Limits)
    (copy : NotificationMessage V E → Option (NotificationMessage V E))
    (lifetimeCount maxKeepAlive maxNotifsPerPublish : Nat) (publishEnabled : Bool)
    (inputs : List (Input V E))
    (hfit : EveryState (stepOrStop limits copy) (fun s => ∀ sub ∈ s, sub.TotalsFit)
      (some (create lifetimeCount maxKeepAlive maxNotifsPerPublish publishEnabled)) inputs) :
    EveryState (stepOrStop limits copy) (fun s => ∀ sub ∈ s, sub.ExactCounters)
      (some (create lifetimeCount maxKeepAlive maxNotifsPerPublish publishEnabled)) inputs := by
  refine EveryState.everyState ?_ ?_ hfit
  · intro s input hexact hfits sub' hsub'
    obtain ⟨sub, rfl, hstep⟩ := Option.bind_eq_some_iff.1 hsub'
    have hcounts : sub.Counts (· = ·) := ⟨(hexact sub rfl).1, (hexact sub rfl).2⟩
    have hnext := hcounts.step countRel_eq hstep ⟨(hfits sub' hsub').1, (hfits sub' hsub').2⟩
    exact ⟨hnext.data, hnext.event⟩
  · rintro sub hsub
    cases hsub
    exact ⟨rfl, rfl⟩

/-- A run with a notification in a queue, that is then published. -/
theorem exactCounters_run_one_item :
    let inputs : List (Input Nat Nat) :=
      [.createMonitoredItem 1 false .reporting ⟨7, true, 10⟩ (some ⟨some 5, 0⟩),
        .publishTimer [true]]
    let start : Option (Subscription Nat Nat) := some (create 100 10 0 true)
    EveryState (stepOrStop Limits.default some) (fun s => ∀ sub ∈ s, sub.TotalsFit) start inputs ∧
      EveryState (stepOrStop Limits.default some) (fun s => ∀ sub ∈ s, sub.ExactCounters) start
        inputs := by
  have hfit : EveryState (stepOrStop Limits.default some)
      (fun s : Option (Subscription Nat Nat) => ∀ sub ∈ s, sub.TotalsFit)
      (some (create 100 10 0 true))
      [.createMonitoredItem 1 false .reporting ⟨7, true, 10⟩ (some ⟨some 5, 0⟩),
        .publishTimer [true]] := by
    refine ⟨?_, ?_, ?_⟩
    all_goals
      intro sub hsub
      cases hsub
      unfold TotalsFit
      decide
  exact ⟨hfit, exactCounters_run Limits.default some 100 10 0 true _ hfit⟩

/-- The notification in the queue of an item in sampling mode is not counted. -/
theorem sampling_item_is_not_counted :
    ∃ sub : Subscription Nat Nat,
      [Input.createMonitoredItem 1 false .sampling ⟨7, true, 10⟩ (some ⟨some 5, 0⟩)].foldl
        (stepOrStop Limits.default some) (some (create 100 10 0 true)) = some sub ∧
      sub.availableDataNotifs = 0 ∧
      ((sub.monitoredItems.filter fun item => item.isEvent = false).map
        fun item => item.notifQueue.length).sum = 1 :=
  ⟨_, rfl, by decide, by decide⟩

end Subscription

end S2opc.SubscriptionCore
