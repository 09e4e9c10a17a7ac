/-
The sequence numbers of the messages of a subscription.

The k-th notification message has the number k + 1, up to the greatest 32-bit
integer after which the numbers start again at 1.  A keep-alive message has
the number of the next notification message.  A notification message is empty
in one case only: it answers a publish request that comes with the flag
MoreNotifications set, while the notifications the flag was set for are gone.
-/
import S2opc.Subscription.Counters

namespace S2opc.SubscriptionCore

open Lib.Run List Option

variable {V E : Type}

/-! ## The numbers of a history -/

/-- The number of the k-th notification message, from 0. -/
def messageNumber (k : Nat) : Nat :=
  k % (2 ^ 32 - 1) + 1

theorem messageNumber_succ (k : Nat) : messageNumber (k + 1) = nextSequenceNumber (messageNumber k) := by
  unfold messageNumber nextSequenceNumber
  split_ifs <;> omega

/-- The numbers of a history that follows `k` notification messages. -/
def Numbered : Nat → List (SentMessage V E) → Prop
  | _, [] => True
  | k, .notification msg :: rest => msg.sequenceNumber = messageNumber k ∧ Numbered (k + 1) rest
  | k, .keepAlive number :: rest => number = messageNumber k ∧ Numbered k rest

/-- The number of notification messages of a history. -/
def nbMessages : List (SentMessage V E) → Nat
  | [] => 0
  | .notification _ :: rest => nbMessages rest + 1
  | .keepAlive _ :: rest => nbMessages rest

theorem nbMessages_append (sent sent' : List (SentMessage V E)) :
    nbMessages (sent ++ sent') = nbMessages sent + nbMessages sent' := by
  induction sent with
  | nil => exact (Nat.zero_add _).symm
  | cons msg sent ih =>
    cases msg with
    | notification msg =>
      rw [cons_append, nbMessages, nbMessages, ih]
      omega
    | keepAlive number => exact ih

theorem numbered_append {k : Nat} {sent sent' : List (SentMessage V E)}
    (h : Numbered k sent) (h' : Numbered (k + nbMessages sent) sent') :
    Numbered k (sent ++ sent') := by
  induction sent generalizing k with
  | nil => exact h'
  | cons msg sent ih =>
    cases msg with
    | notification msg =>
      refine ⟨h.1, ih h.2 ?_⟩
      rwa [nbMessages, Nat.add_comm (nbMessages sent), ← Nat.add_assoc] at h'
    | keepAlive number => exact ⟨h.1, ih h.2 h'⟩

/-! ## The number of notifications of a message -/

/-- The limit of a message: that of the subscription, if it has one below the global maximum. -/
def notifsLimit (limits : Limits) (maxNotifs : Nat) : Nat :=
  if 0 < maxNotifs ∧ maxNotifs < limits.monitoredItemNotifMax then maxNotifs
  else limits.monitoredItemNotifMax

variable (limits : Limits)

theorem notifsLimit_pos (maxNotifs : Nat) : 0 < notifsLimit limits maxNotifs := by
  have hmax := limits.monitoredItemNotifMax_pos
  unfold notifsLimit
  split_ifs <;> omega

/-- A message takes as many of the available notifications as its limit allows, of both kinds if it
    has room for two, and tells whether some are left. -/
structure SharesUpTo (limit data event : Nat) (shared : Nat × Nat × Bool) : Prop where
  data_le : shared.1 ≤ data
  event_le : shared.2.1 ≤ event
  sum_eq : shared.1 + shared.2.1 = min (data + event) limit
  more_iff : shared.2.2 = true ↔ limit < data + event
  both : 0 < data → 0 < event → 2 ≤ limit → 0 < shared.1 ∧ 0 < shared.2.1

/-- Nothing is held back when everything is sent. -/
theorem sharesUpTo_all_iff {limit data event : Nat} :
    SharesUpTo limit data event (data, event, false) ↔ data + event ≤ limit := by
  constructor
  · intro h
    have hsum := h.sum_eq
    dsimp only at hsum
    omega
  · intro hle
    refine ⟨Nat.le_refl _, Nat.le_refl _, (Nat.min_eq_left hle).symm, ?_, fun h h' _ => ⟨h, h'⟩⟩
    simp only [Bool.false_eq_true, false_iff]
    omega

theorem sharesUpTo_some {limit data event nbData nbEvent : Nat} (hmore : limit < data + event)
    (hdata : nbData ≤ data) (hevent : nbEvent ≤ event) (hsum : nbData + nbEvent = limit)
    (hboth : 0 < data → 0 < event → 2 ≤ limit → 0 < nbData ∧ 0 < nbEvent) :
    SharesUpTo limit data event (nbData, nbEvent, true) :=
  ⟨hdata, hevent, hsum.trans (Nat.min_eq_right (Nat.le_of_lt hmore)).symm,
    iff_of_true rfl hmore, hboth⟩

theorem shareNbNotifs_sharesUpTo {limit : Nat} (hlimit : 0 < limit) (data event : Nat) :
    SharesUpTo limit data event (shareNbNotifs limit (data + event : Int) data event) := by
  unfold shareNbNotifs
  by_cases hmore : (data + event : Int) > limit
  · have hgt : limit < data + event := by omega
    rw [if_pos hmore]
    by_cases hevent : event = 0
    · rw [if_pos hevent]
      apply sharesUpTo_some hgt <;> omega
    rw [if_neg hevent]
    by_cases hdata : data = 0
    · rw [if_pos hdata]
      apply sharesUpTo_some hgt <;> omega
    rw [if_neg hdata]
    have hsum : ((data + event : Int)).toNat = data + event := by omega
    rw [hsum]
    -- The overflow is taken from the greater count down to the smaller, then from both
    apply sharesUpTo_some hgt <;> split_ifs <;> omega
  · rw [if_neg hmore, sharesUpTo_all_iff]
    omega

/-- The sum of two counters of the code is their sum, or is a negative integer. -/
theorem computeMsgNbNotifs_eq (maxNotifs : Nat) {data event : Nat}
    (hdata : data < 2 ^ 31) (hevent : event < 2 ^ 31) :
    computeMsgNbNotifs limits maxNotifs data event =
      if data + event < 2 ^ 31 then
        shareNbNotifs (notifsLimit limits maxNotifs) (data + event : Int) data event
      else (data, event, false) := by
  have hsum : (data + event : Int).bmod (2 ^ 32) =
      if data + event < 2 ^ 31 then (data + event : Int) else data + event - 2 ^ 32 := by
    rw [Int.bmod_def]
    split_ifs <;> omega
  unfold computeMsgNbNotifs
  rw [hsum]
  by_cases hlt : data + event < 2 ^ 31
  · rw [if_pos hlt, if_pos hlt]
    rfl
  · rw [if_neg hlt, if_neg hlt, shareNbNotifs, if_neg (by omega)]

/-- The specification of `local_compute_msg_nb_notifs` in the component, for the limit of the
    subscription as it is. -/
def localComputeMsgNbNotifsSpec (limits : Limits) (maxNotifs data event : Nat)
    (shared : Nat × Nat × Bool) : Prop :=
  if data + event ≤ limits.monitoredItemNotifMax ∧ data + event ≤ maxNotifs then
    shared = (data, event, false)
  else
    shared.1 ≤ data ∧ shared.2.1 ≤ event ∧
      shared.1 + shared.2.1 ≤ limits.monitoredItemNotifMax ∧
      shared.1 + shared.2.1 ≤ maxNotifs ∧ shared.2.2 = true

instance (limits : Limits) (maxNotifs data event : Nat) (shared : Nat × Nat × Bool) :
    Decidable (localComputeMsgNbNotifsSpec limits maxNotifs data event shared) :=
  inferInstanceAs (Decidable (ite _ _ _))

/-- A share up to the limit meets the specification, unless there is no limit of the subscription:
    the specification then has nothing sent. -/
theorem SharesUpTo.spec_iff {limits : Limits} {maxNotifs data event : Nat} {shared : Nat × Nat × Bool}
    (h : SharesUpTo (notifsLimit limits maxNotifs) data event shared) :
    localComputeMsgNbNotifsSpec limits maxNotifs data event shared ↔
      maxNotifs ≠ 0 ∨ data + event = 0 := by
  obtain ⟨hdata, hevent, hsum, hmore, -⟩ := h
  have hmax := limits.monitoredItemNotifMax_pos
  unfold notifsLimit at hsum hmore
  unfold localComputeMsgNbNotifsSpec
  split_ifs with hfit
  · constructor
    · intro _
      omega
    · intro _
      have hno : shared.2.2 = false := by
        rw [← Bool.not_eq_true, hmore]
        split_ifs <;> omega
      have hall : shared.1 = data ∧ shared.2.1 = event := by
        split_ifs at hsum <;> omega
      exact Prod.ext hall.1 (Prod.ext hall.2 hno)
  · rw [hmore]
    split_ifs at hsum ⊢ <;> omega

/-- The operation shares the available notifications up to the limit and refines its specification
    as long as the sum of the counters does not overflow (or is below the limit all the same) and,
    when there is something to send, the subscription has a limit of its own. -/
theorem computeMsgNbNotifs_shares_iff (limits : Limits) (maxNotifs : Nat) {data event : Nat}
    (hdata : data < 2 ^ 31) (hevent : event < 2 ^ 31) :
    SharesUpTo (notifsLimit limits maxNotifs) data event
        (computeMsgNbNotifs limits maxNotifs data event) ∧
      localComputeMsgNbNotifsSpec limits maxNotifs data event
        (computeMsgNbNotifs limits maxNotifs data event) ↔
      (data + event < 2 ^ 31 ∨ data + event ≤ notifsLimit limits maxNotifs) ∧
        (maxNotifs ≠ 0 ∨ data + event = 0) := by
  have hshares : SharesUpTo (notifsLimit limits maxNotifs) data event
      (computeMsgNbNotifs limits maxNotifs data event) ↔
      data + event < 2 ^ 31 ∨ data + event ≤ notifsLimit limits maxNotifs := by
    rw [computeMsgNbNotifs_eq limits maxNotifs hdata hevent]
    split_ifs with hlt
    · have hshare := shareNbNotifs_sharesUpTo (notifsLimit_pos limits maxNotifs) data event
      exact iff_of_true hshare (Or.inl hlt)
    · rw [sharesUpTo_all_iff, or_iff_right hlt]
  rw [← hshares]
  exact and_congr_right fun h => h.spec_iff

theorem computeMsgNbNotifs_shares_odd_limit :
    SharesUpTo 3 4 2 (computeMsgNbNotifs Limits.default 3 4 2) ∧
      localComputeMsgNbNotifsSpec Limits.default 3 4 2 (computeMsgNbNotifs Limits.default 3 4 2) :=
  (computeMsgNbNotifs_shares_iff Limits.default 3 (by decide) (by decide)).mpr (by decide)

/-- A subscription without a limit of its own and with one value to send: the value is sent, and
    the specification allows no notification. -/
theorem no_limit_does_not_refine :
    computeMsgNbNotifs Limits.default 0 1 0 = (1, 0, false) ∧
      ¬ localComputeMsgNbNotifsSpec Limits.default 0 1 0 (computeMsgNbNotifs Limits.default 0 1 0) := by
  decide

/-- The numbers of notifications of the next message, for counters that are integers of the code. -/
theorem msgNbNotifs_spec {sub : Subscription V E}
    (hdata : sub.availableDataNotifs < 2 ^ 31) (hevent : sub.availableEventNotifs < 2 ^ 31) :
    (sub.msgNbNotifs limits).1 ≤ sub.availableDataNotifs ∧
      (sub.msgNbNotifs limits).2.1 ≤ sub.availableEventNotifs ∧
      (0 < sub.availableDataNotifs + sub.availableEventNotifs →
        0 < (sub.msgNbNotifs limits).1 + (sub.msgNbNotifs limits).2.1) ∧
      ((sub.msgNbNotifs limits).2.2 = true →
        (sub.msgNbNotifs limits).1 + (sub.msgNbNotifs limits).2.1 <
          sub.availableDataNotifs + sub.availableEventNotifs) := by
  have hlimit := notifsLimit_pos limits sub.maxNotifsPerPublish
  unfold Subscription.msgNbNotifs
  rw [computeMsgNbNotifs_eq limits _ hdata hevent]
  split_ifs with hlt
  · obtain ⟨hdata', hevent', hsum, hmore, -⟩ := shareNbNotifs_sharesUpTo hlimit
      sub.availableDataNotifs sub.availableEventNotifs
    refine ⟨hdata', hevent', ?_, ?_⟩
    · omega
    · rw [hmore]
      omega
  refine ⟨Nat.le_refl _, Nat.le_refl _, id, ?_⟩
  intro hfalse
  cases hfalse

namespace Subscription

variable {limits : Limits}
    {copy : NotificationMessage V E → Option (NotificationMessage V E)}

/-! ## What a step appends to the history -/

/-- The numbers of the history, and the next one. -/
def InSequence (sub : Subscription V E) : Prop :=
  Numbered 0 sub.sent ∧ sub.seqNum = messageNumber (nbMessages sub.sent)

/-- The history is extended in sequence, by messages that are empty under a condition only. -/
structure Extends (mayBeEmpty : Prop) (sub sub' : Subscription V E) : Prop where
  messages : ∃ msgs, sub'.sent = sub.sent ++ msgs ∧
    ∀ msg, .notification msg ∈ msgs → 0 < msg.nbNotifs ∨ mayBeEmpty
  sequence : sub.InSequence → sub'.InSequence

variable {mayBeEmpty : Prop} {sub sub' sub'' : Subscription V E}

theorem Extends.of_same (hsent : sub'.sent = sub.sent) (hnumber : sub'.seqNum = sub.seqNum) :
    Extends mayBeEmpty sub sub' := by
  refine ⟨⟨[], ?_, nofun⟩, ?_⟩
  · rw [hsent, append_nil]
  · unfold InSequence
    rw [hsent, hnumber]
    exact id

theorem SameContent.extends (h : SameContent sub sub') : Extends mayBeEmpty sub sub' :=
  .of_same h.sent h.number

theorem Extends.trans (h : Extends mayBeEmpty sub sub') (h' : Extends mayBeEmpty sub' sub'') :
    Extends mayBeEmpty sub sub'' := by
  obtain ⟨⟨msgs, hsent, hmsgs⟩, hseq⟩ := h
  obtain ⟨⟨msgs', hsent', hmsgs'⟩, hseq'⟩ := h'
  refine ⟨⟨msgs ++ msgs', ?_, ?_⟩, fun hs => hseq' (hseq hs)⟩
  · rw [hsent', hsent, append_assoc]
  · intro msg hmem
    rcases mem_append.1 hmem with hmem | hmem
    · exact hmsgs msg hmem
    · exact hmsgs' msg hmem

theorem Extends.mono {mayBeEmpty' : Prop} (h : Extends mayBeEmpty sub sub')
    (himp : mayBeEmpty → mayBeEmpty') : Extends mayBeEmpty' sub sub' := by
  obtain ⟨⟨msgs, hsent, hmsgs⟩, hseq⟩ := h
  exact ⟨⟨msgs, hsent, fun msg hmem => (hmsgs msg hmem).imp id himp⟩, hseq⟩

theorem extends_sendKeepaliveMsg (sub : Subscription V E) :
    Extends mayBeEmpty sub sub.sendKeepaliveMsg.1 := by
  refine ⟨⟨[.keepAlive sub.seqNum], rfl, ?_⟩, ?_⟩
  · intro msg hmem
    cases mem_singleton.1 hmem
  · rintro ⟨hnumbered, hnext⟩
    refine ⟨numbered_append hnumbered ⟨?_, trivial⟩, ?_⟩
    · rw [Nat.zero_add]
      exact hnext
    · show sub.seqNum = messageNumber (nbMessages (sub.sent ++ [.keepAlive sub.seqNum]))
      rw [nbMessages_append]
      exact hnext

theorem notificationAvailable_iff (sub : Subscription V E) :
    sub.notificationAvailable = true ↔ 0 < sub.availableDataNotifs + sub.availableEventNotifs := by
  unfold notificationAvailable
  rw [Bool.or_eq_true, decide_eq_true_iff, decide_eq_true_iff]
  omega

/-- A message with all the notifications that were computed for it, as the counters are not over
    the totals of the queues, and what is left for a next one. -/
theorem SendsMessage.extends {nb : Nat × Nat × Bool} {msg : NotificationMessage V E}
    (h : SendsMessage limits copy nb sub sub' msg)
    (hcounts : sub.Counts fun count total => count ≤ total ∧ count < 2 ^ 31)
    (hdata : nb.1 ≤ sub.availableDataNotifs) (hevent : nb.2.1 ≤ sub.availableEventNotifs)
    (hpos : 0 < sub.availableDataNotifs + sub.availableEventNotifs → 0 < nb.1 + nb.2.1) :
    Extends (sub.notificationAvailable = false) sub sub' ∧
      (nb.1 + nb.2.1 < sub.availableDataNotifs + sub.availableEventNotifs →
        sub'.notificationAvailable = true) := by
  have hdata_length : msg.dataNotifs.length = nb.1 := by
    have := h.dataLength
    have := hcounts.data.1
    omega
  have hevent_length : msg.eventNotifs.length = nb.2.1 := by
    have := h.eventLength
    have := hcounts.event.1
    omega
  refine ⟨⟨⟨[.notification msg], h.sent, ?_⟩, ?_⟩, ?_⟩
  · intro other hmem
    cases mem_singleton.1 hmem
    rw [NotificationMessage.nbNotifs, hdata_length, hevent_length, ← Bool.not_eq_true,
      notificationAvailable_iff]
    omega
  · rintro ⟨hnumbered, hnext⟩
    unfold InSequence
    rw [h.sent, h.nextNumber, nbMessages_append, hnext]
    refine ⟨numbered_append hnumbered ⟨?_, trivial⟩, (messageNumber_succ _).symm⟩
    rw [Nat.zero_add, h.number, hnext]
  · intro hleft
    rw [notificationAvailable_iff, h.data, h.event]
    omega

/-- The sending of a notification message, and what is left for a next one. -/
theorem extends_sendNotificationMsg {allocated : Bool} {response : Response V E}
    (hcounts : sub.Counts fun count total => count ≤ total ∧ count < 2 ^ 31)
    (hsend : sub.sendNotificationMsg limits copy allocated = some (sub', response)) :
    Extends (sub.notificationAvailable = false) sub sub' ∧
      (response.moreNotifs = true → sub.notificationAvailable = true →
        sub'.notificationAvailable = true) := by
  rcases sendNotificationMsg_cases hsend with ⟨msg, hresponse, hsends⟩ | ⟨-, rfl⟩
  · obtain ⟨hdata, hevent, hpos, hmore⟩ := msgNbNotifs_spec limits hcounts.data.2 hcounts.event.2
    obtain ⟨hextends, hleft⟩ := hsends.extends hcounts hdata hevent hpos
    rw [hresponse, Response.moreNotifs_notification]
    exact ⟨hextends, fun hflag _ => hleft (hmore hflag)⟩
  · refine ⟨.of_same rfl rfl, fun _ havailable => ?_⟩
    exact havailable

/-- A transition, with what is left for a next message. -/
theorem Publishes.extends {degraded : Prop} {response : Option (Response V E)}
    (hcounts : sub.Counts fun count total => count ≤ total ∧ count < 2 ^ 31)
    (h : Publishes limits copy degraded sub sub' response) :
    Extends (degraded ∧ sub.notificationAvailable = false) sub sub' ∧
      (¬ degraded → ∀ r, response = some r → r.moreNotifs = true →
        sub'.notificationAvailable = true) := by
  cases h with
  | nothing same no_more =>
    refine ⟨same.extends, fun _ r hr hmore => ?_⟩
    rw [no_more r hr] at hmore
    cases hmore
  | notification same available sends =>
    obtain ⟨hextends, hleft⟩ := extends_sendNotificationMsg (hcounts.sameContent same) sends
    rw [same.notificationAvailable] at hextends hleft
    constructor
    · refine same.extends.trans (hextends.mono fun hnone => ⟨?_, hnone⟩)
      rcases available with havailable | hdegraded
      · rw [hnone] at havailable
        cases havailable
      · exact hdegraded
    · rintro hnot r ⟨rfl⟩ hmore
      exact hleft hmore (available.resolve_right hnot)
  | keepAlive same =>
    refine ⟨same.extends.trans (extends_sendKeepaliveMsg _), ?_⟩
    rintro - r ⟨rfl⟩ hmore
    cases hmore

/-- The publishing timer: each message of the chain has a notification. -/
theorem extends_publishTimer {requests : List Bool} {responses : List (Response V E)}
    (hcounts : sub.Counts fun count total => count ≤ total ∧ count < 2 ^ 31)
    (h : sub.publishTimer limits copy requests = some (sub', responses)) : Extends False sub sub' := by
  rcases publishTimer_cases h with rfl | ⟨sub₁, sub₂, response, hsame, hpublishes, hrest⟩
  · exact .of_same rfl rfl
  obtain ⟨hextends, hleft⟩ := hpublishes.extends (hcounts.sameContent hsame)
  have hfirst : Extends False sub sub₂ := hsame.extends.trans (hextends.mono And.left)
  rcases hrest with ⟨-, rfl⟩ | ⟨r, others, hr, hchain⟩
  · exact hfirst
  have hstart := (hcounts.sameContent hsame).publishes countRel_le hpublishes
  -- A notification is available before each message of the chain
  obtain ⟨-, -, hlast, -⟩ := returnMoreNotifs_invariant
    (P := fun more last => last.Counts (fun count total => count ≤ total ∧ count < 2 ^ 31) ∧
      Extends False sub last ∧ (more = true → last.notificationAvailable = true))
    (fun ⟨hcounts, hextends, havailable⟩ hsend => by
      obtain ⟨hnext, hleft⟩ := extends_sendNotificationMsg hcounts hsend
      have havailable := havailable rfl
      refine ⟨hcounts.sendNotificationMsg countRel_le hsend, hextends.trans (hnext.mono ?_),
        fun hmore => hleft hmore havailable⟩
      rw [havailable]
      intro hfalse
      cases hfalse)
    requests.tail ⟨hstart, hfirst, hleft id r hr⟩ hchain
  exact hlast

/-! ## The steps -/

/-- Two subscriptions with the same sent messages and messages that are kept. -/
structure SameHistory (sub sub' : Subscription V E) : Prop where
  sent : sub'.sent = sub.sent
  number : sub'.seqNum = sub.seqNum
  queue : sub'.notifRepublishQueue = sub.notifRepublishQueue

theorem SameHistory.refl (sub : Subscription V E) : SameHistory sub sub :=
  ⟨rfl, rfl, rfl⟩

theorem SameHistory.updateAvailableNotifs (h : SameHistory sub sub') (mode : MonitoringMode)
    (isEvent : Bool) (lenBefore lenAfter : Nat) :
    SameHistory sub (sub'.updateAvailableNotifs mode isEvent lenBefore lenAfter) := by
  unfold Subscription.updateAvailableNotifs
  split_ifs
  · exact ⟨h.sent, h.number, h.queue⟩
  · exact ⟨h.sent, h.number, h.queue⟩
  · exact h

/-- The items have no part in the history. -/
theorem sameHistory_items (sub : Subscription V E) (items : List (MonitoredItem V E)) :
    SameHistory sub { sub with monitoredItems := items } :=
  ⟨rfl, rfl, rfl⟩

theorem sameHistory_setQueue (sub : Subscription V E) (old new : MonitoredItem V E) :
    SameHistory sub (sub.setQueue old new) := by
  apply SameHistory.updateAvailableNotifs
  apply sameHistory_items

variable {id : Nat}

theorem sameHistory_addNotification {always : Bool}
    {add : MonitoredItem V E → Option (MonitoredItem V E × Bool)}
    (h : sub.addNotification id always add = some sub') : SameHistory sub sub' := by
  unfold addNotification at h
  split at h
  · cases h
    exact .refl sub
  obtain ⟨⟨item', added⟩, -, h⟩ := bind_eq_some_iff.1 h
  dsimp only at h
  split_ifs at h
  · cases h
    exact sameHistory_setQueue ..
  · cases h
    exact .refl sub

variable {params : ItemParams}

theorem sameHistory_createMonitoredItem {isEvent : Bool} {mode : MonitoringMode}
    {value : Option (WriteValue V)}
    (h : sub.createMonitoredItem limits id isEvent mode params value = some sub') :
    SameHistory sub sub' := by
  unfold createMonitoredItem at h
  rcases ite_eq_iff.1 h with ⟨-, h⟩ | ⟨-, h⟩
  · obtain ⟨⟨item, added⟩, -, h⟩ := bind_eq_some_iff.1 h
    dsimp only at h
    split_ifs at h
    · cases h
      exact (sameHistory_items ..).updateAvailableNotifs ..
    · cases h
      exact .refl sub
  · cases h
    exact sameHistory_items ..

theorem sameHistory_modifyMonitoredItem {overflow : Option E}
    (h : sub.modifyMonitoredItem limits id params overflow = some sub') :
    SameHistory sub sub' := by
  unfold modifyMonitoredItem at h
  split at h
  · cases h
    exact .refl sub
  obtain ⟨resized, -, h⟩ := bind_eq_some_iff.1 h
  cases h
  exact sameHistory_setQueue ..

theorem sameHistory_deleteMonitoredItem (sub : Subscription V E) (id : Nat) :
    SameHistory sub (sub.deleteMonitoredItem id) := by
  unfold deleteMonitoredItem
  split
  · exact .refl sub
  · exact (sameHistory_items ..).updateAvailableNotifs ..

theorem sameHistory_setMonitMode (sub : Subscription V E) (id : Nat) (mode : MonitoringMode) :
    SameHistory sub (sub.setMonitMode id mode) := by
  unfold setMonitMode
  split
  · exact .refl sub
  · rename_i item _
    have hremoved := (SameHistory.refl sub).updateAvailableNotifs item.monitoringMode item.isEvent
      item.notifQueue.length 0
    apply SameHistory.updateAvailableNotifs
    exact ⟨hremoved.sent, hremoved.number, hremoved.queue⟩

theorem sameHistory_clearNotifications (sub : Subscription V E) (id : Nat) :
    SameHistory sub (sub.clearNotifications id) := by
  unfold clearNotifications
  split
  · exact .refl sub
  · exact sameHistory_setQueue ..

/-- What a step can do to the history of a subscription. -/
inductive HistoryStep (limits : Limits)
    (copy : NotificationMessage V E → Option (NotificationMessage V E)) (sub : Subscription V E) :
    Input V E → Subscription V E → Prop where
  | closed {input : Input V E} (state : sub.state = .indet) : HistoryStep limits copy sub input sub
  | same {input : Input V E} {sub' : Subscription V E} (same : SameHistory sub sub')
      (not_acknowledge : ∀ seqNum, input ≠ .acknowledge seqNum) :
      HistoryStep limits copy sub input sub'
  | acknowledge (seqNum : Nat) : HistoryStep limits copy sub (.acknowledge seqNum)
      { sub with notifRepublishQueue := (ackNotifMsg sub.notifRepublishQueue seqNum).1 }
  | close : HistoryStep limits copy sub .close sub.close
  | publishRequest {allocated : Bool} {sub' : Subscription V E} {response : Option (Response V E)}
      (publishes : Publishes limits copy (sub.moreNotifications = true) sub sub' response) :
      HistoryStep limits copy sub (.publishRequest allocated) sub'
  | publishTimer {requests : List Bool} {sub' : Subscription V E} {responses : List (Response V E)}
      (timer : sub.publishTimer limits copy requests = some (sub', responses)) :
      HistoryStep limits copy sub (.publishTimer requests) sub'

theorem step_historyStep {input : Input V E} (h : sub.step limits copy input = some sub') :
    HistoryStep limits copy sub input sub' := by
  unfold step at h
  split_ifs at h with hstate
  · cases h
    exact .closed hstate
  cases input with
  | createMonitoredItem id isEvent mode params value =>
    dsimp only at h
    split_ifs at h
    · cases h
      exact .same (.refl sub) (by simp)
    · exact .same (sameHistory_createMonitoredItem h) (by simp)
  | modifyMonitoredItem id params overflow =>
    exact .same (sameHistory_modifyMonitoredItem h) (by simp)
  | deleteMonitoredItem id =>
    cases h
    exact .same (sameHistory_deleteMonitoredItem sub id) (by simp)
  | setMonitMode id mode =>
    cases h
    exact .same (sameHistory_setMonitMode sub id mode) (by simp)
  | clearNotifications id =>
    cases h
    exact .same (sameHistory_clearNotifications sub id) (by simp)
  | valueChange id value => exact .same (sameHistory_addNotification h) (by simp)
  | nodeChange id value => exact .same (sameHistory_addNotification h) (by simp)
  | event id event overflow => exact .same (sameHistory_addNotification h) (by simp)
  | publishRequest allocated =>
    obtain ⟨⟨sub₁, response⟩, hreceive, h⟩ := map_eq_some_iff.1 h
    cases h
    exact .publishRequest (receivePublishRequest_publishes hreceive)
  | publishTimer requests =>
    obtain ⟨⟨sub₁, responses⟩, htimer, h⟩ := map_eq_some_iff.1 h
    cases h
    exact .publishTimer htimer
  | setPublishingEnabled enabled =>
    cases h
    exact .same ⟨rfl, rfl, rfl⟩ (by simp)
  | modify lifetimeCount maxKeepAlive maxNotifsPerPublish =>
    cases h
    exact .same ⟨rfl, rfl, rfl⟩ (by simp)
  | acknowledge seqNum =>
    cases h
    exact .acknowledge seqNum
  | republish seqNum =>
    cases h
    exact .same ⟨rfl, rfl, rfl⟩ (by simp)
  | close =>
    cases h
    exact .close

/-! ## The runs -/

/-- The condition under which a message may be empty: it answers a publish request, and the flag
    MoreNotifications is set although no notification is available. -/
def EmptyMessageAllowed (sub : Subscription V E) (input : Input V E) : Prop :=
  (∃ allocated, input = .publishRequest allocated) ∧ sub.moreNotifications = true ∧
    sub.notificationAvailable = false

theorem extends_step {input : Input V E}
    (hcounts : sub.Counts fun count total => count ≤ total ∧ count < 2 ^ 31)
    (h : sub.step limits copy input = some sub') :
    Extends (sub.EmptyMessageAllowed input) sub sub' := by
  cases step_historyStep h with
  | closed _ => exact .of_same rfl rfl
  | same same _ => exact .of_same same.sent same.number
  | acknowledge seqNum => exact .of_same rfl rfl
  | close => exact .of_same rfl rfl
  | publishRequest publishes =>
    exact (publishes.extends hcounts).1.mono fun hempty => ⟨⟨_, rfl⟩, hempty⟩
  | publishTimer timer => exact (extends_publishTimer hcounts timer).mono False.elim

/-- What the states of a run have: a history in sequence, and counters that are not over the
    totals. -/
def Ordered (sub : Subscription V E) : Prop :=
  sub.InSequence ∧ sub.Counts fun count total => count ≤ total ∧ count < 2 ^ 31

theorem ordered_create (lifetimeCount maxKeepAlive maxNotifsPerPublish : Nat)
    (publishEnabled : Bool) :
    (create lifetimeCount maxKeepAlive maxNotifsPerPublish publishEnabled :
      Subscription V E).Ordered :=
  ⟨⟨trivial, rfl⟩, countRel_le.zero, countRel_le.zero⟩

theorem Ordered.step {input : Input V E} (h : sub.Ordered)
    (hstep : sub.step limits copy input = some sub') : sub'.Ordered :=
  ⟨(extends_step h.2 hstep).sequence h.1, h.2.step countRel_le hstep ⟨trivial, trivial⟩⟩

/-- In every run of a subscription, the numbers of the messages are in sequence, and a step sends
    messages with a notification at least, but for a publish request that is received with the flag
    MoreNotifications set and no notification available. -/
theorem sequenceNumbers_run (limits : Limits)
    (copy : NotificationMessage V E → Option (NotificationMessage V E))
    (lifetimeCount maxKeepAlive maxNotifsPerPublish : Nat) (publishEnabled : Bool)
    (inputs : List (Input V E)) :
    EveryState (stepOrStop limits copy)
      (fun s => ∀ sub ∈ s, Numbered 0 sub.sent ∧
        ∀ input, ∀ sub' ∈ sub.step limits copy input, ∃ msgs, sub'.sent = sub.sent ++ msgs ∧
          ∀ msg, .notification msg ∈ msgs → 0 < msg.nbNotifs ∨ sub.EmptyMessageAllowed input)
      (some (create lifetimeCount maxKeepAlive maxNotifsPerPublish publishEnabled)) inputs := by
  have hrun : EveryState (stepOrStop limits copy) (fun s => ∀ sub ∈ s, Ordered sub)
      (some (create lifetimeCount maxKeepAlive maxNotifsPerPublish publishEnabled)) inputs := by
    apply everyState_of_invariant
    · intro s input hinv sub' hsub'
      obtain ⟨sub, rfl, hstep⟩ := Option.bind_eq_some_iff.1 hsub'
      exact (hinv sub rfl).step hstep
    · intro sub hsub
      cases hsub
      exact ordered_create ..
  refine hrun.mono fun s hinv sub hsub => ?_
  obtain ⟨hsequence, hcounts⟩ := hinv sub hsub
  exact ⟨hsequence.1, fun input sub' hstep => (extends_step hcounts hstep).messages⟩

/-- A second message that is empty: its item was deleted after the first one. -/
theorem second_message_is_empty :
    ([.createMonitoredItem 1 false .reporting ⟨7, true, 10⟩ (some ⟨some 5, 0⟩),
        .valueChange 1 (some ⟨some 6, 0⟩), .publishTimer [true], .deleteMonitoredItem 1,
        .publishRequest true].foldl (stepOrStop Limits.default some)
      (some (create 100 10 1 true : Subscription Nat Nat))).map (fun sub => (sub.sent, sub.seqNum)) =
    some ([.notification ⟨1, [(7, ⟨some 5, 0⟩)], []⟩, .notification ⟨2, [], []⟩], 3) := by
  decide

end Subscription

end S2opc.SubscriptionCore
