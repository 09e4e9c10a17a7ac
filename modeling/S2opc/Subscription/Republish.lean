/-
The messages that a subscription keeps for retransmission.

What the queue is for is said by a list of the messages that were sent and not
acknowledged: the most recent ones are to be available, in the order they were
sent.  The queue discards its last message when it is full, which is the most
recent one.  As long as it never is full, it holds all of the list; once a
message was discarded, its first message is one that is too old.

The queue is first looked at by itself, then each step of a subscription is
shown to be a sequence of operations on it.
-/
import S2opc.Subscription.SequenceNumbers

namespace S2opc.SubscriptionCore

open Lib.Run List

/-! ## Operations on the queue -/

section Retransmission

variable {Message : Type}

/-- The operations on the messages that were sent. -/
inductive RetransmissionOp (Message : Type) where
  | send (seqNum : Nat) (msg : Message)
  | acknowledge (seqNum : Nat)
  | republish (seqNum : Nat)
  deriving DecidableEq, Repr

/-- The effect of an operation on the republish queue. -/
def queueStep (max : Nat) (copy : Message → Option Message) (queue : List (Nat × Message)) :
    RetransmissionOp Message → List (Nat × Message)
  | .send seqNum msg => storeRepublishNotif max copy queue seqNum msg
  | .acknowledge seqNum => (ackNotifMsg queue seqNum).1
  | .republish _ => queue

/-- The queue, with the messages that were sent and not acknowledged. -/
structure Retransmission (Message : Type) where
  queue : List (Nat × Message)
  unacknowledged : List (Nat × Message)
  deriving DecidableEq, Repr

/-- The effect of an operation on the messages that were sent and not acknowledged. -/
def unacknowledgedStep (msgs : List (Nat × Message)) :
    RetransmissionOp Message → List (Nat × Message)
  | .send seqNum msg => msgs ++ [(seqNum, msg)]
  | .acknowledge seqNum => msgs.filter (·.1 ≠ seqNum)
  | .republish _ => msgs

def Retransmission.step (max : Nat) (copy : Message → Option Message) (s : Retransmission Message)
    (op : RetransmissionOp Message) : Retransmission Message :=
  ⟨queueStep max copy s.queue op, unacknowledgedStep s.unacknowledged op⟩

/-- The most recent `max` messages of a list. -/
def mostRecent (max : Nat) (msgs : List (Nat × Message)) : List (Nat × Message) :=
  msgs.drop (msgs.length - max)

/-- The messages that are available are the most recent ones that are not acknowledged, and the
    request of one of them returns it. -/
def Retransmission.Available (max : Nat) (copy : Message → Option Message)
    (s : Retransmission Message) : Prop :=
  s.queue = mostRecent max s.unacknowledged ∧
    ∀ entry ∈ mostRecent max s.unacknowledged, republish copy s.queue entry.1 = some entry.2

/-- The condition on an operation: a message is sent while fewer than `max` ones are not
    acknowledged, with a number that is not one of theirs, and it can be copied. -/
def Retransmission.HasRoom (max : Nat) (copy : Message → Option Message) (s : Retransmission Message) :
    RetransmissionOp Message → Prop
  | .send seqNum msg => s.unacknowledged.length < max ∧
      (∀ entry ∈ s.unacknowledged, entry.1 ≠ seqNum) ∧ copy msg = some msg
  | .acknowledge _ => True
  | .republish _ => True

/-! ## Runs with room -/

/-- What runs with room keep: the queue holds all the messages that are not acknowledged, each
    with its own number, and they can be copied. -/
structure Retransmission.Complete (max : Nat) (copy : Message → Option Message)
    (s : Retransmission Message) : Prop where
  queue : s.queue = s.unacknowledged
  length : s.unacknowledged.length ≤ max
  numbers : (s.unacknowledged.map Prod.fst).Nodup
  copies : ∀ entry ∈ s.unacknowledged, copy entry.2 = some entry.2

variable {max : Nat} {copy : Message → Option Message} {queue : List (Nat × Message)}

/-- An entry is the one that its number finds. -/
theorem find?_eq_of_nodup (hnodup : (queue.map Prod.fst).Nodup) {entry : Nat × Message}
    (hmem : entry ∈ queue) :
    queue.find? (·.1 == entry.1) = some entry := by
  induction queue with
  | nil => cases hmem
  | cons other queue ih =>
    rw [map_cons, nodup_cons] at hnodup
    rcases mem_cons.1 hmem with rfl | hmem
    · rw [find?_cons_of_pos (by simp)]
    have hne : other.1 ≠ entry.1 := by
      intro heq
      apply hnodup.1
      rw [heq]
      exact mem_map_of_mem hmem
    rw [find?_cons_of_neg (by simpa using hne)]
    exact ih hnodup.2 hmem

/-- The removal of a number that is there once at most. -/
theorem eraseP_eq_filter_of_nodup (hnodup : (queue.map Prod.fst).Nodup) (seqNum : Nat) :
    queue.eraseP (·.1 == seqNum) = queue.filter (·.1 ≠ seqNum) := by
  induction queue with
  | nil => rfl
  | cons entry queue ih =>
    rw [map_cons, nodup_cons] at hnodup
    by_cases hnum : entry.1 = seqNum
    · rw [eraseP_cons_of_pos (by simpa using hnum), filter_cons_of_neg (by simpa using hnum)]
      -- The number is not in the rest
      apply Eq.symm
      apply filter_eq_self.2
      intro other hmem
      rw [decide_eq_true_iff]
      rintro rfl
      exact hnodup.1 (hnum ▸ mem_map_of_mem hmem)
    · rw [eraseP_cons_of_neg (by simpa using hnum), filter_cons_of_pos (by simpa using hnum),
        ih hnodup.2]

variable {s : Retransmission Message}

theorem Retransmission.Complete.available (h : s.Complete max copy) :
    s.Available max copy := by
  have hall : mostRecent max s.unacknowledged = s.unacknowledged := by
    unfold mostRecent
    rw [Nat.sub_eq_zero_of_le h.length, drop_zero]
  unfold Available
  rw [hall]
  refine ⟨h.queue, fun entry hmem => ?_⟩
  unfold republish
  rw [h.queue, find?_eq_of_nodup h.numbers hmem]
  exact h.copies entry hmem

/-- An operation with room keeps the queue complete. -/
theorem Retransmission.Complete.step (h : s.Complete max copy) {op : RetransmissionOp Message}
    (hroom : s.HasRoom max copy op) :
    (s.step max copy op).Complete max copy := by
  obtain ⟨hqueue, hlength, hnumbers, hcopies⟩ := h
  cases op with
  | send seqNum msg =>
    obtain ⟨hlt, hfresh, hcopy⟩ := hroom
    constructor
    · show storeRepublishNotif max copy s.queue seqNum msg = s.unacknowledged ++ [(seqNum, msg)]
      unfold storeRepublishNotif addRepublishNotif
      rw [hqueue, if_neg (by omega), hcopy]
    · show (s.unacknowledged ++ [(seqNum, msg)]).length ≤ max
      rw [length_append]
      exact hlt
    · show ((s.unacknowledged ++ [(seqNum, msg)]).map Prod.fst).Nodup
      rw [map_append, nodup_append]
      refine ⟨hnumbers, nodup_singleton _, ?_⟩
      intro number hmem number' hmem'
      obtain ⟨entry, hentry, rfl⟩ := mem_map.1 hmem
      rw [mem_singleton.1 hmem']
      exact hfresh entry hentry
    · intro entry hmem
      rcases mem_append.1 hmem with hmem | hmem
      · exact hcopies entry hmem
      · rw [mem_singleton.1 hmem]
        exact hcopy
  | acknowledge seqNum =>
    have hsub : (s.unacknowledged.filter (·.1 ≠ seqNum)).Sublist s.unacknowledged :=
      filter_sublist
    constructor
    · show s.queue.eraseP (·.1 == seqNum) = s.unacknowledged.filter (·.1 ≠ seqNum)
      rw [hqueue, eraseP_eq_filter_of_nodup hnumbers]
    · exact hsub.length_le.trans hlength
    · exact hnumbers.sublist (hsub.map Prod.fst)
    · exact fun entry hmem => hcopies entry (hsub.mem hmem)
  | republish seqNum => exact ⟨hqueue, hlength, hnumbers, hcopies⟩

/-- In every run whose operations all find room in the queue, the messages that are available are
    in each state the most recent ones that are not acknowledged. -/
theorem available_run (max : Nat) (copy : Message → Option Message)
    (ops : List (RetransmissionOp Message))
    (hroom : EveryStep (Retransmission.step max copy) (Retransmission.HasRoom max copy) ⟨[], []⟩ ops) :
    EveryState (Retransmission.step max copy) (Retransmission.Available max copy) ⟨[], []⟩ ops := by
  have hcomplete : EveryState (Retransmission.step max copy) (Retransmission.Complete max copy)
      ⟨[], []⟩ ops := by
    refine hroom.everyState (fun s op h hop => h.step hop) ⟨rfl, Nat.zero_le _, List.nodup_nil, ?_⟩
    intro entry hmem
    cases hmem
  exact hcomplete.mono fun s h => h.available

example :
    let s := [RetransmissionOp.send 1 10, .send 2 20, .send 3 30].foldl (Retransmission.step 2 some)
      ⟨[], []⟩
    s.queue = [(1, 10), (3, 30)] ∧ mostRecent 2 s.unacknowledged = [(2, 20), (3, 30)] ∧
      republish some s.queue 2 = none := by
  decide

/-! ## Messages that are sent in a row -/

/-- The operations that send messages one after the other. -/
def sends (msgs : List (Nat × Message)) : List (RetransmissionOp Message) :=
  msgs.map fun entry => .send entry.1 entry.2

variable {msgs : List (Nat × Message)}

theorem unacknowledged_sends :
    ((sends msgs).foldl (Retransmission.step max copy) s).unacknowledged =
      s.unacknowledged ++ msgs := by
  induction msgs generalizing s with
  | nil => exact (append_nil _).symm
  | cons entry msgs ih =>
    show ((sends msgs).foldl _ (s.step max copy (.send entry.1 entry.2))).unacknowledged = _
    rw [ih]
    exact append_assoc ..

theorem queue_foldl_step (ops : List (RetransmissionOp Message)) :
    (ops.foldl (Retransmission.step max copy) s).queue = ops.foldl (queueStep max copy) s.queue := by
  induction ops generalizing s with
  | nil => rfl
  | cons op ops ih => exact ih

/-- Messages that all find room are all kept. -/
theorem Retransmission.Complete.sends (h : s.Complete max some)
    (hlength : (s.unacknowledged ++ msgs).length ≤ max)
    (hnumbers : ((s.unacknowledged ++ msgs).map Prod.fst).Nodup) :
    ((sends msgs).foldl (Retransmission.step max some) s).Complete max some := by
  induction msgs generalizing s with
  | nil => exact h
  | cons entry msgs ih =>
    have hsplit : s.unacknowledged ++ entry :: msgs = s.unacknowledged ++ [entry] ++ msgs := by
      rw [append_assoc]
      rfl
    have hroom : s.HasRoom max some (.send entry.1 entry.2) := by
      refine ⟨?_, ?_, rfl⟩
      · rw [length_append, length_cons] at hlength
        omega
      · -- The number is another one than those before it
        intro other hmem heq
        rw [map_append, nodup_append] at hnumbers
        exact hnumbers.2.2 other.1 (mem_map_of_mem hmem) entry.1 mem_cons_self heq
    apply ih (h.step hroom)
    · show (s.unacknowledged ++ [entry] ++ msgs).length ≤ max
      rwa [← hsplit]
    · show ((s.unacknowledged ++ [entry] ++ msgs).map Prod.fst).Nodup
      rwa [← hsplit]

/-- The first message of the queue stays the first one that is not acknowledged, as the discarded
    one is the last. -/
theorem head?_sends (hmax : 2 ≤ max) (h : s.queue.head? = s.unacknowledged.head?) :
    ((sends msgs).foldl (Retransmission.step max some) s).queue.head? =
      ((sends msgs).foldl (Retransmission.step max some) s).unacknowledged.head? := by
  induction msgs generalizing s with
  | nil => exact h
  | cons entry msgs ih =>
    apply ih
    show ((if s.queue.length = max then s.queue.dropLast else s.queue) ++ [(entry.1, entry.2)]).head? =
      (s.unacknowledged ++ [(entry.1, entry.2)]).head?
    rw [head?_append, head?_append, ← h]
    split_ifs with hfull
    · obtain ⟨first, second, rest, hqueue⟩ : ∃ first second rest, s.queue = first :: second :: rest := by
        match hqueue : s.queue with
        | [] => simp [hqueue] at hfull; omega
        | [_] => simp [hqueue] at hfull; omega
        | first :: second :: rest => exact ⟨first, second, rest, rfl⟩
      rw [hqueue]
      rfl
    · rfl

/-- With more messages than the queue can hold, the first one is not one of the most recent. -/
theorem Retransmission.not_available_of_head? (hhead : s.queue.head? = s.unacknowledged.head?)
    (hnumbers : (s.unacknowledged.map Prod.fst).Nodup) (hmax : 0 < max)
    (hlength : max < s.unacknowledged.length) :
    ¬ s.Available max copy := by
  rintro ⟨hqueue, -⟩
  unfold mostRecent at hqueue
  rw [hqueue, head?_drop, head?_eq_getElem?, getElem?_eq_getElem (by omega),
    getElem?_eq_getElem (by omega), Option.some.injEq, hnumbers.of_map.getElem_inj_iff] at hhead
  omega

end Retransmission

/-! ## The queue of a subscription -/

variable {V E : Type} {limits : Limits}
    {copy : NotificationMessage V E → Option (NotificationMessage V E)}

/-- A message that can be asked for again, with its number. -/
def SentMessage.entry : SentMessage V E → Option (Nat × NotificationMessage V E)
  | .notification msg => some (msg.sequenceNumber, msg)
  | .keepAlive _ => none

/-- The numbers of a history that has not reached the greatest one. -/
theorem Numbered.entries {k : Nat} {sent : List (SentMessage V E)} (h : Numbered k sent)
    (hshort : k + nbMessages sent < 2 ^ 32) :
    (sent.filterMap SentMessage.entry).map Prod.fst = range' (k + 1) (nbMessages sent) := by
  induction sent generalizing k with
  | nil => rfl
  | cons msg sent ih =>
    cases msg with
    | notification msg =>
      rw [nbMessages] at hshort
      have hnumber : msg.sequenceNumber = k + 1 := by
        rw [h.1, messageNumber, Nat.mod_eq_of_lt (by omega)]
      have hrest := ih h.2 (by omega)
      rw [nbMessages, range'_succ, ← hrest, ← hnumber]
      rfl
    | keepAlive number => exact ih h.2 hshort

namespace Subscription

variable {sub sub' sub'' : Subscription V E}

/-- The messages that are new in the history were put in the queue one after the other. -/
def Stores (limits : Limits) (copy : NotificationMessage V E → Option (NotificationMessage V E))
    (sub sub' : Subscription V E) : Prop :=
  ∃ msgs, sub'.sent = sub.sent ++ msgs ∧
    sub'.notifRepublishQueue = (sends (msgs.filterMap SentMessage.entry)).foldl
      (queueStep limits.republishNotifPerSubMax copy) sub.notifRepublishQueue

theorem Stores.of_same (hsent : sub'.sent = sub.sent)
    (hqueue : sub'.notifRepublishQueue = sub.notifRepublishQueue) : Stores limits copy sub sub' := by
  refine ⟨[], ?_, hqueue⟩
  rw [hsent, append_nil]

theorem Stores.trans (h : Stores limits copy sub sub') (h' : Stores limits copy sub' sub'') :
    Stores limits copy sub sub'' := by
  obtain ⟨msgs, hsent, hqueue⟩ := h
  obtain ⟨msgs', hsent', hqueue'⟩ := h'
  refine ⟨msgs ++ msgs', ?_, ?_⟩
  · rw [hsent', hsent, append_assoc]
  · rw [hqueue', hqueue, ← foldl_append, filterMap_append]
    unfold sends
    rw [map_append]

theorem stores_sendNotificationMsg {allocated : Bool} {response : Response V E}
    (h : sub.sendNotificationMsg limits copy allocated = some (sub', response)) :
    Stores limits copy sub sub' := by
  rcases sendNotificationMsg_cases h with ⟨msg, -, hsends⟩ | ⟨-, rfl⟩
  · exact ⟨[.notification msg], hsends.sent, hsends.queue⟩
  · exact .of_same rfl rfl

theorem Publishes.stores {degraded : Prop} {response : Option (Response V E)}
    (h : Publishes limits copy degraded sub sub' response) : Stores limits copy sub sub' := by
  cases h with
  | nothing same _ => exact .of_same same.sent same.queue
  | notification same _ sends =>
    exact (Stores.of_same same.sent same.queue).trans (stores_sendNotificationMsg sends)
  | keepAlive same =>
    apply (Stores.of_same same.sent same.queue).trans
    exact ⟨[.keepAlive _], rfl, rfl⟩

theorem stores_publishTimer {requests : List Bool} {responses : List (Response V E)}
    (h : sub.publishTimer limits copy requests = some (sub', responses)) :
    sub' = sub.close ∨ Stores limits copy sub sub' := by
  rcases publishTimer_cases h with hclose | ⟨sub₁, sub₂, response, hsame, hpublishes, hrest⟩
  · exact .inl hclose
  right
  have hfirst : Stores limits copy sub sub₂ :=
    (Stores.of_same hsame.sent hsame.queue).trans hpublishes.stores
  rcases hrest with ⟨-, rfl⟩ | ⟨r, others, -, hchain⟩
  · exact hfirst
  obtain ⟨-, hlast⟩ := returnMoreNotifs_invariant (P := fun _ last => Stores limits copy sub last)
    (fun hstores hsend => hstores.trans (stores_sendNotificationMsg hsend)) requests.tail hfirst
    hchain
  exact hlast

end Subscription

/-! ## Runs of a subscription -/

open SubscriptionCore.Subscription (Input)

/-- A subscription, with the messages that it sent and that are not acknowledged. -/
structure Observed (V E : Type) where
  sub : Subscription V E
  unacknowledged : List (Nat × NotificationMessage V E)
  deriving DecidableEq, Repr

namespace Observed

/-- The messages of the history that are new are not acknowledged. -/
def after (o : Observed V E) (sub' : Subscription V E) : Input V E → Observed V E
  | .acknowledge seqNum => ⟨sub', o.unacknowledged.filter (·.1 ≠ seqNum)⟩
  | _ => ⟨sub', o.unacknowledged ++
      (sub'.sent.drop o.sub.sent.length).filterMap SentMessage.entry⟩

/-- A step of a subscription. -/
def step (limits : Limits) (copy : NotificationMessage V E → Option (NotificationMessage V E))
    (s : Option (Observed V E)) (input : Input V E) : Option (Observed V E) :=
  s.bind fun o => (o.sub.step limits copy input).map fun sub' => o.after sub' input

/-- The queue of the subscription. -/
def retransmission (o : Observed V E) : Retransmission (NotificationMessage V E) :=
  ⟨o.sub.notifRepublishQueue, o.unacknowledged⟩

variable {o : Observed V E} {sub' : Subscription V E} {input : Input V E}

theorem sub_after : (o.after sub' input).sub = sub' := by
  cases input <;> rfl

theorem after_of_sent {msgs : List (SentMessage V E)} (hsent : sub'.sent = o.sub.sent ++ msgs)
    (hinput : ∀ seqNum, input ≠ .acknowledge seqNum) :
    o.after sub' input = ⟨sub', o.unacknowledged ++ msgs.filterMap SentMessage.entry⟩ := by
  cases input with
  | acknowledge seqNum => exact absurd rfl (hinput seqNum)
  | _ => simp only [after, hsent, drop_left]

/-- Each step is a sequence of operations on the queue, an acknowledgement or messages that are
    sent, but for one that closes the subscription. -/
theorem step_simulates (hstep : o.sub.step limits copy input = some sub')
    (hopen : sub'.state ≠ .indet) :
    ∃ ops, ((∃ seqNum, ops = [.acknowledge seqNum]) ∨ ∃ msgs, ops = sends msgs) ∧
      (o.after sub' input).retransmission =
        ops.foldl (Retransmission.step limits.republishNotifPerSubMax copy) o.retransmission := by
  -- The messages that a step adds to the history are the operations
  have hsends (hstores : o.sub.Stores limits copy sub')
      (hinput : ∀ seqNum, input ≠ .acknowledge seqNum) :
      ∃ ops, ((∃ seqNum, ops = [.acknowledge seqNum]) ∨ ∃ msgs, ops = sends msgs) ∧
        (o.after sub' input).retransmission =
          ops.foldl (Retransmission.step limits.republishNotifPerSubMax copy) o.retransmission := by
    obtain ⟨msgs, hsent, hqueue⟩ := hstores
    refine ⟨_, .inr ⟨msgs.filterMap SentMessage.entry, rfl⟩, ?_⟩
    rw [after_of_sent hsent hinput]
    apply congrArg₂ Retransmission.mk
    · rw [hqueue]
      exact (queue_foldl_step (s := o.retransmission) _).symm
    · exact (unacknowledged_sends (s := o.retransmission)).symm
  cases Subscription.step_historyStep hstep with
  | closed state => exact absurd state hopen
  | same same hinput => exact hsends (.of_same same.sent same.queue) hinput
  | acknowledge seqNum => exact ⟨[.acknowledge seqNum], .inl ⟨seqNum, rfl⟩, rfl⟩
  | close => exact absurd rfl hopen
  | publishRequest publishes => exact hsends publishes.stores (by simp)
  | publishTimer timer =>
    rcases Subscription.stores_publishTimer timer with rfl | hstores
    · exact absurd rfl hopen
    · exact hsends hstores (by simp)

/-- The messages that are not acknowledged are messages of the history, which is in sequence. -/
structure Tracks (o : Observed V E) : Prop where
  ordered : o.sub.Ordered
  sublist : o.unacknowledged <+ o.sub.sent.filterMap SentMessage.entry

theorem Tracks.step (h : o.Tracks) (hstep : o.sub.step limits copy input = some sub') :
    (o.after sub' input).Tracks := by
  constructor
  · rw [sub_after]
    exact h.ordered.step hstep
  obtain ⟨msgs, hsent, -⟩ := (Subscription.extends_step h.ordered.2 hstep).messages
  have happend : o.unacknowledged ++ msgs.filterMap SentMessage.entry <+
      sub'.sent.filterMap SentMessage.entry := by
    rw [hsent, filterMap_append]
    exact h.sublist.append_right _
  rw [sub_after]
  cases input with
  | acknowledge seqNum => exact filter_sublist.trans ((sublist_append_left ..).trans happend)
  | _ =>
    rw [after_of_sent hsent (by simp)]
    exact happend

theorem Tracks.numbers (h : o.Tracks) (hshort : nbMessages o.sub.sent < 2 ^ 32) :
    (o.unacknowledged.map Prod.fst).Nodup := by
  apply Nodup.sublist (h.sublist.map Prod.fst)
  rw [h.ordered.1.1.entries (by omega)]
  exact nodup_range'

/-- What the states have before the queue is full for the first time. -/
structure Complete (limits : Limits) (o : Observed V E) : Prop where
  tracks : o.Tracks
  retransmission : o.sub.state ≠ .indet →
    o.retransmission.Complete limits.republishNotifPerSubMax some

/-- A step keeps the queue complete, or more messages are not acknowledged than it can hold and
    those that are available are not the most recent ones. -/
theorem Complete.step (hmax : 2 ≤ limits.republishNotifPerSubMax) (h : o.Complete limits)
    (hstep : o.sub.step limits some input = some sub') (hshort : nbMessages sub'.sent < 2 ^ 32) :
    (o.after sub' input).Complete limits ∨ sub'.state ≠ .indet ∧
      ¬ (o.after sub' input).retransmission.Available limits.republishNotifPerSubMax some ∧
      limits.republishNotifPerSubMax < (o.after sub' input).unacknowledged.length := by
  have htracks := h.tracks.step hstep
  have hnumbers := htracks.numbers (by rwa [sub_after])
  by_cases hopen : sub'.state = .indet
  · refine .inl ⟨htracks, ?_⟩
    rw [sub_after]
    exact absurd hopen
  have hcomplete := h.retransmission fun hclosed => by
    unfold Subscription.step at hstep
    rw [if_pos hclosed] at hstep
    cases hstep
    exact hopen hclosed
  obtain ⟨ops, ⟨seqNum, rfl⟩ | ⟨msgs, rfl⟩, hsim⟩ := step_simulates hstep hopen
  · refine .inl ⟨htracks, fun _ => ?_⟩
    rw [hsim]
    exact hcomplete.step trivial
  -- The messages that are sent find room, or the first one is too old
  have hall : (o.after sub' input).unacknowledged = o.unacknowledged ++ msgs := by
    have := congrArg Retransmission.unacknowledged hsim
    rwa [unacknowledged_sends] at this
  by_cases hroom : (o.after sub' input).unacknowledged.length ≤ limits.republishNotifPerSubMax
  · refine .inl ⟨htracks, fun _ => ?_⟩
    rw [hsim]
    apply hcomplete.sends
    · rwa [hall] at hroom
    · rwa [hall] at hnumbers
  · refine .inr ⟨hopen, Retransmission.not_available_of_head? ?_ hnumbers (by omega) ?_, by omega⟩
    · rw [hsim]
      exact head?_sends hmax (by rw [hcomplete.queue])
    · show _ < (o.after sub' input).unacknowledged.length
      omega

/-- In every run of a subscription that sends fewer messages than there are numbers, the messages
    that are available are in each state the most recent ones that are not acknowledged, exactly if
    there never are more of these than the queue can hold. -/
theorem available_subscription_run_iff (limits : Limits)
    (hmax : 2 ≤ limits.republishNotifPerSubMax)
    (lifetimeCount maxKeepAlive maxNotifsPerPublish : Nat) (publishEnabled : Bool)
    (inputs : List (Input V E))
    (hshort : EveryState (step limits some) (fun s => ∀ o ∈ s, nbMessages o.sub.sent < 2 ^ 32)
      (some ⟨.create lifetimeCount maxKeepAlive maxNotifsPerPublish publishEnabled, []⟩) inputs) :
    EveryState (step limits some)
        (fun s => ∀ o ∈ s, o.sub.state ≠ .indet →
          o.retransmission.Available limits.republishNotifPerSubMax some)
        (some ⟨.create lifetimeCount maxKeepAlive maxNotifsPerPublish publishEnabled, []⟩) inputs ↔
      EveryState (step limits some)
        (fun s => ∀ o ∈ s, o.sub.state ≠ .indet →
          o.unacknowledged.length ≤ limits.republishNotifPerSubMax)
        (some ⟨.create lifetimeCount maxKeepAlive maxNotifsPerPublish publishEnabled, []⟩)
        inputs := by
  refine @everyState_iff_everyState _ _ _ _ _ _ (fun s => ∀ o ∈ s, o.Complete limits) _ _ ?_ ?_ ?_
    hshort
  · intro s hinv
    exact ⟨fun o ho hopen => ((hinv o ho).retransmission hopen).available,
      fun o ho hopen => ((hinv o ho).retransmission hopen).length⟩
  · intro s input hinv hshort
    rcases hs : step limits some s input with _ | o'
    · exact .inl fun o' ho' => nomatch ho'
    obtain ⟨o, rfl, hafter⟩ := Option.bind_eq_some_iff.1 hs
    obtain ⟨sub', hstep, rfl⟩ := Option.map_eq_some_iff.1 hafter
    have hsent := hshort _ hs
    rw [sub_after] at hsent
    rcases (hinv o rfl).step hmax hstep hsent with hcomplete | ⟨hopen, hnot, hlength⟩
    · left
      intro o' ho'
      cases ho'
      exact hcomplete
    · rw [← @sub_after _ _ o sub' input] at hopen
      exact .inr ⟨fun h => hnot (h _ rfl hopen), fun h => absurd (h _ rfl hopen) (by omega)⟩
  · intro o ho
    cases ho
    refine ⟨⟨Subscription.ordered_create .., Sublist.refl _⟩, fun _ => ?_⟩
    refine ⟨rfl, Nat.zero_le _, nodup_nil, ?_⟩
    intro entry hmem
    cases hmem

/-- Two messages, of which the first is acknowledged and the second asked for again. -/
theorem available_after_acknowledgement :
    EveryState (step Limits.default some)
      (fun s => ∀ o ∈ s, o.sub.state ≠ .indet →
        o.retransmission.Available Limits.default.republishNotifPerSubMax some)
      (some ⟨.create 100 10 1 true, []⟩)
      [.createMonitoredItem 1 false .reporting ⟨7, true, 10⟩ (some ⟨some 5, 0⟩),
        .valueChange 1 (some ⟨some 6, 0⟩), .publishTimer [true, true],
        (.acknowledge 1 : Input Nat Nat), .republish 2] :=
  (available_subscription_run_iff Limits.default (by decide) 100 10 1 true _ (by decide)).2
    (by decide)

/-- A queue of two messages. -/
def twoMessages : Limits :=
  { Limits.default with republishNotifPerSubMax := 2, republishNotifPerSubMax_pos := by decide }

/-- A subscription sends three messages, the third one takes the place of the second one. -/
theorem second_message_is_discarded :
    ([.createMonitoredItem 1 false .reporting ⟨7, true, 10⟩ (some ⟨some 5, 0⟩),
        .valueChange 1 (some ⟨some 6, 0⟩), .valueChange 1 (some ⟨some 8, 0⟩),
        .publishTimer [true, true, true]].foldl (step twoMessages some)
      (some ⟨(.create 100 10 1 true : Subscription Nat Nat), []⟩)).map (fun o =>
        (availableSeqNums o.sub.notifRepublishQueue,
          availableSeqNums (mostRecent 2 o.unacknowledged),
          republish some o.sub.notifRepublishQueue 2)) =
    some ([1, 3], [2, 3], none) := by
  decide

end Observed

end S2opc.SubscriptionCore
