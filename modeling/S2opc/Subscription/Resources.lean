/-
The queues and the publish timer of a subscription: `create_subscription` and
`modify_subscription` of `subscription_core_i.imp`.

A creation allocates two queues and a timer before it checks that the session
has room for the subscription, and gives them back when one is missing but not
when the check fails.  A modification changes the period of the timer when the
priority stays the same, and not when the subscription is moved to another
priority.
-/
import Mathlib.Data.Rat.Floor
import S2opc.Subscription.PriorityRun
import S2opc.Subscription.Session

namespace S2opc.SubscriptionCore

open S2opc.Subscription.Priority S2opc.Subscription.Priority.SessionPriorities

variable {Value Event : Type}

/-! ## The resources -/

/-- A revised publishing interval in milliseconds, a double between
    `SOPC_MIN_SUBSCRIPTION_INTERVAL_DURATION` and `SOPC_MAX_SUBSCRIPTION_INTERVAL_DURATION`. -/
structure PublishInterval where
  ms : ℚ
  min_le : 100 ≤ ms
  le_max : ms ≤ 3600000

/-- `getPublishCycle`. -/
def PublishInterval.publishCycle (interval : PublishInterval) : Nat :=
  ⌊interval.ms⌋₊

/-- A periodic timer of the event timer manager. -/
structure PublishTimer where
  id : Nat
  subscription : Nat
  periodMs : Nat
  deriving DecidableEq, Repr

/-- `SOPC_EventTimer_ModifyPeriodic`: a period below twice the resolution of 50 ms is refused. -/
def modifyPeriodic (timers : List PublishTimer) (id msPeriod : Nat) : List PublishTimer :=
  if msPeriod < 2 * 50 then timers
  else timers.map fun timer => if timer.id = id then { timer with periodMs := msPeriod } else timer

/-- The subscriptions of a session with what is allocated for them. -/
structure Server (Value Event : Type) where
  session : Session Value Event
  publishInterval : Nat → Option PublishInterval
  publishTimer : Nat → Option Nat
  timers : List PublishTimer
  republishQueues : List Nat
  monitoredItemQueues : List Nat

/-- What the allocations of a creation give: a queue, a queue, a timer and room in the queue of the
    priority. -/
structure Allocations where
  republishQueue : Option Nat
  monitoredItemQueue : Option Nat
  timer : Option Nat
  prioQueue : Bool

inductive StatusCode where
  | ok
  | badTooManySubscriptions
  | badOutOfMemory
  | badSubscriptionIdInvalid
  deriving DecidableEq, Repr

/-- The parameters of both services, after their revision. -/
structure RevisedParameters where
  publishInterval : PublishInterval
  lifetimeCount : Nat
  maxKeepAlive : Nat
  maxNotifsPerPublish : Nat
  priority : UInt8

variable (max : Nat) (server : Server Value Event)

/-- `check_add_subscription`, with the allocation of the queue of the priority. -/
def checkAddSubscription (id : Nat) (p : UInt8) (isModifySub prioQueue : Bool) :
    Except StatusCode (SessionPriorities × List Nat) :=
  match server.session.priorities.checkAddSubscription max id p isModifySub with
  | none => .error .badTooManySubscriptions
  | some added => if prioQueue then .ok added else .error .badOutOfMemory

/-! ## The creation -/

/-- `create_subscription`, with what `get_fresh_subscription` gives. -/
def createSubscription (fresh : Option Nat) (params : RevisedParameters) (publishEnabled : Bool)
    (alloc : Allocations) : StatusCode × Server Value Event :=
  match fresh with
  | none => (.badTooManySubscriptions, server)
  | some id =>
    let timers := alloc.timer.map fun t =>
      PublishTimer.mk t id params.publishInterval.publishCycle
    let allocated := { server with
      republishQueues := alloc.republishQueue.toList ++ server.republishQueues
      monitoredItemQueues := alloc.monitoredItemQueue.toList ++ server.monitoredItemQueues
      timers := timers.toList ++ server.timers }
    if alloc.republishQueue.isSome ∧ alloc.monitoredItemQueue.isSome ∧ alloc.timer.isSome then
      match checkAddSubscription max server id params.priority false alloc.prioQueue with
      | .error status => (status, allocated)
      | .ok (priorities, queue) =>
        let session := server.session.setSubscription id (.create params.lifetimeCount
          params.maxKeepAlive params.maxNotifsPerPublish publishEnabled)
        (.ok, { allocated with
          session := { session with
            priorities := priorities.addSubscription id params.priority queue }
          publishInterval :=
            Function.update server.publishInterval id (some params.publishInterval)
          publishTimer := Function.update server.publishTimer id alloc.timer })
    else
      -- What was allocated is deallocated
      (.badOutOfMemory, { allocated with
        republishQueues := alloc.republishQueue.elim allocated.republishQueues
          allocated.republishQueues.erase
        monitoredItemQueues := alloc.monitoredItemQueue.elim allocated.monitoredItemQueues
          allocated.monitoredItemQueues.erase
        timers := alloc.timer.elim allocated.timers
          fun t => allocated.timers.eraseP (·.id == t) })

/-- A server without subscriptions. -/
def Server.init : Server Value Event :=
  ⟨.init, fun _ => none, fun _ => none, [], [], []⟩

/-- The shortest interval and the lowest counts. -/
def RevisedParameters.lowest (p : UInt8) : RevisedParameters :=
  ⟨⟨100, le_refl _, by norm_num⟩, 3, 1, 0, p⟩

namespace Subscription

variable (sub : Subscription Value Event)

/-- `del_subscription`: the counters of available notifications are not its own. -/
def del : Subscription Value Event :=
  { sub with
    state := .indet
    lifetimeExpCount := 0
    keepAliveExpCount := 0
    maxNotifsPerPublish := 0
    publishingEnabled := false
    moreNotifications := false
    lifetimeCounter := 0
    keepAliveCounter := 0
    messageSent := false
    seqNum := 0
    notifRepublishQueue := []
    monitoredItems := [] }

/-- `add_subscription`, on the variables of the subscription. -/
def add (state : SubscriptionState) (firstMsgSent : Bool)
    (lifetimeCount keepAliveCount maxKeepAlive maxNotifsPerPublish : Nat) (publishEnabled : Bool)
    (seqNum : Nat) (republishQueue : List (Nat × NotificationMessage Value Event))
    (monitoredItems : List (MonitoredItem Value Event)) (moreNotifs : Bool) :
    Subscription Value Event :=
  { sub with
    state := state
    lifetimeExpCount := lifetimeCount
    keepAliveExpCount := maxKeepAlive
    lifetimeCounter := lifetimeCount
    keepAliveCounter := keepAliveCount
    maxNotifsPerPublish := maxNotifsPerPublish
    messageSent := firstMsgSent
    publishingEnabled := publishEnabled
    moreNotifications := moreNotifs
    seqNum := seqNum
    notifRepublishQueue := republishQueue
    monitoredItems := monitoredItems }

end Subscription

/-- `modify_subscription`, for a valid subscription with its priority.  The branch of the same
    priority sets the variables one by one and the other one deletes and adds them. -/
def modifySubscription (id : Nat) (sub : Subscription Value Event) (old : UInt8)
    (params : RevisedParameters) (prioQueue : Bool) : StatusCode × Server Value Event :=
  let publishInterval := Function.update server.publishInterval id (some params.publishInterval)
  if old = params.priority then
    (.ok, { server with
      session := server.session.setSubscription id { sub with
        lifetimeExpCount := params.lifetimeCount
        keepAliveExpCount := params.maxKeepAlive
        lifetimeCounter := params.lifetimeCount
        maxNotifsPerPublish := params.maxNotifsPerPublish }
      publishInterval := publishInterval
      timers := (server.publishTimer id).elim server.timers
        fun t => modifyPeriodic server.timers t params.publishInterval.publishCycle })
  else
    match checkAddSubscription max server id params.priority true prioQueue with
    | .error status => (status, server)
    | .ok (priorities, queue) =>
      let session := server.session.setSubscription id (sub.del.add sub.state sub.messageSent
        params.lifetimeCount sub.keepAliveCounter params.maxKeepAlive params.maxNotifsPerPublish
        sub.publishingEnabled sub.seqNum sub.notifRepublishQueue sub.monitoredItems
        sub.moreNotifications)
      (.ok, { server with
        session := { session with
          priorities := (priorities.deleteSubscription id).addSubscription id params.priority queue }
        publishInterval := publishInterval })

/-- The parameters are in force, with a lifetime that starts again, and the rest of the
    subscription is as it was. -/
structure TakesEffect (id : Nat) (sub : Subscription Value Event) (params : RevisedParameters)
    (server : Server Value Event) : Prop where
  subscription : server.session.subscriptions id =
    some (sub.modify params.lifetimeCount params.maxKeepAlive params.maxNotifsPerPublish)
  priority : server.session.priorities.priority id = some params.priority
  interval : server.publishInterval id = some params.publishInterval
  period : ∀ timer ∈ server.timers, server.publishTimer id = some timer.id →
    timer.periodMs = params.publishInterval.publishCycle

theorem modifyPeriodic_publishCycle (timers : List PublishTimer) (id : Nat)
    (interval : PublishInterval) :
    ∀ timer ∈ modifyPeriodic timers id interval.publishCycle, timer.id = id →
      timer.periodMs = interval.publishCycle := by
  have hlong : 100 ≤ interval.publishCycle := Nat.le_floor interval.min_le
  rw [modifyPeriodic, if_neg (Nat.not_lt.mpr hlong)]
  intro timer htimer hid
  obtain ⟨before, -, rfl⟩ := List.mem_map.mp htimer
  split_ifs at hid ⊢ with hbefore
  · rfl
  · exact absurd hid hbefore

/-- The modification of a subscription takes effect if the priority stays the same or the timer
    has the period already. -/
theorem modification_takes_effect_iff {id : Nat} (sub : Subscription Value Event) {old : UInt8}
    (hold : server.session.priorities.priority id = some old) (params : RevisedParameters)
    (prioQueue : Bool)
    (hok : (modifySubscription max server id sub old params prioQueue).1 = .ok) :
    TakesEffect id sub params (modifySubscription max server id sub old params prioQueue).2 ↔
      old = params.priority ∨ ∀ timer ∈ server.timers, server.publishTimer id = some timer.id →
        timer.periodMs = params.publishInterval.publishCycle := by
  unfold modifySubscription at hok ⊢
  dsimp only at hok ⊢
  by_cases hsame : old = params.priority
  · rw [if_pos hsame]
    refine iff_of_true ⟨Function.update_self .., hold.trans (congrArg _ hsame),
      Function.update_self .., ?_⟩ (.inl hsame)
    intro timer htimer hid
    have hid' : server.publishTimer id = some timer.id := hid
    simp only [hid', Option.elim_some] at htimer
    exact modifyPeriodic_publishCycle _ _ _ timer htimer rfl
  · rw [if_neg hsame] at hok ⊢
    rw [or_iff_right hsame]
    cases hcheck : checkAddSubscription max server id params.priority true prioQueue with
    | error status =>
      rw [hcheck] at hok
      unfold checkAddSubscription at hcheck
      split at hcheck
      · cases hcheck.trans (congrArg Except.error hok)
      · split_ifs at hcheck
        cases hcheck.trans (congrArg Except.error hok)
    | ok added =>
      refine ⟨fun h => h.period, fun h => ⟨Function.update_self .., ?_, Function.update_self .., h⟩⟩
      show ((added.1.deleteSubscription id).addSubscription id _ added.2).priority id = _
      rw [(addSubscription_fields _ id _ added.2).1, Function.update_self]

/-- A server with a subscription of priority 1, which is published each 100 ms. -/
def Server.sample : Server Nat Nat :=
  (createSubscription 2 .init (some 1) (.lowest 1) true ⟨some 1, some 1, some 7, true⟩).2

/-- Twice the shortest interval. -/
def RevisedParameters.slower (p : UInt8) : RevisedParameters :=
  ⟨⟨200, by norm_num, by norm_num⟩, 6, 2, 0, p⟩

/-- The subscription of this server. -/
def sampleSubscription : Subscription Nat Nat := .create 3 1 0 true

theorem modification_takes_effect_same_priority :
    TakesEffect 1 sampleSubscription (.slower 1)
      (modifySubscription 2 .sample 1 sampleSubscription 1 (.slower 1) true).2 :=
  (modification_takes_effect_iff 2 .sample sampleSubscription rfl (.slower 1) true rfl).2 (.inl rfl)

/-- With another priority the subscription says 200 ms, and its timer goes on each 100 ms. -/
theorem other_priority_keeps_period :
    (modifySubscription 2 .sample 1 sampleSubscription 1 (.slower 2) true).1 = .ok ∧
      (modifySubscription 2 .sample 1 sampleSubscription 1 (.slower 2) true).2.publishInterval 1 =
        some (RevisedParameters.slower 2).publishInterval ∧
      (modifySubscription 2 .sample 1 sampleSubscription 1 (.slower 2) true).2.timers =
        [⟨7, 1, 100⟩] ∧
      ¬ TakesEffect 1 sampleSubscription (.slower 2)
        (modifySubscription 2 .sample 1 sampleSubscription 1 (.slower 2) true).2 := by
  have hcycle : (RevisedParameters.lowest 1).publishInterval.publishCycle = 100 := by decide
  have hcycle' : (RevisedParameters.slower 2).publishInterval.publishCycle = 200 := by decide
  have htimers : (modifySubscription 2 .sample 1 sampleSubscription 1 (.slower 2) true).2.timers =
      [⟨7, 1, 100⟩] := by
    rw [← hcycle]
    rfl
  refine ⟨rfl, rfl, htimers, fun h => ?_⟩
  have hperiod := h.period ⟨7, 1, 100⟩ (by rw [htimers]; exact List.mem_singleton.2 rfl) rfl
  rw [hcycle'] at hperiod
  exact absurd hperiod (by decide)

end S2opc.SubscriptionCore
