/-
The subscriptions of a session by priority: `subscription_core_1_i.imp`,
`subscription_core_2_i.imp` and `subscription_priority_sub_queue_bs.c`.

A session keeps its priorities in an array from the index 1 on, with the index
of each priority in another one, and the queue of the subscriptions of a
priority at its index.  A new priority is to be inserted in order, by moving
the higher ones up one by one: each move leaves a hole below it.  The loop
reads the next priority to compare in the hole it just made, and so it stops
after one move.

The arrays are shown to represent a list of priorities with their queues, on
which the operations are simple, and on which their effect is described.
-/
import Mathlib

namespace S2opc.Subscription.Priority

/-! ## The arrays of a session -/

/-- The variables of a session.  A priority that is not defined, `c_priority_indet`, is `none`,
    and so are the queue of an undefined index and the priority of a subscription that is not
    one of the session.  A queue stands where the pointer to it does: it is at one index only
    whenever it is modified. -/
structure SessionPriorities where
  nbPriorities : Nat
  seqPriority : Nat → Option UInt8
  priorityIdx : UInt8 → Nat
  subsQueue : Nat → Option (List Nat)
  nbSubscriptions : Nat
  priority : Nat → Option UInt8

namespace SessionPriorities

/-- `INITIALISATION`. -/
def init : SessionPriorities where
  nbPriorities := 0
  seqPriority := fun _ => none
  priorityIdx := fun _ => 0
  subsQueue := fun _ => none
  nbSubscriptions := 0
  priority := fun _ => none

variable (s : SessionPriorities)

/-- `set_session_priority_subscriptions_queue`. -/
def setQueue (idx : Nat) (queue : Option (List Nat)) : SessionPriorities :=
  { s with subsQueue := Function.update s.subsQueue idx queue }

/-- `remove_session_seq_priority`. -/
def removePriority (idx : Nat) : SessionPriorities :=
  { s with
    seqPriority := Function.update s.seqPriority idx none
    priorityIdx := match s.seqPriority idx with
      | some prio => Function.update s.priorityIdx prio 0
      | none => s.priorityIdx
    nbPriorities := s.nbPriorities - 1 }

/-- `insert_session_seq_priority`. -/
def insertPriority (idx : Nat) (prio : UInt8) : SessionPriorities :=
  { s with
    seqPriority := Function.update s.seqPriority idx (some prio)
    priorityIdx := Function.update s.priorityIdx prio idx
    nbPriorities := s.nbPriorities + 1 }

/-- `swap_session_seq_priority`: the priority at the second index goes to the first one. -/
def swapPriority (idx0 idx1 : Nat) : SessionPriorities :=
  { s with
    seqPriority := Function.update (Function.update s.seqPriority idx0 (s.seqPriority idx1)) idx1 none
    priorityIdx := match s.seqPriority idx1 with
      | some prio => Function.update s.priorityIdx prio idx0
      | none => s.priorityIdx }

/-- A priority and its queue go from an index to another one. -/
def move (idx0 idx1 : Nat) : SessionPriorities :=
  (s.swapPriority idx0 idx1).setQueue idx0 (s.subsQueue idx1)

/-- The loop of `add_subscription`, from the index `l_prio_idx` and the priority `l_prio`. -/
def insertLoop (p : UInt8) : Nat → Option UInt8 → SessionPriorities → Nat × SessionPriorities
  | 0, _, s => (0, s)
  | idx + 1, prio, s =>
    if 1 < idx + 1 ∧ prio.any (p < ·) = true then
      insertLoop p idx ((s.move (idx + 1) idx).seqPriority idx) (s.move (idx + 1) idx)
    else (idx + 1, s)

/-- `add_subscription`, on the variables of the session.  The queue is used for a new priority. -/
def addSubscription (sub : Nat) (p : UInt8) (queue : List Nat) :
    SessionPriorities :=
  let s := { s with priority := Function.update s.priority sub (some p) }
  let s :=
    if s.priorityIdx p = 0 then
      let inserted := insertLoop p (s.nbPriorities + 1) (s.seqPriority s.nbPriorities) s
      (inserted.2.insertPriority inserted.1 p).setQueue inserted.1 (some queue)
    else s
  { s with nbSubscriptions := s.nbSubscriptions + 1 }

/-- The removal of a priority in `delete_subscription`: those that follow are moved down. -/
def removeIndex (idx : Nat) : SessionPriorities :=
  let shifted := (List.range (s.nbPriorities - idx)).foldl
    (fun s k => s.move (idx + k) (idx + k + 1)) (s.removePriority idx)
  shifted.setQueue s.nbPriorities none

/-- `delete_subscription`, on the variables of the session. -/
def deleteSubscription (sub : Nat) : SessionPriorities :=
  let s' :=
    match s.priority sub with
    | none => s
    | some p =>
      if s.priorityIdx p ≠ 0 then
        match s.subsQueue (s.priorityIdx p) with
        | none => s
        | some queue =>
          if queue.length = 1 then s.removeIndex (s.priorityIdx p)
          else if 1 < queue.length then s.setQueue (s.priorityIdx p) (some (queue.erase sub))
          else s
      else s
  { s' with
    priority := Function.update s'.priority sub none
    nbSubscriptions := s'.nbSubscriptions - 1 }

/-- `check_add_subscription`, for at most `max` subscriptions: the queue of the priority, with the
    subscription, or `none` for `e_sc_bad_too_many_subscriptions`.  The queue of a priority that
    exists is modified in its place. -/
def checkAddSubscription (max : Nat) (s : SessionPriorities) (sub : Nat) (p : UInt8)
    (isModifySub : Bool) : Option (SessionPriorities × List Nat) :=
  let nbSub := if isModifySub then s.nbSubscriptions - 1 else s.nbSubscriptions
  if nbSub = max ∨ s.priorityIdx p = 0 ∧ s.nbPriorities = max then none
  else if s.priorityIdx p = 0 then some (s, [sub])
  else
    let queue := (s.subsQueue (s.priorityIdx p)).getD [] ++ [sub]
    some (s.setQueue (s.priorityIdx p) (some queue), queue)

/-- `create_subscription`, with an identifier that `get_fresh_subscription` gave: it is not one of
    a subscription. -/
def createSubscription (max : Nat) (s : SessionPriorities) (sub : Nat) (p : UInt8) :
    SessionPriorities :=
  match s.priority sub with
  | some _ => s
  | none =>
    match s.checkAddSubscription max sub p false with
    | none => s
    | some (s, queue) => s.addSubscription sub p queue

/-- `modify_subscription`, on the priority. -/
def modifySubscription (max : Nat) (s : SessionPriorities) (sub : Nat) (p : UInt8) :
    SessionPriorities :=
  match s.priority sub with
  | none => s
  | some old =>
    if old = p then s
    else
      match s.checkAddSubscription max sub p true with
      | none => s
      | some (s, queue) => (s.deleteSubscription sub).addSubscription sub p queue

end SessionPriorities

/-- The operations on the subscriptions of a session. -/
inductive Operation where
  | create (sub : Nat) (p : UInt8)
  | modify (sub : Nat) (p : UInt8)
  | delete (sub : Nat)
  deriving DecidableEq, Repr

/-- An operation on a session with at most `max` subscriptions.  One on a subscription that is
    not in the session is refused. -/
def step (max : Nat) (s : SessionPriorities) : Operation → SessionPriorities
  | .create sub p => s.createSubscription max sub p
  | .modify sub p => s.modifySubscription max sub p
  | .delete sub => if (s.priority sub).isSome then s.deleteSubscription sub else s

/-- The state of a session after some operations. -/
def run (max : Nat) (ops : List Operation) : SessionPriorities :=
  ops.foldl (step max) .init

/-! ## The iteration of a publish request -/

/-- The variables of the iteration on the subscriptions of a session. -/
structure SubscriptionIterator where
  nextIdx : Nat
  continuePrio : Bool
  prioSubs : List Nat

variable (s : SessionPriorities)

/-- `local_continue_iter_session_seq_priority` and `local_init_iter_subscription_priority`. -/
def openPriority (idx : Nat) : SubscriptionIterator :=
  ⟨idx - 1, idx - 1 ≠ 0, (s.subsQueue idx).getD []⟩

/-- `init_iter_subscription_session`. -/
def initIter : Option SubscriptionIterator :=
  if s.nbPriorities = 0 then none else some (openPriority s s.nbPriorities)

/-- `continue_iter_subscription_session`: the next subscription, and the iterator if the iteration
    is to be continued. -/
def continueIter (it : SubscriptionIterator) :
    Nat × Option SubscriptionIterator :=
  (it.prioSubs.headD 0,
    if it.prioSubs.tail ≠ [] then some { it with prioSubs := it.prioSubs.tail }
    else if it.continuePrio then some (openPriority s it.nextIdx)
    else none)

/-- The subscriptions that a loop on the iterator meets, for at most `fuel` of them. -/
def iterate (s : SessionPriorities) : Nat → Option SubscriptionIterator → List Nat
  | fuel + 1, some it => (continueIter s it).1 :: iterate s fuel (continueIter s it).2
  | _, _ => []

/-- The subscriptions that a publish request meets. -/
def metSubscriptions : List Nat :=
  iterate s s.nbSubscriptions (initIter s)

end S2opc.Subscription.Priority
