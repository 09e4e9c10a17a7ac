/-
The order in which the publish requests of a session leave its queue.

A request that no subscription uses is appended to the queue, and a
subscription uses the one at the head.  When the queue is full, the request
that is discarded is taken at the end: it is the newest one, not the oldest.
-/
import S2opc.Subscription.Session
import S2opc.Lib.Run

namespace S2opc.SubscriptionCore.Session

open Lib.Run List

variable {V E : Type}

/-! ## The queue of the code -/

/-- What happens to the requests of the queue, none of which expires. -/
inductive QueueEvent (V E : Type) where
  | arrival (expirationTime : Nat) (results : List AckResult)
  | use (response : PublishResponse V E)

/-- A session with an empty publish queue. -/
def initQueue : Session V E := { init with publishQueue := some [] }

variable (session : Session V E)

/-- The request that arrives, and the session that has received it. -/
def arrive (expirationTime : Nat) (results : List AckResult) :
    Session V E × PublishRequest :=
  ({ session with received := session.received + 1 }, ⟨session.received, expirationTime, results⟩)

/-- `pop_valid_publish_request_queue`, and the response to the request. -/
def popValid (response : PublishResponse V E) :
    Session V E :=
  match session.publishQueue with
  | some (request :: queue) =>
    respond { session with publishQueue := some queue } [(request.number, response)]
  | _ => session

variable (limits : SessionLimits)

section

variable (session : Option (Session V E))

def queueStep (event : QueueEvent V E) : Option (Session V E) :=
  session.bind fun session =>
    match event with
    | .arrival expirationTime results =>
      let (session, request) := session.arrive expirationTime results
      session.enqueue limits request
    | .use response => some (session.popValid response)

/-! ## The queue that is meant -/

/-- A request that arrives when the queue is full takes the place of the oldest one. -/
def discardOldest (session : Session V E)
    (request : PublishRequest) : Option (Session V E) :=
  match session.publishQueue with
  | none => some session
  | some queue =>
    if queue.length = limits.publishRequestPerSessionMax then
      match queue with
      | [] => none
      | oldest :: queue =>
        some (respond { session with publishQueue := some (queue ++ [request]) }
          [(oldest.number, .fault .badTooManyPublishRequests)])
    else some { session with publishQueue := some (queue ++ [request]) }

/-- The oldest request is the one that leaves the queue, whether it is used or discarded. -/
def OldestLeaves (event : QueueEvent V E) : Prop :=
  ∀ s ∈ session,
    match event with
    | .arrival expirationTime results =>
      queueStep limits session event =
        discardOldest limits (s.arrive expirationTime results).1 (s.arrive expirationTime results).2
    | .use response =>
      ∀ oldest queue, s.publishQueue = some (oldest :: queue) →
        queueStep limits session event = some (respond { s with publishQueue := some queue }
          [(oldest.number, response)])

/-- A request does not arrive when the queue is full of two requests or more. -/
def HasPlace :
    QueueEvent V E → Prop
  | .arrival _ _ => ∀ s ∈ session, ∀ queue ∈ s.publishQueue,
      queue.length = limits.publishRequestPerSessionMax → limits.publishRequestPerSessionMax ≤ 1
  | .use _ => True

end

/-! ## The numbers of the requests -/

/-- The requests of the queue are in the order of their arrival. -/
def InOrder : Prop :=
  ∀ queue ∈ session.publishQueue,
    (queue.map PublishRequest.number ++ [session.received]).Pairwise (· < ·)

variable {limits : SessionLimits} {session session' : Session V E}

section

variable (h : session.InOrder)
include h

/-- The order is kept whichever request is taken out of the queue. -/
theorem InOrder.append {queue rest : List PublishRequest}
    (hqueue : session.publishQueue = some queue) (hrest : rest.Sublist queue)
    {request : PublishRequest} (hnumber : request.number = session.received)
    (hsame : session'.publishQueue = some (rest ++ [request]))
    (hreceived : session'.received = session.received + 1) : session'.InOrder := by
  intro queue' hqueue'
  obtain rfl : queue' = rest ++ [request] := Option.some.inj (hqueue'.symm.trans hsame)
  have hnumbers : (rest.map PublishRequest.number ++ [session.received]).Pairwise (· < ·) :=
    (h queue hqueue).sublist ((hrest.map _).append_right _)
  rw [map_append, map_singleton, hnumber, hreceived, pairwise_append]
  refine ⟨hnumbers, pairwise_singleton _ _, fun a ha b hb => ?_⟩
  obtain rfl := mem_singleton.1 hb
  rcases mem_append.1 ha with ha | ha
  · have := (pairwise_append.1 hnumbers).2.2 a ha _ (mem_singleton_self _)
    omega
  · have := mem_singleton.1 ha
    omega

theorem InOrder.enqueue {expirationTime : Nat} {results : List AckResult}
    (hstep : (session.arrive expirationTime results).1.enqueue limits
      (session.arrive expirationTime results).2 = some session') : session'.InOrder := by
  unfold Session.enqueue arrive at hstep
  rcases hqueue : session.publishQueue with _ | queue
  · rw [hqueue] at hstep
    cases hstep
    exact fun _ hsome => nomatch hsome
  rw [hqueue] at hstep
  dsimp only at hstep
  split_ifs at hstep with hfull
  · rcases hlast : queue.getLast? with _ | old
    · simp [hlast] at hstep
    rw [hlast] at hstep
    cases hstep
    exact h.append hqueue (dropLast_sublist queue) rfl rfl rfl
  · cases hstep
    exact h.append hqueue (Sublist.refl queue) rfl rfl rfl

theorem InOrder.queueStep {event : QueueEvent V E}
    (hstep : queueStep limits (some session) event = some session') : session'.InOrder := by
  rcases event with ⟨expirationTime, results⟩ | response
  · exact h.enqueue hstep
  cases hstep
  unfold popValid
  split
  · rename_i request queue hqueue
    intro queue' hqueue'
    cases hqueue'
    exact (h _ hqueue).sublist (sublist_cons_self _ _)
  · exact h

/-! ## The order of departure -/

/-- The request at the end of the queue is the oldest one only if it is alone. -/
theorem enqueue_eq_discardOldest_iff (expirationTime : Nat)
    (results : List AckResult) :
    (session.arrive expirationTime results).1.enqueue limits
        (session.arrive expirationTime results).2 =
      discardOldest limits (session.arrive expirationTime results).1
        (session.arrive expirationTime results).2 ↔
    HasPlace limits (some session) (.arrival expirationTime results) := by
  unfold Session.enqueue discardOldest arrive HasPlace
  rcases hqueue : session.publishQueue with _ | queue
  · refine iff_of_true rfl fun s hs queue hsome => ?_
    cases hs
    cases hqueue.symm.trans hsome
  dsimp only
  by_cases hfull : queue.length = limits.publishRequestPerSessionMax
  · rw [if_pos hfull, if_pos hfull]
    have hplace : (∀ s ∈ some session, ∀ other ∈ s.publishQueue,
        other.length = limits.publishRequestPerSessionMax →
          limits.publishRequestPerSessionMax ≤ 1) ↔ queue.length ≤ 1 := by
      constructor
      · intro hall
        exact hfull.le.trans (hall session rfl queue hqueue hfull)
      · intro hone s hs other hother hlength
        exact hfull.symm.le.trans hone
    rw [hplace]
    match hlist : queue with
    | [] => exact iff_of_true rfl (Nat.zero_le 1)
    | [oldest] => exact iff_of_true rfl le_rfl
    | oldest :: next :: rest =>
      refine iff_of_false (fun heq => ?_) (fun hlength => by simp at hlength)
      -- The request at the end has a greater number than the one at the head
      rw [getLast?_cons_cons, getLast?_eq_some_getLast (cons_ne_nil _ _)] at heq
      have hresponses := congrArg Session.responses (Option.some.inj heq)
      have hnumber := congrArg Prod.fst (singleton_inj.1 (append_cancel_left hresponses))
      have hlt := ((pairwise_cons.1 (h _ hqueue)).1 _
        (mem_append_left _ (mem_map_of_mem
          (getLast_mem (cons_ne_nil next rest)))))
      exact absurd hnumber (Nat.ne_of_gt hlt)
  · rw [if_neg hfull, if_neg hfull]
    refine iff_of_true rfl fun s hs other hother hlength => ?_
    cases hs
    obtain rfl := Option.some.inj (hqueue.symm.trans hother)
    exact absurd hlength hfull

theorem oldestLeaves_iff (event : QueueEvent V E) :
    OldestLeaves limits (some session) event ↔ HasPlace limits (some session) event := by
  rcases event with ⟨expirationTime, results⟩ | response
  · rw [← enqueue_eq_discardOldest_iff h]
    constructor
    · intro hall
      exact hall session rfl
    · intro heq s hs
      cases hs
      exact heq
  refine iff_of_true (fun s hs oldest queue hqueue => ?_) trivial
  cases hs
  show some (session.popValid response) = _
  rw [popValid, hqueue]

end

/-- In a run, the request that leaves the queue is always the oldest one exactly if no request
    arrives when the queue is full of two requests or more. -/
theorem oldest_leaves_queue_iff (limits : SessionLimits) (events : List (QueueEvent V E)) :
    EveryStep (queueStep limits) (OldestLeaves limits) (some initQueue) events ↔
      EveryStep (queueStep limits) (HasPlace limits) (some initQueue) events := by
  have hinit : ∀ s ∈ some (initQueue : Session V E), s.InOrder := by
    rintro s ⟨rfl⟩ queue ⟨rfl⟩
    exact List.pairwise_singleton _ _
  have hinv : ∀ (session : Option (Session V E)) event, (∀ s ∈ session, s.InOrder) →
      OldestLeaves limits session event → ∀ s ∈ queueStep limits session event, s.InOrder := by
    intro session event hall _ s' hs'
    obtain ⟨s, rfl, hstep⟩ := Option.bind_eq_some_iff.1 hs'
    exact (hall s rfl).queueStep hstep
  apply everyStep_iff_everyStep hinv _ hinit
  intro session event hall
  cases session with
  | none =>
    -- The process has stopped
    apply iff_of_true nofun
    cases event with
    | arrival => exact fun _ hs => nomatch hs
    | use => trivial
  | some session => exact oldestLeaves_iff (hall session rfl) event

/-- Of three requests for a queue of two, the second one is discarded and the first one stays. -/
theorem newest_request_is_discarded :
    let limits := { SessionLimits.default with publishRequestPerSessionMax := 2 }
    let arrivals : List (QueueEvent Nat Nat) := List.replicate 3 (.arrival 10 [])
    (∃ s ∈ arrivals.foldl (queueStep limits) (some initQueue),
      s.responses = [(1, .fault .badTooManyPublishRequests)] ∧
      s.publishQueue = some [⟨0, 10, []⟩, ⟨2, 10, []⟩]) ∧
    ¬ EveryStep (queueStep limits) (OldestLeaves limits) (some initQueue) arrivals := by
  refine ⟨⟨_, rfl, rfl, rfl⟩, fun hall => ?_⟩
  have hthird := hall.2.2.1 _ rfl
  exact absurd (congrArg (Option.map fun s => s.responses) hthird) (by decide)

end S2opc.SubscriptionCore.Session
