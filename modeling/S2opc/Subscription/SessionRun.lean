/-
The publish requests of a session in all of its runs.

Each operation moves the numbers of publish requests from the queue to the
responses, or adds the number of a new request to one of them.  The numbers
are so conserved, but for a request with too many acknowledgements, which is
neither answered nor queued.
-/
import S2opc.Subscription.PriorityRun
import S2opc.Subscription.Session

namespace S2opc.SubscriptionCore.Session

open Subscription.Priority Lib.Run List Option Function

variable {V E : Type} {limits : SessionLimits}
    {copy : NotificationMessage V E → Option (NotificationMessage V E)}

/-! ## The conservation of the requests -/

/-- How many times a request was answered. -/
def answered (session : Session V E) (number : Nat) : Nat :=
  (session.responses.map Prod.fst).count number

/-- How many times a request is in the publish queue. -/
def queued (session : Session V E) (number : Nat) : Nat :=
  ((session.publishQueue.getD []).map PublishRequest.number).count number

/-- The requests of a session are those of another one. -/
structure SameRequests (session session' : Session V E) : Prop where
  received : session'.received = session.received
  responses : session'.responses = session.responses
  queue : session'.publishQueue = session.publishQueue

theorem SameRequests.refl (session : Session V E) : SameRequests session session :=
  ⟨rfl, rfl, rfl⟩

variable {session session' session'' : Session V E}

theorem SameRequests.trans (h : SameRequests session session')
    (h' : SameRequests session' session'') :
    SameRequests session session'' :=
  ⟨h'.received.trans h.received, h'.responses.trans h.responses, h'.queue.trans h.queue⟩

/-- The requests are conserved, with those of a list that are new. -/
structure Conserves (new : List Nat) (session session' : Session V E) : Prop where
  received : session'.received = session.received
  requests : ∀ number, session'.answered number + session'.queued number =
    new.count number + (session.answered number + session.queued number)

theorem SameRequests.conserves (h : SameRequests session session') :
    Conserves [] session session' := by
  refine ⟨h.received, fun number => ?_⟩
  unfold answered queued
  rw [h.responses, h.queue, count_nil, Nat.zero_add]

theorem Conserves.trans {new new' : List Nat} (h : Conserves new session session')
    (h' : Conserves new' session' session'') :
    Conserves (new' ++ new) session session'' := by
  refine ⟨h'.received.trans h.received, fun number => ?_⟩
  rw [h'.requests, h.requests, count_append, Nat.add_assoc]

theorem answered_respond (session : Session V E)
    (responses : List (Nat × PublishResponse V E)) (number : Nat) :
    (session.respond responses).answered number =
      session.answered number + (responses.map Prod.fst).count number := by
  show ((session.responses ++ responses).map Prod.fst).count number = _
  rw [map_append, count_append]
  rfl

variable {queue : List PublishRequest}

theorem queued_of_queue (h : session.publishQueue = some queue) (number : Nat) :
    session.queued number = (queue.map PublishRequest.number).count number := by
  unfold queued
  rw [h, getD_some]

variable {clock : Nat → Nat}

/-- The requests that are expired go from the queue to the responses. -/
theorem popInvalid_numbers {popped : List (Nat × PublishResponse V E) × List PublishRequest}
    (h : popInvalid clock queue = popped) :
    popped.1.map Prod.fst ++ popped.2.map PublishRequest.number =
      queue.map PublishRequest.number := by
  subst h
  induction queue generalizing clock with
  | nil => rfl
  | cons request queue ih =>
    rw [popInvalid]
    split_ifs
    · rw [map_cons, map_cons, cons_append, ih]
    · rfl

/-! ## Sessions that are well formed -/

variable {id : Nat}

/-- The arrays of the session hold its subscriptions. -/
structure Consistent (session : Session V E) : Prop where
  arrays : ∃ entries, Holds session.priorities entries
  valid : ∀ id, (session.subscriptions id).isSome = (session.priorities.priority id).isSome

/-- There is a publish queue exactly if there is a subscription. -/
structure WellFormed (session : Session V E) : Prop extends Consistent session where
  queue : session.publishQueue = none ↔ session.priorities.nbSubscriptions = 0

theorem wellFormed_init : (init : Session V E).WellFormed where
  arrays := ⟨[], holds_init⟩
  valid := fun _ => rfl
  queue := ⟨fun _ => rfl, fun _ => rfl⟩

/-- The number of subscriptions is not zero if there is one. -/
theorem Consistent.nbSubscriptions_pos (h : session.Consistent)
    (hvalid : (session.subscriptions id).isSome = true) :
    0 < session.priorities.nbSubscriptions := by
  obtain ⟨entries, hholds⟩ := h.arrays
  obtain ⟨subs, -, hmem, hnb⟩ := hholds.counted
  rw [h.valid, ← hmem] at hvalid
  rw [hnb]
  exact length_pos_of_mem hvalid

/-- A session with a priority has a subscription. -/
theorem Consistent.nbSubscriptions_pos_of_nbPriorities (h : session.Consistent)
    (hnb : session.priorities.nbPriorities ≠ 0) :
    0 < session.priorities.nbSubscriptions := by
  obtain ⟨entries, hholds⟩ := h.arrays
  rw [hholds.arrays.nb] at hnb
  obtain ⟨e, he⟩ := exists_mem_of_length_pos (Nat.pos_of_ne_zero hnb)
  obtain ⟨id, hid⟩ := exists_mem_of_ne_nil _ (hholds.exact.nonempty e he)
  rw [hholds.exact.mem_iff e he] at hid
  have hvalid : (session.subscriptions id).isSome = true := by
    rw [h.valid, hid]
    rfl
  exact h.nbSubscriptions_pos hvalid

/-- The session has the same subscriptions as another one, and a publish queue like it. -/
structure SameShape (session session' : Session V E) : Prop where
  arrays : (∃ entries, Holds session.priorities entries) →
    ∃ entries, Holds session'.priorities entries
  priority : session'.priorities.priority = session.priorities.priority
  nb : session'.priorities.nbSubscriptions = session.priorities.nbSubscriptions
  valid : ∀ id, (session'.subscriptions id).isSome = (session.subscriptions id).isSome
  queue : session'.publishQueue = none ↔ session.publishQueue = none

theorem SameShape.refl (session : Session V E) : SameShape session session :=
  ⟨fun harrays => harrays, rfl, rfl, fun _ => rfl, .rfl⟩

theorem SameShape.trans (h : SameShape session session') (h' : SameShape session' session'') :
    SameShape session session'' :=
  ⟨fun hs => h'.arrays (h.arrays hs), h'.priority.trans h.priority, h'.nb.trans h.nb,
    fun id => (h'.valid id).trans (h.valid id), h'.queue.trans h.queue⟩

theorem WellFormed.sameShape (h : session.WellFormed) (hshape : SameShape session session') :
    session'.WellFormed where
  arrays := hshape.arrays h.arrays
  valid := fun id => by rw [hshape.valid, hshape.priority, h.valid]
  queue := by rw [hshape.queue, hshape.nb, h.queue]

theorem isSome_subscriptions_setSubscription (session : Session V E) (id : Nat)
    (sub : Subscription V E) :
    ((session.setSubscription id sub).subscriptions id).isSome = true := by
  show (Function.update session.subscriptions id (some sub) id).isSome = true
  rw [update_self]
  rfl

/-! ## The steps that keep the subscriptions and the queue -/

/-- The subscriptions and the publish queue stay, and the requests of a list are answered. -/
structure Answers (numbers : List Nat) (session session' : Session V E) : Prop extends
    SameShape session session' where
  received : session'.received = session.received
  publishQueue : session'.publishQueue = session.publishQueue
  answered : ∀ number, session'.answered number = session.answered number + numbers.count number

variable {numbers numbers' : List Nat}

theorem Answers.refl (session : Session V E) : Answers [] session session :=
  ⟨.refl session, rfl, rfl, fun _ => rfl⟩

theorem Answers.trans (h : Answers numbers session session')
    (h' : Answers numbers' session' session'') :
    Answers (numbers ++ numbers') session session'' := by
  refine ⟨h.toSameShape.trans h'.toSameShape, h'.received.trans h.received,
    h'.publishQueue.trans h.publishQueue, fun number => ?_⟩
  rw [h'.answered, h.answered, count_append, Nat.add_assoc]

theorem Answers.conserves (h : Answers numbers session session') :
    Conserves numbers session session' := by
  refine ⟨h.received, fun number => ?_⟩
  rw [h.answered, queued, h.publishQueue]
  show _ + session.queued number = _
  omega

theorem answers_setSubscription (hvalid : (session.subscriptions id).isSome = true)
    (sub : Subscription V E) :
    Answers [] session (session.setSubscription id sub) := by
  refine ⟨⟨fun harrays => harrays, rfl, rfl, fun other => ?_, .rfl⟩, rfl, rfl, fun _ => rfl⟩
  by_cases hother : other = id
  · rw [hother, hvalid]
    exact isSome_subscriptions_setSubscription session id sub
  · show (Function.update session.subscriptions id (some sub) other).isSome = _
    rw [update_of_ne hother]

/-- The rotation of the queue of a priority keeps the subscriptions of the arrays. -/
theorem holds_reconfigureLastSub {s : SessionPriorities} {entries : List Entry} (h : Holds s entries)
    (id : Nat) : ∃ entries', Holds (reconfigureLastSub s id) entries' := by
  unfold Session.reconfigureLastSub
  rcases hid : s.priority id with _ | p
  · exact ⟨entries, h⟩
  obtain ⟨e, he, rfl, hin⟩ := h.exact.entry hid
  have hidx : s.priorityIdx e.1 ≠ 0 := fun hzero =>
    h.arrays.priorityIdx_eq_zero_iff.1 hzero (List.mem_map_of_mem he)
  dsimp only
  rw [if_pos hidx, h.arrays.queue_of_mem he]
  dsimp only
  rw [if_pos hin]
  have hperm : (e.2.erase id ++ [id]).Perm e.2 :=
    List.perm_append_comm.trans (perm_cons_erase hin).symm
  obtain ⟨entries', hrep, hkeys, hmem⟩ := h.arrays.replace he (e.2.erase id ++ [id])
  refine ⟨entries', hrep, ?_, h.counted⟩
  -- The new queue has the elements of the former one
  refine h.exact.replace (p := e.1) (fun _ _ _ => .rfl) (fun sub => ?_)
    (hperm.nodup_iff.2 (h.exact.nodup e he)) fun f => ?_
  · exact hperm.mem_iff.trans (h.exact.mem_iff e he sub)
  · rw [hmem, and_iff_left (append_ne_nil_of_right_ne_nil _ (cons_ne_nil _ _))]

variable (s : SessionPriorities)

theorem reconfigureLastSub_fields (id : Nat) :
    (reconfigureLastSub s id).priority = s.priority ∧
      (reconfigureLastSub s id).nbSubscriptions = s.nbSubscriptions := by
  unfold reconfigureLastSub
  split
  · exact ⟨rfl, rfl⟩
  split_ifs
  · split <;> exact ⟨rfl, rfl⟩
  · exact ⟨rfl, rfl⟩

theorem answers_reconfigureLastSub (session : Session V E) (id : Nat) :
    Answers [] session { session with priorities := reconfigureLastSub session.priorities id } := by
  obtain ⟨hpriority, hnb⟩ := reconfigureLastSub_fields session.priorities id
  refine ⟨⟨?_, hpriority, hnb, fun _ => rfl, .rfl⟩, rfl, rfl, fun _ => rfl⟩
  rintro ⟨entries, h⟩
  exact holds_reconfigureLastSub h id

theorem answers_respond (session : Session V E)
    (responses : List (Nat × PublishResponse V E)) :
    Answers (responses.map Prod.fst) session (session.respond responses) :=
  ⟨⟨fun harrays => harrays, rfl, rfl, fun _ => rfl, .rfl⟩, rfl, rfl,
    answered_respond session responses⟩

/-- A subscription of the session is changed and uses a request. -/
theorem answers_sendResponse (hvalid : (session.subscriptions id).isSome = true)
    (request : PublishRequest) (response : Subscription.Response V E) :
    Answers [request.number] session (session.sendResponse request id response) := by
  obtain ⟨sub, hsub⟩ := isSome_iff_exists.1 hvalid
  have hrotated : ∀ session' : Session V E, Answers [] session session' →
      Answers [request.number] session
        (session'.respond [(request.number, publishResponse id sub response request.results)]) :=
    fun session' h => h.trans (answers_respond session'
      [(request.number, publishResponse id sub response request.results)])
  unfold sendResponse
  rw [hsub]
  cases response with
  | failed moreNotifs => exact hrotated _ (.refl session)
  | invalidState => exact hrotated _ (.refl session)
  | _ => exact hrotated _ (answers_reconfigureLastSub session id)

theorem answers_acknowledge (session : Session V E) (acks : List (Nat × Nat)) :
    Answers [] session (session.acknowledge acks).1 := by
  induction acks generalizing session with
  | nil => exact .refl session
  | cons ack acks ih =>
    obtain ⟨id, seqNum⟩ := ack
    rw [acknowledge]
    rcases hsub : session.subscriptions id with _ | sub
    · exact ih session
    have hvalid : (session.subscriptions id).isSome = true := by rw [hsub]; rfl
    exact (answers_setSubscription hvalid _).trans (ih _)

/-- The subscription that uses a request is one of the session. -/
theorem offerRequest_spec {ids : List Nat}
    {out : Session V E × Option (Nat × Subscription.Response V E)}
    (h : offerRequest limits copy session ids = some out) :
    Answers [] session out.1 ∧
      ∀ id response, out.2 = some (id, response) → (out.1.subscriptions id).isSome = true := by
  induction ids generalizing session with
  | nil =>
    cases h
    exact ⟨.refl session, nofun⟩
  | cons id ids ih =>
    rw [offerRequest] at h
    rcases hsub : session.subscriptions id with _ | sub
    · rw [hsub] at h
      exact ih h
    have hvalid : (session.subscriptions id).isSome = true := by rw [hsub]; rfl
    rw [hsub] at h
    dsimp only at h
    split at h
    · cases h
    · obtain ⟨hanswers, hvalid'⟩ := ih h
      exact ⟨(answers_setSubscription hvalid _).trans hanswers, hvalid'⟩
    · cases h
      refine ⟨answers_setSubscription hvalid _, ?_⟩
      rintro id' response' ⟨rfl⟩
      exact isSome_subscriptions_setSubscription ..

/-! ## The steps that change the queue -/

theorem sameShape_setQueue (hqueue : session.publishQueue ≠ none) (queue : List PublishRequest) :
    SameShape session { session with publishQueue := some queue } :=
  ⟨fun harrays => harrays, rfl, rfl, fun _ => rfl, iff_of_false (some_ne_none _) hqueue⟩

theorem enqueue_spec {request : PublishRequest} (hqueue : session.publishQueue = some queue)
    (h : session.enqueue limits request = some session') :
    SameShape session session' ∧ Conserves [request.number] session session' := by
  have hset := sameShape_setQueue (hqueue ▸ some_ne_none queue)
  unfold enqueue at h
  rw [hqueue] at h
  dsimp only at h
  split_ifs at h
  · -- The last request of the queue is answered in place of the new one
    rcases hlast : queue.getLast? with _ | old
    · rw [hlast] at h
      cases h
    rw [hlast] at h
    cases h
    obtain ⟨front, rfl⟩ := getLast?_eq_some_iff.1 hlast
    refine ⟨(hset _).trans (answers_respond _ _).toSameShape, rfl, fun number => ?_⟩
    rw [answered_respond, queued_of_queue hqueue, queued_of_queue rfl, dropLast_concat]
    simp only [map_append, map_cons, map_nil, count_append]
    show session.answered number + _ + _ = _
    omega
  · cases h
    refine ⟨hset _, rfl, fun number => ?_⟩
    rw [queued_of_queue hqueue, queued_of_queue rfl, map_append, count_append]
    show session.answered number + _ = _
    rw [map_cons, map_nil]
    omega

variable {sub : Subscription V E}

/-- The requests of the queue that the loop uses are answered, and the other ones stay in it. -/
theorem returnMoreNotifs_spec {moreNotifs : Bool}
    (hvalid : (session.subscriptions id).isSome = true) (hqueue : session.publishQueue ≠ none)
    (h : returnMoreNotifs limits copy clock id moreNotifs session sub queue = some session') :
    SameShape session session' ∧ session'.received = session.received ∧
      ∀ number, session'.answered number + session'.queued number =
        session.answered number + (queue.map PublishRequest.number).count number := by
  induction queue generalizing clock moreNotifs session sub with
  | nil =>
    cases h
    refine ⟨(answers_setSubscription hvalid sub).toSameShape.trans (sameShape_setQueue ?_ _), rfl,
      fun number => rfl⟩
    exact hqueue
  | cons request queue ih =>
    -- A request is answered, and the loop goes on
    have hanswered : ∀ {session₁ clock' moreNotifs' sub'},
        Answers [request.number] session session₁ →
        returnMoreNotifs limits copy clock' id moreNotifs' session₁ sub' queue = some session' →
        SameShape session session' ∧ session'.received = session.received ∧
          ∀ number, session'.answered number + session'.queued number =
            session.answered number + ((request :: queue).map PublishRequest.number).count number := by
      intro session₁ clock' moreNotifs' sub' hanswers hrest
      obtain ⟨hshape, hreceived, hnumbers⟩ := ih (by rw [hanswers.valid]; exact hvalid)
        (by rw [hanswers.publishQueue]; exact hqueue) hrest
      refine ⟨hanswers.toSameShape.trans hshape, hreceived.trans hanswers.received, fun number => ?_⟩
      rw [hnumbers, hanswers.answered, map_cons, Nat.add_assoc, ← count_append]
      rfl
    rw [returnMoreNotifs] at h
    split_ifs at h
    · exact hanswered (answers_respond session [(request.number, .fault .badTimeout)]) h
    · rcases hsend : sub.sendNotificationMsg limits.subscription copy true with _ | out
      · rw [hsend] at h
        cases h
      rw [hsend] at h
      exact hanswered ((answers_setSubscription hvalid out.1).trans
        (answers_sendResponse (isSome_subscriptions_setSubscription session id out.1) request
          out.2)) h
    · cases h
      refine ⟨(answers_setSubscription hvalid sub).toSameShape.trans (sameShape_setQueue ?_ _), rfl,
        fun number => rfl⟩
      exact hqueue

/-- The requests of the queue are all answered. -/
theorem conserves_deallocateQueue (session : Session V E) :
    Conserves [] session session.deallocateQueue := by
  unfold deallocateQueue
  rcases hqueue : session.publishQueue with _ | queue
  · exact (SameRequests.refl session).conserves
  refine ⟨rfl, fun number => ?_⟩
  rw [answered_respond, queued_of_queue hqueue, List.map_map]
  show session.answered number + (queue.map PublishRequest.number).count number + 0 = _
  rw [count_nil]
  omega

/-! ## Every step keeps a session well formed -/

/-- A subscription of the session is closed. -/
theorem Consistent.closeSubscription (h : session.Consistent)
    (hvalid : (session.subscriptions id).isSome = true) :
    (session.closeSubscription id).Consistent := by
  obtain ⟨entries, hholds⟩ := h.arrays
  rw [h.valid] at hvalid
  obtain ⟨p, hp⟩ := isSome_iff_exists.1 hvalid
  obtain ⟨entries', hholds', -⟩ := hholds.deleteSubscription hp
  refine ⟨⟨entries', hholds'⟩, fun other => ?_⟩
  show (Function.update session.subscriptions id none other).isSome =
    ((session.priorities.deleteSubscription id).priority other).isSome
  rw [(deleteSubscription_fields session.priorities id).1, update_apply,
    update_apply]
  split_ifs
  · rfl
  · exact h.valid other

theorem Consistent.closeSubscriptions (h : session.Consistent) (ids : List Nat) :
    (session.closeSubscriptions ids).Consistent ∧
      (session.closeSubscriptions ids).priorities.nbSubscriptions ≤
        session.priorities.nbSubscriptions := by
  induction ids generalizing session with
  | nil => exact ⟨h, Nat.le_refl _⟩
  | cons id ids ih =>
    rw [Session.closeSubscriptions]
    split_ifs with hvalid
    · obtain ⟨hclosed, hle⟩ := ih (h.closeSubscription hvalid)
      refine ⟨hclosed, hle.trans ?_⟩
      show (session.priorities.deleteSubscription id).nbSubscriptions ≤ _
      rw [(deleteSubscription_fields session.priorities id).2]
      exact Nat.sub_le _ _
    · exact ih h

/-- The queue is deallocated with the last subscription. -/
theorem Consistent.deallocateQueue (h : session.Consistent)
    (hnb : session.priorities.nbSubscriptions = 0) : session.deallocateQueue.WellFormed := by
  unfold Session.deallocateQueue
  cases hqueue : session.publishQueue with
  | none => exact ⟨h, iff_of_true hqueue hnb⟩
  | some queue => exact ⟨⟨h.arrays, h.valid⟩, iff_of_true rfl hnb⟩

theorem sameRequests_closeSubscriptions (session : Session V E) (ids : List Nat) :
    SameRequests session (session.closeSubscriptions ids) := by
  induction ids generalizing session with
  | nil => exact .refl session
  | cons id ids ih =>
    rw [closeSubscriptions]
    split_ifs
    · have hclose : SameRequests session (session.closeSubscription id) := ⟨rfl, rfl, rfl⟩
      exact hclose.trans (ih _)
    · exact ih session

theorem deleteSubscriptions_spec (h : session.WellFormed) (ids : List Nat) :
    (session.deleteSubscriptions limits ids).WellFormed ∧
      Conserves [] session (session.deleteSubscriptions limits ids) := by
  unfold Session.deleteSubscriptions
  dsimp only
  obtain ⟨hclosed, hle⟩ := h.toConsistent.closeSubscriptions ids
  have hsame := sameRequests_closeSubscriptions session ids
  split_ifs with hops hlast
  · exact ⟨hclosed.deallocateQueue hlast.2, hsame.conserves.trans (conserves_deallocateQueue _)⟩
  · refine ⟨⟨hclosed, ?_⟩, hsame.conserves⟩
    rw [hsame.queue, h.queue]
    omega
  · exact ⟨h, (SameRequests.refl session).conserves⟩

/-- The publishing timer, for the requests of the queue that are left by the first test. -/
theorem publishTimeout_spec (h : session.WellFormed)
    (hvalid : (session.subscriptions id).isSome = true)
    (hqueue : session.publishQueue.getD [] = queue)
    (htimeout : publishTimeout limits copy clock session id sub queue = some session') :
    session'.WellFormed ∧ Conserves [] session session' := by
  have hsome : session.publishQueue ≠ none := by
    have := h.nbSubscriptions_pos hvalid
    rw [Ne, h.queue]
    omega
  have hset : ∀ sub', (session.setSubscription id sub').WellFormed ∧
      Conserves [] session (session.setSubscription id sub') := fun sub' =>
    have hanswers := answers_setSubscription hvalid sub'
    ⟨h.sameShape hanswers.toSameShape, hanswers.conserves⟩
  unfold Session.publishTimeout at htimeout
  dsimp only at htimeout
  have hclose : SameRequests session (session.closeSubscription id) := ⟨rfl, rfl, rfl⟩
  split_ifs at htimeout with hclosed hlast
  · cases htimeout
    exact ⟨(h.closeSubscription hvalid).deallocateQueue hlast,
      hclose.conserves.trans (conserves_deallocateQueue _)⟩
  · cases htimeout
    exact ⟨⟨h.closeSubscription hvalid, iff_of_false hsome hlast⟩, hclose.conserves⟩
  · split at htimeout
    · cases htimeout
    · cases htimeout
      exact hset _
    · cases htimeout
      exact hset _
    · rename_i sub' response request queue' _
      have hsent := (answers_setSubscription hvalid sub').trans
        (answers_sendResponse (isSome_subscriptions_setSubscription session id sub') request response)
      obtain ⟨hshape, hreceived, hnumbers⟩ := returnMoreNotifs_spec
        (by rw [hsent.valid]; exact hvalid) (by rw [hsent.publishQueue]; exact hsome) htimeout
      refine ⟨h.sameShape (hsent.toSameShape.trans hshape), hreceived.trans hsent.received,
        fun number => ?_⟩
      rw [hnumbers, hsent.answered, queued, hqueue, count_nil, Nat.zero_add, map_cons,
        Nat.add_assoc, ← count_append]
      rfl

theorem publishTimer_spec {clock' : Nat → Nat} (h : session.WellFormed)
    (htimer : publishTimer limits copy session id clock clock' = some session') :
    session'.WellFormed ∧ Conserves [] session session' := by
  unfold Session.publishTimer at htimer
  split at htimer
  · cases htimer
    exact ⟨h, (SameRequests.refl session).conserves⟩
  · rename_i sub hsub hqueue
    exact publishTimeout_spec h (by rw [hsub]; rfl) (by rw [hqueue]; rfl) htimer
  · rename_i sub queue hsub hqueue
    generalize hpop : (popInvalid clock queue :
      List (Nat × PublishResponse V E) × List PublishRequest) = popped at htimer
    have hshape := (sameShape_setQueue (hqueue ▸ some_ne_none queue) popped.2).trans
      (answers_respond _ popped.1).toSameShape
    have hpopped : Conserves [] session
        (respond { session with publishQueue := some popped.2 } popped.1) := by
      refine ⟨rfl, fun number => ?_⟩
      rw [answered_respond, queued_of_queue rfl, queued_of_queue hqueue, count_nil,
        Nat.zero_add, ← popInvalid_numbers hpop, count_append, Nat.add_assoc]
      rfl
    obtain ⟨hwell, hconserves⟩ := publishTimeout_spec (h.sameShape hshape)
      (by rw [hshape.valid, hsub]; rfl) rfl htimer
    exact ⟨hwell, hpopped.trans hconserves⟩

theorem checkAddSubscription_priority {s s' : SessionPriorities} {max : Nat} {p : UInt8}
    {isModifySub : Bool} {queue : List Nat}
    (h : s.checkAddSubscription max id p isModifySub = some (s', queue)) :
    s'.priority = s.priority := by
  unfold SessionPriorities.checkAddSubscription at h
  dsimp only at h
  split_ifs at h <;> cases h <;> rfl

/-- The creation of a subscription does not touch the other ones. -/
theorem createSubscription_priority (max : Nat) {other : Nat} (p : UInt8)
    (hother : other ≠ id) : (s.createSubscription max id p).priority other = s.priority other := by
  unfold SessionPriorities.createSubscription
  split
  · rfl
  split
  · rfl
  rename_i s' queue hcheck
  rw [(addSubscription_fields s' id p queue).1, update_of_ne hother,
    checkAddSubscription_priority hcheck]

/-- The modification of a subscription does not touch the other ones. -/
theorem modifySubscription_priority (max : Nat) {other : Nat} (p : UInt8)
    (hother : other ≠ id) : (s.modifySubscription max id p).priority other = s.priority other := by
  unfold SessionPriorities.modifySubscription
  split
  · rfl
  split_ifs
  · rfl
  split
  · rfl
  rename_i s' queue hcheck
  rw [(addSubscription_fields _ id p queue).1, update_of_ne hother,
    (deleteSubscription_fields s' id).1, update_of_ne hother,
    checkAddSubscription_priority hcheck]

/-- A subscription is created or modified in the session. -/
theorem Consistent.setSubscription (h : session.Consistent) {priorities : SessionPriorities}
    (hholds : ∃ entries, Holds priorities entries) (hid : (priorities.priority id).isSome = true)
    (hother : ∀ other, other ≠ id → priorities.priority other = session.priorities.priority other)
    (sub : Subscription V E) :
    Consistent { session.setSubscription id sub with priorities := priorities } := by
  refine ⟨hholds, fun other => ?_⟩
  show (Function.update session.subscriptions id (some sub) other).isSome =
    (priorities.priority other).isSome
  by_cases heq : other = id
  · rw [heq, update_self, hid]
    rfl
  · rw [update_of_ne heq, hother other heq, h.valid]

theorem createSubscription_spec (h : session.WellFormed) (id : Nat) (p : UInt8)
    (sub : Subscription V E) :
    (session.createSubscription limits id p sub).WellFormed ∧
      Conserves [] session (session.createSubscription limits id p sub) := by
  obtain ⟨entries, hholds⟩ := h.arrays
  obtain ⟨entries', hholds', -⟩ := hholds.createSubscription limits.subscriptionPerSessionMax id p
  unfold Session.createSubscription
  split
  · exact ⟨h, (SameRequests.refl session).conserves⟩
  dsimp only
  by_cases hcreated : ((session.priorities.createSubscription limits.subscriptionPerSessionMax id
      p).priority id).isSome = true
  · rw [if_pos hcreated]
    have hconsistent := h.toConsistent.setSubscription ⟨entries', hholds'⟩ hcreated
      (fun other hother => createSubscription_priority _ _ p hother) sub
    have hpos := hconsistent.nbSubscriptions_pos (isSome_subscriptions_setSubscription _ id sub)
    have hnb := Nat.ne_of_gt hpos
    -- There was no queue exactly if this is the first subscription
    split_ifs with hfirst
    · refine ⟨⟨⟨hconsistent.arrays, hconsistent.valid⟩,
        iff_of_false (some_ne_none _) hnb⟩, rfl, fun number => ?_⟩
      rw [queued_of_queue rfl, queued, h.queue.2 hfirst.1, count_nil, Nat.zero_add]
      rfl
    refine ⟨⟨hconsistent, iff_of_false ?_ hnb⟩, SameRequests.conserves ⟨rfl, rfl, rfl⟩⟩
    show session.publishQueue ≠ none
    rw [Ne, h.queue]
    exact fun hzero => hfirst ⟨hzero, hnb⟩
  · rw [if_neg hcreated]
    exact ⟨h, (SameRequests.refl session).conserves⟩

theorem modifySubscription_spec (h : session.WellFormed) (id : Nat) (p : UInt8)
    (lifetimeCount maxKeepAlive maxNotifsPerPublish : Nat) :
    (session.modifySubscription limits id p lifetimeCount maxKeepAlive
        maxNotifsPerPublish).WellFormed ∧
      SameRequests session (session.modifySubscription limits id p lifetimeCount maxKeepAlive
        maxNotifsPerPublish) := by
  obtain ⟨entries, hholds⟩ := h.arrays
  obtain ⟨entries', hholds', -⟩ := hholds.modifySubscription limits.subscriptionPerSessionMax id p
  unfold modifySubscription
  rcases hsub : session.subscriptions id with _ | sub
  · exact ⟨h, .refl session⟩
  have hvalid : (session.subscriptions id).isSome = true := by rw [hsub]; rfl
  dsimp only
  split_ifs with hmodified
  · have hconsistent := h.toConsistent.setSubscription ⟨entries', hholds'⟩
      (by rw [hmodified]; rfl) (fun other hother => modifySubscription_priority _ _ p hother)
      (sub.modify lifetimeCount maxKeepAlive maxNotifsPerPublish)
    have hpos := hconsistent.nbSubscriptions_pos (isSome_subscriptions_setSubscription _ id _)
    refine ⟨⟨hconsistent, iff_of_false ?_ (Nat.ne_of_gt hpos)⟩, ⟨rfl, rfl, rfl⟩⟩
    show session.publishQueue ≠ none
    rw [Ne, h.queue]
    exact Nat.ne_of_gt (h.nbSubscriptions_pos hvalid)
  · exact ⟨h, .refl session⟩

/-! ## The publish requests -/

/-- A publish request can be answered: it does not have too many acknowledgements, or there is no
    subscription. -/
def CanAnswer (limits : SessionLimits) (session : Session V E) : Input V E → Prop
  | .publishRequest acks _ => acks.length ≤ limits.genericOperationPerReqMax ∨
      session.priorities.nbPriorities = 0
  | _ => True

variable {acks : List (Nat × Nat)} {expirationTime : Nat}

/-- A publish request that can be answered is answered or queued, and another one is lost. -/
theorem publishRequest_spec (h : session.WellFormed)
    (hrequest : session.publishRequest limits copy acks expirationTime = some session') :
    session'.WellFormed ∧
      ∃ new, Conserves new { session with received := session.received + 1 } session' ∧
        (session.CanAnswer limits (.publishRequest acks expirationTime) ∧ new = [session.received] ∨
          ¬ session.CanAnswer limits (.publishRequest acks expirationTime) ∧ new = []) := by
  have hwell : WellFormed { session with received := session.received + 1 } :=
    ⟨⟨h.arrays, h.valid⟩, h.queue⟩
  unfold publishRequest at hrequest
  dsimp only at hrequest
  split_ifs at hrequest with hnone hacks
  · cases hrequest
    have hanswers := answers_respond { session with received := session.received + 1 }
      [(session.received, .fault .badNoSubscription)]
    exact ⟨hwell.sameShape hanswers.toSameShape, _, hanswers.conserves, .inl ⟨.inr hnone, rfl⟩⟩
  · have hacked := answers_acknowledge { session with received := session.received + 1 } acks
    split at hrequest
    · cases hrequest
    · rename_i offered hoffer
      have hoffered := hacked.trans (offerRequest_spec hoffer).1
      have hqueue : offered.publishQueue ≠ none := by
        have := h.nbSubscriptions_pos_of_nbPriorities hnone
        rw [hoffered.publishQueue]
        show session.publishQueue ≠ none
        rw [Ne, h.queue]
        omega
      obtain ⟨queue, hqueue⟩ := ne_none_iff_exists'.1 hqueue
      obtain ⟨hshape, hconserves⟩ := enqueue_spec hqueue hrequest
      exact ⟨hwell.sameShape (hoffered.toSameShape.trans hshape), _,
        hoffered.conserves.trans hconserves, .inl ⟨.inl hacks, rfl⟩⟩
    · rename_i offered id response hoffer
      cases hrequest
      obtain ⟨hoffered, hvalid⟩ := offerRequest_spec hoffer
      have hanswers := (hacked.trans hoffered).trans (answers_sendResponse (hvalid id response rfl)
        ⟨session.received, expirationTime,
          (acknowledge { session with received := session.received + 1 } acks).2⟩ response)
      exact ⟨hwell.sameShape hanswers.toSameShape, _, hanswers.conserves, .inl ⟨.inl hacks, rfl⟩⟩
  · cases hrequest
    refine ⟨hwell, [], (SameRequests.refl _).conserves, .inr ⟨?_, rfl⟩⟩
    rintro (hle | hzero)
    · exact hacks hle
    · exact hnone hzero

/-! ## The runs -/

variable {input : Input V E}

/-- A step keeps a session well formed, and conserves the requests if it is not one of them. -/
theorem step_spec (h : session.WellFormed)
    (hstep : session.step limits copy input = some session') :
    session'.WellFormed ∧ ((∀ acks expirationTime, input ≠ .publishRequest acks expirationTime) →
      Conserves [] session session') := by
  have hother : session'.WellFormed ∧ Conserves [] session session' →
      session'.WellFormed ∧ ((∀ acks expirationTime, input ≠ .publishRequest acks expirationTime) →
        Conserves [] session session') := fun hspec => ⟨hspec.1, fun _ => hspec.2⟩
  cases input with
  | createSubscription id p lifetimeCount maxKeepAlive maxNotifsPerPublish publishEnabled =>
    cases hstep
    exact hother (createSubscription_spec h id p _)
  | modifySubscription id p lifetimeCount maxKeepAlive maxNotifsPerPublish =>
    cases hstep
    obtain ⟨hwell, hrequests⟩ := modifySubscription_spec h id p lifetimeCount maxKeepAlive
      maxNotifsPerPublish
    exact ⟨hwell, fun _ => hrequests.conserves⟩
  | deleteSubscriptions ids =>
    cases hstep
    exact hother (deleteSubscriptions_spec h ids)
  | publishRequest acks expirationTime =>
    exact ⟨(publishRequest_spec h hstep).1, fun hne => absurd rfl (hne acks expirationTime)⟩
  | publishTimer id clock clock' => exact hother (publishTimer_spec h hstep)
  | subscription id input =>
    rw [Session.step] at hstep
    rcases hsub : session.subscriptions id with _ | sub
    · rw [hsub] at hstep
      cases hstep
      exact ⟨h, fun _ => (SameRequests.refl session).conserves⟩
    rw [hsub] at hstep
    split_ifs at hstep
    · obtain ⟨sub', -, rfl⟩ := map_eq_some_iff.1 hstep
      have hanswers := answers_setSubscription (by rw [hsub]; rfl) sub'
      exact ⟨h.sameShape hanswers.toSameShape, fun _ => hanswers.conserves⟩
    · cases hstep
      exact ⟨h, fun _ => (SameRequests.refl session).conserves⟩

/-- Each publish request that was received has one response, or it is once in the queue. -/
def AnsweredOrQueuedOnce (session : Session V E) : Prop :=
  ∀ number, number < session.received → session.answered number + session.queued number = 1

/-- No request is known before it is received. -/
def NoneAhead (session : Session V E) : Prop :=
  ∀ number, session.received ≤ number → session.answered number + session.queued number = 0

/-- A step that is not a publish request. -/
theorem Conserves.answeredOrQueuedOnce (h : Conserves [] session session') :
    (session.AnsweredOrQueuedOnce → session'.AnsweredOrQueuedOnce) ∧
      (session.NoneAhead → session'.NoneAhead) := by
  unfold AnsweredOrQueuedOnce NoneAhead
  rw [h.received]
  constructor <;>
  · intro hall number hnumber
    rw [h.requests, count_nil, Nat.zero_add]
    exact hall number hnumber

/-- A publish request keeps the requests in order exactly if it can be answered. -/
theorem publishRequest_answeredOrQueuedOnce (h : session.WellFormed) (hahead : session.NoneAhead)
    (hrequest : session.publishRequest limits copy acks expirationTime = some session') :
    session'.NoneAhead ∧ (session.AnsweredOrQueuedOnce →
      (session'.AnsweredOrQueuedOnce ↔
        session.CanAnswer limits (.publishRequest acks expirationTime))) := by
  obtain ⟨-, new, hconserves, hcases⟩ := publishRequest_spec h hrequest
  have hnumbers : ∀ number, session'.answered number + session'.queued number =
      new.count number + (session.answered number + session.queued number) := hconserves.requests
  unfold AnsweredOrQueuedOnce NoneAhead at *
  rw [hconserves.received]
  rcases hcases with ⟨hanswer, rfl⟩ | ⟨hanswer, rfl⟩
  · constructor
    · intro number hnumber
      have hafter : session.received + 1 ≤ number := hnumber
      rw [hnumbers, hahead number (by omega), count_singleton]
      exact if_neg (by simp; omega)
    · refine fun hall => iff_of_true (fun number hnumber => ?_) hanswer
      have hbefore : number < session.received + 1 := hnumber
      rw [hnumbers, count_singleton]
      by_cases heq : number = session.received
      · rw [hahead number (by omega), if_pos (by simp [heq])]
      · rw [hall number (by omega), if_neg (by simpa using Ne.symm heq)]
  · constructor
    · intro number hnumber
      have hafter : session.received + 1 ≤ number := hnumber
      rw [hnumbers, hahead number (by omega), count_nil]
    · refine fun _ => iff_of_false (fun hall => ?_) hanswer
      have hlost := hall session.received (Nat.lt_succ_self _)
      rw [hnumbers, hahead _ (Nat.le_refl _)] at hlost
      cases hlost

/-- A step keeps the requests in order exactly if it can answer. -/
theorem step_answeredOrQueuedOnce (h : session.WellFormed) (hahead : session.NoneAhead)
    (hstep : session.step limits copy input = some session') :
    session'.NoneAhead ∧ (session.AnsweredOrQueuedOnce →
      (session'.AnsweredOrQueuedOnce ↔ session.CanAnswer limits input)) := by
  by_cases hrequest : ∃ acks expirationTime, input = .publishRequest acks expirationTime
  · obtain ⟨acks, expirationTime, rfl⟩ := hrequest
    exact publishRequest_answeredOrQueuedOnce h hahead hstep
  have hother : ∀ acks expirationTime, input ≠ .publishRequest acks expirationTime :=
    fun acks expirationTime heq => hrequest ⟨acks, expirationTime, heq⟩
  have hconserves := ((step_spec h hstep).2 hother).answeredOrQueuedOnce
  refine ⟨hconserves.2 hahead, fun hall => iff_of_true (hconserves.1 hall) ?_⟩
  cases input with
  | publishRequest acks expirationTime => exact absurd rfl (hother acks expirationTime)
  | _ => trivial

/-- A request that cannot be answered does not stop the process. -/
theorem canAnswer_of_step_eq_none (h : session.step limits copy input = none) :
    session.CanAnswer limits input := by
  cases input with
  | publishRequest acks expirationTime =>
    change session.publishRequest limits copy acks expirationTime = none at h
    unfold publishRequest at h
    dsimp only at h
    split_ifs at h with hnone hacks
    exact .inl hacks
  | _ => trivial

/-- In a run of a session, each publish request has one response or is once in the queue, in every
    state, exactly if each of them can be answered. -/
theorem answeredOrQueuedOnce_run_iff (limits : SessionLimits)
    (copy : NotificationMessage V E → Option (NotificationMessage V E))
    (inputs : List (Input V E)) :
    EveryState (stepOrStop limits copy) (fun s => ∀ session ∈ s, session.AnsweredOrQueuedOnce)
      (some init) inputs ↔
    EveryStep (stepOrStop limits copy) (fun s input => ∀ session ∈ s, session.CanAnswer limits input)
      (some init) inputs := by
  have hinv : ∀ (s : Option (Session V E)) input,
      (∀ session ∈ s, session.WellFormed ∧ session.NoneAhead) →
      ∀ session ∈ stepOrStop limits copy s input, session.WellFormed ∧ session.NoneAhead := by
    intro s input hall session' hstep
    obtain ⟨session, rfl, hstep⟩ := Option.bind_eq_some_iff.1 hstep
    obtain ⟨hwell, hahead⟩ := hall session rfl
    exact ⟨(step_spec hwell hstep).1, (step_answeredOrQueuedOnce hwell hahead hstep).1⟩
  refine everyState_iff_everyStep hinv ?_ ?_ ?_
  · intro s input hall honce
    rcases s with _ | session
    · exact iff_of_true nofun nofun
    obtain ⟨hwell, hahead⟩ := hall session rfl
    rcases hstep : session.step limits copy input with _ | session'
    · -- The process stops
      refine iff_of_true (fun session' hsession' => ?_) (fun other hother => ?_)
      · have : session.step limits copy input = some session' := hsession'
        rw [hstep] at this
        cases this
      · cases hother
        exact canAnswer_of_step_eq_none hstep
    have hiff := (step_answeredOrQueuedOnce hwell hahead hstep).2 (honce session rfl)
    constructor
    · rintro hgood _ ⟨rfl⟩
      exact hiff.1 (hgood session' hstep)
    · intro hok other hother
      have : session.step limits copy input = some other := hother
      rw [hstep] at this
      cases this
      exact hiff.2 (hok session rfl)
  · intro session hsession
    cases hsession
    exact ⟨wellFormed_init, fun _ _ => rfl⟩
  · intro session hsession
    cases hsession
    intro number hnumber
    cases hnumber

/-- A request with too many acknowledgements is neither answered nor queued. -/
theorem too_many_acknowledgements_are_lost :
    let inputs : List (Input Nat Nat) :=
      [.createSubscription 1 0 100 10 0 true, .publishRequest (List.replicate 5001 (1, 1)) 10]
    ∃ session ∈ inputs.foldl (stepOrStop SessionLimits.default some) (some init),
      session.received = 1 ∧ session.answered 0 = 0 ∧ session.queued 0 = 0 := by
  have hlength : (List.replicate 5001 ((1, 1) : Nat × Nat)).length = 5001 := List.length_replicate
  generalize List.replicate 5001 ((1, 1) : Nat × Nat) = acks at hlength
  have hmany : ¬ acks.length ≤ SessionLimits.default.genericOperationPerReqMax := by
    rw [hlength]
    decide
  refine ⟨{ createSubscription SessionLimits.default init 1 0 (.create 100 10 0 true) with
    received := 1 }, ?_, rfl, rfl, rfl⟩
  show publishRequest SessionLimits.default some
    (createSubscription SessionLimits.default init 1 0 (.create 100 10 0 true)) acks 10 = _
  unfold publishRequest
  rw [if_neg (by decide), if_neg hmany]
  rfl

end S2opc.SubscriptionCore.Session
