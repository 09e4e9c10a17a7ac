/-
The outcomes of the requests of a client secure connection.

A request that was accepted for sending is awaited, with its timer armed or its
timer event in the queue, or it had one outcome.  This is lost in two ways.
When the connection is closed each context gives a failure, also the one of a
request whose timeout was given already and that is kept only to recognise a
late response.  And a response whose context was removed is dropped when its
chunk, or a later one of the same buffer, is refused, or when the connection is
closed by a message before it.

The requests are counted by their handles: what was accepted is what had an
outcome, what is awaited, and what the events of the buffer in treatment hold.
Each transition is shown to keep the count.
-/
import S2opc.SecureChannel.Requests

namespace S2opc.SecureChannel.Requests

open Lib.FirstMatch Lib.Run List SentRequest

/-! ## The property -/

/-- A request of the services that has no outcome yet. -/
def SentRequest.isAwaited (r : SentRequest) : Bool :=
  r.msgType == .msg && !r.timeoutExpired

/-- The handles of the requests that have no outcome yet. -/
def awaitedHandles (requests : List SentRequest) : List UInt32 :=
  (requests.filter SentRequest.isAwaited).map SentRequest.requestHandle

/-- Each request handle that was accepted had one outcome or is still awaited, and the timeout of
    each request that is awaited will be given if nothing else is.  The handle 0 is not one of a
    request. -/
structure ExactlyOneOutcome (s : Connection) : Prop where
  counted : ∀ requestHandle ≠ 0, s.accepted.count requestHandle =
    (s.outcomes.map Outcome.requestHandle).count requestHandle +
      (awaitedHandles s.sentRequestIds).count requestHandle
  timed : ∀ r ∈ s.sentRequestIds, r.isAwaited = true →
    r.timerArmed = true ∨ r.requestId ∈ s.timerEvents

/-! ## The condition -/

variable (s : Connection)

/-- No request whose timeout was given is kept. -/
def NoneExpired : Prop :=
  ∀ r ∈ s.sentRequestIds, r.msgType = .msg → r.timeoutExpired = false

/-- A request id is not one of a context, nor of an event of a timer. -/
def IsFresh (requestId : UInt32) : Prop :=
  (∀ r ∈ s.sentRequestIds, r.requestId ≠ requestId) ∧ requestId ∉ s.timerEvents

instance (s : Connection) : Decidable (NoneExpired s) :=
  inferInstanceAs (Decidable (∀ r ∈ s.sentRequestIds, r.msgType = .msg → r.timeoutExpired = false))

instance (s : Connection) (requestId : UInt32) : Decidable (IsFresh s requestId) :=
  inferInstanceAs (Decidable ((∀ r ∈ s.sentRequestIds, r.requestId ≠ requestId) ∧ _))

/-- The handle of the request that an event ends. -/
def RcvEvent.requestHandle? : RcvEvent → Option UInt32
  | .tcp _ => none
  | .opn _ => none
  | .msgChunks requestHandle => some requestHandle
  | .msgChunkAbort requestHandle _ => some requestHandle

/-- The handles of the requests that events end. -/
def eventHandles (events : List RcvEvent) : List UInt32 :=
  events.filterMap RcvEvent.requestHandle?

/-- A chunk ends the response to a request that is awaited. -/
def Chunk.answers : Chunk → Bool
  | .msg requestId isFinal _ _ =>
    isFinal != .intermediate && s.currentMsgRequestId.all (· == requestId) &&
      (s.findFromId requestId).any SentRequest.isAwaited
  | _ => false

/-- An event of a message is not lost, and does not close a connection that keeps an expired
    request. -/
def EventOk : RcvEvent → Prop
  | .tcp goesOn => goesOn = true ∨ NoneExpired s
  | .opn isRight => isRight = true ∨ NoneExpired s
  | .msgChunks _ => s.state = .connected
  | .msgChunkAbort _ isDecoded => isDecoded = true

instance (s : Connection) : (event : RcvEvent) → Decidable (EventOk s event)
  | .tcp goesOn => inferInstanceAs (Decidable (goesOn = true ∨ NoneExpired s))
  | .opn isRight => inferInstanceAs (Decidable (isRight = true ∨ NoneExpired s))
  | .msgChunks _ => inferInstanceAs (Decidable (s.state = .connected))
  | .msgChunkAbort _ isDecoded => inferInstanceAs (Decidable (isDecoded = true))

/-- A chunk that is refused does not end a response that is awaited, no response was ended before
    it in the buffer, and no expired request is kept. -/
def ReceiveOk : Connection → List RcvEvent → List Chunk → Prop
  | s, events, [] => EveryStep Connection.onInternalEvent EventOk s events
  | s, events, c :: chunks =>
    match s.treatChunk c with
    | .error s' => eventHandles events = [] ∧ c.answers s = false ∧ NoneExpired s'
    | .ok (s', event) => ReceiveOk s' (events ++ event.toList) chunks

instance decidableReceiveOk : ∀ s events chunks, Decidable (ReceiveOk s events chunks)
  | s, events, [] => inferInstanceAs (Decidable (EveryStep Connection.onInternalEvent EventOk s events))
  | s, events, c :: chunks =>
    match h : s.treatChunk c with
    | .error s' =>
      decidable_of_iff (eventHandles events = [] ∧ c.answers s = false ∧ NoneExpired s')
        (by simp only [ReceiveOk, h])
    | .ok (s', event) =>
      have := decidableReceiveOk s' (events ++ event.toList) chunks
      decidable_of_iff (ReceiveOk s' (events ++ event.toList) chunks)
        (by simp only [ReceiveOk, h])

/-- The steps that keep the outcomes right. -/
def StepOk : Input → Prop
  | .serviceSndMsg _ .sent => s.state = .connected → IsFresh s s.nextRequestId
  | .serviceSndMsg _ (.abortSent _) => True
  | .serviceSndMsg _ (.failed _) => s.state = .connected → NoneExpired s
  | .sendOpn true => s.state ≠ .closed → IsFresh s s.nextRequestId
  | .sendOpn false => NoneExpired s
  | .expire _ => True
  | .timerEvent => True
  | .receive chunks => s.state ≠ .closed → ReceiveOk s [] chunks
  | .close => NoneExpired s

instance (s : Connection) : (input : Input) → Decidable (StepOk s input)
  | .serviceSndMsg _ .sent =>
    inferInstanceAs (Decidable (s.state = .connected → IsFresh s s.nextRequestId))
  | .serviceSndMsg _ (.abortSent _) => isTrue trivial
  | .serviceSndMsg _ (.failed _) => inferInstanceAs (Decidable (s.state = .connected → NoneExpired s))
  | .sendOpn true => inferInstanceAs (Decidable (s.state ≠ .closed → IsFresh s s.nextRequestId))
  | .sendOpn false => inferInstanceAs (Decidable (NoneExpired s))
  | .expire _ => isTrue trivial
  | .timerEvent => isTrue trivial
  | .receive chunks => inferInstanceAs (Decidable (s.state ≠ .closed → ReceiveOk s [] chunks))
  | .close => inferInstanceAs (Decidable (NoneExpired s))

/-! ## Handles -/

@[simp] theorem awaitedHandles_nil : awaitedHandles [] = [] := rfl

variable (r : SentRequest)

theorem awaitedHandles_cons (requests : List SentRequest) :
    awaitedHandles (r :: requests) =
      (if r.isAwaited = true then [r.requestHandle] else []) ++ awaitedHandles requests := by
  by_cases h : r.isAwaited = true <;> simp [awaitedHandles, h]

@[simp] theorem awaitedHandles_append (requests others : List SentRequest) :
    awaitedHandles (requests ++ others) = awaitedHandles requests ++ awaitedHandles others := by
  simp [awaitedHandles]

theorem awaitedHandles_perm {requests others : List SentRequest} (h : requests.Perm others) :
    (awaitedHandles requests).Perm (awaitedHandles others) :=
  (h.filter _).map _

theorem awaitedHandles_disarmed :
    awaitedHandles [r.disarmed] = awaitedHandles [r] := by
  rw [awaitedHandles_cons, awaitedHandles_cons]
  rfl

theorem awaitedHandles_expired : awaitedHandles [r.expired] = [] := by
  simp [awaitedHandles_cons, isAwaited, expired]

@[simp] theorem eventHandles_append (events others : List RcvEvent) :
    eventHandles (events ++ others) = eventHandles events ++ eventHandles others := by
  simp [eventHandles]

/-! ## The timers of the contexts -/

/-- The timer of a context, for the events in the queue: it is armed, its event is in the queue, or
    the request expired. -/
structure TimerOk (timerEvents : List UInt32) (r : SentRequest) : Prop where
  armed : r.timerArmed = true → r.timeoutExpired = false ∧ r.requestId ∉ timerEvents
  expired : r.timeoutExpired = true → r.requestId ∉ timerEvents
  waiting : r.timeoutExpired = false → r.timerArmed = true ∨ r.requestId ∈ timerEvents

namespace TimerOk

variable {timerEvents : List UInt32} {requestId : UInt32} {r : SentRequest}

/-- The event of another timer is put in the queue. -/
theorem append (h : TimerOk timerEvents r) (hne : r.requestId ≠ requestId) :
    TimerOk (timerEvents ++ [requestId]) r := by
  have hiff : r.requestId ∈ timerEvents ++ [requestId] ↔ r.requestId ∈ timerEvents := by simp [hne]
  exact ⟨fun harmed => ⟨(h.armed harmed).1, mt hiff.1 (h.armed harmed).2⟩,
    fun hexpired => mt hiff.1 (h.expired hexpired),
    fun hwaiting => (h.waiting hwaiting).imp_right hiff.2⟩

/-- The event of another timer is taken from the queue. -/
theorem tail (h : TimerOk (requestId :: timerEvents) r) (hne : r.requestId ≠ requestId) :
    TimerOk timerEvents r := by
  have hiff : r.requestId ∈ requestId :: timerEvents ↔ r.requestId ∈ timerEvents := by simp [hne]
  exact ⟨fun harmed => ⟨(h.armed harmed).1, mt hiff.2 (h.armed harmed).2⟩,
    fun hexpired => mt hiff.2 (h.expired hexpired),
    fun hwaiting => (h.waiting hwaiting).imp_right hiff.1⟩

end TimerOk

/-- The contexts have distinct request ids, and each timer gives one event. -/
structure TimersOk (requests : List SentRequest) (timerEvents : List UInt32) : Prop where
  nodup : (requests.map SentRequest.requestId).Nodup
  events_nodup : timerEvents.Nodup
  timers : ∀ r ∈ requests, TimerOk timerEvents r

namespace TimersOk

variable {requests others : List SentRequest} {timerEvents : List UInt32} {r : SentRequest}

theorem perm (h : TimersOk requests timerEvents) (hperm : requests.Perm others) :
    TimersOk others timerEvents :=
  ⟨(hperm.map _).nodup_iff.1 h.nodup, h.events_nodup, fun r hr => h.timers r (hperm.mem_iff.2 hr)⟩

theorem cons_iff :
    TimersOk (r :: requests) timerEvents ↔
      (∀ r' ∈ requests, r'.requestId ≠ r.requestId) ∧ TimerOk timerEvents r ∧
        TimersOk requests timerEvents := by
  constructor
  · rintro ⟨hnodup, hevents, htimers⟩
    rw [map_cons, nodup_cons] at hnodup
    refine ⟨?_, htimers r mem_cons_self, hnodup.2, hevents,
      fun r' hr' => htimers r' (mem_cons_of_mem r hr')⟩
    intro r' hr' heq
    exact hnodup.1 (heq ▸ mem_map_of_mem hr')
  · rintro ⟨hne, hr, hnodup, hevents, htimers⟩
    refine ⟨?_, hevents, ?_⟩
    · rw [map_cons, nodup_cons]
      refine ⟨?_, hnodup⟩
      intro hmem
      obtain ⟨r', hr', heq⟩ := mem_map.1 hmem
      exact hne r' hr' heq
    · intro r' hr'
      rcases mem_cons.1 hr' with rfl | hr'
      · exact hr
      · exact htimers r' hr'

/-- Contexts may be removed. -/
theorem of_append (h : TimersOk (others ++ requests) timerEvents) : TimersOk requests timerEvents := by
  induction others with
  | nil => exact h
  | cons r others ih => exact ih (cons_iff.1 h).2.2

/-- The timer of a context expires. -/
theorem expire (h : TimersOk (r :: requests) timerEvents) (harmed : r.timerArmed = true) :
    TimersOk (r.disarmed :: requests) (timerEvents ++ [r.requestId]) := by
  obtain ⟨hne, htimer, hrest⟩ := cons_iff.1 h
  obtain ⟨hexpired, hnot⟩ := htimer.armed harmed
  rw [cons_iff]
  refine ⟨hne, ⟨?_, ?_, ?_⟩, hrest.nodup, ?_, ?_⟩
  · intro hfalse
    cases hfalse
  · intro htrue
    exact absurd (htrue.symm.trans hexpired) (by decide)
  · intro _
    exact .inr (mem_append_right _ mem_cons_self)
  · rw [nodup_append]
    refine ⟨h.events_nodup, nodup_singleton _, ?_⟩
    intro a ha b hb heq
    rw [mem_singleton] at hb
    exact hnot (hb ▸ heq ▸ ha)
  · intro r' hr'
    exact (hrest.timers r' hr').append (hne r' hr')

/-- The event of the timer of a context is treated: the request did not expire before. -/
theorem timeout (h : TimersOk (r :: requests) (r.requestId :: timerEvents)) :
    r.timeoutExpired = false ∧
      TimersOk (r.expired :: requests) timerEvents := by
  obtain ⟨hne, htimer, hrest⟩ := cons_iff.1 h
  obtain ⟨hnot, hevents⟩ := nodup_cons.1 h.events_nodup
  constructor
  · rw [← Bool.not_eq_true]
    intro hexpired
    exact htimer.expired hexpired mem_cons_self
  · rw [cons_iff]
    refine ⟨hne, ⟨?_, ?_, ?_⟩, hrest.nodup, hevents, ?_⟩
    · intro harmed
      exact absurd mem_cons_self (htimer.armed harmed).2
    · intro _
      exact hnot
    · intro hfalse
      cases hfalse
    · intro r' hr'
      exact (hrest.timers r' hr').tail (hne r' hr')

/-- The event of a timer is treated whose context was removed. -/
theorem tail {requestId : UInt32} (h : TimersOk requests (requestId :: timerEvents))
    (hne : ∀ r ∈ requests, r.requestId ≠ requestId) : TimersOk requests timerEvents :=
  ⟨h.nodup, (nodup_cons.1 h.events_nodup).2, fun r hr => (h.timers r hr).tail (hne r hr)⟩

end TimersOk

/-! ## The count of requests -/

/-- The requests that were accepted are those with an outcome, those that are awaited, and those in
    transit: the one that is being sent, and those of the events of a buffer. -/
def Balanced (transit : List UInt32) : Prop :=
  ∀ requestHandle ≠ 0, s.accepted.count requestHandle =
    (s.outcomes.map Outcome.requestHandle).count requestHandle +
      (awaitedHandles s.sentRequestIds).count requestHandle + transit.count requestHandle

/-- What every transition keeps, with the requests in transit. -/
structure Inv (transit : List UInt32) (s : Connection) : Prop where
  balanced : Balanced s transit
  timers : TimersOk s.sentRequestIds s.timerEvents
  closed : s.state = .closed → s.sentRequestIds = []

theorem Inv.exactlyOneOutcome {s : Connection} (h : Inv [] s) : ExactlyOneOutcome s := by
  refine ⟨h.balanced, fun r hr hawaited => (h.timers.timers r hr).waiting ?_⟩
  simp [isAwaited] at hawaited
  exact hawaited.2

theorem inv_init : Inv [] .init := by
  refine ⟨fun requestHandle _ => rfl, ⟨nodup_nil, nodup_nil, ?_⟩, fun _ => rfl⟩
  simp [Connection.init]

namespace Connection

variable {s : Connection} {transit : List UInt32}

/-- An outcome is posted for a request in transit. -/
theorem balanced_post {outcome : Outcome} (h : Balanced s (outcome.requestHandle :: transit)) :
    Balanced (s.post outcome) transit := by
  intro requestHandle hne
  have hcount := h requestHandle hne
  simp only [post, map_append, map_cons, map_nil, count_append, count_cons,
    count_nil] at hcount ⊢
  omega

/-- Without an expired request, the failures are those of the requests that are awaited. -/
theorem map_sndFailure (h : NoneExpired s) :
    ((s.sentRequestIds.filter (·.msgType = .msg)).map fun r =>
      Outcome.sndFailure r.requestHandle).map Outcome.requestHandle =
        awaitedHandles s.sentRequestIds := by
  rw [awaitedHandles, map_map]
  have heq : s.sentRequestIds.filter (·.msgType = .msg) =
      s.sentRequestIds.filter isAwaited := by
    apply filter_congr
    intro r hr
    by_cases hmsg : r.msgType = .msg
    · simp [isAwaited, hmsg, h r hr hmsg]
    · simp [isAwaited, hmsg]
  rw [heq]
  rfl

/-- To close the connection ends the requests that are awaited, if no expired one is kept. -/
theorem balanced_close (h : Balanced s transit) (hnone : NoneExpired s) :
    Balanced s.close transit := by
  unfold close
  split_ifs
  · exact h
  intro requestHandle hne
  show _ = (List.map _ (s.outcomes ++ _)).count _ + 0 + _
  rw [map_append, map_sndFailure hnone, count_append]
  exact h requestHandle hne

theorem close_sentRequestIds (hs : s.state = .closed → s.sentRequestIds = []) :
    s.close.sentRequestIds = [] := by
  unfold close
  split_ifs with h
  · exact hs h
  · rfl

@[simp] theorem close_timerEvents : s.close.timerEvents = s.timerEvents := by
  unfold close
  split_ifs <;> rfl

theorem inv_close (hbalanced : Balanced s transit) (hevents : s.timerEvents.Nodup)
    (hclosed : s.state = .closed → s.sentRequestIds = []) (hnone : NoneExpired s) :
    Inv transit s.close := by
  have hnil := close_sentRequestIds hclosed
  refine ⟨balanced_close hbalanced hnone, ?_, fun _ => hnil⟩
  rw [hnil, close_timerEvents]
  exact ⟨nodup_nil, hevents, by simp⟩

/-! ## Requests that are sent -/

theorem useRequestIds_eq (nbIds : Nat) (s : Connection) :
    ∃ next, useRequestIds nbIds s = { s with clientNextReqId := next } := by
  induction nbIds generalizing s with
  | zero => exact ⟨s.clientNextReqId, rfl⟩
  | succ nbIds ih =>
    obtain ⟨next, hnext⟩ := ih s.useRequestId
    exact ⟨next, hnext⟩

/-- A context with a fresh request id is recorded. -/
theorem timersOk_create (h : TimersOk s.sentRequestIds s.timerEvents)
    (hfresh : IsFresh s s.nextRequestId) (requestHandle : UInt32) (msgType : MsgType) :
    TimersOk (s.createClientSentRequestContext requestHandle msgType).sentRequestIds
      s.timerEvents := by
  apply TimersOk.perm _ (perm_append_singleton _ _).symm
  rw [TimersOk.cons_iff]
  refine ⟨hfresh.1, ⟨fun _ => ⟨rfl, hfresh.2⟩, ?_, fun _ => .inl rfl⟩, h⟩
  intro hexpired
  cases hexpired

variable {requestHandle : UInt32}

/-- The request in transit is awaited. -/
theorem balanced_create_msg (h : Balanced s (requestHandle :: transit)) :
    Balanced (s.createClientSentRequestContext requestHandle .msg) transit := by
  intro handle hne
  have hcount := h handle hne
  have hawaited : awaitedHandles (s.createClientSentRequestContext requestHandle .msg).sentRequestIds =
      awaitedHandles s.sentRequestIds ++ [requestHandle] := awaitedHandles_append _ _
  rw [hawaited, count_append]
  rw [count_cons] at hcount
  rw [count_singleton]
  show s.accepted.count handle = (s.outcomes.map _).count handle + _ + _
  omega

theorem balanced_create_opn (h : Balanced s transit) :
    Balanced (s.createClientSentRequestContext 0 .opn) transit := by
  intro handle hne
  have hawaited : awaitedHandles (s.createClientSentRequestContext 0 .opn).sentRequestIds =
      awaitedHandles s.sentRequestIds ++ [] := awaitedHandles_append _ _
  rw [hawaited, append_nil]
  exact h handle hne

/-- A request that is accepted is in transit. -/
theorem balanced_accept (h : Balanced s transit) (requestHandle : UInt32) :
    Balanced { s with accepted := s.accepted ++ [requestHandle] } (requestHandle :: transit) := by
  intro handle hne
  have hcount := h handle hne
  dsimp only
  rw [count_append, count_singleton, count_cons]
  omega

theorem inv_sendMsgChunks (hbalanced : Balanced s [requestHandle])
    (htimers : TimersOk s.sentRequestIds s.timerEvents) (hopen : s.state ≠ .closed)
    (result : SendResult) (hfresh : result = .sent → IsFresh s s.nextRequestId)
    (hnone : ∀ nbIds, result = .failed nbIds → NoneExpired s) :
    Inv [] (s.sendMsgChunks requestHandle result) := by
  rcases result with _ | nbIds | nbIds
  · exact ⟨balanced_create_msg hbalanced, timersOk_create htimers (hfresh rfl) requestHandle .msg,
      fun hclosed => absurd hclosed hopen⟩
  · -- the request ids that are used do not matter here
    obtain ⟨next, hnext⟩ := useRequestIds_eq nbIds s
    rw [sendMsgChunks, hnext]
    exact ⟨balanced_post hbalanced, htimers, fun hclosed => absurd hclosed hopen⟩
  · obtain ⟨next, hnext⟩ := useRequestIds_eq nbIds s
    rw [sendMsgChunks, hnext]
    apply inv_close
    · exact balanced_post hbalanced
    · exact htimers.events_nodup
    · exact fun hclosed => absurd hclosed hopen
    · exact hnone nbIds rfl

theorem inv_serviceSndMsg (h : Inv [] s) (requestHandle : UInt32) (result : SendResult)
    (hok : StepOk s (.serviceSndMsg requestHandle result)) :
    Inv [] (s.serviceSndMsg requestHandle result) := by
  have haccept := balanced_accept h.balanced requestHandle
  unfold serviceSndMsg
  dsimp only
  split_ifs with hstate
  · have hopen : s.state ≠ .closed := by simp [hstate]
    apply inv_sendMsgChunks haccept h.timers hopen
    · rintro rfl
      exact hok hstate
    · rintro nbIds rfl
      exact hok hstate
  · exact ⟨balanced_post haccept, h.timers, h.closed⟩

theorem inv_sendOpn (h : Inv [] s) (isSent : Bool) (hok : StepOk s (.sendOpn isSent)) :
    Inv [] (s.sendOpn isSent) := by
  unfold sendOpn
  split_ifs with hclosed hsent
  · exact h
  · subst hsent
    exact ⟨balanced_create_opn h.balanced, timersOk_create h.timers (hok hclosed) 0 .opn,
      fun hstate => absurd hstate hclosed⟩
  · obtain rfl : isSent = false := by simpa using hsent
    apply inv_close
    · -- the handle 0 is not counted
      apply balanced_post
      intro handle hne
      rw [show (Outcome.sndFailure 0).requestHandle = 0 from rfl, count_cons_of_ne hne.symm]
      exact h.balanced handle hne
    · exact h.timers.events_nodup
    · exact h.closed
    · exact hok

/-! ## Timers -/

variable {r : SentRequest}

/-- A change of the context that is found, which keeps what is awaited. -/
theorem count_awaitedHandles_updateFirst {p : SentRequest → Bool} {f : SentRequest → SentRequest}
    {requests : List SentRequest} (hfind : requests.find? p = some r) (handle : UInt32) :
    (awaitedHandles (updateFirst p f requests)).count handle +
        (awaitedHandles [r]).count handle =
      (awaitedHandles requests).count handle + (awaitedHandles [f r]).count handle := by
  rw [(awaitedHandles_perm (perm_cons_eraseP hfind)).count_eq,
    (awaitedHandles_perm (updateFirst_perm hfind)).count_eq, awaitedHandles_cons r,
    awaitedHandles_cons (f r), awaitedHandles_cons r, awaitedHandles_cons (f r)]
  simp only [count_append, awaitedHandles_nil, count_nil]
  omega

theorem inv_expire (h : Inv [] s) (requestId : UInt32) : Inv [] (s.expire requestId) := by
  unfold expire
  split
  · exact h
  rename_i r hfind
  have hr := find?_some hfind
  simp only [Bool.and_eq_true, beq_iff_eq] at hr
  obtain ⟨rfl, harmed⟩ := hr
  refine ⟨?_, ?_, ?_⟩
  · intro handle hne
    have hcount := h.balanced handle hne
    have hsame := count_awaitedHandles_updateFirst (f := disarmed) hfind handle
    rw [awaitedHandles_disarmed] at hsame
    dsimp only
    omega
  · exact ((h.timers.perm (perm_cons_eraseP hfind)).expire harmed).perm (updateFirst_perm hfind).symm
  · intro hclosed
    rw [h.closed hclosed] at hfind
    cases hfind

theorem inv_onTimerEvent (h : Inv [] s) : Inv [] s.onTimerEvent := by
  unfold onTimerEvent
  split
  · exact h
  rename_i requestId timerEvents hevents
  have htimers := h.timers
  rw [hevents] at htimers
  unfold requestTimeout
  split_ifs with hclosed
  · have hnil := h.closed hclosed
    refine ⟨h.balanced, htimers.tail ?_, fun _ => hnil⟩
    simp [hnil]
  split
  · rename_i hfind
    refine ⟨h.balanced, htimers.tail ?_, h.closed⟩
    intro r hr heq
    exact absurd (beq_iff_eq.2 heq) (find?_eq_none.1 hfind r hr)
  rename_i r hfind
  have hid : r.requestId = requestId := by
    simpa using find?_some hfind
  subst hid
  obtain ⟨hexpired, htimers⟩ := (htimers.perm (perm_cons_eraseP hfind)).timeout
  have hsame := count_awaitedHandles_updateFirst (f := expired) hfind
  have hrest := htimers.perm (updateFirst_perm (f := expired) hfind).symm
  simp only [awaitedHandles_expired, count_nil, Nat.add_zero] at hsame
  by_cases hmsg : r.msgType = .msg
  · have hr : awaitedHandles [r] = [r.requestHandle] := by
      simp [awaitedHandles_cons, isAwaited, hmsg, hexpired]
    rw [if_pos hmsg]
    refine ⟨?_, hrest, fun hstate => absurd hstate hclosed⟩
    -- the request that was awaited has its timeout
    apply balanced_post (s := { s with
      timerEvents := timerEvents
      sentRequestIds := updateFirst (·.requestId == r.requestId) expired
        s.sentRequestIds })
    intro handle hne
    have hcount := h.balanced handle hne
    have hsame := hsame handle
    rw [hr] at hsame
    dsimp only [Outcome.requestHandle]
    rw [count_nil] at hcount
    omega
  · have hr : awaitedHandles [r] = [] := by
      simp [awaitedHandles_cons, isAwaited, hmsg]
    rw [if_neg hmsg]
    refine ⟨?_, hrest, fun hstate => absurd hstate hclosed⟩
    intro handle hne
    have hcount := h.balanced handle hne
    have hsame := hsame handle
    rw [hr, count_nil] at hsame
    dsimp only
    omega

/-! ## Chunks that are received -/

/-- Nothing but the contexts and the message in progress differs. -/
def SameExceptContexts (s s' : Connection) : Prop :=
  ∃ requests current, s' = { s with sentRequestIds := requests, currentMsgRequestId := current }

variable {requestId : UInt32}

theorem findFromId_perm (h : s.findFromId requestId = some r) :
    s.sentRequestIds.Perm (r :: s.withoutId requestId) :=
  perm_cons_eraseP h

variable {s' : Connection} {isFinal : IsFinal} {msgType : MsgType}

/-- A request id that is refused leaves what is awaited. -/
theorem checkSequenceHeaderRequestId_error
    (h : s.checkSequenceHeaderRequestId requestId isFinal msgType = .error s') :
    SameExceptContexts s s' ∧
      (awaitedHandles s'.sentRequestIds).Perm (awaitedHandles s.sentRequestIds) := by
  unfold checkSequenceHeaderRequestId at h
  by_cases hcurrent : s.currentMsgRequestId.any (· != requestId) = true
  · rw [if_pos hcurrent] at h
    obtain rfl := Except.error.inj h
    exact ⟨⟨_, _, rfl⟩, List.Perm.refl _⟩
  rw [if_neg hcurrent] at h
  rcases hfind : s.findFromId requestId with _ | r
  · rw [hfind] at h
    obtain rfl := Except.error.inj h
    exact ⟨⟨_, _, rfl⟩, List.Perm.refl _⟩
  rw [hfind] at h
  dsimp only at h
  split_ifs at h
  -- a response of another type: the context is put back
  obtain rfl := Except.error.inj h
  refine ⟨⟨_, _, rfl⟩, ?_⟩
  rw [awaitedHandles_append, awaitedHandles_disarmed, ← awaitedHandles_append]
  apply awaitedHandles_perm
  exact (perm_append_singleton _ _).trans (findFromId_perm hfind).symm

/-- A request id that is accepted is one of a context of the type of the message, which is removed
    with the final chunk. -/
theorem checkSequenceHeaderRequestId_ok {isExpired : Bool} (h : s.checkSequenceHeaderRequestId
      requestId isFinal msgType = .ok (s', requestHandle, isExpired)) :
    SameExceptContexts s s' ∧ s.currentMsgRequestId.all (· == requestId) = true ∧
      ∃ r, s.findFromId requestId = some r ∧ r.msgType = msgType ∧ r.timeoutExpired = isExpired ∧
        (isFinal = .intermediate ∧ s'.sentRequestIds = r :: s.withoutId requestId ∨
          isFinal ≠ .intermediate ∧ requestHandle = r.requestHandle ∧
            s'.sentRequestIds = s.withoutId requestId) := by
  unfold checkSequenceHeaderRequestId at h
  have hcurrent : ¬ s.currentMsgRequestId.any (· != requestId) = true := by
    intro hcurrent
    rw [if_pos hcurrent] at h
    cases h
  rw [if_neg hcurrent] at h
  have hall : s.currentMsgRequestId.all (· == requestId) = true := by
    rcases hcur : s.currentMsgRequestId with _ | current
    · rfl
    · simpa [hcur] using hcurrent
  rcases hfind : s.findFromId requestId with _ | r
  · rw [hfind] at h
    cases h
  rw [hfind] at h
  dsimp only at h
  split_ifs at h with htype hfinal
  · obtain ⟨rfl, -, rfl⟩ := Prod.mk.injEq .. ▸ Prod.mk.injEq .. ▸ Except.ok.inj h
    exact ⟨⟨_, _, rfl⟩, hall, r, rfl, not_not.1 htype, rfl, .inl ⟨hfinal, rfl⟩⟩
  · obtain ⟨rfl, rfl, rfl⟩ := Prod.mk.injEq .. ▸ Prod.mk.injEq .. ▸ Except.ok.inj h
    exact ⟨⟨_, _, rfl⟩, hall, r, rfl, not_not.1 htype, rfl, .inr ⟨hfinal, rfl, rfl⟩⟩

/-- The handle of an event of a message of a type. -/
def EventOfType (msgType : MsgType) (event : UInt32 → RcvEvent) : Prop :=
  ∀ requestHandle, (event requestHandle).requestHandle? =
    if msgType = .msg then some requestHandle else none

variable {isComplete : Bool} {event : UInt32 → RcvEvent}

theorem treatTcpPayload_ok {raised : Option RcvEvent} (hevent : EventOfType msgType event)
    (h : s.treatTcpPayload requestId isFinal msgType isComplete event = .ok (s', raised)) :
    SameExceptContexts s s' ∧
      ∃ removed, s.sentRequestIds.Perm (removed ++ s'.sentRequestIds) ∧
        eventHandles raised.toList = awaitedHandles removed := by
  unfold treatTcpPayload at h
  rcases hcheck : s.checkSequenceHeaderRequestId requestId isFinal msgType with
    s₁ | ⟨s₁, requestHandle, isExpired⟩
  · simp [hcheck] at h
  obtain ⟨⟨requests, current, rfl⟩, -, r, hfind, htype, rfl, hcases⟩ :=
    checkSequenceHeaderRequestId_ok hcheck
  have hperm := findFromId_perm hfind
  simp only [hcheck] at h
  by_cases hcomplete : isComplete = false
  · rw [if_pos hcomplete] at h
    cases h
  rw [if_neg hcomplete] at h
  rcases hcases with ⟨hfinal, hrequests⟩ | ⟨hfinal, rfl, hrequests⟩
  · rw [if_pos hfinal] at h
    obtain ⟨rfl, rfl⟩ := Prod.mk.injEq .. ▸ Except.ok.inj h
    refine ⟨⟨_, _, rfl⟩, [], ?_, rfl⟩
    rw [nil_append, hrequests]
    exact hperm
  rw [if_neg hfinal] at h
  obtain ⟨rfl, rfl⟩ := Prod.mk.injEq .. ▸ Except.ok.inj h
  refine ⟨⟨_, _, rfl⟩, [r], ?_, ?_⟩
  · rw [show requests = _ from hrequests]
    exact hperm
  · -- the event has the handle exactly if the request is awaited
    rcases hexpired : r.timeoutExpired with _ | _
    · by_cases hmsg : msgType = .msg
      · simp [eventHandles, hevent _, awaitedHandles_cons, isAwaited, htype, hmsg,
          hexpired]
      · simp [eventHandles, hevent _, awaitedHandles_cons, isAwaited, htype, hmsg]
    · simp [eventHandles, awaitedHandles_cons, isAwaited, hexpired]

theorem treatTcpPayload_error
    (h : s.treatTcpPayload requestId isFinal msgType isComplete event = .error s')
    (hawaited : isFinal ≠ .intermediate → s.currentMsgRequestId.all (· == requestId) = true → ∀ r,
      s.findFromId requestId = some r → r.msgType = msgType → r.isAwaited = false) :
    SameExceptContexts s s' ∧
      (awaitedHandles s'.sentRequestIds).Perm (awaitedHandles s.sentRequestIds) := by
  unfold treatTcpPayload at h
  rcases hcheck : s.checkSequenceHeaderRequestId requestId isFinal msgType with
    s₁ | ⟨s₁, requestHandle, isExpired⟩
  · simp only [hcheck] at h
    obtain rfl := Except.error.inj h
    exact checkSequenceHeaderRequestId_error hcheck
  obtain ⟨hsame, hall, r, hfind, htype, -, hcases⟩ := checkSequenceHeaderRequestId_ok hcheck
  have hperm := awaitedHandles_perm (findFromId_perm hfind)
  simp only [hcheck] at h
  split_ifs at h
  obtain rfl := Except.error.inj h
  refine ⟨hsame, ?_⟩
  rcases hcases with ⟨hfinal, hrequests⟩ | ⟨hfinal, -, hrequests⟩
  · rw [hrequests]
    exact hperm.symm
  -- the context that is removed is not awaited
  rw [awaitedHandles_cons, hawaited hfinal hall r hfind htype, if_neg (by decide),
    nil_append] at hperm
  rw [hrequests]
  exact hperm.symm

variable {c : Chunk}

/-- A chunk that is accepted may remove a context, whose handle is then the one of its event if the
    request is awaited. -/
theorem treatChunk_ok {event : Option RcvEvent} (h : s.treatChunk c = .ok (s', event)) :
    SameExceptContexts s s' ∧
      ∃ removed, s.sentRequestIds.Perm (removed ++ s'.sentRequestIds) ∧
        eventHandles event.toList = awaitedHandles removed := by
  rcases c with _ | goesOn | ⟨requestId, isComplete, isRight⟩ |
    ⟨requestId, isFinal, isComplete, isDecoded⟩
  · cases h
  · obtain ⟨rfl, rfl⟩ := Prod.mk.injEq .. ▸ Except.ok.inj h
    exact ⟨⟨_, _, rfl⟩, [], List.Perm.refl _, rfl⟩
  · exact treatTcpPayload_ok (fun _ => rfl) h
  · apply treatTcpPayload_ok _ h
    intro requestHandle
    rcases isFinal <;> rfl

/-- A chunk that is refused leaves what is awaited, if it does not end an awaited response. -/
theorem treatChunk_error (h : s.treatChunk c = .error s') (hanswers : c.answers s = false) :
    SameExceptContexts s s' ∧
      (awaitedHandles s'.sentRequestIds).Perm (awaitedHandles s.sentRequestIds) := by
  rcases c with _ | goesOn | ⟨requestId, isComplete, isRight⟩ |
    ⟨requestId, isFinal, isComplete, isDecoded⟩
  · obtain rfl := Except.error.inj h
    exact ⟨⟨_, _, rfl⟩, List.Perm.refl _⟩
  · cases h
  · apply treatTcpPayload_error h
    intro _ _ r _ htype
    simp [isAwaited, htype]
  · apply treatTcpPayload_error h
    intro hfinal hall r hfind _
    simpa [Chunk.answers, hfinal, hall, hfind] using hanswers

/-! ## A received buffer -/

variable {events : List RcvEvent}

/-- An event of the buffer ends its request. -/
theorem inv_onInternalEvent {event : RcvEvent} (h : Inv (eventHandles (event :: events)) s)
    (hok : EventOk s event) :
    Inv (eventHandles events) (s.onInternalEvent event) := by
  rcases event with goesOn | isRight | requestHandle | ⟨requestHandle, isDecoded⟩
  · rcases hok with rfl | hnone
    · exact h
    rcases goesOn with _ | _
    · exact inv_close h.balanced h.timers.events_nodup h.closed hnone
    · exact h
  · rw [onInternalEvent]
    split_ifs with hclosed hright
    · exact h
    · exact ⟨h.balanced, h.timers, fun hstate => by cases hstate⟩
    · exact inv_close h.balanced h.timers.events_nodup h.closed (hok.resolve_left hright)
  · rw [onInternalEvent, if_pos (show s.state = .connected from hok)]
    exact ⟨balanced_post h.balanced, h.timers, h.closed⟩
  · rw [onInternalEvent, if_pos (show isDecoded = true from hok)]
    exact ⟨balanced_post h.balanced, h.timers, h.closed⟩

theorem inv_events (h : Inv (eventHandles events) s)
    (hok : EveryStep onInternalEvent EventOk s events) :
    Inv [] (events.foldl onInternalEvent s) := by
  induction events generalizing s with
  | nil => exact h
  | cons event events ih => exact ih (inv_onInternalEvent h hok.1) hok.2

/-- A chunk that is accepted keeps the count, with its event. -/
theorem inv_treatChunk {event : Option RcvEvent} (h : Inv (eventHandles events) s)
    (htreat : s.treatChunk c = .ok (s', event)) :
    Inv (eventHandles (events ++ event.toList)) s' := by
  obtain ⟨⟨requests, current, rfl⟩, removed, hperm, hhandles⟩ := treatChunk_ok htreat
  refine ⟨?_, (h.timers.perm hperm).of_append, ?_⟩
  · intro handle hne
    have hcount := h.balanced handle hne
    rw [(awaitedHandles_perm hperm).count_eq, awaitedHandles_append, count_append] at hcount
    rw [eventHandles_append, hhandles, count_append]
    dsimp only at hcount ⊢
    omega
  · intro hclosed
    rw [h.closed hclosed] at hperm
    exact (append_eq_nil_iff.1 hperm.nil_eq.symm).2

/-- A chunk that is refused closes the connection. -/
theorem inv_refused (h : Inv [] s) (htreat : s.treatChunk c = .error s') (hopen : s.state ≠ .closed)
    (hanswers : c.answers s = false) (hnone : NoneExpired s') : Inv [] s'.close := by
  obtain ⟨⟨requests, current, rfl⟩, hperm⟩ := treatChunk_error htreat hanswers
  apply inv_close
  · intro handle hne
    rw [hperm.count_eq]
    exact h.balanced handle hne
  · exact h.timers.events_nodup
  · exact fun hclosed => absurd hclosed hopen
  · exact hnone

variable {chunks : List Chunk}

/-- The induction is on the chunks of the buffer, for the events of those before. -/
theorem inv_treatChunks (h : Inv (eventHandles events) s) (hopen : s.state ≠ .closed)
    (hok : ReceiveOk s events chunks) :
    Inv [] (match s.treatChunks events chunks with
      | .ok (s, events) => events.foldl onInternalEvent s
      | .error s => s.close) := by
  induction chunks generalizing s events with
  | nil => exact inv_events h hok
  | cons c chunks ih =>
    unfold treatChunks
    unfold ReceiveOk at hok
    rcases htreat : s.treatChunk c with s' | ⟨s', event⟩
    · rw [htreat] at hok
      obtain ⟨hevents, hanswers, hnone⟩ := hok
      rw [hevents] at h
      exact inv_refused h htreat hopen hanswers hnone
    rw [htreat] at hok
    apply ih
    · exact inv_treatChunk h htreat
    · obtain ⟨⟨requests, current, rfl⟩, -⟩ := treatChunk_ok htreat
      exact hopen
    · exact hok

theorem inv_receive (h : Inv [] s) (hok : StepOk s (.receive chunks)) :
    Inv [] (s.receive chunks) := by
  unfold receive
  split_ifs with hclosed
  · exact h
  · exact inv_treatChunks h hclosed (hok hclosed)

end Connection

/-! ## Runs -/

theorem inv_step (input : Input) (h : Inv [] s) (hok : StepOk s input) :
    Inv [] (step s input) := by
  cases input with
  | serviceSndMsg requestHandle result => exact Connection.inv_serviceSndMsg h requestHandle result hok
  | sendOpn isSent => exact Connection.inv_sendOpn h isSent hok
  | expire requestId => exact Connection.inv_expire h requestId
  | timerEvent => exact Connection.inv_onTimerEvent h
  | receive chunks => exact Connection.inv_receive h hok
  | close => exact Connection.inv_close h.balanced h.timers.events_nodup h.closed hok

/-- In each state of a run whose steps neither lose a response nor close a connection that keeps an
    expired request, each request that was accepted had exactly one outcome or is awaited. -/
theorem exactlyOneOutcome_run (inputs : List Input) (hok : EveryStep step StepOk .init inputs) :
    EveryState step ExactlyOneOutcome .init inputs := by
  have hinv := hok.everyState inv_step inv_init
  exact hinv.mono fun s h => h.exactlyOneOutcome

/-- A late response to an expired request is ignored, and the response to the next one in two chunks
    is given. -/
theorem exactlyOneOutcome_run_late_response :
    EveryState step ExactlyOneOutcome .init
      [.sendOpn true, .receive [.opn 1 true true], .serviceSndMsg 7 .sent, .expire 2, .timerEvent,
        .receive [.msg 2 .final true true], .serviceSndMsg 8 .sent,
        .receive [.msg 3 .intermediate true true, .msg 3 .final true true], .close] :=
  exactlyOneOutcome_run _ (by decide)

/-- The timeout of a request is given, and then the connection is closed before the late response:
    a failure of the same request is given too. -/
theorem timeout_and_close_give_two_outcomes :
    ¬ EveryState step ExactlyOneOutcome .init
      [.sendOpn true, .receive [.opn 1 true true], .serviceSndMsg 7 .sent, .expire 2, .timerEvent,
        .close] := by
  intro h
  have hcount := h.last.counted 7 (by decide)
  revert hcount
  decide

end S2opc.SecureChannel.Requests
