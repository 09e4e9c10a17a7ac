/-
What the transitions of a subscription can do.

A publish request and the publishing timer lead through a dozen transitions,
but to three outcomes only: nothing but counters of the state machine changes,
a notification message is sent, or a keep-alive message is sent.  The proofs
about the messages and about the notifications go by these cases.
-/
import S2opc.Subscription.Publish

namespace S2opc.SubscriptionCore.Subscription

open Option

variable {V E : Type} {limits : Limits}
    {copy : NotificationMessage V E → Option (NotificationMessage V E)}

/-- Two subscriptions with the same items, available notifications, sent messages and messages
    that are kept. -/
structure SameContent (sub sub' : Subscription V E) : Prop where
  items : sub'.monitoredItems = sub.monitoredItems
  data : sub'.availableDataNotifs = sub.availableDataNotifs
  event : sub'.availableEventNotifs = sub.availableEventNotifs
  number : sub'.seqNum = sub.seqNum
  sent : sub'.sent = sub.sent
  queue : sub'.notifRepublishQueue = sub.notifRepublishQueue

theorem SameContent.refl (sub : Subscription V E) : SameContent sub sub :=
  ⟨rfl, rfl, rfl, rfl, rfl, rfl⟩

variable {sub sub' : Subscription V E}

theorem SameContent.notificationAvailable (h : SameContent sub sub') :
    sub'.notificationAvailable = sub.notificationAvailable := by
  unfold Subscription.notificationAvailable
  rw [h.data, h.event]

/-- The outcomes of a transition, with the response.  A notification message is sent if a
    notification is available, or under the condition `degraded`. -/
inductive Publishes (limits : Limits)
    (copy : NotificationMessage V E → Option (NotificationMessage V E))
    (degraded : Prop) (sub : Subscription V E) :
    Subscription V E → Option (Response V E) → Prop where
  | nothing {sub' : Subscription V E} {response : Option (Response V E)}
      (same : SameContent sub sub') (no_more : ∀ r, response = some r → r.moreNotifs = false) :
      Publishes limits copy degraded sub sub' response
  | notification {sub₁ sub' : Subscription V E} {allocated : Bool}
      {response : Response V E} (same : SameContent sub sub₁)
      (available : sub.notificationAvailable = true ∨ degraded)
      (sends : sub₁.sendNotificationMsg limits copy allocated = some (sub', response)) :
      Publishes limits copy degraded sub sub' (some response)
  | keepAlive {sub₁ : Subscription V E} (same : SameContent sub sub₁) :
      Publishes limits copy degraded sub sub₁.sendKeepaliveMsg.1 (some sub₁.sendKeepaliveMsg.2)

variable {allocated : Bool} {response : Option (Response V E)}

/-- The outcomes of a publish request.  The flag MoreNotifications may still be set when the
    notifications it was set for are gone. -/
theorem receivePublishRequest_publishes
    (h : sub.receivePublishRequest limits copy allocated = some (sub', response)) :
    Publishes limits copy (sub.moreNotifications = true) sub sub' response := by
  unfold receivePublishRequest at h
  split_ifs at h with h4 h5 h10 h11
  · cases h
    exact .nothing (.refl sub) nofun
  · obtain ⟨⟨sent, r⟩, hsend, h⟩ := bind_eq_some_iff.1 h
    cases h
    refine .notification ?_ (.inr h5.2.2) hsend
    exact ⟨rfl, rfl, rfl, rfl, rfl, rfl⟩
  · obtain ⟨⟨sent, r⟩, hsend, h⟩ := bind_eq_some_iff.1 h
    cases h
    refine .notification ?_ h10.2.2.symm hsend
    exact ⟨rfl, rfl, rfl, rfl, rfl, rfl⟩
  · cases h
    exact .keepAlive ⟨rfl, rfl, rfl, rfl, rfl, rfl⟩
  · cases h
    apply Publishes.nothing (.refl sub)
    intro r hr
    cases hr
    rfl

/-- The outcomes of the publishing timer. -/
theorem publishTimeout_publishes {validPublishReqQueued : Bool}
    (h : sub.publishTimeout limits copy validPublishReqQueued allocated = some (sub', response)) :
    Publishes limits copy False sub sub' response := by
  have havailable : (!(!sub.publishingEnabled || !sub.notificationAvailable)) = true →
      sub.notificationAvailable = true := by
    intro hreport
    rw [Bool.not_eq_true', Bool.or_eq_false_iff, Bool.not_eq_false', Bool.not_eq_false'] at hreport
    exact hreport.2
  unfold publishTimeout at h
  -- The transitions #6 to #17, in the order of the source
  rcases ite_eq_iff.1 h with ⟨h6, h⟩ | ⟨-, h⟩
  · obtain ⟨⟨sent, r⟩, hsend, h⟩ := bind_eq_some_iff.1 h
    cases h
    exact .notification (.refl sub) (.inl (havailable h6.2.2)) hsend
  rcases ite_eq_iff.1 h with ⟨-, h⟩ | ⟨-, h⟩
  · cases h
    exact .keepAlive (.refl sub)
  rcases ite_eq_iff.1 h with ⟨-, h⟩ | ⟨-, h⟩
  · cases h
    exact .nothing ⟨rfl, rfl, rfl, rfl, rfl, rfl⟩ nofun
  rcases ite_eq_iff.1 h with ⟨-, h⟩ | ⟨-, h⟩
  · cases h
    exact .nothing ⟨rfl, rfl, rfl, rfl, rfl, rfl⟩ nofun
  rcases ite_eq_iff.1 h with ⟨-, h⟩ | ⟨-, h⟩
  · cases h
    exact .nothing (.refl sub) nofun
  rcases ite_eq_iff.1 h with ⟨h14, h⟩ | ⟨-, h⟩
  · obtain ⟨⟨sent, r⟩, hsend, h⟩ := bind_eq_some_iff.1 h
    cases h
    refine .notification ?_ (.inl (havailable h14.2.1)) hsend
    exact ⟨rfl, rfl, rfl, rfl, rfl, rfl⟩
  rcases ite_eq_iff.1 h with ⟨-, h⟩ | ⟨-, h⟩
  · cases h
    exact .keepAlive ⟨rfl, rfl, rfl, rfl, rfl, rfl⟩
  rcases ite_eq_iff.1 h with ⟨-, h⟩ | ⟨-, h⟩
  · cases h
    exact .nothing ⟨rfl, rfl, rfl, rfl, rfl, rfl⟩ nofun
  rcases ite_eq_iff.1 h with ⟨-, h⟩ | ⟨-, h⟩
  · cases h
    exact .nothing ⟨rfl, rfl, rfl, rfl, rfl, rfl⟩ nofun
  · cases h
    exact .nothing (.refl sub) nofun

/-- What each message of a chain of notifications keeps, the chain keeps. -/
theorem returnMoreNotifs_invariant {P : Bool → Subscription V E → Prop}
    (hsend : ∀ {sub sub' : Subscription V E} {allocated : Bool}
      {response : Response V E}, P true sub →
      sub.sendNotificationMsg limits copy allocated = some (sub', response) →
      P response.moreNotifs sub') :
    ∀ (requests : List Bool) {more : Bool} {sub sub' : Subscription V E}
      {responses : List (Response V E)}, P more sub →
      returnMoreNotifs limits copy more sub requests = some (sub', responses) →
      ∃ more', P more' sub' := by
  intro requests
  induction requests with
  | nil =>
    intro more sub sub' responses hP h
    cases h
    exact ⟨more, hP⟩
  | cons allocated requests ih =>
    intro more sub sub' responses hP h
    rw [returnMoreNotifs] at h
    split_ifs at h with hmore
    · obtain ⟨⟨sent, response⟩, hsent, h⟩ := bind_eq_some_iff.1 h
      obtain ⟨⟨last, others⟩, hlast, h⟩ := bind_eq_some_iff.1 h
      cases h
      rw [hmore] at hP
      exact ih (hsend hP hsent) hlast
    · cases h
      exact ⟨more, hP⟩

/-- The effect of the publishing timer: the subscription is closed, or there is a transition and,
    after a response, a chain of notifications. -/
theorem publishTimer_cases {requests : List Bool} {responses : List (Response V E)}
    (h : sub.publishTimer limits copy requests = some (sub', responses)) :
    sub' = sub.close ∨
    ∃ sub₁ sub₂ response, SameContent sub sub₁ ∧ Publishes limits copy False sub₁ sub₂ response ∧
      (response = none ∧ sub' = sub₂ ∨
        ∃ r others, response = some r ∧
          returnMoreNotifs limits copy r.moreNotifs sub₂ requests.tail = some (sub', others)) := by
  have hchecked : SameContent sub (sub.checkLifetime (!requests.isEmpty)).1 ∧
      ((sub.checkLifetime (!requests.isEmpty)).2 = true →
        (sub.checkLifetime (!requests.isEmpty)).1 = sub) := by
    unfold checkLifetime
    split_ifs
    · exact ⟨⟨rfl, rfl, rfl, rfl, rfl, rfl⟩, nofun⟩
    · exact ⟨.refl sub, fun _ => rfl⟩
    · exact ⟨⟨rfl, rfl, rfl, rfl, rfl, rfl⟩, nofun⟩
  unfold publishTimer at h
  generalize sub.checkLifetime (!requests.isEmpty) = checked at h hchecked
  obtain ⟨sub₁, closed⟩ := checked
  dsimp only at h hchecked
  split_ifs at h with hclosed
  · cases h
    left
    rw [hchecked.2 hclosed]
  right
  obtain ⟨⟨sub₂, response⟩, htimeout, h⟩ := bind_eq_some_iff.1 h
  refine ⟨sub₁, sub₂, response, hchecked.1, publishTimeout_publishes htimeout, ?_⟩
  rcases response with _ | r
  · cases h
    exact .inl ⟨rfl, rfl⟩
  obtain ⟨⟨last, others⟩, hlast, h⟩ := bind_eq_some_iff.1 h
  cases h
  exact .inr ⟨r, others, rfl, hlast⟩

end S2opc.SubscriptionCore.Subscription
