/-
The closing of a session that was not activated, to make room for another one
(`session_core_1_i.imp`, `session_core_i.imp`).

The sessions are gone through from the last to the first.  The age is compared
with the delay only until a session is found: the later ones that replace it are
older.  The sessions of both roles are in one table, and the role of the session
that was found decides what is notified, not whether it is closed: the server
closes a session of the client that it shares the table with.
-/
import Mathlib

namespace S2opc.SessionCore

/-- `t_sessionState_i`. -/
inductive SessionState where
  | closed
  | init
  | creating
  | created
  | userActivating
  | userActivated
  | scActivating
  | scOrphaned
  | closing
  deriving DecidableEq

/-- The sessions, numbered from 1: `a_state_i`, `a_client_session_i` and `a_session_init_time_i`.
    `c_timeref_indet` is 0, the time of a closed session only. -/
structure Sessions where
  card : Nat
  state : Nat → SessionState
  isClient : Nat → Bool
  initTime : Nat → UInt64
  initTime_ne : ∀ i, state i ≠ .closed → initTime i ≠ 0

inductive Notification where
  | serverSessionClosed (session : Nat)
  | setSessionState (session : Nat) (prec : SessionState) (isClient : Bool)

/-- `SOPC_TimeReference_AddMilliseconds`. -/
def addMilliseconds (timeRef ms : UInt64) : UInt64 :=
  if ms < 0xFFFFFFFFFFFFFFFF - timeRef then timeRef + ms else 0xFFFFFFFFFFFFFFFF

-- `c_session_activation_min_delay`, in seconds, and the current time
variable (minDelay : UInt32) (now : UInt64) (s : Sessions)

namespace Sessions

/-- The body of the loop in `find_session_to_close`, on the oldest session, or 0, and its time. -/
def examine (oldest : Nat × UInt64) (session : Nat) : Nat × UInt64 :=
  if s.state session = .created then
    if oldest.2 = 0 then
      -- Ensure we waited the minimum delay to allow session activation
      if addMilliseconds (s.initTime session) (minDelay.toUInt64 * 1000) < now then
        (session, s.initTime session)
      else oldest
    else if s.initTime session < oldest.2 then (session, s.initTime session)
    else oldest
  else oldest

/-- The loop, with the number of sessions to iterate. -/
def findLoop : Nat → Nat × UInt64 → Nat × UInt64
  | 0, oldest => oldest
  | i + 1, oldest => findLoop i (s.examine minDelay now oldest (i + 1))

/-- `find_session_to_close`. -/
def findSessionToClose : Option Nat :=
  let oldest := s.findLoop minDelay now s.card (0, 0)
  if oldest.1 = 0 then none else some oldest.1

/-- `is_auto_close_session_active`. -/
def isAutoCloseSessionActive : Bool :=
  s.card - ((List.range' 1 s.card).filter fun i => s.state i ≠ .closed).length ≤ 1

/-- `remove_session`. -/
def removeSession (session : Nat) : Sessions where
  card := s.card
  state := Function.update s.state session .closed
  isClient := s.isClient
  initTime := Function.update s.initTime session 0
  initTime_ne i hi := by
    by_cases heq : i = session
    · rw [heq, Function.update_self] at hi
      exact absurd rfl hi
    · rw [Function.update_of_ne heq] at hi ⊢
      exact s.initTime_ne i hi

/-- The closing of a session with the reason `e_sc_bad_session_not_activated`. -/
def close (session : Nat) : Sessions × List Notification :=
  (s.removeSession session,
    (if s.isClient session then [] else [.serverSessionClosed session]) ++
      [.setSessionState session (s.state session) (s.isClient session)])

/-- `may_close_unactivated_session`. -/
def mayCloseUnactivatedSession : Sessions × List Notification :=
  if s.isAutoCloseSessionActive then
    match s.findSessionToClose minDelay now with
    | some session => s.close session
    | none => (s, [])
  else (s, [])

/-! ## The property -/

/-- A session that is created since more than the delay. -/
def Waited (i : Nat) : Prop :=
  (1 ≤ i ∧ i ≤ s.card) ∧ s.state i = .created ∧
    (s.initTime i).toNat + minDelay.toNat * 1000 < now.toNat

/-- The oldest session of the server among those. -/
def OldestOfServer (i : Nat) : Prop :=
  s.Waited minDelay now i ∧ s.isClient i = false ∧
    ∀ j, s.Waited minDelay now j → s.isClient j = false →
      (s.initTime i).toNat ≤ (s.initTime j).toNat

/-- With at most one free session, the oldest of the server is closed, or none if there is none;
    with more, none. -/
def ClosesOldest : Prop :=
  if s.isAutoCloseSessionActive then
    (∃ i, s.OldestOfServer minDelay now i ∧
        s.mayCloseUnactivatedSession minDelay now = s.close i) ∨
      (∀ i, s.Waited minDelay now i → s.isClient i = true) ∧
        s.mayCloseUnactivatedSession minDelay now = (s, [])
  else s.mayCloseUnactivatedSession minDelay now = (s, [])

/-- A session is older than another one, or it is as old and gone through before it. -/
def Precedes (i j : Nat) : Prop :=
  (s.initTime i).toNat < (s.initTime j).toNat ∨
    (s.initTime i).toNat = (s.initTime j).toNat ∧ j < i

/-- Each session of the client that waited comes after one of the server. -/
def ClientsFollow : Prop :=
  ∀ i, s.Waited minDelay now i → s.isClient i = true →
    ∃ j, s.Waited minDelay now j ∧ s.isClient j = false ∧ s.Precedes j i

/-! ## The search -/

variable {minDelay now s}

theorem addMilliseconds_lt_iff {timeRef : UInt64} :
    addMilliseconds timeRef (minDelay.toUInt64 * 1000) < now ↔
      timeRef.toNat + minDelay.toNat * 1000 < now.toNat := by
  have hdelay := minDelay.toNat_lt
  have htime := timeRef.toNat_lt
  have hnow := now.toNat_lt
  have hms : (minDelay.toUInt64 * 1000).toNat = minDelay.toNat * 1000 := by
    rw [UInt64.toNat_mul, UInt32.toNat_toUInt64]
    exact Nat.mod_eq_of_lt (by rw [show (1000 : UInt64).toNat = 1000 from rfl]; omega)
  have hroom : (0xFFFFFFFFFFFFFFFF - timeRef).toNat = 2 ^ 64 - 1 - timeRef.toNat := by
    rw [UInt64.toNat_sub_of_le _ _ (by rw [UInt64.le_iff_toNat_le]; exact Nat.le_of_lt_succ htime)]
    rfl
  have hmax : (0xFFFFFFFFFFFFFFFF : UInt64).toNat = 2 ^ 64 - 1 := rfl
  unfold addMilliseconds
  split_ifs with hfits
  · rw [UInt64.lt_iff_toNat_lt, hms, hroom] at hfits
    rw [UInt64.lt_iff_toNat_lt, UInt64.toNat_add, hms, Nat.mod_eq_of_lt (by omega)]
  · -- The sum is beyond the greatest time, which is not less than the current one
    rw [UInt64.lt_iff_toNat_lt, hms, hroom] at hfits
    rw [UInt64.lt_iff_toNat_lt, hmax]
    omega

/-- What the loop knows of the sessions after `i`: the oldest of those that waited, and no session
    if none did. -/
def Found (minDelay : UInt32) (now : UInt64) (s : Sessions) (i : Nat) (oldest : Nat × UInt64) : Prop :=
  oldest = (0, 0) ∧ (∀ j, s.Waited minDelay now j → j ≤ i) ∨
    oldest.2 = s.initTime oldest.1 ∧ s.Waited minDelay now oldest.1 ∧ i < oldest.1 ∧
      ∀ j, s.Waited minDelay now j → i < j → j = oldest.1 ∨ s.Precedes oldest.1 j

variable {oldest : Nat × UInt64} {i : Nat}

/-- A session that waited, or that is older than one that did, becomes the oldest one. -/
theorem found_examine (hi : i < s.card) (h : Found minDelay now s (i + 1) oldest) :
    Found minDelay now s i (s.examine minDelay now oldest (i + 1)) := by
  unfold examine
  have hlast : ∀ j, i < j → j = i + 1 ∨ i + 1 < j := fun j hj => by omega
  rcases h with ⟨rfl, hnone⟩ | ⟨htime, hwaited, hlt, hfirst⟩
  · -- No session has been found yet
    have hskip : ¬ s.Waited minDelay now (i + 1) → Found minDelay now s i (0, 0) := by
      intro hw
      refine .inl ⟨rfl, fun j hj => Nat.not_lt.1 fun hij => hw ?_⟩
      rwa [Nat.le_antisymm (hnone j hj) hij] at hj
    rw [if_pos rfl]
    split_ifs with hcreated hold
    · refine .inr ⟨rfl, ⟨by omega, hcreated, addMilliseconds_lt_iff.1 hold⟩, Nat.lt_succ_self i, ?_⟩
      exact fun j hj hij => .inl (Nat.le_antisymm (hnone j hj) hij)
    · exact hskip fun hw => hold (addMilliseconds_lt_iff.2 hw.2.2)
    · exact hskip fun hw => hcreated hw.2.1
  · have hne : oldest.2 ≠ 0 := by
      rw [htime]
      exact s.initTime_ne _ (by rw [hwaited.2.1]; decide)
    have hkeep : (s.Waited minDelay now (i + 1) →
        (s.initTime oldest.1).toNat ≤ (s.initTime (i + 1)).toNat) →
        Found minDelay now s i oldest := by
      intro hafter
      refine .inr ⟨htime, hwaited, by omega, fun j hj hij => ?_⟩
      rcases hlast j hij with rfl | hij
      · have hle := hafter hj
        exact .inr (by unfold Precedes; omega)
      · exact hfirst j hj hij
    rw [if_neg hne, htime]
    simp only [UInt64.lt_iff_toNat_lt]
    split_ifs with hcreated hold
    · -- It is older than a session that waited
      have hdelay := hwaited.2.2
      refine .inr ⟨rfl, ⟨by omega, hcreated, by dsimp only; omega⟩, Nat.lt_succ_self i, ?_⟩
      intro j hj hij
      rcases hlast j hij with rfl | hij
      · exact .inl rfl
      · refine .inr (.inl ?_)
        rcases hfirst j hj hij with rfl | hprec
        · exact hold
        · unfold Precedes at hprec
          dsimp only
          omega
    · exact hkeep fun _ => Nat.not_lt.1 hold
    · exact hkeep fun hw => absurd hw.2.1 hcreated

theorem found_findLoop (hi : i ≤ s.card) (h : Found minDelay now s i oldest) :
    Found minDelay now s 0 (s.findLoop minDelay now i oldest) := by
  induction i generalizing oldest with
  | zero => exact h
  | succ i ih => exact ih (Nat.le_of_succ_le hi) (found_examine hi h)

/-- The session that is found is the first one that waited, whatever its role. -/
theorem findSessionToClose_spec :
    (s.findSessionToClose minDelay now = none ∧ ∀ i, ¬ s.Waited minDelay now i) ∨
      ∃ i, s.findSessionToClose minDelay now = some i ∧ s.Waited minDelay now i ∧
        ∀ j, s.Waited minDelay now j → j = i ∨ s.Precedes i j := by
  unfold findSessionToClose
  have hinit : Found minDelay now s s.card (0, 0) := .inl ⟨rfl, fun j hj => hj.1.2⟩
  rcases found_findLoop (Nat.le_refl _) hinit with ⟨heq, hnone⟩ | ⟨-, hwaited, hpos, hfirst⟩
  · refine .inl ⟨by rw [heq]; rfl, fun i hi => ?_⟩
    exact absurd hi.1.1 (Nat.not_lt.2 (hnone i hi))
  · refine .inr ⟨_, if_neg (Nat.ne_of_gt hpos), hwaited, fun j hj => hfirst j hj ?_⟩
    exact hj.1.1

theorem close_inj {i j : Nat} (h : s.close i = s.close j) : i = j := by
  have hlast := congrArg (fun r => r.2.getLast?) h
  simp only [close, List.getLast?_append_of_ne_nil _ (List.cons_ne_nil _ _), List.getLast?_singleton,
    Option.some.injEq, Notification.setSessionState.injEq] at hlast
  exact hlast.1

end Sessions

/-- The oldest session of the server is closed exactly if, where the closing is active, no session
    of the client comes before it. -/
theorem closesOldest_iff :
    s.ClosesOldest minDelay now ↔
      (s.isAutoCloseSessionActive = true → s.ClientsFollow minDelay now) := by
  unfold Sessions.ClosesOldest Sessions.mayCloseUnactivatedSession
  split_ifs with hactive
  · rw [forall_prop_of_true hactive]
    rcases @Sessions.findSessionToClose_spec minDelay now s with ⟨heq, hnone⟩ | ⟨i, heq, hwaited, hfirst⟩
    · rw [heq]
      exact ⟨fun _ i hi => absurd hi (hnone i), fun _ => .inr ⟨fun i hi => absurd hi (hnone i), rfl⟩⟩
    rw [heq]
    constructor
    · rintro (⟨j, hj, hclose⟩ | ⟨-, hclose⟩) k hk hclient
      · obtain rfl := Sessions.close_inj hclose
        refine ⟨i, hwaited, hj.2.1, (hfirst k hk).resolve_left ?_⟩
        rintro rfl
        exact absurd (hclient.symm.trans hj.2.1) (by decide)
      · have hnil := congrArg (fun r => r.2.length) hclose
        simp [Sessions.close] at hnil
    · intro hfollow
      refine .inl ⟨i, ⟨hwaited, ?_, fun j hj _ => ?_⟩, rfl⟩
      · -- A session of the client would come after one of the server, which would be found
        rw [← Bool.not_eq_true]
        intro hclient
        obtain ⟨j, hj, -, hprec⟩ := hfollow i hwaited hclient
        unfold Sessions.Precedes at hprec hfirst
        rcases hfirst j hj with rfl | hprec'
        · omega
        · omega
      · rcases hfirst j hj with rfl | hprec
        · exact Nat.le_refl _
        · unfold Sessions.Precedes at hprec
          omega
  · exact ⟨fun _ h => absurd h hactive, fun _ => rfl⟩

/-- One session, of the client, that was created at the time 1. -/
def clientSession : Sessions := ⟨1, fun _ => .created, fun _ => true, fun _ => 1, fun _ _ => by decide⟩

/-- The session of the client is closed. -/
theorem client_session_is_closed :
    clientSession.mayCloseUnactivatedSession 10 20000 = clientSession.close 1 ∧
      ¬ clientSession.ClosesOldest 10 20000 := by
  refine ⟨rfl, ?_⟩
  rintro (⟨i, ⟨-, hserver, -⟩, -⟩ | ⟨-, hnone⟩)
  · cases hserver
  · cases congrArg (fun r => r.2.length) hnone

end S2opc.SessionCore
