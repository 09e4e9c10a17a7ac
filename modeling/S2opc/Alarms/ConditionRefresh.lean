/-
ConditionRefresh and ConditionRefresh2 (`libs2opc_methods_alarm_conditions.c`).

A method call tests `g_atomic_refreshOnGoing`, posts the refresh to the looper
and sets the flag; the looper executes the refresh and resets the flag.  Each
access is one step, and the calls, one after the other on their thread, are
interleaved with the looper in any way.
-/
import S2opc.Lib.Run

namespace S2opc.Alarms

open Lib.Run

/-- The status that a call returns and that is posted with the refresh. -/
inductive OpcStatus where
  | good
  | badRefreshInProgress
  | badNothingToDo
  | badSubscriptionIdInvalid
  deriving DecidableEq, Repr

/-- Where the thread of the calls is in `SOPC_MethodCall_ConditionRefresh`. -/
inductive Caller where
  | idle
  | tested (opcStatus : OpcStatus)
  | posted (opcStatus : OpcStatus)
  deriving DecidableEq, Repr

/-- The flag, the events in the queue of the looper, and if it executes a refresh. -/
structure State where
  refreshOnGoing : Bool
  caller : Caller
  queue : List OpcStatus
  refreshing : Bool

inductive Step where
  | test (isInit : Bool) (nbRefreshEvents : Nat) (subId : UInt32)
  | post (ok : Bool)
  | finishCall
  | takeEvent
  | leaveEarly
  | finishRefresh

namespace State

variable (s : State)

/-- The tests of a call. -/
def opcStatus (nbRefreshEvents : Nat) (subId : UInt32) : OpcStatus :=
  if s.refreshOnGoing = true then .badRefreshInProgress
  else if nbRefreshEvents = 0 then .badNothingToDo
  else if subId = 0 then .badSubscriptionIdInvalid
  else .good

/-- One step; a thread that is not there stays where it is.  A call on which nothing is posted
    ends at once. -/
def step : Step → State
  | .test isInit nbRefreshEvents subId =>
    if s.caller = .idle ∧ isInit = true then
      { s with caller := .tested (s.opcStatus nbRefreshEvents subId) }
    else s
  | .post ok =>
    match s.caller with
    | .tested opcStatus =>
      if ok = true then { s with caller := .posted opcStatus, queue := s.queue ++ [opcStatus] }
      else { s with caller := .idle }
    | _ => s
  | .finishCall =>
    match s.caller with
    | .posted opcStatus =>
      { s with caller := .idle, refreshOnGoing := opcStatus = .good || s.refreshOnGoing }
    | _ => s
  | .takeEvent =>
    match s.refreshing, s.queue with
    | false, opcStatus :: queue => { s with queue := queue, refreshing := opcStatus = .good }
    | _, _ => s
  -- The dictionary of the notifiers cannot be created
  | .leaveEarly => { s with refreshing := false }
  | .finishRefresh =>
    if s.refreshing = true then { s with refreshing := false, refreshOnGoing := false } else s

/-- The refreshes that were accepted and are not finished. -/
def pending : Nat := s.queue.count .good + s.refreshing.toNat

/-- The flag tells if a refresh is pending, and if none is the next valid call is accepted. -/
structure Exact : Prop where
  flag_iff : s.refreshOnGoing = true ↔ 0 < s.pending
  accepts : s.pending = 0 → ∀ nbRefreshEvents subId, nbRefreshEvents ≠ 0 → subId ≠ 0 →
    s.opcStatus nbRefreshEvents subId = .good

/-- The looper goes through the whole of a refresh, and does not end it before its call has set
    the flag. -/
def Undisturbed (i : Step) : Prop :=
  i ≠ .leaveEarly ∧ (i = .finishRefresh → s.caller ≠ .posted .good)

structure Inv : Prop where
  pending_le : s.pending ≤ 1
  tested : s.caller = .tested .good → s.pending = 0
  posted : s.caller = .posted .good → s.pending = 1
  flag_iff : s.caller ≠ .posted .good → (s.refreshOnGoing = true ↔ 0 < s.pending)

variable {s}

theorem Inv.step (h : s.Inv) {i : Step} (hi : s.Undisturbed i) : (s.step i).Inv := by
  obtain ⟨flag, caller, queue, refreshing⟩ := s
  have ⟨hle, htested, hposted, hflag⟩ := h
  simp only [pending] at hle htested hposted hflag
  cases i with
  | test isInit nbRefreshEvents subId =>
    simp only [State.step]
    split_ifs with hidle
    · obtain ⟨rfl, -⟩ := hidle
      -- A call that is accepted has found no refresh
      refine ⟨hle, fun hgood => ?_, nofun, fun _ => hflag nofun⟩
      cases flag with
      | true => cases hgood
      | false => exact Nat.eq_zero_of_not_pos fun hpos => nomatch (hflag nofun).2 hpos
    · exact h
  | post ok =>
    cases caller with
    | tested opcStatus =>
      cases ok <;> constructor <;> simp only [State.step, pending, ↓reduceIte] <;> grind
    | _ => exact h
  | finishCall =>
    cases caller with
    | posted opcStatus =>
      by_cases hgood : opcStatus = .good
      · constructor <;> simp only [State.step, pending, hgood] <;> grind
      · have hsame := hflag fun h => hgood (Caller.posted.inj h)
        constructor <;> simp only [State.step, pending, hgood] <;> grind
    | _ => exact h
  | takeEvent =>
    rcases refreshing with _ | _
    · rcases queue with _ | ⟨opcStatus, queue⟩
      · exact h
      have hpending : pending ⟨flag, caller, queue, opcStatus = .good⟩ =
          (opcStatus :: queue).count .good + false.toNat := by
        cases opcStatus <;> simp [pending]
      constructor <;> simp only [State.step, hpending] <;> assumption
    · exact h
  | leaveEarly => exact absurd rfl hi.1
  | finishRefresh =>
    have hset := hi.2 rfl
    cases refreshing with
    | true => constructor <;> simp only [State.step, pending] <;> grind
    | false => exact h

theorem Inv.exact (h : s.Inv) (hidle : s.caller = .idle) : s.Exact := by
  have hflag := h.flag_iff (by rw [hidle]; nofun)
  refine ⟨hflag, fun hnone _ _ hevents hsub => ?_⟩
  rw [opcStatus, if_neg (fun hset => by have := hflag.1 hset; omega), if_neg hevents, if_neg hsub]

/-- No call and no refresh. -/
def initial : State := ⟨false, .idle, [], false⟩

/-- In a run that the looper does not disturb, at most one refresh is pending, and the flag is exact
    whenever no call is being executed. -/
theorem refresh_exact_run {steps : List Step} (h : EveryStep step Undisturbed initial steps) :
    EveryState step (fun s => s.pending ≤ 1 ∧ (s.caller = .idle → s.Exact)) initial steps := by
  have hinitial : initial.Inv := ⟨Nat.zero_le 1, nofun, nofun, fun _ => by decide⟩
  have hinv := h.everyState (fun _ _ hs hi => hs.step hi) hinitial
  exact hinv.mono fun s hs => ⟨hs.pending_le, hs.exact⟩

theorem refresh_exact_run_once :
    EveryState step (fun s => s.pending ≤ 1 ∧ (s.caller = .idle → s.Exact)) initial
      [.test true 1 1, .post true, .takeEvent, .finishCall, .finishRefresh] :=
  refresh_exact_run ⟨⟨nofun, nofun⟩, ⟨nofun, nofun⟩, ⟨nofun, nofun⟩, ⟨nofun, nofun⟩,
    ⟨nofun, fun _ => nofun⟩, trivial⟩

/-- A refresh that ends before its call sets the flag leaves it set: no later call is accepted. -/
theorem early_refresh_blocks :
    let s := [.test true 1 1, .post true, .takeEvent, .finishRefresh, .finishCall].foldl step initial
    s.caller = .idle ∧ s.pending = 0 ∧ s.refreshOnGoing = true ∧
      s.opcStatus 1 1 = .badRefreshInProgress := by
  decide

end State

end S2opc.Alarms
