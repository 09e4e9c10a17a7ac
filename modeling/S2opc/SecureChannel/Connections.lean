/-
The indexes of the connections, of `sopc_secure_connection_state_mgr.c`.

`SC_InitNewConnection` gives out the indexes from 1 to the maximum, each in its
turn, and `SC_ApplyToAllSCs` stops before the maximum: a re-evaluation never
examines the connection that has it.
-/
import S2opc.Lib.Run

namespace S2opc.SecureChannel.Connections

open Lib.Run

inductive SecureConnectionState where
  | scClosed
  | scClosing
  | tcpReverseToken
  | tcpReverseInit
  | tcpInit
  | tcpNegotiate
  | scInit
  | scConnecting
  | scConnected
  | scConnectedRenew
  deriving DecidableEq

structure SecureConnection where
  state : SecureConnectionState
  isServerConnection : Bool

/-- `secureConnectionsArray` and `lastSecureConnectionArrayIdx`. -/
structure Context where
  connections : Nat → SecureConnection
  last : Nat

/-- What happens to the connections: a new one, whose list of requests is allocated or not, and the
    other steps of the connection that `SC_GetConnection` gives for an index. -/
inductive Event where
  | initNewConnection (allocated : Bool)
  | become (idx : Nat) (connection : SecureConnection)

def init : Context := ⟨fun _ => ⟨.scClosed, false⟩, 0⟩

-- `SOPC_MAX_SECURE_CONNECTIONS_PLUS_BUFFERED`
variable (max : Nat)

/-- The loop of `SC_InitNewConnection`, which is back at the last index after `max + 1` steps. -/
def searchClosed (s : Context) : (steps connectionIdx : Nat) → Option Nat
  | 0, _ => none
  | steps + 1, connectionIdx =>
    if connectionIdx < max then
      if (s.connections (connectionIdx + 1)).state = .scClosed then some (connectionIdx + 1)
      else if connectionIdx + 1 = s.last then none
      else searchClosed s steps (connectionIdx + 1)
    else if 0 = s.last then none
    else searchClosed s steps 0

def step (s : Context) : Event → Context
  | .initNewConnection allocated =>
    match searchClosed max s (max + 1) s.last with
    | none => s
    | some idx =>
      { connections := Function.update s.connections idx { s.connections idx with state := .tcpInit }
        last := if allocated then idx else s.last }
  | .become idx connection =>
    if 0 < idx ∧ idx ≤ max ∧ (s.connections idx).state ≠ .scClosed then
      { s with connections := Function.update s.connections idx connection }
    else s

/-- The connections after some events. -/
def run (events : List Event) : Context :=
  events.foldl (step max) init

/-- A connection that `SOPC_Internal_SC_ReEvaluate` does not return from at once. -/
def established (isServer : Bool) (connection : SecureConnection) : Bool :=
  isServer = connection.isServerConnection ∧
    (connection.state = .scConnected ∨ connection.state = .scConnectedRenew)

/-- `SC_ApplyToAllSCs` of `SOPC_Internal_SC_ReEvaluate`, which changes none but the connection it
    examines. -/
def examined (isServer : Bool) (s : Context) : List Nat :=
  (List.range' 1 (max - 1)).filter fun idx => established isServer (s.connections idx)

variable {max}

theorem searchClosed_mem {s : Context} {steps connectionIdx idx : Nat}
    (h : searchClosed max s steps connectionIdx = some idx) : 0 < idx ∧ idx ≤ max := by
  induction steps generalizing connectionIdx with
  | zero => cases h
  | succ steps ih =>
    unfold searchClosed at h
    split_ifs at h with hlt
    · cases h
      omega
    · exact ih h
    · exact ih h

/-- Only the connections of the indexes that are given out leave the closed state. -/
theorem closed_of_run (events : List Event) {idx : Nat} (hidx : ¬ (0 < idx ∧ idx ≤ max)) :
    ((run max events).connections idx).state = .scClosed := by
  suffices h : EveryState (step max) (fun s => (s.connections idx).state = .scClosed) init events from
    h.last
  refine everyState_of_invariant (fun s event hs => ?_) rfl
  have hkept {idx' : Nat} (hidx' : 0 < idx' ∧ idx' ≤ max) (connection : SecureConnection) :
      (Function.update s.connections idx' connection idx).state = .scClosed := by
    rwa [Function.update_of_ne fun (heq : idx = idx') => hidx (heq ▸ hidx')]
  rcases event with allocated | ⟨idx', connection⟩
  · dsimp only [step]
    split
    · exact hs
    · rename_i hfound
      exact hkept (searchClosed_mem hfound) _
  dsimp only [step]
  split_ifs with hopen
  · exact hkept ⟨hopen.1, hopen.2.1⟩ _
  · exact hs

/-- After any events, each established connection is examined once iff the one of the last index is
    not established. -/
theorem examined_once_iff (events : List Event) (isServer : Bool) :
    (∀ idx, established isServer ((run max events).connections idx) →
      (examined max isServer (run max events)).count idx = 1) ↔
      ¬ established isServer ((run max events).connections max) := by
  unfold examined
  constructor
  · intro h hmax
    have hcount := h max hmax
    rw [List.count_eq_zero_of_not_mem] at hcount
    · cases hcount
    · simp only [List.mem_filter, List.mem_range'_1]
      omega
  · intro hmax idx hidx
    have hin : 0 < idx ∧ idx ≤ max := by
      by_contra hout
      simp [established, closed_of_run events hout] at hidx
    have hne : idx ≠ max := fun heq => hmax (heq ▸ hidx)
    apply List.count_eq_one_of_mem (List.Nodup.filter _ List.nodup_range')
    rw [List.mem_filter, List.mem_range'_1]
    exact ⟨by omega, hidx⟩

/-- The connection of the last index is established on the server, and not examined. -/
theorem last_connection_not_examined :
    ∃ events : List Event, established true ((run 26 events).connections 26) = true ∧
      (examined 26 true (run 26 events)).count 26 = 0 :=
  ⟨List.replicate 26 (.initNewConnection true) ++ [.become 26 ⟨.scConnected, true⟩], by decide +kernel⟩

end S2opc.SecureChannel.Connections
