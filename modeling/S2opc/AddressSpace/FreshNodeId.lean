/-
The fresh node identifiers of an address space (`sopc_address_space.c`).

For each namespace, an array keeps the next numeric identifier to try.
`SOPC_AddressSpace_GetFreshNodeId` tries the identifiers from there on, as many
as `SOPC_FRESH_NODEID_MAX_RETRIES`, and gives the first one that no node has.
The array grows with the namespaces that are asked for, except with the first
one behind its end, and the end of the search is a sum of 32 bits.
-/
import S2opc.BuiltinTypes.Basic
import S2opc.Lib.Run

namespace S2opc.AddressSpace

open BuiltinTypes Lib.Run List Option

/-! ## The functions -/

/-- `SOPC_AddressSpace`: the identifiers of its nodes, and `array_maxNsNumId`. -/
structure Space where
  nodes : List NodeId
  maxNsNumId : List UInt32

/-- `CompareNodeNumIdWithMaxId_ForEachNS`, on the array and on whether the status is still
    `SOPC_STATUS_OK`. -/
def compareNodeNumIdWithMaxId (ctx : List UInt32 × Bool) (nodeId : NodeId) : List UInt32 × Bool :=
  if nodeId.namespaceIndex.toNat < ctx.1.length % 2 ^ 16 then
    match nodeId.data with
    | .numeric n =>
      (ctx.1.modify nodeId.namespaceIndex.toNat fun currMax => if currMax < n then n else currMax, ctx.2)
    | _ => ctx
  else (ctx.1, false)

/-- `SOPC_AddressSpace_MaxNsNumId_Initialize`. -/
def maxNsNumIdInitialize (nodes : List NodeId) (nbNs : UInt16) : Option Space :=
  let ctx := nodes.foldl compareNodeNumIdWithMaxId (List.replicate nbNs.toNat 0, true)
  if ctx.2 then some ⟨nodes, ctx.1⟩ else none

/-- The loop of `SOPC_AddressSpace_GetFreshNodeId`, for the identifiers that are left to try:
    where it stops, and the identifier that no node has. -/
def tryIds (nodes : List NodeId) (ns : UInt16) : Nat → UInt32 → UInt32 × Option NodeId
  | 0, id => (id, none)
  | left + 1, id =>
    if ⟨ns, .numeric id⟩ ∈ nodes then tryIds nodes ns left (id + 1)
    else (id + 1, some ⟨ns, .numeric id⟩)

namespace Space

variable (retries : UInt32) (a : Space) (ns : UInt16)

/-- The array after `SOPC_Array_Append_Values`, which adds as many values as the index of the
    namespace. -/
def grown : List UInt32 :=
  if a.maxNsNumId.length < ns.toNat then a.maxNsNumId ++ List.replicate ns.toNat 0
  else a.maxNsNumId

/-- `SOPC_AddressSpace_GetFreshNodeId`; no result if the assertion of `SOPC_Array_Get_Ptr` fails. -/
def getFreshNodeId : Option (Space × Option NodeId) := do
  let maxNsNumId ← (a.grown ns)[ns.toNat]?
  let first := if maxNsNumId = 0 then 1 else maxNsNumId
  let finalMaxId := first + retries
  -- The loop ends when `*maxNsNumId` is no longer below `finalMaxId`
  let (next, nodeId) := tryIds a.nodes ns (finalMaxId.toNat - first.toNat) first
  some ({ a with maxNsNumId := (a.grown ns).set ns.toNat next }, nodeId)

end Space

/-! ## Runs -/

/-- What is asked of an address space. -/
inductive Request where
  | fresh (ns : UInt16)
  | addNode (nodeId : NodeId)
  | deleteNode (nodeId : NodeId)
  deriving DecidableEq

/-- An address space, with the identifiers it has given. -/
structure Served where
  space : Space
  given : List NodeId

/-- A request; there is no state after a failed assertion. -/
def Served.step (retries : UInt32) (s : Option Served) (request : Request) : Option Served := do
  let s ← s
  match request with
  | .fresh ns =>
    let (space, nodeId) ← s.space.getFreshNodeId retries ns
    some ⟨space, s.given ++ nodeId.toList⟩
  | .addNode nodeId => some ⟨{ s.space with nodes := nodeId :: s.space.nodes }, s.given⟩
  | .deleteNode nodeId => some ⟨{ s.space with nodes := s.space.nodes.filter (· ≠ nodeId) }, s.given⟩

namespace Served

variable (retries : UInt32) (s : Served) (ns : UInt16)

/-- The number of the first identifier to try. -/
def firstId : Nat := max 1 (s.space.maxNsNumId[ns.toNat]?.getD 0).toNat

/-- All identifiers to try are there, and have a node. -/
def AllInUse : Prop :=
  ∀ k < retries.toNat, ∃ n : UInt32, n.toNat = s.firstId ns + k ∧ ⟨ns, .numeric n⟩ ∈ s.space.nodes

/-- A request for a fresh identifier is answered, with an identifier other than 0 that no node has
    and that was not given before, unless all identifiers to try have a node. -/
def Answers : Prop :=
  ∃ space nodeId, s.space.getFreshNodeId retries ns = some (space, nodeId) ∧
    (nodeId = none → s.AllInUse retries ns) ∧
    ∀ given ∈ nodeId, (∃ n, n ≠ 0 ∧ given = ⟨ns, .numeric n⟩) ∧ given ∉ s.space.nodes ∧
      given ∉ s.given

/-- The namespace is not the first one behind the end of the array, nor is the array empty, and the
    identifiers to try end before the last one, or all of them have a node. -/
def HasCandidates : Prop :=
  (s.space.maxNsNumId ≠ [] ∧ ns.toNat ≠ s.space.maxNsNumId.length) ∧
    (s.firstId ns + retries.toNat < 2 ^ 32 ∨ s.AllInUse retries ns)

/-- The identifiers that were given are below the next ones to try. -/
def GivenBelow : Prop :=
  ∀ nodeId ∈ s.given, ∃ n next : UInt32, nodeId.data = .numeric n ∧
    s.space.maxNsNumId[nodeId.namespaceIndex.toNat]? = some next ∧ n.toNat < next.toNat

end Served

/-! ## The search -/

variable {retries : UInt32} {nodes : List NodeId} {ns : UInt16} {id : UInt32} {left : Nat}

/-- The identifiers are tried in order, up to one that no node has. -/
theorem tryIds_cases (nodes : List NodeId) (ns : UInt16) (h : id.toNat + left < 2 ^ 32) :
    (tryIds nodes ns left id).2 = none ∧ id.toNat ≤ (tryIds nodes ns left id).1.toNat ∧
        (∀ k < left, ∃ n : UInt32, n.toNat = id.toNat + k ∧ ⟨ns, .numeric n⟩ ∈ nodes) ∨
      ∃ n : UInt32, (tryIds nodes ns left id).2 = some ⟨ns, .numeric n⟩ ∧
        (id.toNat ≤ n.toNat ∧ n.toNat < id.toNat + left) ∧
        n.toNat < (tryIds nodes ns left id).1.toNat ∧ ⟨ns, .numeric n⟩ ∉ nodes := by
  induction left generalizing id with
  | zero => exact .inl ⟨rfl, Nat.le_refl _, fun k hk => absurd hk (Nat.not_lt_zero k)⟩
  | succ left ih =>
    have hnext : (id + 1).toNat = id.toNat + 1 := by
      rw [UInt32.toNat_add]
      exact Nat.mod_eq_of_lt (by show id.toNat + 1 < 2 ^ 32; omega)
    rw [tryIds]
    split_ifs with hmem
    · rcases ih (show (id + 1).toNat + left < 2 ^ 32 by omega) with
        ⟨hnone, hle, hall⟩ | ⟨n, hsome, hle, hlt, hfree⟩
      · refine .inl ⟨hnone, by omega, fun k hk => ?_⟩
        rcases k with _ | k
        · exact ⟨id, rfl, hmem⟩
        · obtain ⟨n, hn, hused⟩ := hall k (by omega)
          exact ⟨n, by omega, hused⟩
      · exact .inr ⟨n, hsome, by omega, hlt, hfree⟩
    · exact .inr ⟨id, rfl, by omega, by show id.toNat < (id + 1).toNat; omega, hmem⟩

namespace Space

variable {a : Space}

/-- The growth of the array does not reach the namespace that is asked for. -/
theorem getElem?_grown_eq_none
    (h : ¬(a.maxNsNumId ≠ [] ∧ ns.toNat ≠ a.maxNsNumId.length)) : (a.grown ns)[ns.toNat]? = none := by
  rw [List.getElem?_eq_none_iff, grown]
  by_cases hnil : a.maxNsNumId = []
  · rw [hnil]
    split_ifs with hlt
    · rw [nil_append, length_replicate]
    · exact Nat.zero_le _
  · have heq : ns.toNat = a.maxNsNumId.length := by
      by_contra hne
      exact h ⟨hnil, hne⟩
    rw [if_neg (by omega)]
    exact Nat.le_of_eq heq.symm

theorem getElem?_grown_of_some {i : Nat} {next : UInt32} (h : a.maxNsNumId[i]? = some next) :
    (a.grown ns)[i]? = some next := by
  unfold grown
  split_ifs
  · rw [getElem?_append_left (List.getElem?_eq_some_iff.1 h).1, h]
  · exact h

theorem getElem?_grown (h : a.maxNsNumId ≠ [] ∧ ns.toNat ≠ a.maxNsNumId.length) :
    (a.grown ns)[ns.toNat]? = some (a.maxNsNumId[ns.toNat]?.getD 0) := by
  rcases hnext : a.maxNsNumId[ns.toNat]? with _ | next
  · -- The namespace is one of those added at the end
    have hle := List.getElem?_eq_none_iff.1 hnext
    have hpos := List.length_pos_iff.2 h.1
    rw [grown, if_pos (by omega), getElem?_append_right hle, getElem?_replicate,
      if_pos (by omega)]
    rfl
  · exact getElem?_grown_of_some hnext

end Space

namespace Served

variable {s : Served}

theorem toNat_first (next : UInt32) :
    (if next = 0 then 1 else next).toNat = max 1 next.toNat := by
  by_cases h : next = 0
  · rw [h]
    rfl
  · have hpos : next.toNat ≠ 0 := fun hzero => h (UInt32.toNat_inj.1 hzero)
    rw [if_neg h]
    omega

/-- What a request that finds its place in the array gives. -/
theorem getFreshNodeId_spec (retries : UInt32)
    (h : s.space.maxNsNumId ≠ [] ∧ ns.toNat ≠ s.space.maxNsNumId.length) :
    ∃ (next : UInt32) (nodeId : Option NodeId), s.space.getFreshNodeId retries ns =
        some (⟨s.space.nodes, (s.space.grown ns).set ns.toNat next⟩, nodeId) ∧
      s.firstId ns ≤ next.toNat ∧
      ((nodeId = none ∧ (s.firstId ns + retries.toNat < 2 ^ 32 → s.AllInUse retries ns)) ∨
        ∃ n : UInt32, nodeId = some ⟨ns, .numeric n⟩ ∧ s.firstId ns + retries.toNat < 2 ^ 32 ∧
          s.firstId ns ≤ n.toNat ∧ n.toNat < next.toNat ∧ ⟨ns, .numeric n⟩ ∉ s.space.nodes) := by
  have hfirst := toNat_first (s.space.maxNsNumId[ns.toNat]?.getD 0)
  unfold Space.getFreshNodeId
  simp only [Space.getElem?_grown h, bind_eq_bind, bind_some]
  generalize (if s.space.maxNsNumId[ns.toNat]?.getD 0 = 0 then 1
    else s.space.maxNsNumId[ns.toNat]?.getD 0) = first at hfirst ⊢
  refine ⟨_, _, rfl, ?_⟩
  have hsum := UInt32.toNat_add first retries
  have hlt := first.toNat_lt
  have hretries := retries.toNat_lt
  unfold AllInUse firstId
  rw [← hfirst]
  have hend : first.toNat + ((first + retries).toNat - first.toNat) < 2 ^ 32 := by omega
  rcases tryIds_cases s.space.nodes ns hend with
    ⟨hnone, hle, hall⟩ | ⟨n, hsome, hle, hbelow, hfree⟩
  · exact ⟨hle, .inl ⟨hnone, fun hroom k hk => hall k (by omega)⟩⟩
  · -- The sum has not wrapped, as an identifier was tried
    exact ⟨by omega, .inr ⟨n, hsome, by omega, hle.1, hbelow, hfree⟩⟩

theorem answers_iff (hbelow : s.GivenBelow) : s.Answers retries ns ↔ s.HasCandidates retries ns := by
  unfold Answers HasCandidates
  by_cases hplace : s.space.maxNsNumId ≠ [] ∧ ns.toNat ≠ s.space.maxNsNumId.length
  · rw [and_iff_right hplace]
    obtain ⟨next, nodeId, hget, -, hcases⟩ := getFreshNodeId_spec retries hplace
    constructor
    · rintro ⟨space, nodeId, hget', hnone, -⟩
      cases hget.symm.trans hget'
      rcases hcases with ⟨hnodeId, -⟩ | ⟨n, -, hroom, -⟩
      · exact .inr (hnone hnodeId)
      · exact .inl hroom
    · intro hroom
      rcases hcases with ⟨rfl, hall⟩ | ⟨n, rfl, -, hle, -, hfree⟩
      · exact ⟨_, _, hget, fun _ => hroom.elim hall fun h => h, nofun⟩
      · refine ⟨_, _, hget, nofun, ?_⟩
        rintro _ ⟨⟩
        refine ⟨⟨n, ?_, rfl⟩, hfree, fun hgiven => ?_⟩
        · rintro rfl
          exact absurd (Nat.le_trans (Nat.le_max_left 1 _) hle) (by decide)
        · -- Those given before are below the first one that was tried
          obtain ⟨m, next', hm, hnext', hlt⟩ := hbelow _ hgiven
          cases hm
          rw [firstId, hnext', getD_some] at hle
          omega
  · refine iff_of_false ?_ fun h => hplace h.1
    rintro ⟨space, nodeId, hget, -⟩
    rw [Space.getFreshNodeId, Space.getElem?_grown_eq_none hplace] at hget
    cases hget

/-! ## The identifiers that were given -/

theorem givenBelow_step (hbelow : s.GivenBelow) (request : Request) :
    ∀ s' ∈ Served.step retries (some s) request, s'.GivenBelow := by
  intro s' hs'
  cases request with
  | addNode nodeId =>
    cases hs'
    exact hbelow
  | deleteNode nodeId =>
    cases hs'
    exact hbelow
  | fresh ns =>
    obtain ⟨⟨space, fresh⟩, hget, heq⟩ := bind_eq_some_iff.1 hs'
    cases heq
    by_cases hplace : s.space.maxNsNumId ≠ [] ∧ ns.toNat ≠ s.space.maxNsNumId.length
    swap
    · rw [Space.getFreshNodeId, Space.getElem?_grown_eq_none hplace] at hget
      cases hget
    obtain ⟨next, nodeId, hget', hnext, hcases⟩ := getFreshNodeId_spec retries hplace
    cases hget.symm.trans hget'
    have hlength := (List.getElem?_eq_some_iff.1 (Space.getElem?_grown hplace)).1
    intro nodeId hmem
    rcases mem_append.1 hmem with hold | hnew
    · obtain ⟨n, next', hn, hnext', hlt⟩ := hbelow nodeId hold
      by_cases heq : ns.toNat = nodeId.namespaceIndex.toNat
      · rw [firstId, heq, hnext', getD_some] at hnext
        refine ⟨n, next, hn, ?_, by omega⟩
        show ((s.space.grown ns).set ns.toNat next)[nodeId.namespaceIndex.toNat]? = _
        rw [← heq, getElem?_set_self hlength]
      · refine ⟨n, next', hn, ?_, hlt⟩
        show ((s.space.grown ns).set ns.toNat next)[nodeId.namespaceIndex.toNat]? = _
        rw [getElem?_set_ne heq, Space.getElem?_grown_of_some hnext']
    · rcases hcases with ⟨rfl, -⟩ | ⟨n, rfl, -, -, hlt, -⟩
      · cases hnew
      · obtain rfl := mem_singleton.1 hnew
        exact ⟨n, next, rfl, getElem?_set_self hlength, hlt⟩

/-- In every run, each request for a fresh identifier is answered as it should exactly if it finds a
    place in the array and room for the identifiers to try. -/
theorem fresh_run_iff (retries : UInt32) (space : Space) (requests : List Request) :
    EveryStep (Served.step retries)
        (fun s request => ∀ a ∈ s, ∀ ns, request = .fresh ns → a.Answers retries ns)
        (some ⟨space, []⟩) requests ↔
      EveryStep (Served.step retries)
        (fun s request => ∀ a ∈ s, ∀ ns, request = .fresh ns → a.HasCandidates retries ns)
        (some ⟨space, []⟩) requests := by
  refine everyStep_iff_everyStep (fun s request (hinv : ∀ a ∈ s, a.GivenBelow) _ => ?_) ?_ ?_
  · rcases s with _ | s
    · exact fun _ h => nomatch h
    · exact givenBelow_step (hinv s rfl) request
  · intro s request hinv
    exact forall₂_congr fun a ha => forall₂_congr fun ns _ => answers_iff (hinv a ha)
  · rintro _ ⟨⟩ nodeId hnil
    cases hnil

/-- A space with two namespaces and the node of the last identifier of the second one. -/
def lastIdSpace : Space := ⟨[⟨1, .numeric 4294967295⟩], [0, 4294967295]⟩

/-- No identifier is tried behind that node, and the first namespace that is not in the array is
    not added to it. -/
theorem fresh_ids_refused :
    maxNsNumIdInitialize [⟨1, .numeric 4294967295⟩] 2 = some lastIdSpace ∧
      (lastIdSpace.getFreshNodeId 100000 1).map Prod.snd = some none ∧
      lastIdSpace.getFreshNodeId 100000 2 = none ∧
      ¬ EveryStep (Served.step 100000)
        (fun s request => ∀ a ∈ s, ∀ ns, request = .fresh ns → a.Answers 100000 ns)
        (some ⟨lastIdSpace, []⟩) [.fresh 1] := by
  refine ⟨rfl, rfl, rfl, fun h => ?_⟩
  obtain ⟨space, nodeId, hget, hnone, -⟩ := h.1 _ rfl 1 rfl
  have hnodeId : nodeId = none := (Prod.mk.inj (Option.some.inj hget)).2.symm
  -- A single node cannot have two of the identifiers to try
  obtain ⟨n, hn, -⟩ := hnone hnodeId 1 (by decide)
  have hlt := n.toNat_lt
  have hfirst : Served.firstId ⟨lastIdSpace, []⟩ 1 = 4294967295 := rfl
  omega

end Served

end S2opc.AddressSpace
