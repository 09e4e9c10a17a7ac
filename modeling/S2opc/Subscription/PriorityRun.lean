/-
The order of the subscriptions of a session in all of its runs.

Whatever the operations, the queues of the arrays hold each live subscription
once, at the index of its priority.  What is not kept is the order: since the
insertion moves one priority at most, the priorities stay in increasing order
exactly as long as a new one has at most one higher priority in the session.
-/
import S2opc.Lib.Run
import S2opc.Subscription.PriorityOrder

namespace S2opc.Subscription.Priority

open SessionPriorities Lib.Run List Option Function

/-! ## The queues hold the live subscriptions -/

/-- The entries hold the live subscriptions, each one in the queue of its priority. -/
structure Exact (priority : Nat → Option UInt8) (entries : List Entry) : Prop where
  nodup : ∀ e ∈ entries, e.2.Nodup
  nonempty : ∀ e ∈ entries, e.2 ≠ []
  mem_iff : ∀ e ∈ entries, ∀ sub, sub ∈ e.2 ↔ priority sub = some e.1
  live : ∀ sub p, priority sub = some p → p ∈ entries.map Prod.fst

/-- The number of subscriptions is the one of the live ones. -/
def Counted (s : SessionPriorities) : Prop :=
  ∃ subs : List Nat, subs.Nodup ∧ (∀ sub, sub ∈ subs ↔ (s.priority sub).isSome = true) ∧
    s.nbSubscriptions = subs.length

variable {priority : Nat → Option UInt8} {entries : List Entry} {sub : Nat} {p : UInt8}

/-- The live subscription is in the queue of its entry. -/
theorem Exact.entry (h : Exact priority entries) (hp : priority sub = some p) :
    ∃ e ∈ entries, e.1 = p ∧ sub ∈ e.2 := by
  obtain ⟨e, he, rfl⟩ := List.mem_map.1 (h.live sub p hp)
  exact ⟨e, he, rfl, (h.mem_iff e he sub).2 hp⟩

/-- The priorities of the entries are those of the live subscriptions. -/
theorem Exact.mem_keys_iff (h : Exact priority entries) :
    p ∈ entries.map Prod.fst ↔ ∃ sub, priority sub = some p := by
  constructor
  · intro hp
    obtain ⟨e, he, rfl⟩ := List.mem_map.1 hp
    obtain ⟨sub, hsub⟩ := exists_mem_of_ne_nil _ (h.nonempty e he)
    exact ⟨sub, (h.mem_iff e he sub).1 hsub⟩
  · rintro ⟨sub, hsub⟩
    exact h.live sub p hsub

variable {queue : List Nat} {entries' : List Entry}

/-- The queue of a priority made anew, or taken away if it is empty. -/
theorem Exact.replace {priority' : Nat → Option UInt8} (h : Exact priority entries)
    (hothers : ∀ other q, q ≠ p → (priority' other = some q ↔ priority other = some q))
    (hqueue : ∀ other, other ∈ queue ↔ priority' other = some p) (hnodup : queue.Nodup)
    (hmem : ∀ f, f ∈ entries' ↔ f = (p, queue) ∧ queue ≠ [] ∨ f ∈ entries ∧ f.1 ≠ p) :
    Exact priority' entries' := by
  refine ⟨fun f hf => ?_, fun f hf => ?_, fun f hf other => ?_, fun other q hq => ?_⟩
  · rcases (hmem f).1 hf with ⟨rfl, -⟩ | ⟨hf, -⟩
    · exact hnodup
    · exact h.nodup f hf
  · rcases (hmem f).1 hf with ⟨rfl, hne⟩ | ⟨hf, -⟩
    · exact hne
    · exact h.nonempty f hf
  · rcases (hmem f).1 hf with ⟨rfl, -⟩ | ⟨hf, hfp⟩
    · exact hqueue other
    · rw [h.mem_iff f hf, hothers other f.1 hfp]
  · by_cases hqp : q = p
    · have hin := (hqueue other).2 (hqp ▸ hq)
      exact List.mem_map.2 ⟨_, (hmem _).2 (.inl ⟨rfl, ne_nil_of_mem hin⟩), hqp.symm⟩
    · obtain ⟨e, he, rfl, -⟩ := h.entry ((hothers other q hqp).1 hq)
      exact List.mem_map.2 ⟨e, (hmem e).2 (.inr ⟨he, hqp⟩), rfl⟩

/-- A subscription added to the entry of its priority, new or not. -/
theorem Exact.add (h : Exact priority entries) (hsub : priority sub = none)
    (hqueue : ∀ other, other ∈ queue ↔ other = sub ∨ priority other = some p) (hnodup : queue.Nodup)
    (hmem : ∀ f, f ∈ entries' ↔ f = (p, queue) ∨ f ∈ entries ∧ f.1 ≠ p) :
    Exact (Function.update priority sub (some p)) entries' := by
  have hne : queue ≠ [] := ne_nil_of_mem ((hqueue sub).2 (.inl rfl))
  refine h.replace (p := p) (fun other q hq => ?_) (fun other => ?_) hnodup fun f => ?_
  · by_cases hother : other = sub <;> simp [hother, hsub, Ne.symm hq]
  · rw [hqueue]
    by_cases hother : other = sub <;> simp [hother]
  · rw [hmem, and_iff_left hne]

variable {e : Entry}

/-- A subscription taken out of the entry of its priority, which is removed if it was the last
    one. -/
theorem Exact.remove (h : Exact priority entries) (he : e ∈ entries) (hsub : sub ∈ e.2) (hmem : ∀ f,
      f ∈ entries' ↔ f = (e.1, e.2.erase sub) ∧ e.2.length ≠ 1 ∨ f ∈ entries ∧ f.1 ≠ e.1) :
    Exact (Function.update priority sub none) entries' := by
  have hpriority : priority sub = some e.1 := (h.mem_iff e he sub).1 hsub
  have hne : e.2.erase sub ≠ [] ↔ e.2.length ≠ 1 := by
    have hpos := length_pos_of_mem hsub
    rw [← List.length_pos_iff, length_erase_of_mem hsub]
    omega
  refine h.replace (p := e.1) (fun other q hq => ?_) (fun other => ?_) ((h.nodup e he).erase sub)
    fun f => ?_
  · by_cases hother : other = sub <;> simp [hother, hpriority, Ne.symm hq]
  · rw [(h.nodup e he).mem_erase_iff, h.mem_iff e he]
    by_cases hother : other = sub <;> simp [hother]
  · rw [hmem, hne]

/-! ## The operations on the entries -/

theorem priority_foldl_move (s : SessionPriorities) (indexes : List Nat) (f g : Nat → Nat) :
    (indexes.foldl (fun s k => s.move (f k) (g k)) s).priority = s.priority ∧
      (indexes.foldl (fun s k => s.move (f k) (g k)) s).nbSubscriptions = s.nbSubscriptions := by
  induction indexes generalizing s with
  | nil => exact ⟨rfl, rfl⟩
  | cons k indexes ih => exact ih (s.move (f k) (g k))

theorem deleteSubscription_fields (s : SessionPriorities) (sub : Nat) :
    (s.deleteSubscription sub).priority = Function.update s.priority sub none ∧
      (s.deleteSubscription sub).nbSubscriptions = s.nbSubscriptions - 1 := by
  have hremove : ∀ idx, (s.removeIndex idx).priority = s.priority ∧
      (s.removeIndex idx).nbSubscriptions = s.nbSubscriptions := fun idx =>
    priority_foldl_move (s.removePriority idx) (range (s.nbPriorities - idx)) _ _
  rw [deleteSubscription]
  split
  · exact ⟨rfl, rfl⟩
  split_ifs
  · split
    · exact ⟨rfl, rfl⟩
    split_ifs
    · rw [(hremove _).1, (hremove _).2]
      exact ⟨rfl, rfl⟩
    · exact ⟨rfl, rfl⟩
    · exact ⟨rfl, rfl⟩
  · exact ⟨rfl, rfl⟩

variable {s : SessionPriorities}

/-- The deletion takes the subscription out of the entry of its priority. -/
theorem Represents.deleteSubscription (h : Represents s entries) (he : e ∈ entries)
    (hpriority : s.priority sub = some e.1) (hsub : sub ∈ e.2) :
    ∃ entries', Represents (s.deleteSubscription sub) entries' ∧
      (entries'.map Prod.fst).Sublist (entries.map Prod.fst) ∧
      ∀ f, f ∈ entries' ↔ f = (e.1, e.2.erase sub) ∧ e.2.length ≠ 1 ∨ f ∈ entries ∧ f.1 ≠ e.1 := by
  have hidx : s.priorityIdx e.1 ≠ 0 := fun hzero =>
    h.priorityIdx_eq_zero_iff.1 hzero (List.mem_map_of_mem he)
  have hqueue := h.queue_of_mem he
  have hpos := length_pos_of_mem hsub
  by_cases hone : e.2.length = 1
  · obtain ⟨entries', hrep, hkeys, hmem⟩ := h.erase he
    have hdeleted : Represents (s.deleteSubscription sub) entries' := by
      apply hrep.congr <;>
        simp [SessionPriorities.deleteSubscription, hpriority, hidx, hqueue, hone]
    refine ⟨entries', hdeleted, hkeys, fun f => ?_⟩
    rw [hmem f]
    tauto
  · obtain ⟨entries', hrep, hkeys, hmem⟩ := h.replace he (e.2.erase sub)
    have hmore : 1 < e.2.length := by omega
    have hdeleted : Represents (s.deleteSubscription sub) entries' := by
      apply hrep.congr <;>
        simp [SessionPriorities.deleteSubscription, hpriority, hidx, hqueue, hone, hmore]
    refine ⟨entries', hdeleted, (by rw [hkeys]), fun f => ?_⟩
    rw [hmem f]
    tauto

theorem insertLoop_fields (p : UInt8) (idx : Nat) (prio : Option UInt8) (s : SessionPriorities) :
    (insertLoop p idx prio s).2.priority = s.priority ∧
      (insertLoop p idx prio s).2.nbSubscriptions = s.nbSubscriptions := by
  induction idx generalizing prio s with
  | zero => exact ⟨rfl, rfl⟩
  | succ idx ih =>
    rw [insertLoop]
    split_ifs
    · exact ih _ _
    · exact ⟨rfl, rfl⟩

theorem addSubscription_fields (s : SessionPriorities) (sub : Nat) (p : UInt8) (queue : List Nat) :
    (s.addSubscription sub p queue).priority = Function.update s.priority sub (some p) ∧
      (s.addSubscription sub p queue).nbSubscriptions = s.nbSubscriptions + 1 := by
  rw [addSubscription]
  split_ifs
  · show (insertLoop _ _ _ _).2.priority = _ ∧ (insertLoop _ _ _ _).2.nbSubscriptions + 1 = _
    rw [(insertLoop_fields _ _ _ _).1, (insertLoop_fields _ _ _ _).2]
    exact ⟨rfl, rfl⟩
  · exact ⟨rfl, rfl⟩

/-- The addition to a priority that exists leaves the queue as the check made it. -/
theorem Represents.addSubscription_old (h : Represents s entries) (hp : p ∈ entries.map Prod.fst)
    (sub : Nat) (queue : List Nat) : Represents (s.addSubscription sub p queue) entries := by
  have hidx : s.priorityIdx p ≠ 0 := fun hzero => h.priorityIdx_eq_zero_iff.1 hzero hp
  apply h.congr <;> simp [addSubscription, hidx]

/-- The addition of a new priority inserts it with the queue. -/
theorem Represents.addSubscription_new (h : Represents s entries) (hp : p ∉ entries.map Prod.fst)
    (sub : Nat) (queue : List Nat) :
    Represents (s.addSubscription sub p queue) (insertEntry (p, queue) entries) := by
  have hidx : s.priorityIdx p = 0 := h.idx_zero p hp
  have hprio : Represents { s with priority := Function.update s.priority sub (some p) } entries :=
    h.congr rfl rfl rfl rfl
  have hinserted := hprio.insert hp queue rfl
  apply hinserted.congr <;> simp [addSubscription, hidx]

/-! ## The order of the entries -/

/-- The priorities of the entries are in increasing order. -/
def Sorted (entries : List Entry) : Prop :=
  (entries.map Prod.fst).Pairwise (· < ·)

/-- The insertion keeps the order exactly if at most one priority is higher. -/
theorem sorted_insertEntry_iff (hsorted : Sorted entries) (hnew : e.1 ∉ entries.map Prod.fst) :
    Sorted (insertEntry e entries) ↔
      ∀ a ∈ entries.map Prod.fst, ∀ b ∈ entries.map Prod.fst, e.1 < a → e.1 < b → a = b := by
  rcases eq_nil_or_concat entries with rfl | ⟨front, last, rfl⟩
  · simp [insertEntry, Sorted]
  rw [concat_eq_append] at *
  rw [insertEntry_concat]
  simp only [Sorted, map_append, map_cons, map_nil, mem_append, mem_singleton,
    not_or, pairwise_append, pairwise_singleton, true_and, forall_eq] at hsorted hnew ⊢
  obtain ⟨hfront, hlast⟩ := hsorted
  split_ifs with hlt
  · -- The new priority goes below the last one
    simp only [map_append, map_cons, map_nil, pairwise_append, pairwise_cons,
      mem_cons, not_mem_nil, or_false, forall_eq, forall_eq_or_imp, Pairwise.nil,
      false_implies, implies_true, and_true]
    constructor
    · rintro ⟨-, -, hbelow⟩ a ha b hb hea heb
      have hall : ∀ c, c ∈ front.map Prod.fst ∨ c = last.1 → e.1 < c → c = last.1 := by
        rintro c (hc | rfl) hec
        · exact absurd (UInt8.lt_trans (hbelow c hc).1 hec) (UInt8.lt_irrefl _)
        · rfl
      rw [hall a ha hea, hall b hb heb]
    · intro hone
      refine ⟨hfront, hlt, fun a ha => ⟨?_, hlast a ha⟩⟩
      by_contra hge
      have hea : e.1 < a := UInt8.lt_of_le_of_ne (UInt8.not_lt.1 hge) fun heq => hnew.1 (heq ▸ ha)
      have heq := hone a (.inl ha) last.1 (.inr rfl) hea hlt
      exact UInt8.lt_irrefl _ (heq ▸ hlast a ha)
  · -- All the priorities are lower
    have hle : last.1 < e.1 := UInt8.lt_of_le_of_ne (UInt8.not_lt.1 hlt) (Ne.symm hnew.2)
    have hbelow : ∀ c, c ∈ front.map Prod.fst ∨ c = last.1 → c < e.1 := by
      rintro c (hc | rfl)
      · exact UInt8.lt_trans (hlast c hc) hle
      · exact hle
    simp only [map_append, map_cons, map_nil, pairwise_append, pairwise_cons,
      mem_cons, not_mem_nil, or_false, forall_eq, forall_eq_or_imp, Pairwise.nil,
      false_implies, implies_true, and_true]
    refine iff_of_true ⟨hfront, hle, fun a ha => ⟨hlast a ha, hbelow a (.inl ha)⟩⟩ ?_
    intro a ha b _ hea _
    exact absurd (UInt8.lt_trans (hbelow a ha) hea) (UInt8.lt_irrefl _)

/-! ## A step -/

/-- The state of a session: its arrays represent entries that hold its subscriptions. -/
structure Holds (s : SessionPriorities) (entries : List Entry) : Prop where
  arrays : Represents s entries
  exact : Exact s.priority entries
  counted : Counted s

theorem holds_init : Holds .init [] where
  arrays := ⟨rfl, rfl, fun _ => rfl, fun _ => rfl, nofun, fun _ _ => rfl⟩
  exact := ⟨nofun, nofun, nofun, nofun⟩
  counted := ⟨[], nodup_nil, fun sub => by simp [SessionPriorities.init], rfl⟩

/-- Another subscription of the session has a priority. -/
def OthersUse (s : SessionPriorities) (sub : Nat) (p : UInt8) : Prop :=
  ∃ other, other ≠ sub ∧ s.priority other = some p

/-- The priority that an operation gives to a subscription, if it is accepted. -/
def givenPriority (max : Nat) (s : SessionPriorities) : Operation → Option (Nat × UInt8)
  | .create sub p =>
    if s.priority sub = none ∧ (s.checkAddSubscription max sub p false).isSome then some (sub, p)
    else none
  | .modify sub p =>
    if (s.priority sub).isSome ∧ s.priority sub ≠ some p ∧
        (s.checkAddSubscription max sub p true).isSome then some (sub, p)
    else none
  | .delete _ => none

/-- A priority given that none of the other subscriptions has is lower than at most one of
    theirs. -/
def InOrder (max : Nat) (s : SessionPriorities) (op : Operation) : Prop :=
  ∀ sub p, givenPriority max s op = some (sub, p) → ¬ OthersUse s sub p →
    ∀ a b, OthersUse s sub a → OthersUse s sub b → p < a → p < b → a = b

variable {s' : SessionPriorities}

theorem Counted.add (h : Counted s) (hsub : s.priority sub = none)
    (hpriority : s'.priority = Function.update s.priority sub (some p))
    (hnb : s'.nbSubscriptions = s.nbSubscriptions + 1) : Counted s' := by
  obtain ⟨subs, hnodup, hmem, hlength⟩ := h
  have hnot : sub ∉ subs := by simp [hmem, hsub]
  refine ⟨sub :: subs, nodup_cons.2 ⟨hnot, hnodup⟩, fun other => ?_, ?_⟩
  · rw [hpriority, update_apply, mem_cons, hmem]
    by_cases hother : other = sub <;> simp [hother]
  · rw [hnb, hlength, length_cons]

theorem Counted.remove (h : Counted s) (hsub : s.priority sub = some p)
    (hpriority : s'.priority = Function.update s.priority sub none)
    (hnb : s'.nbSubscriptions = s.nbSubscriptions - 1) : Counted s' := by
  obtain ⟨subs, hnodup, hmem, hlength⟩ := h
  have hin : sub ∈ subs := by simp [hmem, hsub]
  refine ⟨subs.erase sub, hnodup.erase sub, fun other => ?_, ?_⟩
  · rw [hpriority, update_apply, hnodup.mem_erase_iff, hmem]
    by_cases hother : other = sub <;> simp [hother]
  · rw [hnb, hlength, length_erase_of_mem hin]

variable {max : Nat}

/-- What `check_add_subscription` makes of the arrays: nothing for a new priority, and the
    subscription at the end of the queue for one that exists. -/
theorem Holds.checkAddSubscription (h : Holds s entries) {isModifySub : Bool}
    (hcheck : s.checkAddSubscription max sub p isModifySub = some (s', queue)) :
    p ∉ entries.map Prod.fst ∧ s' = s ∧ queue = [sub] ∨
      ∃ e ∈ entries, e.1 = p ∧ queue = e.2 ++ [sub] ∧ s'.priority = s.priority ∧
        s'.nbSubscriptions = s.nbSubscriptions ∧
        ∃ entries', Represents s' entries' ∧ entries'.map Prod.fst = entries.map Prod.fst ∧
          ∀ f, f ∈ entries' ↔ f = (p, queue) ∨ f ∈ entries ∧ f.1 ≠ p := by
  rw [SessionPriorities.checkAddSubscription] at hcheck
  generalize (if isModifySub = true then s.nbSubscriptions - 1 else s.nbSubscriptions) = nbSub at hcheck
  split_ifs at hcheck with hfull hidx
  · cases hcheck
    exact .inl ⟨h.arrays.priorityIdx_eq_zero_iff.1 hidx, rfl, rfl⟩
  cases hcheck
  rw [h.arrays.priorityIdx_eq_zero_iff, not_not] at hidx
  obtain ⟨e, he, rfl⟩ := List.mem_map.1 hidx
  rw [h.arrays.queue_of_mem he]
  exact .inr ⟨e, he, rfl, rfl, rfl, rfl, h.arrays.replace he _⟩

/-- A priority in use that a subscription does not have is one of the others. -/
theorem Holds.othersUse (h : Holds s entries) (he : e ∈ entries) (hsub : s.priority sub ≠ some e.1) :
    OthersUse s sub e.1 := by
  obtain ⟨other, hother⟩ := exists_mem_of_ne_nil _ (h.exact.nonempty e he)
  rw [h.exact.mem_iff e he] at hother
  exact ⟨other, fun heq => hsub (heq ▸ hother), hother⟩

/-- A queue that a new subscription joins. -/
theorem Exact.concat_queue (h : Exact priority entries) (sub : Nat) (he : e ∈ entries)
    (hsub : priority sub ≠ some e.1) :
    (∀ other, other ∈ e.2 ++ [sub] ↔ other = sub ∨ priority other = some e.1) ∧
      (e.2 ++ [sub]).Nodup := by
  constructor
  · intro other
    rw [mem_append, mem_singleton, h.mem_iff e he]
    tauto
  · have hnot : sub ∉ e.2 := fun hin => hsub ((h.mem_iff e he sub).1 hin)
    rw [nodup_append_comm, singleton_append, nodup_cons]
    exact ⟨hnot, h.nodup e he⟩

variable {op : Operation}

/-- An operation that gives no new priority is in order. -/
theorem inOrder_of_none (h : givenPriority max s op = none) : InOrder max s op := by
  intro sub p hgiven
  rw [h] at hgiven
  cases hgiven

theorem inOrder_of_used (h : givenPriority max s op = some (sub, p)) (hused : OthersUse s sub p) :
    InOrder max s op := by
  intro sub' p' hgiven hnot
  rw [h] at hgiven
  cases hgiven
  exact absurd hused hnot

/-- An operation that gives a new priority, in terms of the priorities of the entries of the other
    subscriptions. -/
theorem inOrder_iff_of_new (h : givenPriority max s op = some (sub, p))
    (hothers : ∀ a, a ∈ entries.map Prod.fst ↔ OthersUse s sub a)
    (hnew : p ∉ entries.map Prod.fst) :
    InOrder max s op ↔
      ∀ a ∈ entries.map Prod.fst, ∀ b ∈ entries.map Prod.fst, p < a → p < b → a = b := by
  constructor
  · intro horder a ha b hb
    exact horder sub p h (fun hused => hnew ((hothers p).2 hused)) a b ((hothers a).1 ha)
      ((hothers b).1 hb)
  · intro hone sub' p' hgiven _ a b ha hb
    rw [h] at hgiven
    cases hgiven
    exact hone a ((hothers a).2 ha) b ((hothers b).2 hb)

/-- A subscription added with a new priority. -/
theorem Holds.insert_new (h : Holds s entries) (hsub : s.priority sub = none)
    (hnew : p ∉ entries.map Prod.fst) :
    Holds (s.addSubscription sub p [sub]) (insertEntry (p, [sub]) entries) := by
  have hfields := addSubscription_fields s sub p [sub]
  refine ⟨h.arrays.addSubscription_new hnew sub [sub], ?_, h.counted.add hsub hfields.1 hfields.2⟩
  rw [hfields.1]
  refine h.exact.add hsub (fun other => ?_) (nodup_singleton sub) (fun f => ?_)
  · simpa using fun hother => absurd (h.exact.live other p hother) hnew
  · have hne : f ∈ entries → f.1 ≠ p := fun hf hfp => hnew (hfp ▸ List.mem_map_of_mem hf)
    rw [mem_insertEntry]
    tauto

/-- The creation of a subscription. -/
theorem Holds.createSubscription (h : Holds s entries) (max sub : Nat) (p : UInt8) :
    ∃ entries', Holds (s.createSubscription max sub p) entries' ∧
      (Sorted entries → (Sorted entries' ↔ InOrder max s (.create sub p))) := by
  rw [SessionPriorities.createSubscription]
  cases hsub : s.priority sub with
  | some q => exact ⟨entries, h, fun hs => iff_of_true hs (inOrder_of_none (by simp [givenPriority, hsub]))⟩
  | none =>
    rcases hcheck : s.checkAddSubscription max sub p false with _ | checked
    · exact ⟨entries, h,
        fun hs => iff_of_true hs (inOrder_of_none (by simp [givenPriority, hcheck]))⟩
    obtain ⟨s', queue⟩ := checked
    have hgiven : givenPriority max s (.create sub p) = some (sub, p) := by
      simp [givenPriority, hsub, hcheck]
    have hfields := addSubscription_fields s' sub p queue
    rcases h.checkAddSubscription hcheck with
      ⟨hnew, rfl, rfl⟩ | ⟨e, he, rfl, rfl, hpriority, hnb, entries', hrep, hkeys, hmem⟩
    · -- A new priority is inserted
      have hothers : ∀ a, a ∈ entries.map Prod.fst ↔ OthersUse s' sub a := fun a => by
        rw [h.exact.mem_keys_iff]
        refine exists_congr fun other => ⟨fun ho => ⟨?_, ho⟩, fun ho => ho.2⟩
        rintro rfl
        rw [hsub] at ho
        cases ho
      refine ⟨insertEntry (p, [sub]) entries, h.insert_new hsub hnew, fun hs => ?_⟩
      rw [inOrder_iff_of_new hgiven hothers hnew]
      exact sorted_insertEntry_iff hs hnew
    · -- The priority has a queue
      obtain ⟨hqueue, hnodup⟩ := h.exact.concat_queue sub he (by rw [hsub]; nofun)
      have hused := h.othersUse he (show s.priority sub ≠ _ by rw [hsub]; nofun)
      refine ⟨entries',
        ⟨hrep.addSubscription_old (hkeys ▸ List.mem_map_of_mem he) sub _, ?_,
          h.counted.add hsub (hpriority ▸ hfields.1) (hnb ▸ hfields.2)⟩, fun hs => ?_⟩
      · rw [hfields.1, hpriority]
        exact h.exact.add hsub hqueue hnodup hmem
      · exact iff_of_true (by rwa [Sorted, hkeys]) (inOrder_of_used hgiven hused)

/-- The deletion of a subscription. -/
theorem Holds.deleteSubscription (h : Holds s entries) (hsub : s.priority sub = some p) :
    ∃ entries', Holds (s.deleteSubscription sub) entries' ∧
      (entries'.map Prod.fst).Sublist (entries.map Prod.fst) := by
  obtain ⟨e, he, rfl, hin⟩ := h.exact.entry hsub
  obtain ⟨entries', hrep, hkeys, hmem⟩ := h.arrays.deleteSubscription he hsub hin
  have hfields := deleteSubscription_fields s sub
  refine ⟨entries', ⟨hrep, ?_, h.counted.remove hsub hfields.1 hfields.2⟩, hkeys⟩
  rw [hfields.1]
  exact h.exact.remove he hin hmem

variable {old : UInt8}

section

variable (h : Holds s entries)
include h

/-- The modification of a subscription to a priority that none has: it is deleted, then added. -/
theorem Holds.modify_new (hsub : s.priority sub = some old)
    (hnew : p ∉ entries.map Prod.fst)
    (hgiven : givenPriority max s (.modify sub p) = some (sub, p)) :
    ∃ entries', Holds ((s.deleteSubscription sub).addSubscription sub p [sub]) entries' ∧
      (Sorted entries → (Sorted entries' ↔ InOrder max s (.modify sub p))) := by
  obtain ⟨rest, hrest, hkeys⟩ := h.deleteSubscription hsub
  have hpriority := (deleteSubscription_fields s sub).1
  have hnone : (s.deleteSubscription sub).priority sub = none := by
    rw [hpriority, update_self]
  have hnew' : p ∉ rest.map Prod.fst := fun hp => hnew (hkeys.subset hp)
  have hothers : ∀ a, a ∈ rest.map Prod.fst ↔ OthersUse s sub a := fun a => by
    rw [hrest.exact.mem_keys_iff]
    refine exists_congr fun other => ?_
    rw [hpriority, update_apply]
    by_cases hother : other = sub <;> simp [hother]
  refine ⟨insertEntry (p, [sub]) rest, hrest.insert_new hnone hnew', fun hs => ?_⟩
  rw [inOrder_iff_of_new hgiven hothers hnew']
  exact sorted_insertEntry_iff (hs.sublist hkeys) hnew'

/-- The modification of a subscription to the priority of others: it is in two queues between the
    check and the deletion. -/
theorem Holds.modify_old (hsub : s.priority sub = some old) (he : e ∈ entries)
    (hold : old ≠ e.1) (hpriority : s'.priority = s.priority)
    (hnb : s'.nbSubscriptions = s.nbSubscriptions) {checked : List Entry}
    (hrep : Represents s' checked) (hkeys : checked.map Prod.fst = entries.map Prod.fst)
    (hmem : ∀ f, f ∈ checked ↔ f = (e.1, e.2 ++ [sub]) ∨ f ∈ entries ∧ f.1 ≠ e.1) :
    ∃ entries', Holds ((s'.deleteSubscription sub).addSubscription sub e.1 (e.2 ++ [sub])) entries' ∧
      (entries'.map Prod.fst).Sublist (entries.map Prod.fst) := by
  obtain ⟨o, ho, rfl, hin⟩ := h.exact.entry hsub
  have hchecked : o ∈ checked := (hmem o).2 (.inr ⟨ho, hold⟩)
  obtain ⟨rest, hrest, hsublist, hmem'⟩ := hrep.deleteSubscription hchecked (hpriority ▸ hsub) hin
  have hrest_keys : e.1 ∈ rest.map Prod.fst :=
    List.mem_map.2 ⟨(e.1, e.2 ++ [sub]),
      (hmem' _).2 (.inr ⟨(hmem _).2 (.inl rfl), Ne.symm hold⟩), rfl⟩
  have hdeleted := deleteSubscription_fields s' sub
  have hadded := addSubscription_fields (s'.deleteSubscription sub) sub e.1 (e.2 ++ [sub])
  -- The entries without the subscription, as if it were deleted before the check
  let without : List Entry :=
    (if o.2.length ≠ 1 then [(o.1, o.2.erase sub)] else []) ++ entries.filter (·.1 ≠ o.1)
  have hwithout : ∀ f, f ∈ without ↔
      f = (o.1, o.2.erase sub) ∧ o.2.length ≠ 1 ∨ f ∈ entries ∧ f.1 ≠ o.1 := fun f => by
    by_cases hlength : o.2.length = 1 <;> simp [without, hlength]
  have hexact := h.exact.remove ho hin hwithout
  have hcounted : Counted (s'.deleteSubscription sub) := by
    apply h.counted.remove hsub
    · rw [hdeleted.1, hpriority]
    · rw [hdeleted.2, hnb]
  obtain ⟨hqueue, hnodup⟩ := h.exact.concat_queue sub he (by rw [hsub]; simpa using hold)
  refine ⟨rest, ⟨hrest.addSubscription_old hrest_keys sub _, ?_, ?_⟩, hkeys ▸ hsublist⟩
  · rw [hadded.1, hdeleted.1, hpriority]
    refine hexact.add (update_self ..) (fun other => ?_) hnodup (fun f => ?_)
    · rw [hqueue, update_apply]
      by_cases hother : other = sub <;> simp [hother]
    · rw [hmem', hmem, hwithout]
      constructor
      · rintro (⟨rfl, hlength⟩ | ⟨rfl | ⟨hf, hfe⟩, hfo⟩)
        · exact .inr ⟨.inl ⟨rfl, hlength⟩, hold⟩
        · exact .inl rfl
        · exact .inr ⟨.inr ⟨hf, hfo⟩, hfe⟩
      · rintro (rfl | ⟨hf | ⟨hf, hfo⟩, hfe⟩)
        · exact .inr ⟨.inl rfl, Ne.symm hold⟩
        · exact .inl hf
        · exact .inr ⟨.inr ⟨hf, hfe⟩, hfo⟩
  · have hnone : (s'.deleteSubscription sub).priority sub = none := by
      rw [hdeleted.1, update_self]
    exact hcounted.add hnone hadded.1 hadded.2

/-- The modification of the priority of a subscription. -/
theorem Holds.modifySubscription (max sub : Nat) (p : UInt8) :
    ∃ entries', Holds (s.modifySubscription max sub p) entries' ∧
      (Sorted entries → (Sorted entries' ↔ InOrder max s (.modify sub p))) := by
  have hsame : givenPriority max s (.modify sub p) = none →
      ∃ entries', Holds s entries' ∧
        (Sorted entries → (Sorted entries' ↔ InOrder max s (.modify sub p))) := fun hgiven =>
    ⟨entries, h, fun hs => iff_of_true hs (inOrder_of_none hgiven)⟩
  rw [SessionPriorities.modifySubscription]
  rcases hsub : s.priority sub with _ | old
  · exact hsame (by simp [givenPriority, hsub])
  dsimp only
  split_ifs with hold
  · exact hsame (by simp [givenPriority, hsub, hold])
  rcases hcheck : s.checkAddSubscription max sub p true with _ | checked
  · exact hsame (by simp [givenPriority, hcheck])
  obtain ⟨s', queue⟩ := checked
  have hgiven : givenPriority max s (.modify sub p) = some (sub, p) := by
    simp [givenPriority, hsub, hcheck, hold]
  rcases h.checkAddSubscription hcheck with
    ⟨hnew, rfl, rfl⟩ | ⟨e, he, rfl, rfl, hpriority, hnb, entries', hrep, hkeys, hmem⟩
  · exact h.modify_new hsub hnew hgiven
  obtain ⟨rest, hrest, hsublist⟩ := h.modify_old hsub he hold hpriority hnb hrep hkeys hmem
  have hused := h.othersUse he (show s.priority sub ≠ _ by rw [hsub]; simpa using hold)
  exact ⟨rest, hrest, fun hs => iff_of_true (hs.sublist hsublist) (inOrder_of_used hgiven hused)⟩

/-- Each step keeps the queues, and it keeps the order exactly if it is in order. -/
theorem Holds.step (max : Nat) (op : Operation) :
    ∃ entries', Holds (step max s op) entries' ∧
      (Sorted entries → (Sorted entries' ↔ InOrder max s op)) := by
  cases op with
  | create sub p => exact h.createSubscription max sub p
  | modify sub p => exact h.modifySubscription max sub p
  | delete sub =>
    rw [Priority.step]
    split_ifs with hsub
    · obtain ⟨p, hp⟩ := isSome_iff_exists.1 hsub
      obtain ⟨rest, hrest, hkeys⟩ := h.deleteSubscription hp
      exact ⟨rest, hrest, fun hs => iff_of_true (hs.sublist hkeys) (inOrder_of_none rfl)⟩
    · exact ⟨entries, h, fun hs => iff_of_true hs (inOrder_of_none rfl)⟩

end

/-! ## The iteration -/

/-- The subscriptions of the first entries, from the last of these on. -/
def subscriptionsBelow (entries : List Entry) (k : Nat) : List Nat :=
  (entries.take k).reverse.flatMap Prod.snd

variable {k : Nat}

theorem subscriptionsBelow_succ (he : entries[k]? = some e) :
    subscriptionsBelow entries (k + 1) = e.2 ++ subscriptionsBelow entries k := by
  rw [subscriptionsBelow, take_add_one, he, reverse_append]
  rfl

theorem iterate_none (s : SessionPriorities) (fuel : Nat) : iterate s fuel none = [] := by
  cases fuel <;> rfl

/-- The iterator meets what is left of its queue, then the queues of the lower indexes. -/
theorem iterate_eq (h : Represents s entries) (hne : ∀ e ∈ entries, e.2 ≠ []) (fuel : Nat)
    (hk : k ≤ entries.length) (hqueue : queue ≠ [])
    (hfuel : queue.length + (subscriptionsBelow entries k).length ≤ fuel) :
    iterate s fuel (some ⟨k, k ≠ 0, queue⟩) = queue ++ subscriptionsBelow entries k := by
  induction fuel generalizing k queue with
  | zero =>
    have := length_pos_of_ne_nil hqueue
    omega
  | succ fuel ih =>
    obtain ⟨sub, tail, rfl⟩ := exists_cons_of_ne_nil hqueue
    rw [iterate]
    by_cases htail : tail = []
    · subst htail
      rcases Nat.eq_zero_or_pos k with rfl | hpos
      · simp [continueIter, subscriptionsBelow, iterate_none]
      -- The next queue is the one at the index below
      obtain ⟨n, rfl⟩ : ∃ n, k = n + 1 := ⟨k - 1, by omega⟩
      obtain ⟨e, he⟩ : ∃ e, entries[n]? = some e := ⟨_, getElem?_eq_getElem (by omega)⟩
      have hopen : openPriority s (n + 1) = ⟨n, n ≠ 0, e.2⟩ := by
        rw [openPriority, h.queue, he]
        rfl
      rw [subscriptionsBelow_succ he] at hfuel ⊢
      have hnext : iterate s fuel (some ⟨n, n ≠ 0, e.2⟩) = e.2 ++ subscriptionsBelow entries n := by
        apply ih (by omega) (hne e (mem_of_getElem? he))
        rw [length_append, length_singleton] at hfuel
        omega
      simp only [continueIter, headD_cons, tail_cons, ne_eq, not_true_eq_false, if_false,
        Nat.add_one_ne_zero, not_false_eq_true, decide_true, if_true, hopen]
      rw [hnext]
      rfl
    · have hnext : iterate s fuel (some ⟨k, k ≠ 0, tail⟩) = tail ++ subscriptionsBelow entries k := by
        apply ih hk htail
        rw [length_cons] at hfuel
        omega
      simp only [continueIter, headD_cons, tail_cons, ne_eq, htail, not_false_eq_true,
        if_true]
      rw [hnext]
      rfl

/-- The whole iteration. -/
theorem iterate_initIter_eq (h : Represents s entries) (hne : ∀ e ∈ entries, e.2 ≠ []) {fuel : Nat}
    (hfuel : (subscriptionsBelow entries entries.length).length ≤ fuel) :
    iterate s fuel (initIter s) = subscriptionsBelow entries entries.length := by
  rw [initIter, h.nb]
  rcases eq_nil_or_concat entries with rfl | ⟨front, last, rfl⟩
  · exact iterate_none s fuel
  rw [concat_eq_append] at *
  have hlength : (front ++ [last]).length = front.length + 1 := length_append
  have hlast : (front ++ [last])[front.length]? = some last := by simp
  have hopen : openPriority s (front.length + 1) = ⟨front.length, front.length ≠ 0, last.2⟩ := by
    rw [openPriority, h.queue, hlast]
    rfl
  rw [hlength, subscriptionsBelow_succ hlast] at hfuel ⊢
  rw [if_neg (Nat.succ_ne_zero _), hopen]
  apply iterate_eq h hne fuel (by omega) (hne last (by simp))
  rwa [length_append] at hfuel

/-- The entries hold each live subscription once. -/
theorem Holds.subscriptions (h : Holds s entries) :
    (subscriptionsBelow entries entries.length).Nodup ∧
      (∀ sub, sub ∈ subscriptionsBelow entries entries.length ↔ (s.priority sub).isSome = true) ∧
      (subscriptionsBelow entries entries.length).length = s.nbSubscriptions := by
  rw [subscriptionsBelow, take_length]
  have hmem : ∀ sub, sub ∈ entries.reverse.flatMap Prod.snd ↔ (s.priority sub).isSome = true := by
    intro sub
    rw [mem_flatMap, isSome_iff_exists]
    constructor
    · rintro ⟨e, he, hsub⟩
      exact ⟨e.1, (h.exact.mem_iff e (mem_reverse.1 he) sub).1 hsub⟩
    · rintro ⟨p, hp⟩
      obtain ⟨e, he, -, hsub⟩ := h.exact.entry hp
      exact ⟨e, mem_reverse.2 he, hsub⟩
  have hnodup : (entries.reverse.flatMap Prod.snd).Nodup := by
    rw [nodup_flatMap]
    refine ⟨fun e he => h.exact.nodup e (mem_reverse.1 he), ?_⟩
    -- A subscription in two queues would have two priorities
    have hkeys : entries.reverse.Pairwise fun e f => e.1 ≠ f.1 := by
      have := nodup_reverse.2 h.arrays.nodup_keys
      rwa [← map_reverse, Nodup, pairwise_map] at this
    refine hkeys.imp_of_mem fun {e f} he hf hef sub hse hsf => hef ?_
    rw [h.exact.mem_iff e (mem_reverse.1 he)] at hse
    rw [h.exact.mem_iff f (mem_reverse.1 hf), hse] at hsf
    exact Option.some.inj hsf
  obtain ⟨subs, hsubs, hsubs_mem, hlength⟩ := h.counted
  refine ⟨hnodup, hmem, ?_⟩
  rw [hlength]
  apply Perm.length_eq
  rw [perm_ext_iff_of_nodup hnodup hsubs]
  intro sub
  rw [hmem, hsubs_mem]

/-! ## The runs -/

/-- What is expected of a session: its priorities in increasing order, at each index the queue of
    the live subscriptions of the priority, and an iteration that meets each of them once, in
    decreasing order of priority. -/
structure OrderedByPriority (s : SessionPriorities) : Prop where
  increasing : ∀ i j p q, i < j → s.seqPriority i = some p → s.seqPriority j = some q → p < q
  defined : ∀ i, (s.seqPriority i).isSome = true ↔ 1 ≤ i ∧ i ≤ s.nbPriorities
  queues : ∀ i p, s.seqPriority i = some p →
    ∃ queue, s.subsQueue i = some queue ∧ queue.Nodup ∧
      ∀ sub, sub ∈ queue ↔ s.priority sub = some p
  indexed : ∀ sub p, s.priority sub = some p → ∃ i, s.seqPriority i = some p
  met_all : ∀ fuel, s.nbSubscriptions ≤ fuel → iterate s fuel (initIter s) = metSubscriptions s
  met_once : (metSubscriptions s).Nodup
  met_iff : ∀ sub, sub ∈ metSubscriptions s ↔ (s.priority sub).isSome = true
  met_decreasing : (metSubscriptions s).Pairwise fun sub other =>
    ∀ p q, s.priority sub = some p → s.priority other = some q → q ≤ p

/-- The index of an entry. -/
theorem Represents.index_of_seq (h : Represents s entries) {i : Nat}
    (hi : s.seqPriority i = some p) :
    ∃ n e, i = n + 1 ∧ entries[n]? = some e ∧ e.1 = p := by
  rcases i with _ | n
  · rw [h.seq_zero] at hi
    cases hi
  rw [h.seq] at hi
  obtain ⟨e, he, hep⟩ := map_eq_some_iff.1 hi
  exact ⟨n, e, rfl, he, hep⟩

/-- Only the order is at stake. -/
theorem Holds.orderedByPriority_iff (h : Holds s entries) :
    OrderedByPriority s ↔ Sorted entries := by
  have hseq : ∀ {n : Nat} {e : Entry}, entries[n]? = some e → s.seqPriority (n + 1) = some e.1 := by
    intro n e he
    rw [h.arrays.seq, he]
    rfl
  constructor
  · intro hordered
    rw [Sorted, pairwise_map, pairwise_iff_getElem]
    intro i j hi hj hij
    exact hordered.increasing (i + 1) (j + 1) _ _ (by omega)
      (hseq (getElem?_eq_getElem hi)) (hseq (getElem?_eq_getElem hj))
  · intro hsorted
    obtain ⟨hnodup, hmem, hlength⟩ := h.subscriptions
    have hmet : ∀ fuel, s.nbSubscriptions ≤ fuel →
        iterate s fuel (initIter s) = subscriptionsBelow entries entries.length := fun fuel hfuel =>
      iterate_initIter_eq h.arrays h.exact.nonempty (hlength ▸ hfuel)
    have hmet' : metSubscriptions s = subscriptionsBelow entries entries.length :=
      hmet _ (Nat.le_refl _)
    refine ⟨fun i j p q hij hp hq => ?_, fun i => ?_, fun i p hp => ?_, fun sub p hp => ?_,
      fun fuel hfuel => (hmet fuel hfuel).trans hmet'.symm, hmet' ▸ hnodup, hmet' ▸ hmem, ?_⟩
    · obtain ⟨n, e, rfl, he, rfl⟩ := h.arrays.index_of_seq hp
      obtain ⟨m, f, rfl, hf, rfl⟩ := h.arrays.index_of_seq hq
      obtain ⟨hn, rfl⟩ := List.getElem?_eq_some_iff.1 he
      obtain ⟨hm, rfl⟩ := List.getElem?_eq_some_iff.1 hf
      rw [Sorted, pairwise_map, pairwise_iff_getElem] at hsorted
      exact hsorted n m hn hm (by omega)
    · rcases i with _ | n
      · simp [h.arrays.seq_zero]
      rw [h.arrays.seq, h.arrays.nb, isSome_map, isSome_iff_ne_none, ne_eq,
        List.getElem?_eq_none_iff]
      omega
    · obtain ⟨n, e, rfl, he, rfl⟩ := h.arrays.index_of_seq hp
      have hin := mem_of_getElem? he
      refine ⟨e.2, ?_, h.exact.nodup e hin, h.exact.mem_iff e hin⟩
      rw [h.arrays.queue, he]
      rfl
    · obtain ⟨e, he, rfl, -⟩ := h.exact.entry hp
      obtain ⟨n, hn⟩ := mem_iff_getElem?.1 he
      exact ⟨n + 1, hseq hn⟩
    · rw [hmet', subscriptionsBelow, take_length, pairwise_flatMap]
      constructor
      · -- The subscriptions of a queue have the same priority
        intro e he
        apply pairwise_of_forall_mem_list
        intro sub hsub other hother p q hp hq
        have hin := mem_reverse.1 he
        rw [(h.exact.mem_iff e hin sub).1 hsub] at hp
        rw [(h.exact.mem_iff e hin other).1 hother, hp] at hq
        exact UInt8.le_of_eq (Option.some.inj hq).symm
      · rw [Sorted, pairwise_map] at hsorted
        refine (pairwise_reverse.2 hsorted).imp_of_mem fun {e f} he hf hfe => ?_
        intro sub hsub other hother p q hp hq
        rw [(h.exact.mem_iff e (mem_reverse.1 he) sub).1 hsub] at hp
        rw [(h.exact.mem_iff f (mem_reverse.1 hf) other).1 hother] at hq
        rw [← Option.some.inj hp, ← Option.some.inj hq]
        exact UInt8.le_of_lt hfe

/-- The subscriptions of a session are in the order of their priorities in each state of a run
    exactly if no priority given in it comes below two others. -/
theorem ordered_run_iff (max : Nat) (ops : List Operation) :
    EveryState (step max) OrderedByPriority .init ops ↔
      EveryStep (step max) (InOrder max) .init ops := by
  have hinv : ∀ s op, (∃ entries, Holds s entries) → ∃ entries, Holds (step max s op) entries := by
    rintro s op ⟨entries, h⟩
    obtain ⟨entries', h', -⟩ := h.step max op
    exact ⟨entries', h'⟩
  apply everyState_iff_everyStep hinv
  · rintro s op ⟨entries, h⟩ hordered
    obtain ⟨entries', h', horder⟩ := h.step max op
    rw [h'.orderedByPriority_iff]
    exact horder (h.orderedByPriority_iff.1 hordered)
  · exact ⟨[], holds_init⟩
  · exact holds_init.orderedByPriority_iff.2 List.Pairwise.nil

/-- Three subscriptions of the priorities 5, 10 and 1: the last one is inserted in the middle, and
    a publish request meets it before the one of the priority 5. -/
theorem third_priority_is_misplaced :
    ¬ OrderedByPriority (run 20 [.create 1 5, .create 2 10, .create 3 1]) ∧
      metSubscriptions (run 20 [.create 1 5, .create 2 10, .create 3 1]) = [2, 3, 1] := by
  constructor
  · intro h
    have hlt : (5 : UInt8) < 1 := h.increasing 1 2 5 1 (by decide) (by decide) (by decide)
    exact absurd hlt (by decide)
  · decide

end S2opc.Subscription.Priority
