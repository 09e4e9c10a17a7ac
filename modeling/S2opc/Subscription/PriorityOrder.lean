/-
The order of the priorities of a session.

`Represents` relates the arrays of a session to the list of its priorities with
their queues, the lowest index first.  Each operation is then one on this list:
an insertion puts the new priority last or last but one, a removal takes an
entry away, and the others change one queue.  The list stays exact whatever the
operations are; it stays ordered as long as no new priority is lower than two
of those in use.
-/
import S2opc.Subscription.Priority

namespace S2opc.Subscription.Priority

open SessionPriorities List Function

/-- A priority with the queue of its subscriptions. -/
abbrev Entry := UInt8 × List Nat

/-! ## The arrays represent a list -/

/-- The arrays of a session hold the entries of a list, from the index 1 on. -/
structure Represents (s : SessionPriorities) (entries : List Entry) : Prop where
  nb : s.nbPriorities = entries.length
  seq_zero : s.seqPriority 0 = none
  seq : ∀ i, s.seqPriority (i + 1) = entries[i]?.map Prod.fst
  queue : ∀ i, s.subsQueue (i + 1) = entries[i]?.map Prod.snd
  idx : ∀ i e, entries[i]? = some e → s.priorityIdx e.1 = i + 1
  idx_zero : ∀ p, p ∉ entries.map Prod.fst → s.priorityIdx p = 0

variable {s : SessionPriorities} {entries : List Entry}

/-- Only the arrays of the priorities count. -/
theorem Represents.congr {s' : SessionPriorities} (h : Represents s entries)
    (hnb : s'.nbPriorities = s.nbPriorities) (hseq : s'.seqPriority = s.seqPriority)
    (hqueue : s'.subsQueue = s.subsQueue) (hidx : s'.priorityIdx = s.priorityIdx) :
    Represents s' entries where
  nb := hnb.trans h.nb
  seq_zero := by rw [hseq, h.seq_zero]
  seq := fun i => by rw [hseq, h.seq]
  queue := fun i => by rw [hqueue, h.queue]
  idx := fun i e he => by rw [hidx, h.idx i e he]
  idx_zero := fun p hp => by rw [hidx, h.idx_zero p hp]

variable {p : UInt8}

/-- The index of a priority is the one of its entry. -/
theorem Represents.priorityIdx_eq_zero_iff (h : Represents s entries) :
    s.priorityIdx p = 0 ↔ p ∉ entries.map Prod.fst := by
  refine ⟨fun hzero hmem => ?_, h.idx_zero p⟩
  obtain ⟨e, he, rfl⟩ := mem_map.1 hmem
  obtain ⟨i, hi⟩ := mem_iff_getElem?.1 he
  rw [h.idx i e hi] at hzero
  omega

variable {i : Nat} {e f : Entry}

/-- Each priority has one entry. -/
theorem Represents.entry_unique (h : Represents s entries) {j : Nat} (hi : entries[i]? = some e)
    (hj : entries[j]? = some f) (hef : e.1 = f.1) : i = j := by
  have hidx := h.idx i e hi
  rw [hef, h.idx j f hj] at hidx
  omega

theorem fst_mem_of_getElem? (h : entries[i]? = some e) :
    e.1 ∈ entries.map Prod.fst :=
  mem_map_of_mem (mem_of_getElem? h)

/-- A queue replaced at its index. -/
theorem Represents.setQueue (h : Represents s entries) (he : entries[i]? = some e)
    (queue : List Nat) :
    Represents (s.setQueue (i + 1) (some queue)) (entries.set i (e.1, queue)) := by
  have hlt : i < entries.length := (List.getElem?_eq_some_iff.1 he).1
  have hfst : (entries.set i (e.1, queue)).map Prod.fst = entries.map Prod.fst := by
    rw [map_set]
    apply ext_getElem?
    intro j
    rw [getElem?_set]
    split_ifs with hij hj
    · rw [← hij, getElem?_map, he]
      rfl
    · rw [← hij, getElem?_eq_none (by omega)]
    · rfl
  refine ⟨?_, h.seq_zero, fun j => ?_, fun j => ?_, fun j f hf => ?_, fun p hp => ?_⟩
  · rw [length_set]
    exact h.nb
  · rw [← getElem?_map, hfst, getElem?_map]
    exact h.seq j
  · show Function.update s.subsQueue (i + 1) (some queue) (j + 1) = _
    rw [update_apply, getElem?_set]
    split_ifs with h1 h2 <;> first | omega | skip
    · rfl
    · exact h.queue j
  · rw [getElem?_set] at hf
    split_ifs at hf with h1
    · cases hf
      rw [← h1]
      exact h.idx i e he
    · exact h.idx j f hf
  · rw [hfst] at hp
    exact h.idx_zero p hp

/-! ## A hole in the arrays -/

/-- The index of an entry of a list with a hole: those from the position `k` on are one index
    higher. -/
def place (k j : Nat) : Nat :=
  if j < k then j + 1 else j + 2

/-- The arrays hold the entries of a list with a hole. -/
structure Hole (s : SessionPriorities) (entries : List Entry) (k : Nat) : Prop where
  nb : s.nbPriorities = entries.length
  le : k ≤ entries.length
  seq_zero : s.seqPriority 0 = none
  seq_hole : s.seqPriority (k + 1) = none
  seq : ∀ j, s.seqPriority (place k j) = entries[j]?.map Prod.fst
  queue : ∀ j, s.subsQueue (place k j) = entries[j]?.map Prod.snd
  idx : ∀ j e, entries[j]? = some e → s.priorityIdx e.1 = place k j
  idx_zero : ∀ p, p ∉ entries.map Prod.fst → s.priorityIdx p = 0

theorem place_eq_succ (k j : Nat) : ∃ n, place k j = n + 1 := by
  unfold place
  split_ifs
  · exact ⟨j, rfl⟩
  · exact ⟨j + 1, rfl⟩

/-- Every index but that of the hole has an entry. -/
theorem exists_place {k n : Nat} (hn : n ≠ k) : ∃ j, place k j = n + 1 := by
  rcases Nat.lt_or_gt_of_ne hn with hlt | hgt
  · exact ⟨n, if_pos hlt⟩
  refine ⟨n - 1, ?_⟩
  rw [place, if_neg (by omega)]
  omega

/-- A hole after the last entry moves none of them. -/
theorem getElem?_of_place {n j : Nat} (hn : place entries.length j = n + 1) :
    entries[j]? = entries[n]? := by
  unfold place at hn
  split_ifs at hn with hj
  · rw [show j = n by omega]
  · rw [getElem?_eq_none (by omega), getElem?_eq_none (by omega)]

theorem place_of_getElem? (he : entries[i]? = some e) : place entries.length i = i + 1 :=
  if_pos (List.getElem?_eq_some_iff.1 he).1

/-- There is a hole after the last entry. -/
theorem Represents.hole (h : Represents s entries) : Hole s entries entries.length := by
  refine ⟨h.nb, Nat.le_refl _, h.seq_zero, ?_, fun j => ?_, fun j => ?_, fun j e he => ?_, h.idx_zero⟩
  · rw [h.seq, getElem?_eq_none (Nat.le_refl _)]
    rfl
  · obtain ⟨n, hn⟩ := place_eq_succ _ j
    rw [hn, h.seq, getElem?_of_place hn]
  · obtain ⟨n, hn⟩ := place_eq_succ _ j
    rw [hn, h.queue, getElem?_of_place hn]
  · rw [h.idx j e he, place_of_getElem? he]

/-- A hole after the last entry, once its queue is forgotten, is none. -/
theorem Hole.represents (h : Hole s entries entries.length) :
    Represents (s.setQueue (entries.length + 1) none) entries := by
  refine ⟨h.nb, h.seq_zero, fun n => ?_, fun n => ?_, fun j e he => ?_, h.idx_zero⟩
  · show s.seqPriority (n + 1) = _
    by_cases hn : n = entries.length
    · rw [hn, h.seq_hole, getElem?_eq_none (Nat.le_refl _)]
      rfl
    · obtain ⟨j, hj⟩ := exists_place hn
      rw [← hj, h.seq, getElem?_of_place hj]
  · show Function.update s.subsQueue (entries.length + 1) none (n + 1) = _
    by_cases hn : n = entries.length
    · rw [hn, update_self, getElem?_eq_none (Nat.le_refl _)]
      rfl
    · obtain ⟨j, hj⟩ := exists_place hn
      rw [update_of_ne (by omega), ← hj, h.queue, getElem?_of_place hj]
  · rw [← place_of_getElem? he]
    exact h.idx j e he

variable {k : Nat}

/-- Each priority has one entry, be there a hole. -/
theorem Hole.entry_unique (h : Hole s entries k) {j : Nat} (hi : entries[i]? = some e)
    (hj : entries[j]? = some f) (hef : e.1 = f.1) : i = j := by
  have heq := h.idx i e hi
  rw [hef, h.idx j f hj] at heq
  unfold place at heq
  split_ifs at heq <;> omega

/-- What `move` does to the index of the priorities. -/
theorem priorityIdx_move {idx0 idx1 : Nat} (h : s.seqPriority idx1 = some p) :
    (s.move idx0 idx1).priorityIdx = Function.update s.priorityIdx p idx0 := by
  simp only [SessionPriorities.move, SessionPriorities.swapPriority, SessionPriorities.setQueue, h]

theorem seqPriority_move (s : SessionPriorities) (idx0 idx1 i : Nat) :
    (s.move idx0 idx1).seqPriority i =
      if i = idx1 then none else if i = idx0 then s.seqPriority idx1 else s.seqPriority i := by
  show Function.update (Function.update s.seqPriority idx0 (s.seqPriority idx1)) idx1 none i = _
  simp only [update_apply]

theorem subsQueue_move (s : SessionPriorities) (idx0 idx1 i : Nat) :
    (s.move idx0 idx1).subsQueue i = if i = idx0 then s.subsQueue idx1 else s.subsQueue i :=
  update_apply ..

/-- An entry goes to the hole, which is then at its place. -/
theorem Hole.move (h : Hole s entries k) {k' : Nat} (he : entries[i]? = some e)
    (hi : place k i = k' + 1) (hplace : ∀ j, place k' j = if j = i then k + 1 else place k j)
    (hle : k' ≤ entries.length) (hne : k' ≠ k) :
    Hole (s.move (k + 1) (k' + 1)) entries k' := by
  have hseq : s.seqPriority (k' + 1) = some e.1 := by rw [← hi, h.seq, he]; rfl
  have hqueue : s.subsQueue (k' + 1) = some e.2 := by rw [← hi, h.queue, he]; rfl
  -- The places of the other entries are neither that of the entry nor the hole
  have hother : ∀ {j}, j ≠ i → place k j ≠ k' + 1 ∧ place k j ≠ k + 1 := by
    intro j hj
    have hj' := hplace j
    rw [if_neg hj] at hj'
    unfold place at hi hj' ⊢
    split_ifs at hi hj' ⊢ <;> omega
  refine ⟨h.nb, hle, ?_, ?_, fun j => ?_, fun j => ?_, fun j f hf => ?_, fun p hp => ?_⟩
  · rw [seqPriority_move, if_neg (by omega), if_neg (by omega), h.seq_zero]
  · rw [seqPriority_move, if_pos rfl]
  · rw [hplace, seqPriority_move]
    by_cases hj : j = i
    · rw [if_pos hj, if_neg (by omega), if_pos rfl, hseq, hj, he]
      rfl
    · rw [if_neg hj, if_neg (hother hj).1, if_neg (hother hj).2, h.seq]
  · rw [hplace, subsQueue_move]
    by_cases hj : j = i
    · rw [if_pos hj, if_pos rfl, hqueue, hj, he]
      rfl
    · rw [if_neg hj, if_neg (hother hj).2, h.queue]
  · rw [hplace, priorityIdx_move hseq]
    by_cases hj : j = i
    · rw [hj, he] at hf
      cases hf
      rw [if_pos hj, update_self]
    · have hfe : f.1 ≠ e.1 := fun hfe => hj (h.entry_unique hf he hfe)
      rw [if_neg hj, update_of_ne hfe, h.idx j f hf]
  · have hpe : p ≠ e.1 := fun hpe => hp (hpe ▸ fst_mem_of_getElem? he)
    rw [priorityIdx_move hseq, update_of_ne hpe, h.idx_zero p hp]

/-- The entry above the hole goes down, and the hole goes up. -/
theorem Hole.move_down (h : Hole s entries k) (hk : k < entries.length) :
    Hole (s.move (k + 1) (k + 2)) entries (k + 1) := by
  apply h.move (getElem?_eq_getElem hk) (if_neg (by omega)) _ hk (by omega)
  intro j
  unfold place
  split_ifs <;> omega

/-- The entry below the hole goes up, and the hole goes down. -/
theorem Hole.move_up (h : Hole s entries (k + 1)) : Hole (s.move (k + 2) (k + 1)) entries k := by
  have hk : k < entries.length := h.le
  apply h.move (getElem?_eq_getElem hk) (if_pos (by omega)) _ (by omega) (by omega)
  intro j
  unfold place
  split_ifs <;> omega

/-! ## Insertion -/

/-- Where the loop of `add_subscription` puts a new entry: before the last one if this one has a
    higher priority, and at the end otherwise. -/
def insertEntry (e : Entry) (entries : List Entry) : List Entry :=
  match entries.getLast? with
  | none => [e]
  | some last => if e.1 < last.1 then entries.dropLast ++ [e, last] else entries ++ [e]

theorem insertEntry_concat (e last : Entry) (entries : List Entry) :
    insertEntry e (entries ++ [last]) =
      if e.1 < last.1 then entries ++ [e, last] else entries ++ [last, e] := by
  simp [insertEntry]

theorem mem_insertEntry :
    f ∈ insertEntry e entries ↔ f = e ∨ f ∈ entries := by
  rcases eq_nil_or_concat entries with rfl | ⟨front, last, rfl⟩
  · simp [insertEntry]
  · rw [concat_eq_append, insertEntry_concat]
    split_ifs <;> simp only [mem_append, mem_cons, not_mem_nil, or_false] <;> tauto

/-- The loop moves one priority at most: the next one to compare is read in the hole. -/
theorem insertLoop_eq {n : Nat} (hn : 1 ≤ n) :
    insertLoop p (n + 1) (s.seqPriority n) s =
      if (s.seqPriority n).any (p < ·) = true then (n, s.move (n + 1) n) else (n + 1, s) := by
  obtain ⟨m, rfl⟩ : ∃ m, n = m + 1 := ⟨n - 1, by omega⟩
  rw [insertLoop]
  by_cases hany : (s.seqPriority (m + 1)).any (p < ·) = true
  · rw [if_pos ⟨by omega, hany⟩, if_pos hany, insertLoop]
    have hhole : (s.move (m + 1 + 1) (m + 1)).seqPriority (m + 1) = none := by
      simp [move, SessionPriorities.setQueue, swapPriority]
    rw [hhole, if_neg (by simp)]
  · rw [if_neg (fun h => hany h.2), if_neg hany]

/-- A new priority fills the hole. -/
theorem Hole.fill (h : Hole s entries k) (hp : p ∉ entries.map Prod.fst) (queue : List Nat) :
    Represents ((s.insertPriority (k + 1) p).setQueue (k + 1) (some queue))
      (entries.take k ++ (p, queue) :: entries.drop k) := by
  have hlen : (entries.take k).length = k := by rw [length_take]; exact Nat.min_eq_left h.le
  -- What stands at each position of the new list
  have hat : (entries.take k ++ (p, queue) :: entries.drop k)[k]? = some (p, queue) := by
    rw [getElem?_append_right (by omega), hlen, Nat.sub_self]
    rfl
  have hget : ∀ {n j}, place k j = n + 1 →
      (entries.take k ++ (p, queue) :: entries.drop k)[n]? = entries[j]? := by
    intro n j hn
    unfold place at hn
    split_ifs at hn with hj
    · obtain rfl : j = n := by omega
      rw [getElem?_append_left (by omega), getElem?_take_of_lt hj]
    obtain rfl : n = j + 1 := by omega
    rw [getElem?_append_right (by omega), hlen, show j + 1 - k = j - k + 1 by omega,
      getElem?_cons_succ, getElem?_drop, show k + (j - k) = j by omega]
  refine ⟨?_, ?_, fun n => ?_, fun n => ?_, fun n f hf => ?_, fun q hq => ?_⟩
  · show s.nbPriorities + 1 = _
    rw [h.nb, length_append, hlen, length_cons, length_drop]
    have := h.le
    omega
  · show Function.update s.seqPriority (k + 1) (some p) 0 = none
    rw [update_of_ne (by omega), h.seq_zero]
  · show Function.update s.seqPriority (k + 1) (some p) (n + 1) = _
    by_cases hn : n = k
    · rw [hn, update_self, hat]
      rfl
    · obtain ⟨j, hj⟩ := exists_place hn
      rw [update_of_ne (by omega), hget hj, ← hj, h.seq]
  · show Function.update s.subsQueue (k + 1) (some queue) (n + 1) = _
    by_cases hn : n = k
    · rw [hn, update_self, hat]
      rfl
    · obtain ⟨j, hj⟩ := exists_place hn
      rw [update_of_ne (by omega), hget hj, ← hj, h.queue]
  · show Function.update s.priorityIdx p (k + 1) f.1 = n + 1
    by_cases hn : n = k
    · rw [hn, hat] at hf
      cases hf
      rw [hn, update_self]
    obtain ⟨j, hj⟩ := exists_place hn
    rw [hget hj] at hf
    have hne : f.1 ≠ p := fun hfp => hp (hfp ▸ fst_mem_of_getElem? hf)
    rw [update_of_ne hne, h.idx j f hf, hj]
  · show Function.update s.priorityIdx p (k + 1) q = 0
    have hq' : q ≠ p ∧ q ∉ entries.map Prod.fst := by
      rw [← take_append_drop k entries]
      simp only [map_append, map_cons, mem_append, mem_cons, not_or] at hq ⊢
      tauto
    rw [update_of_ne hq'.1, h.idx_zero q hq'.2]

/-- The insertion of `add_subscription`. -/
theorem Represents.insert (h : Represents s entries) (hp : p ∉ entries.map Prod.fst)
    (queue : List Nat) {inserted : Nat × SessionPriorities}
    (hinserted : insertLoop p (s.nbPriorities + 1) (s.seqPriority s.nbPriorities) s = inserted) :
    Represents ((inserted.2.insertPriority inserted.1 p).setQueue inserted.1 (some queue))
      (insertEntry (p, queue) entries) := by
  rcases eq_nil_or_concat entries with rfl | ⟨front, last, rfl⟩
  · have hnb : s.nbPriorities = 0 := h.nb
    have hloop : insertLoop p 1 (s.seqPriority 0) s = (1, s) := by simp [insertLoop]
    rw [hnb, hloop] at hinserted
    subst hinserted
    exact h.hole.fill hp queue
  rw [concat_eq_append] at h hp ⊢
  have hnb : s.nbPriorities = front.length + 1 := by rw [h.nb, length_append]; rfl
  have hlast : s.seqPriority (front.length + 1) = some last.1 := by
    rw [h.seq, getElem?_append_right (Nat.le_refl _)]
    simp
  rw [hnb, insertLoop_eq (by omega), hlast] at hinserted
  rw [insertEntry_concat]
  have hhole : Hole s (front ++ [last]) (front.length + 1) := by
    have := h.hole
    rwa [length_append, length_singleton] at this
  simp only [Option.any_some, decide_eq_true_eq] at hinserted
  split_ifs at hinserted ⊢ with hlt
  · subst hinserted
    have hfill := hhole.move_up.fill hp queue
    rwa [take_left, drop_left] at hfill
  subst hinserted
  have hfill := hhole.fill hp queue
  rwa [take_of_length_le (by simp), drop_of_length_le (by simp), append_assoc] at hfill

/-! ## Removal -/

/-- The priority at an index taken away leaves a hole. -/
theorem Represents.remove (h : Represents s entries) (he : entries[i]? = some e) :
    Hole (s.removePriority (i + 1)) (entries.eraseIdx i) i := by
  have hlt : i < entries.length := (List.getElem?_eq_some_iff.1 he).1
  have hseq : s.seqPriority (i + 1) = some e.1 := by rw [h.seq, he]; rfl
  have hidx : (s.removePriority (i + 1)).priorityIdx = Function.update s.priorityIdx e.1 0 := by
    simp only [SessionPriorities.removePriority, hseq]
  -- The entry at a place is the one that stood there
  have hget : ∀ {n j}, place i j = n + 1 → (entries.eraseIdx i)[j]? = entries[n]? ∧ n ≠ i := by
    intro n j hn
    rw [getElem?_eraseIdx]
    unfold place at hn
    split_ifs at hn ⊢ with hj
    · exact ⟨by rw [show j = n by omega], by omega⟩
    · exact ⟨by rw [show j + 1 = n by omega], by omega⟩
  refine ⟨?_, ?_, ?_, update_self .., fun j => ?_, fun j => ?_, fun j f hf => ?_,
    fun p hp => ?_⟩
  · show s.nbPriorities - 1 = _
    rw [h.nb, length_eraseIdx_of_lt hlt]
  · rw [length_eraseIdx_of_lt hlt]
    omega
  · show Function.update s.seqPriority (i + 1) none 0 = none
    rw [update_of_ne (by omega), h.seq_zero]
  · obtain ⟨n, hn⟩ := place_eq_succ _ j
    show Function.update s.seqPriority (i + 1) none (place i j) = _
    obtain ⟨hj, hne⟩ := hget hn
    rw [hn, update_of_ne (by omega), hj, h.seq]
  · obtain ⟨n, hn⟩ := place_eq_succ _ j
    show s.subsQueue (place i j) = _
    rw [hn, (hget hn).1, h.queue]
  · obtain ⟨n, hn⟩ := place_eq_succ _ j
    obtain ⟨hj, hne⟩ := hget hn
    rw [hj] at hf
    have hfe : f.1 ≠ e.1 := fun hfe => hne (h.entry_unique hf he hfe)
    rw [hidx, update_of_ne hfe, h.idx n f hf, hn]
  · rw [hidx, update_apply]
    split_ifs with hpe
    · rfl
    apply h.idx_zero
    intro hmem
    obtain ⟨f, hf, rfl⟩ := mem_map.1 hmem
    obtain ⟨n, hf⟩ := mem_iff_getElem?.1 hf
    have hne : n ≠ i := fun hni => hpe (by rw [hni, he] at hf; cases hf; rfl)
    obtain ⟨j, hj⟩ := exists_place hne
    exact hp (fst_mem_of_getElem? (by rw [(hget hj).1, hf]))

/-- The loop of `delete_subscription` moves the hole up. -/
theorem Hole.move_down_range (n : Nat) (h : Hole s entries k) (hn : k + n ≤ entries.length) :
    Hole ((range n).foldl (fun s m => s.move (k + 1 + m) (k + 1 + m + 1)) s) entries (k + n) := by
  induction n with
  | zero => exact h
  | succ n ih =>
    rw [range_succ, foldl_append, foldl_cons, foldl_nil]
    have hmoved := (ih (by omega)).move_down (by omega)
    rw [show k + n + 2 = k + 1 + n + 1 by omega] at hmoved
    rwa [show k + 1 + n = k + n + 1 by omega] at hmoved ⊢

section

variable (h : Represents s entries)
include h

/-- The removal of an entry. -/
theorem Represents.removeIndex (he : entries[i]? = some e) :
    Represents (s.removeIndex (i + 1)) (entries.eraseIdx i) := by
  have hlt : i < entries.length := (List.getElem?_eq_some_iff.1 he).1
  have hlen := length_eraseIdx_of_lt hlt
  have hmoved := (h.remove he).move_down_range (entries.length - (i + 1)) (by omega)
  rw [show i + (entries.length - (i + 1)) = (entries.eraseIdx i).length by omega] at hmoved
  have hdone := hmoved.represents
  rwa [← h.nb, show (entries.eraseIdx i).length + 1 = s.nbPriorities by rw [h.nb]; omega] at hdone

/-! ## The entry of a priority -/

theorem Represents.nodup_keys : (entries.map Prod.fst).Nodup := by
  rw [nodup_iff_getElem?_ne_getElem?]
  intro i j hij hj heq
  rw [length_map] at hj
  obtain ⟨f, hf⟩ : ∃ f, entries[j]? = some f := ⟨_, getElem?_eq_getElem hj⟩
  rw [getElem?_map, getElem?_map, hf] at heq
  obtain ⟨e, he, hef⟩ := Option.map_eq_some_iff.1 heq
  have := h.entry_unique he hf hef
  omega

/-- Where the entry of a priority is. -/
theorem Represents.split (he : e ∈ entries) :
    ∃ front back, entries = front ++ e :: back ∧ s.priorityIdx e.1 = front.length + 1 ∧
      ∀ f, f ∈ front ++ back ↔ f ∈ entries ∧ f.1 ≠ e.1 := by
  obtain ⟨front, back, rfl⟩ := append_of_mem he
  refine ⟨front, back, rfl, h.idx front.length e (by simp), fun f => ?_⟩
  have hnodup := h.nodup_keys
  rw [map_append, map_cons, nodup_middle, nodup_cons, ← map_append] at hnodup
  have hne : f ∈ front ++ back → f.1 ≠ e.1 := fun hf hfe =>
    hnodup.1 (hfe ▸ mem_map_of_mem hf)
  simp only [mem_append, mem_cons] at hne ⊢
  constructor
  · intro hf
    exact ⟨by tauto, hne hf⟩
  · rintro ⟨hf | rfl | hf, hfe⟩
    · exact .inl hf
    · exact absurd rfl hfe
    · exact .inr hf

theorem Represents.queue_of_mem (he : e ∈ entries) :
    s.subsQueue (s.priorityIdx e.1) = some e.2 := by
  obtain ⟨i, hi⟩ := mem_iff_getElem?.1 he
  rw [h.idx i e hi, h.queue, hi]
  rfl

/-- The queue of a priority is replaced. -/
theorem Represents.replace (he : e ∈ entries) (queue : List Nat) :
    ∃ entries', Represents (s.setQueue (s.priorityIdx e.1) (some queue)) entries' ∧
      entries'.map Prod.fst = entries.map Prod.fst ∧
      ∀ f, f ∈ entries' ↔ f = (e.1, queue) ∨ f ∈ entries ∧ f.1 ≠ e.1 := by
  obtain ⟨front, back, rfl, hidx, hmem⟩ := h.split he
  have hset := h.setQueue (i := front.length) (e := e) (by simp) queue
  rw [set_append_right _ _ (Nat.le_refl _), Nat.sub_self, set_cons_zero, ← hidx] at hset
  refine ⟨_, hset, by simp, fun f => ?_⟩
  rw [← hmem f]
  simp only [mem_append, mem_cons]
  tauto

/-- A priority is removed with its queue. -/
theorem Represents.erase (he : e ∈ entries) :
    ∃ entries', Represents (s.removeIndex (s.priorityIdx e.1)) entries' ∧
      (entries'.map Prod.fst).Sublist (entries.map Prod.fst) ∧
      ∀ f, f ∈ entries' ↔ f ∈ entries ∧ f.1 ≠ e.1 := by
  obtain ⟨front, back, rfl, hidx, hmem⟩ := h.split he
  have hremoved := h.removeIndex (i := front.length) (e := e) (by simp)
  rw [eraseIdx_append_of_length_le (Nat.le_refl _), Nat.sub_self, eraseIdx_cons_zero,
    ← hidx] at hremoved
  exact ⟨_, hremoved, ((sublist_cons_self e back).append_left front).map _, hmem⟩

end

end S2opc.Subscription.Priority
