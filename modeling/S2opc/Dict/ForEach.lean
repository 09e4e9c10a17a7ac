/-
`SOPC_Dict_ForEach` against the finite map of a history.

The loop calls the function on every bucket whose key is not the empty key, a
tombstone included.  It visits the items of the dictionary as long as no removal
leaves a tombstone, that is as long as each removal of a key that is present makes
the table shrink.
-/
import S2opc.Dict.Refinement

namespace S2opc.Dictionary

open Lib List

variable {K V : Type} [DecidableEq K] {c : Config K V} {d : Dict K V} {ops : List (Op K V)}

/-- The calls of `SOPC_Dict_ForEach`. -/
def dictForEach (c : Config K V) (d : Dict K V) : List (K × V) :=
  (d.buckets.filter fun b => b.key ≠ c.emptyKey).map fun b => (b.key, b.value)

/-- The pairs are those of the finite map of the history, each of them once. -/
structure Visits (c : Config K V) (pairs : List (K × V)) (ops : List (Op K V)) : Prop where
  once : pairs.Pairwise fun a b => c.equalFunc a.1 b.1 = false
  items : ∀ pair ∈ pairs, isReserved c pair.1 = false
  holds : ∀ x, isReserved c x = false → ∀ w,
    (∃ k, (k, w) ∈ pairs ∧ c.equalFunc x k = true) ↔ lastInsert c x ops.reverse = some w

/-- A removal finds no item, or the table shrinks and loses its tombstones. -/
def removesCleanly (c : Config K V) (d : Dict K V) : Op K V → Bool
  | .remove key =>
    match getInternal c d key with
    | none => true
    | some idx =>
      targetSize { d with
        buckets := d.buckets.set idx ⟨c.tombstoneKey, c.zero⟩, nItems := d.nItems - 1 } 0 ≠
        some d.size
  | _ => true

/-! ## Tables without tombstones -/

theorem mem_dictForEach {pair : K × V} :
    pair ∈ dictForEach c d ↔ ⟨pair.1, pair.2⟩ ∈ d.buckets ∧ pair.1 ≠ c.emptyKey := by
  simp only [dictForEach, mem_map, mem_filter, decide_eq_true_eq]
  constructor
  · rintro ⟨b, hb, rfl⟩
    exact hb
  · intro h
    exact ⟨_, h, rfl⟩

theorem NoTombstone.not_reserved (h : NoTombstone c d) {b : Bucket K V} (hb : b ∈ d.buckets)
    (hkey : b.key ≠ c.emptyKey) : isReserved c b.key = false := by
  obtain ⟨p, hp, hpb⟩ := getElem_of_mem hb
  refine isReserved_eq_false.2 ⟨hkey, fun ht => h p ?_⟩
  rw [slotAt_slots, bucketAt, getElem?_eq_getElem hp, hpb]
  exact slotOf_tombstone hkey ht

/-- Without tombstones the items are visited. -/
theorem Refines.visits (h : Refines c d ops) (hnt : NoTombstone c d) :
    Visits c (dictForEach c d) ops where
  once := by
    rw [dictForEach, pairwise_map]
    refine (h.wellFormed.pairwise_unrelated.filter _).imp_of_mem ?_
    intro b b' hb hb' hunrelated
    obtain ⟨hb, hkey⟩ := mem_filter.1 hb
    obtain ⟨hb', hkey'⟩ := mem_filter.1 hb'
    exact hunrelated (hnt.not_reserved hb (of_decide_eq_true hkey))
      (hnt.not_reserved hb' (of_decide_eq_true hkey'))
  items := by
    intro pair hpair
    obtain ⟨hb, hkey⟩ := mem_dictForEach.1 hpair
    exact hnt.not_reserved hb hkey
  holds := by
    intro x hx w
    rw [← h.holds x hx, ← among_buckets_iff]
    constructor
    · rintro ⟨k, hk, he⟩
      obtain ⟨hb, hkey⟩ := mem_dictForEach.1 hk
      exact ⟨_, hb, hnt.not_reserved hb hkey, he, rfl⟩
    · rintro ⟨b, hb, hres, he, rfl⟩
      exact ⟨b.key, mem_dictForEach.2 ⟨hb, (isReserved_eq_false.1 hres).1⟩, he⟩

/-! ## One operation -/

theorem NoTombstone.putAt (h : NoTombstone c d) {key : K} (hk : isReserved c key = false) (value : V)
    (p : Nat) : NoTombstone c (putAt c d key value p) := by
  unfold Dictionary.putAt
  split
  · exact h.set_entry hk value p _ _
  · exact h.set_entry hk value p d.nItems d.nBusy

theorem NoTombstone.step_insert (hc : c.Lawful) (h : Refines c d ops) (hnt : NoTombstone c d) {k : K}
    {v : V} {d' : Dict K V} (hstep : step c d (.insert k v) = some d') : NoTombstone c d' := by
  cases hk : isReserved c k with
  | true =>
    obtain rfl : d = d' := by simpa [step, dictInsert, hk] using hstep
    exact hnt
  | false =>
    obtain ⟨d₁, hd₁, -, -, hway⟩ := insert_room hc h
    have hnt₁ : NoTombstone c d₁ := by
      rcases hway with ⟨-, rfl⟩ | ⟨-, hnt₁⟩
      · exact hnt
      · exact hnt₁
    have hins : insertItem c d₁ (c.hashFunc k) k v true = some d' := by
      simpa [step, dictInsert, hk, hd₁] using hstep
    rw [insertItem, insertItemLoop_eq] at hins
    obtain ⟨p, -, rfl⟩ := Option.map_eq_some_iff.1 hins
    exact hnt₁.putAt hk v p

/-- An operation that leaves no tombstone. -/
theorem Refines.step_cleanly (hc : c.Lawful) (op : Op K V) (h : Refines c d ops ∧ NoTombstone c d)
    (hclean : removesCleanly c d op = true) :
    ∃ d', step c d op = some d' ∧ Refines c d' (ops ++ [op]) ∧ NoTombstone c d' := by
  obtain ⟨h, hnt⟩ := h
  cases op with
  | insert k v =>
    have hsafe : insertsOverTombstone c d k = false := by
      simp [insertsOverTombstone, OpenAddressing.buriedBefore_eq_false hnt]
    obtain ⟨d', hstep, h'⟩ := h.step_insert hc k v hsafe
    exact ⟨d', hstep, h', NoTombstone.step_insert hc h hnt hstep⟩
  | remove k =>
    obtain ⟨d', hstep, h'⟩ := h.step_remove hc k
    refine ⟨d', hstep, h', ?_⟩
    simp only [step, dictRemove, if_neg hc.reserved_ne] at hstep
    rcases hget : getInternal c d k with _ | p
    · simp only [hget, Option.some.injEq] at hstep
      exact hstep ▸ hnt
    obtain ⟨-, k', v', hslot, -⟩ := getInternal_some hget
    simp only [removesCleanly, hget, decide_eq_true_eq] at hclean
    obtain ⟨d₁, hd₁, -, -, -, hway⟩ := maybeResize_spec hc (h.wellFormed.bury hc hslot) 0 (.inl rfl)
    simp only [hget, hd₁, Option.some.injEq] at hstep
    subst hstep
    exact (hway.resolve_left fun hsame => hclean hsame.1).2
  | reserve n =>
    obtain ⟨d', hstep, h'⟩ := h.step_reserve hc n
    refine ⟨d', hstep, h', ?_⟩
    obtain ⟨a, ha, hsize⟩ := h.wellFormed.log
    obtain ⟨b, hab, hmin, -⟩ := minimumDictSize_eq a n
    have hle : (2 : Nat) ^ a ≤ 2 ^ b := Nat.pow_le_pow_right (by decide) hab
    have hload := h.wellFormed.load
    obtain ⟨d₁, hd₁, -, hnt₁, -⟩ := dictResize_spec hc h.wellFormed (m := b) (by omega) (by omega)
    simp only [step, dictReserve, hsize, hmin, Option.bind_some, hd₁, Option.some.injEq] at hstep
    exact hstep ▸ hnt₁

/-- A removal that leaves its tombstone: the tombstone is visited. -/
theorem Refines.step_uncleanly (hc : c.Lawful) (op : Op K V) (_ : Refines c d ops ∧ NoTombstone c d)
    (hclean : removesCleanly c d op = false) :
    ∃ d', step c d op = some d' ∧ ¬Visits c (dictForEach c d') (ops ++ [op]) := by
  cases op with
  | insert k v => cases hclean
  | reserve n => cases hclean
  | remove k =>
    rcases hget : getInternal c d k with _ | p
    · simp [removesCleanly, hget] at hclean
    simp only [removesCleanly, hget, decide_eq_false_iff_not, ne_eq, not_not] at hclean
    obtain ⟨-, k', v', hslot, -⟩ := getInternal_some hget
    have hlt := OpenAddressing.lt_length_of_entry hslot
    rw [slots, length_map] at hlt
    refine ⟨{ d with
      buckets := d.buckets.set p ⟨c.tombstoneKey, c.zero⟩, nItems := d.nItems - 1 },
      ?_, fun hvisits => ?_⟩
    · simp only [step, dictRemove, if_neg hc.reserved_ne, hget, maybeResize, hclean,
        Option.bind_some, if_true]
    · have hmem : (⟨c.tombstoneKey, c.zero⟩ : Bucket K V) ∈
          d.buckets.set p ⟨c.tombstoneKey, c.zero⟩ := mem_set hlt _
      have hreserved := hvisits.items (c.tombstoneKey, c.zero)
        (mem_dictForEach.2 ⟨hmem, Ne.symm hc.reserved_ne⟩)
      simp [isReserved] at hreserved

/-! ## Histories -/

/-- After every operation of a history the items of its finite map are visited, each of them once
    and nothing else, exactly when no removal leaves a tombstone. -/
theorem forEach_visits_iff (c : Config K V) (hc : c.Lawful) (ops : List (Op K V)) :
    (∀ pre, pre <+: ops → ∃ d, run c pre = some d ∧ Visits c (dictForEach c d) pre) ↔
      everySafe c (removesCleanly c) (dictCreate c) ops = true :=
  run_iff_everySafe (R := fun d ops => Refines c d ops ∧ NoTombstone c d)
    (fun h => h.1.visits h.2) (Refines.step_cleanly hc) (Refines.step_uncleanly hc) ops rfl
    ⟨dictCreate_refines c, freshDict_noTombstone c 16⟩

theorem forEach_visits_after_shrink :
    ∃ d, run collidingConfig [.reserve 9, .insert 10 1, .insert 11 2, .remove 10] = some d ∧
      Visits collidingConfig (dictForEach collidingConfig d)
        [.reserve 9, .insert 10 1, .insert 11 2, .remove 10] :=
  (forEach_visits_iff collidingConfig collidingConfig_lawful _).mpr (by decide) _ List.prefix_rfl

/-- The only item is removed: the tombstone in its place is visited. -/
theorem forEach_visits_tombstone :
    collidingConfig.Lawful ∧ ∃ d, run collidingConfig [.insert 10 1, .remove 10] = some d ∧
      dictForEach collidingConfig d = [(1, 0)] ∧
      ∀ x, lastInsert collidingConfig x [.remove 10, .insert 10 1] = none := by
  refine ⟨collidingConfig_lawful, _, rfl, by decide, fun x => ?_⟩
  cases hx : collidingConfig.equalFunc x 10 with
  | true => simp [lastInsert, isReserved, collidingConfig]
  | false => simp [lastInsert, hx]

end S2opc.Dictionary
