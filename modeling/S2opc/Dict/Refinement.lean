/-
The dictionary against the finite map of its history.

The abstract side reads a history: the answer for a key is the value of its
last insertion not followed by a removal, and the keys present are counted up
to the key equality.  A history whose insertions never settle on a tombstone
standing before the key's own item keeps the two sides equal after every
operation, and the first insertion that does makes `SOPC_Dict_Size` wrong.
-/
import S2opc.Dict.Resize

namespace S2opc.Dictionary

open Lib List OpenAddressing

variable {K V : Type} [DecidableEq K]

/-! ## The finite map of a history -/

/-- The value of the last insertion of `x` not followed by a removal; the history is
    read with its most recent operation first.  Operations on a reserved key are
    refused and change nothing. -/
def lastInsert (c : Config K V) (x : K) : List (Op K V) → Option V
  | [] => none
  | .insert k v :: older =>
    if !isReserved c k && c.equalFunc x k then some v else lastInsert c x older
  | .remove k :: older =>
    if !isReserved c k && c.equalFunc x k then none else lastInsert c x older
  | .reserve _ :: older => lastInsert c x older

/-- One representative of each key present, the history read most recent first. -/
def presentKeys (c : Config K V) : List (Op K V) → List K
  | [] => []
  | .insert k _ :: older =>
    if isReserved c k then presentKeys c older
    else k :: (presentKeys c older).filter fun k' => !c.equalFunc k' k
  | .remove k :: older =>
    if isReserved c k then presentKeys c older
    else (presentKeys c older).filter fun k' => !c.equalFunc k' k
  | .reserve _ :: older => presentKeys c older

/-- The dictionary shows the finite map of the history: every lookup and the size. -/
structure Agrees (c : Config K V) (d : Dict K V) (ops : List (Op K V)) : Prop where
  get : ∀ x, dictGet c d x = if isReserved c x then none else lastInsert c x ops.reverse
  size : dictSize d = (presentKeys c ops.reverse).length

/-- The insertion of `key` finds a tombstone on the key's probe path before the key's
    own bucket, and no rehash clears it first. -/
def insertsOverTombstone (c : Config K V) (d : Dict K V) (key : K) : Bool :=
  !isReserved c key && targetSize d 1 == some d.size &&
    OpenAddressing.buriedBefore c.equalFunc (slots c d) key (path c d key)

/-- Every operation of a history passes a check, on the table it finds. -/
def everySafe (c : Config K V) (safe : Dict K V → Op K V → Bool) : Dict K V → List (Op K V) → Bool
  | _, [] => true
  | d, op :: ops =>
    safe d op &&
    (match step c d op with
      | none => true
      | some d' => everySafe c safe d' ops)

/-- An operation is no such insertion. -/
def keysUniqueAfter (c : Config K V) (d : Dict K V) : Op K V → Bool
  | .insert key _ => !insertsOverTombstone c d key
  | _ => true

/-- No operation of the history is such an insertion. -/
def keepsKeysUnique (c : Config K V) : Dict K V → List (Op K V) → Bool :=
  everySafe c (keysUniqueAfter c)

/-! ## Facts of the finite map -/

/-- The representatives are pairwise different keys. -/
theorem presentKeys_pairwise (c : Config K V) (hc : c.Lawful) (ops : List (Op K V)) :
    (presentKeys c ops).Pairwise fun k k' => c.equalFunc k k' = false := by
  induction ops with
  | nil => exact Pairwise.nil
  | cons op older ih =>
    cases op with
    | insert k v =>
      simp only [presentKeys]
      split
      · exact ih
      refine Pairwise.cons ?_ (ih.filter _)
      intro k' hk'
      have hne := (List.mem_filter.mp hk').2
      by_contra he
      simp [hc.symm (Bool.of_not_eq_false he)] at hne
    | remove k =>
      simp only [presentKeys]
      split
      · exact ih
      · exact ih.filter _
    | reserve n => exact ih

/-- A key is present exactly when it has a last insertion. -/
theorem lastInsert_isSome_iff (c : Config K V) (hc : c.Lawful) (x : K) (ops : List (Op K V)) :
    (lastInsert c x ops).isSome ↔ ∃ k ∈ presentKeys c ops, c.equalFunc x k = true := by
  induction ops with
  | nil => simp [lastInsert, presentKeys]
  | cons op older ih =>
    -- Keys equal to `x` survive a filter on `k` exactly when `x` is not equal to `k`
    have hfilter : ∀ k, (∃ k' ∈ (presentKeys c older).filter fun k' => !c.equalFunc k' k,
        c.equalFunc x k' = true) ↔
        c.equalFunc x k = false ∧ ∃ k' ∈ presentKeys c older, c.equalFunc x k' = true := by
      intro k
      constructor
      · rintro ⟨k', hk', hx⟩
        obtain ⟨hmem, hne⟩ := List.mem_filter.mp hk'
        refine ⟨?_, k', hmem, hx⟩
        by_contra he
        simp [hc.trans (hc.symm hx) (Bool.of_not_eq_false he)] at hne
      · rintro ⟨hne, k', hmem, hx⟩
        refine ⟨k', List.mem_filter.mpr ⟨hmem, ?_⟩, hx⟩
        by_contra he
        simp only [Bool.not_eq_true', Bool.not_eq_false] at he
        rw [hc.trans hx he] at hne
        cases hne
    cases op with
    | insert k v =>
      simp only [lastInsert, presentKeys]
      cases hk : isReserved c k with
      | true => simpa using ih
      | false =>
        cases hx : c.equalFunc x k with
        | true => simp [hx]
        | false =>
          simp only [Bool.and_false, Bool.false_eq_true, if_false,
            exists_mem_cons_iff, hx, false_or]
          rw [ih, hfilter k]
          simp [hx]
    | remove k =>
      simp only [lastInsert, presentKeys]
      cases hk : isReserved c k with
      | true => simpa using ih
      | false =>
        cases hx : c.equalFunc x k with
        | true =>
          have hno := mt (hfilter k).mp (by simp [hx])
          simpa using hno
        | false =>
          simp only [Bool.and_false, Bool.false_eq_true, if_false]
          rw [ih, hfilter k]
          simp [hx]
    | reserve n => simpa [lastInsert, presentKeys] using ih

omit [DecidableEq K] in
/-- Dropping the one representative equal to `k`, if there is one. -/
theorem length_filter_ne (c : Config K V) (hc : c.Lawful) (k : K) (ks : List K)
    (hpw : ks.Pairwise fun k k' => c.equalFunc k k' = false) :
    (ks.filter fun k' => !c.equalFunc k' k).length +
      (if ∃ k' ∈ ks, c.equalFunc k k' = true then 1 else 0) = ks.length := by
  induction ks with
  | nil => simp
  | cons a ks ih =>
    obtain ⟨ha, hpw'⟩ := List.pairwise_cons.mp hpw
    have hih := ih hpw'
    cases hk : c.equalFunc a k with
    | true =>
      have hnone : ¬ ∃ k' ∈ ks, c.equalFunc k k' = true := by
        rintro ⟨k', hk', he⟩
        have hfalse := ha k' hk'
        rw [hc.trans hk he] at hfalse
        cases hfalse
      rw [if_neg hnone] at hih
      have hsome : ∃ k' ∈ a :: ks, c.equalFunc k k' = true := ⟨a, mem_cons_self, hc.symm hk⟩
      rw [if_pos hsome]
      simpa [hk] using hih
    | false =>
      have hiff : (∃ k' ∈ a :: ks, c.equalFunc k k' = true) ↔
          ∃ k' ∈ ks, c.equalFunc k k' = true := by
        have hka : c.equalFunc k a = false := by
          by_contra he
          rw [hc.symm (Bool.of_not_eq_false he)] at hk
          cases hk
        simp [hka]
      simp only [hiff, filter_cons, hk, Bool.not_false, if_true, length_cons]
      omega

/-! ## The refinement relation -/

/-- The table is well formed and holds exactly the finite map of the history. -/
structure Refines (c : Config K V) (d : Dict K V) (ops : List (Op K V)) : Prop where
  wellFormed : WellFormed c d
  holds : ∀ x, isReserved c x = false →
    ∀ w, Holds c d x w ↔ lastInsert c x ops.reverse = some w
  items : d.nItems = (presentKeys c ops.reverse).length

variable {x : K}

section Get

variable {c : Config K V} {d : Dict K V}

theorem getInternal_eq (c : Config K V) (d : Dict K V) (hx : isReserved c x = false) :
    getInternal c d x = find c.equalFunc (slots c d) x (path c d x) := by
  rw [getInternal, if_neg (by simp [hx]), getInternalLoop_eq]
  rfl

/-- `get_internal` points at a bucket under an equal key. -/
theorem getInternal_some {p : Nat} (h : getInternal c d x = some p) :
    isReserved c x = false ∧
      ∃ k v, slotAt (slots c d) p = .entry k v ∧ c.equalFunc x k = true := by
  cases hx : isReserved c x with
  | true => simp [getInternal, hx] at h
  | false =>
    rw [getInternal_eq c d hx] at h
    exact ⟨rfl, find_some h⟩

theorem WellFormed.getInternal_eq_none_iff (hc : c.Lawful) (hw : WellFormed c d)
    (hx : isReserved c x = false) : getInternal c d x = none ↔ ∀ w, ¬ Holds c d x w := by
  rw [getInternal_eq c d hx]
  constructor
  · rintro hnone w ⟨p, k, hp, he⟩
    rw [hw.inv.find_entry (hc.compatible d) hp he] at hnone
    cases hnone
  · exact find_eq_none _

/-- `SOPC_Dict_Get` answers what the table holds. -/
theorem WellFormed.dictGet_eq_some_iff (hc : c.Lawful) (hw : WellFormed c d)
    (hx : isReserved c x = false) (w : V) : dictGet c d x = some w ↔ Holds c d x w := by
  constructor
  · intro hget
    obtain ⟨p, hp, hval⟩ := Option.map_eq_some_iff.mp hget
    obtain ⟨-, k, v, hslot, he⟩ := getInternal_some hp
    rw [(not_reserved_of_slotAt hslot).2] at hval
    exact ⟨p, k, hval ▸ hslot, he⟩
  · rintro ⟨p, k, hslot, he⟩
    have hp : getInternal c d x = some p := by
      rw [getInternal_eq c d hx]
      exact hw.inv.find_entry (hc.compatible d) hslot he
    rw [dictGet, hp, Option.map_some, (not_reserved_of_slotAt hslot).2]

end Get

variable {c : Config K V} {d : Dict K V} {ops : List (Op K V)}

/-- A table that refines the history shows its finite map. -/
theorem Refines.agrees (hc : c.Lawful) (h : Refines c d ops) :
    Agrees c d ops where
  get := by
    intro x
    cases hx : isReserved c x with
    | true => simp [dictGet, getInternal, hx]
    | false =>
      apply Option.ext
      intro w
      rw [h.wellFormed.dictGet_eq_some_iff hc hx, h.holds x hx]
      simp
  size := h.items

theorem dictCreate_refines (c : Config K V) : Refines c (dictCreate c) [] where
  wellFormed := freshDict_wellFormed c (m := 4) (by decide)
  holds := by
    intro x _ w
    have hno : ¬ Holds c (dictCreate c) x w := not_holds_freshDict c 16 x w
    simp [hno, lastInsert]
  items := rfl

variable {k : K}

/-- The number of representatives after an insertion or a removal. -/
theorem Refines.length_filter (hc : c.Lawful) (h : Refines c d ops) (hk : isReserved c k = false) :
    ((∃ w, Holds c d k w) →
      ((presentKeys c ops.reverse).filter fun k' => !c.equalFunc k' k).length + 1 = d.nItems) ∧
    ((∀ w, ¬ Holds c d k w) →
      ((presentKeys c ops.reverse).filter fun k' => !c.equalFunc k' k).length = d.nItems) := by
  have hlen := length_filter_ne c hc k _ (presentKeys_pairwise c hc ops.reverse)
  have hiff : (∃ k' ∈ presentKeys c ops.reverse, c.equalFunc k k' = true) ↔
      ∃ w, Holds c d k w := by
    rw [← lastInsert_isSome_iff c hc, Option.isSome_iff_exists]
    simp only [h.holds k hk]
  rw [← h.items] at hlen
  constructor
  · intro hex
    rwa [if_pos (hiff.mpr hex)] at hlen
  · intro hno
    have hno' : ¬ ∃ k' ∈ presentKeys c ops.reverse, c.equalFunc k k' = true := by
      rw [hiff]
      rintro ⟨w, hw⟩
      exact hno w hw
    rwa [if_neg hno', Nat.add_zero] at hlen

/-! ## One operation -/

section Step

variable {c : Config K V} {d : Dict K V} {ops : List (Op K V)} {d' : Dict K V}

theorem Refines.of_sameItems (h : Refines c d ops) (hw : WellFormed c d') (hsame : SameItems c d d') :
    Refines c d' ops where
  wellFormed := hw
  holds := by
    intro x hx w
    rw [hsame.holds, h.holds x hx]
  items := by rw [hsame.nItems, h.items]

/-- A refused operation on a reserved key changes nothing, on either side. -/
theorem Refines.insert_reserved (h : Refines c d ops) (hk : isReserved c k = true) (v : V) :
    Refines c d (ops ++ [.insert k v]) where
  wellFormed := h.wellFormed
  holds := by
    intro x hx w
    rw [reverse_concat, lastInsert, hk]
    exact h.holds x hx w
  items := by
    rw [reverse_concat, presentKeys, hk]
    exact h.items

/-- The room `maybe_resize` makes before an insertion. -/
theorem insert_room (hc : c.Lawful) (h : Refines c d ops) :
    ∃ d1, maybeResize c d 1 = some d1 ∧ Refines c d1 ops ∧ 2 * (d1.nItems + 1) ≤ d1.size ∧
      ((targetSize d 1 = some d.size ∧ d1 = d) ∨
        (targetSize d 1 ≠ some d.size ∧ NoTombstone c d1)) := by
  obtain ⟨d1, hd1, hw1, hsame, hload, hway⟩ := maybeResize_spec hc h.wellFormed 1 (.inr rfl)
  refine ⟨d1, hd1, h.of_sameItems hw1 hsame, ?_, hway⟩
  rwa [hsame.nItems]

variable {v : V}

/-- The finite map after an insertion, from what the new table holds. -/
theorem refines_insert (hw' : WellFormed c d') (hk : isReserved c k = false)
    (hholds : ∀ x, isReserved c x = false → ∀ w, Holds c d' x w ↔
      (c.equalFunc x k = true ∧ w = v) ∨
      (c.equalFunc x k = false ∧ lastInsert c x ops.reverse = some w))
    (hitems : d'.nItems = ((presentKeys c ops.reverse).filter fun k' => !c.equalFunc k' k).length
      + 1) :
    Refines c d' (ops ++ [.insert k v]) where
  wellFormed := hw'
  holds := by
    intro x hx w
    rw [hholds x hx, reverse_concat, lastInsert, hk]
    cases c.equalFunc x k with
    | true => simp [eq_comm]
    | false => simp
  items := by
    rw [reverse_concat, presentKeys, hk]
    exact hitems

section

variable (hc : c.Lawful)
include hc

/-- An insertion that does not settle on a tombstone before the key's own item. -/
theorem Refines.step_insert (h : Refines c d ops) (k : K) (v : V)
    (hsafe : insertsOverTombstone c d k = false) :
    ∃ d', step c d (.insert k v) = some d' ∧ Refines c d' (ops ++ [.insert k v]) := by
  cases hk : isReserved c k with
  | true => exact ⟨d, by simp [step, dictInsert, hk], h.insert_reserved hk v⟩
  | false =>
    obtain ⟨d1, hd1, h1, hload, hway⟩ := insert_room hc h
    -- Either way the path of the key is not buried in the table inserted into
    have hbur : buriedBefore c.equalFunc (slots c d1) k (path c d1 k) = false := by
      rcases hway with ⟨htarget, rfl⟩ | ⟨-, hnt⟩
      · simpa [insertsOverTombstone, hk, htarget] using hsafe
      · exact buriedBefore_eq_false hnt
    have hstep : ∀ d', insertItem c d1 (c.hashFunc k) k v true = some d' →
        step c d (.insert k v) = some d' := by
      intro d' hins
      simp [step, dictInsert, hk, hd1, hins]
    by_cases hold : ∃ w, Holds c d1 k w
    · obtain ⟨w0, hw0⟩ := hold
      obtain ⟨d', hins, hw', hitems, hholds⟩ := insertItem_overwrite hc h1.wellFormed hk hw0 hbur v
      refine ⟨_, hstep _ hins, refines_insert hw' hk ?_ ?_⟩
      · intro x hx w
        rw [hholds, h1.holds x hx]
      · exact hitems.trans ((h1.length_filter hc hk).1 ⟨w0, hw0⟩).symm
    have hnew : ∀ w, ¬ Holds c d1 k w := fun w hw => hold ⟨w, hw⟩
    obtain ⟨p, d', rfl, hins, hw', hholds⟩ := insertItem_new hc h1.wellFormed hload hk hnew v true
    refine ⟨_, hstep _ hins, refines_insert hw' hk ?_ ?_⟩
    · intro x hx w
      rw [hholds]
      rcases hxk : c.equalFunc x k with _ | _
      · simp [h1.holds x hx]
      -- A key equal to `k` had no item either
      have hno : ¬ Holds c d1 x w := by
        rintro ⟨q, kq, hq, he⟩
        exact hnew w ⟨q, kq, hq, hc.trans (hc.symm hxk) he⟩
      simp [hno]
    · rw [(h1.length_filter hc hk).2 hnew]

/-- An insertion that does: the item is counted once more than its key. -/
theorem Refines.step_insert_buried (h : Refines c d ops) (k : K) (v : V)
    (hover : insertsOverTombstone c d k = true) :
    ∃ d', step c d (.insert k v) = some d' ∧ ¬ Agrees c d' (ops ++ [.insert k v]) := by
  simp only [insertsOverTombstone, Bool.and_eq_true, Bool.not_eq_true', beq_iff_eq] at hover
  obtain ⟨⟨hk, htarget⟩, hbur⟩ := hover
  obtain ⟨d1, hd1, h1, -, hway⟩ := insert_room hc h
  have hd : d1 = d := by
    rcases hway with ⟨-, hd⟩ | ⟨hne, -⟩
    · exact hd
    · exact absurd htarget hne
  subst hd
  obtain ⟨d', hins, hitems⟩ := insertItem_buried hbur v
  refine ⟨d', by simp [step, dictInsert, hk, hd1, hins], ?_⟩
  intro hagree
  have hsize := hagree.size
  -- The key had an item already
  have hold : ∃ w, Holds c d1 k w := by
    have hfind := find_isSome_of_buried hbur
    by_contra hno
    have hnone := (h1.wellFormed.getInternal_eq_none_iff hc hk).mpr fun w hw => hno ⟨w, hw⟩
    rw [getInternal_eq c d1 hk] at hnone
    simp [hnone] at hfind
  have hfilter := (h1.length_filter hc hk).1 hold
  rw [dictSize, hitems, reverse_concat, presentKeys, hk] at hsize
  simp only [Bool.false_eq_true, if_false, length_cons] at hsize
  omega

theorem slotOf_tombstoneKey : slotOf c ⟨c.tombstoneKey, c.zero⟩ = .tombstone :=
  slotOf_tombstone (Ne.symm hc.reserved_ne) rfl

/-- The table with a bucket buried, before `SOPC_Dict_Remove` shrinks it. -/
theorem WellFormed.bury (hw : WellFormed c d) {p : Nat}
    (hslot : slotAt (slots c d) p = .entry k v) :
    WellFormed c { d with
      buckets := d.buckets.set p ⟨c.tombstoneKey, c.zero⟩, nItems := d.nItems - 1 } := by
  have hlt := lt_length_of_entry hslot
  have hcount := entries_set_tombstone hslot
  have hload := hw.load
  have hbusy := hw.busy
  have hitems := hw.items
  apply hw.of_set
  · rw [slotOf_tombstoneKey hc]
    exact hw.inv.set (hc.compatible d) hlt (by simp) nofun nofun
  · rw [slotOf_tombstoneKey hc]
    omega
  · omega
  · omega

theorem Refines.step_remove (h : Refines c d ops) (k : K) :
    ∃ d', step c d (.remove k) = some d' ∧ Refines c d' (ops ++ [.remove k]) := by
  have hw := h.wellFormed
  cases hget : getInternal c d k with
  | none =>
    refine ⟨d, by simp [step, dictRemove, hc.reserved_ne, hget], hw, ?_, ?_⟩
    · intro x hx w
      rw [reverse_concat, lastInsert]
      cases hk : isReserved c k with
      | true => exact h.holds x hx w
      | false =>
        have hno := (hw.getInternal_eq_none_iff hc hk).mp hget
        rcases hxk : c.equalFunc x k with _ | _
        · simpa using h.holds x hx w
        have hnox : ¬ Holds c d x w := by
          rintro ⟨q, kq, hq, he⟩
          exact hno w ⟨q, kq, hq, hc.trans (hc.symm hxk) he⟩
        simp [hnox]
    · rw [reverse_concat, presentKeys]
      cases hk : isReserved c k with
      | true => exact h.items
      | false =>
        have hno := (hw.getInternal_eq_none_iff hc hk).mp hget
        exact ((h.length_filter hc hk).2 hno).symm
  | some p =>
    obtain ⟨hk, k', v', hslot, he⟩ := getInternal_some hget
    have hfilter := (h.length_filter hc hk).1 ⟨v', p, k', hslot, he⟩
    have hw1 := hw.bury hc hslot
    obtain ⟨d', hd', hw', hsame, -, -⟩ := maybeResize_spec hc hw1 0 (.inl rfl)
    refine ⟨d', by simp [step, dictRemove, hc.reserved_ne, hget, hd'], hw', ?_, ?_⟩
    · intro x hx w
      rw [hsame.holds, Holds, slots_set c d p _ (d.nItems - 1) d.nBusy, slotOf_tombstoneKey hc,
        hw.inv.has_bury (hc.compatible d) hslot, ← Holds, h.holds x hx, reverse_concat,
        lastInsert, hk]
      have hxk : c.equalFunc x k' = c.equalFunc x k := by
        rw [Bool.eq_iff_iff]
        exact ⟨fun hx' => hc.trans hx' (hc.symm he), fun hx' => hc.trans hx' he⟩
      rw [hxk]
      cases c.equalFunc x k <;> simp
    · rw [hsame.nItems, reverse_concat, presentKeys, hk]
      simp only [Bool.false_eq_true, if_false]
      omega

theorem Refines.step_reserve (h : Refines c d ops) (n : Fin (2 ^ 62)) :
    ∃ d', step c d (.reserve n) = some d' ∧ Refines c d' (ops ++ [.reserve n]) := by
  obtain ⟨a, ha, hsize⟩ := h.wellFormed.log
  have hload := h.wellFormed.load
  obtain ⟨b, hab, hmin, -⟩ := minimumDictSize_eq a n
  have hle : (2 : Nat) ^ a ≤ 2 ^ b := Nat.pow_le_pow_right (by decide) hab
  obtain ⟨d', hd', hw', -, -, hsame⟩ :=
    dictResize_spec hc h.wellFormed (m := b) (by omega) (by omega)
  have h' := h.of_sameItems hw' hsame
  refine ⟨d', by simp [step, dictReserve, hsize, hmin, hd'], hw', ?_, ?_⟩
  · intro x hx w
    rw [reverse_concat, lastInsert]
    exact h'.holds x hx w
  · rw [reverse_concat, presentKeys]
    exact h'.items

end

end Step

/-! ## Whole histories -/

variable {pre : List (Op K V)}

/-- A property `P` of tables and histories holds after every operation of a history exactly when
    every operation passes the check, if an operation that passes it keeps a relation `R` that
    implies `P`, and one that does not makes `P` false. -/
theorem run_iff_everySafe {safe : Dict K V → Op K V → Bool} {R P : Dict K V → List (Op K V) → Prop}
    (hP : ∀ {d pre}, R d pre → P d pre)
    (hsafe : ∀ {d pre} op, R d pre → safe d op = true → ∃ d', step c d op = some d' ∧
      R d' (pre ++ [op]))
    (hwrong : ∀ {d pre} op, R d pre → safe d op = false → ∃ d', step c d op = some d' ∧
      ¬P d' (pre ++ [op])) (ops : List (Op K V)) (hrun : run c pre = some d) (h : R d pre) :
    (∀ suf, suf <+: ops → ∃ d', run c (pre ++ suf) = some d' ∧ P d' (pre ++ suf)) ↔
      everySafe c safe d ops = true := by
  induction ops generalizing pre d with
  | nil =>
    simp only [everySafe, iff_true]
    intro suf hsuf
    rw [List.prefix_nil.mp hsuf, append_nil]
    exact ⟨d, hrun, hP h⟩
  | cons op ops ih =>
    cases hop : safe d op with
    | true =>
      obtain ⟨d₁, hstep, h₁⟩ := hsafe op h hop
      have hrun₁ : run c (pre ++ [op]) = some d₁ := by
        rw [run_snoc, hrun]
        exact hstep
      simp only [everySafe, hop, hstep, Bool.true_and]
      rw [← ih hrun₁ h₁]
      constructor
      · intro hall suf hsuf
        have hmore := hall (op :: suf) (List.cons_prefix_cons.mpr ⟨rfl, hsuf⟩)
        rwa [append_assoc]
      · intro hall suf hsuf
        rcases suf with _ | ⟨op', suf⟩
        · rw [append_nil]
          exact ⟨d, hrun, hP h⟩
        obtain ⟨rfl, hsuf'⟩ := List.cons_prefix_cons.mp hsuf
        have hmore := hall suf hsuf'
        rwa [append_assoc] at hmore
    | false =>
      -- The prefix that ends with this operation is already wrong
      obtain ⟨d₁, hstep, hnot⟩ := hwrong op h hop
      simp only [everySafe, hop, Bool.false_and, Bool.false_eq_true, iff_false]
      intro hall
      obtain ⟨d', hrun', hholds⟩ := hall [op] (List.cons_prefix_cons.mpr ⟨rfl, nil_prefix⟩)
      rw [run_snoc, hrun, Option.bind_some, hstep] at hrun'
      cases hrun'
      exact hnot hholds

theorem Refines.step_safe (hc : c.Lawful) (op : Op K V) (h : Refines c d pre)
    (hsafe : keysUniqueAfter c d op = true) :
    ∃ d', step c d op = some d' ∧ Refines c d' (pre ++ [op]) := by
  cases op with
  | insert k v => exact h.step_insert hc k v (by simpa [keysUniqueAfter] using hsafe)
  | remove k => exact h.step_remove hc k
  | reserve n => exact h.step_reserve hc n

theorem Refines.step_wrong (hc : c.Lawful) (op : Op K V) (h : Refines c d pre)
    (hwrong : keysUniqueAfter c d op = false) :
    ∃ d', step c d op = some d' ∧ ¬Agrees c d' (pre ++ [op]) := by
  cases op with
  | insert k v => exact h.step_insert_buried hc k v (by simpa [keysUniqueAfter] using hwrong)
  | remove k => cases hwrong
  | reserve n => cases hwrong

/-- The dictionary shows the finite map of its history after every operation exactly when
    no insertion of the history settles on a tombstone before the key's own item. -/
theorem dict_history_agrees_iff (c : Config K V) (hc : c.Lawful) (ops : List (Op K V)) :
    (∀ pre, pre <+: ops → ∃ d, run c pre = some d ∧ Agrees c d pre) ↔
      keepsKeysUnique c (dictCreate c) ops = true :=
  run_iff_everySafe (fun h => h.agrees hc) (Refines.step_safe hc) (Refines.step_wrong hc) ops
    rfl (dictCreate_refines c)

/-- Numbers as keys, all with the same hash. -/
def collidingConfig : Config Nat Nat where
  emptyKey := 0
  tombstoneKey := 1
  hashFunc := fun _ => 0
  equalFunc := fun k k' => k == k'
  zero := 0

theorem collidingConfig_lawful : collidingConfig.Lawful where
  reserved_ne := by decide
  refl := fun k => beq_self_eq_true k
  symm := fun h => beq_iff_eq.mpr (beq_iff_eq.mp h).symm
  trans := fun h h' => beq_iff_eq.mpr ((beq_iff_eq.mp h).trans (beq_iff_eq.mp h'))
  hash_eq := fun _ => rfl

/-- A history with a removal between two colliding keys and a rehash. -/
theorem dict_history_agrees_on_collisions :
    ∃ d, run collidingConfig [.insert 10 1, .insert 11 2, .remove 10, .reserve 9, .insert 11 3] =
        some d ∧
      Agrees collidingConfig d
        [.insert 10 1, .insert 11 2, .remove 10, .reserve 9, .insert 11 3] :=
  (dict_history_agrees_iff collidingConfig collidingConfig_lawful _).mpr (by decide) _
    List.prefix_rfl

/-- Two colliding keys: the first is removed, the second inserted again over its tombstone
    and then removed. -/
def staleHistory : List (Op Nat Nat) :=
  [.insert 10 1, .insert 11 2, .remove 10, .insert 11 3, .remove 11]

/-- The lookup of the removed key still finds the value of its older insertion, and the
    size still counts it, while the finite map of the history is empty. -/
theorem dict_get_after_remove_finds_stale_value :
    collidingConfig.Lawful ∧ ∃ d, run collidingConfig staleHistory = some d ∧
      dictGet collidingConfig d 11 = some 2 ∧ dictSize d = 1 ∧
      lastInsert collidingConfig 11 staleHistory.reverse = none ∧
      (presentKeys collidingConfig staleHistory.reverse).length = 0 := by
  refine ⟨collidingConfig_lawful, (run collidingConfig staleHistory).get (by decide), ?_⟩
  decide

end S2opc.Dictionary
