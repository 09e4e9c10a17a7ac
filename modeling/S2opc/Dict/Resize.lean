/-
Rehashing: `minimum_dict_size`, `dict_resize` and `maybe_resize`.

A rehash copies the items of the old buckets, in the order of their indices,
into a table without tombstones.  It keeps every answer, and the size aimed at
keeps the items under half of the table.
-/
import S2opc.Dict.Invariant

namespace S2opc.Dictionary

open Lib List OpenAddressing

variable {K V : Type} [DecidableEq K]

/-- No removed item has left its mark. -/
def NoTombstone (c : Config K V) (d : Dict K V) : Prop :=
  ∀ p, OpenAddressing.slotAt (slots c d) p ≠ .tombstone

/-! ## Sizes -/

theorem minimumDictSizeLoop_eq (nItems fuel a : Nat) :
    ∃ b, a ≤ b ∧ minimumDictSizeLoop nItems fuel (2 ^ a) = 2 ^ b ∧
      (2 * nItems ≤ 2 ^ (a + fuel) → 2 * nItems ≤ 2 ^ b) := by
  induction fuel generalizing a with
  | zero => exact ⟨a, Nat.le_refl a, rfl, by simp⟩
  | succ fuel ih =>
    simp only [minimumDictSizeLoop]
    by_cases hlt : 2 ^ a < 2 * nItems
    · obtain ⟨b, hab, hb, hbound⟩ := ih (a + 1)
      rw [if_pos hlt, ← Nat.pow_succ]
      refine ⟨b, by omega, hb, fun h => hbound ?_⟩
      rwa [show a + 1 + fuel = a + (fuel + 1) by omega]
    · rw [if_neg hlt]
      exact ⟨a, Nat.le_refl a, rfl, fun _ => Nat.le_of_not_lt hlt⟩

/-- The size computed is a power of two, at least the start size, and holds the
    items under half of it. -/
theorem minimumDictSize_eq (a nItems : Nat) :
    ∃ b, a ≤ b ∧ minimumDictSize (2 ^ a) nItems = some (2 ^ b) ∧ 2 * nItems ≤ 2 ^ b := by
  obtain ⟨b, hab, hb, hbound⟩ := minimumDictSizeLoop_eq nItems (2 * nItems) a
  refine ⟨b, hab, ?_, hbound ?_⟩
  · rw [minimumDictSize, if_pos (two_pow_and_pred a), hb]
  · calc 2 * nItems ≤ 2 ^ (2 * nItems) := Nat.le_of_lt Nat.lt_two_pow_self
      _ ≤ 2 ^ (a + 2 * nItems) := Nat.pow_le_pow_right (by decide) (by omega)

/-! ## The fresh table -/

/-- The table `dict_resize` starts from. -/
def freshDict (c : Config K V) (size : Nat) : Dict K V where
  buckets := setEmptyKeys c size
  size := size
  sizemask := size - 1
  nItems := 0
  nBusy := 0

theorem slotAt_freshDict (c : Config K V) (size p : Nat) :
    slotAt (slots c (freshDict c size)) p = .empty := by
  rw [slotAt_slots]
  apply slotOf_empty
  rw [bucketAt, freshDict, setEmptyKeys, getElem?_replicate]
  split <;> rfl

variable {m : Nat}

theorem freshDict_wellFormed (c : Config K V) (hm : 4 ≤ m) :
    WellFormed c (freshDict c (2 ^ m)) where
  log := ⟨m, hm, rfl⟩
  mask := rfl
  length := by simp [freshDict, setEmptyKeys]
  items := by
    simp [freshDict, slots, setEmptyKeys, entries, slotOf, countP_replicate]
  busy := Nat.le_refl 0
  load := Nat.zero_le _
  inv := by
    constructor
    · intro p q k k' v v' hp
      simp [slotAt_freshDict] at hp
    · intro p k v hp
      simp [slotAt_freshDict] at hp

theorem freshDict_noTombstone (c : Config K V) (size : Nat) : NoTombstone c (freshDict c size) := by
  intro p hp
  simp [slotAt_freshDict] at hp

theorem not_holds_freshDict (c : Config K V) (size : Nat) (x : K) (w : V) :
    ¬ Holds c (freshDict c size) x w := by
  rintro ⟨p, k, hp, -⟩
  simp [slotAt_freshDict] at hp

variable {c : Config K V} {d : Dict K V}

theorem NoTombstone.set_entry (h : NoTombstone c d) {key : K} (hk : isReserved c key = false)
    (value : V) (p n n' : Nat) :
    NoTombstone c
      { d with buckets := d.buckets.set p ⟨key, value⟩, nItems := n, nBusy := n' } := by
  intro q
  rw [slots_set, slotOf_of_not_reserved hk]
  by_cases hp : p < (slots c d).length
  · rcases slotAt_set_cases (s := .entry key value) hp q with ⟨-, hq⟩ | ⟨-, hq⟩
    · simp [hq]
    · rw [hq]
      exact h q
  · rw [set_eq_of_length_le (Nat.le_of_not_lt hp)]
    exact h q

/-! ## `dict_resize` -/

/-- The items a list of buckets holds for a key. -/
def Among (c : Config K V) (bs : List (Bucket K V)) (x : K) (w : V) : Prop :=
  ∃ b ∈ bs, isReserved c b.key = false ∧ c.equalFunc x b.key = true ∧ w = b.value

/-- No two items of the list are under equal keys. -/
def Unrelated (c : Config K V) (b b' : Bucket K V) : Prop :=
  isReserved c b.key = false → isReserved c b'.key = false → c.equalFunc b.key b'.key = false

/-- The items of a list of buckets. -/
def itemCount (c : Config K V) (bs : List (Bucket K V)) : Nat :=
  bs.countP fun b => !isReserved c b.key

variable {b : Bucket K V} {bs : List (Bucket K V)}

theorem among_cons_of_reserved (hb : isReserved c b.key = true) (x : K) (w : V) :
    Among c (b :: bs) x w ↔ Among c bs x w := by
  simp [Among, hb]

theorem among_cons (hb : isReserved c b.key = false) (x : K) (w : V) :
    Among c (b :: bs) x w ↔ (c.equalFunc x b.key = true ∧ w = b.value) ∨ Among c bs x w := by
  simp [Among, hb]

/-- The copy loop: it ends in a well-formed table that answers what the target
    answered and what the buckets hold, and counts their items. -/
theorem reinsertItems_spec (hc : c.Lawful) (bs : List (Bucket K V)) (d : Dict K V)
    (hw : WellFormed c d) (hnt : NoTombstone c d) (hpw : bs.Pairwise (Unrelated c))
    (hfresh : ∀ x w w', Among c bs x w → ¬ Holds c d x w')
    (hload : 2 * (d.nItems + itemCount c bs) ≤ d.size) :
    ∃ d', reinsertItems c bs d = some d' ∧ WellFormed c d' ∧ NoTombstone c d' ∧
      d'.size = d.size ∧ d'.nItems = d.nItems + itemCount c bs ∧
      ∀ x w, Holds c d' x w ↔ Holds c d x w ∨ Among c bs x w := by
  induction bs generalizing d with
  | nil => exact ⟨d, rfl, hw, hnt, rfl, rfl, by simp [Among]⟩
  | cons b bs ih =>
    obtain ⟨hb_rel, hpw'⟩ := List.pairwise_cons.mp hpw
    cases hb : isReserved c b.key with
    | true =>
      -- A reserved bucket is skipped
      have hcount : itemCount c (b :: bs) = itemCount c bs := by simp [itemCount, hb]
      obtain ⟨d', hrun, hw', hnt', hsize, hitems, hhold⟩ :=
        ih d hw hnt hpw' (fun x w w' ha => hfresh x w w' ((among_cons_of_reserved hb x w).mpr ha))
          (by rwa [hcount] at hload)
      refine ⟨d', by rw [reinsertItems, if_pos hb, hrun], hw', hnt', hsize, ?_, ?_⟩
      · rw [hitems, hcount]
      · intro x w
        rw [hhold, among_cons_of_reserved hb]
    | false =>
      have hcount : itemCount c (b :: bs) = itemCount c bs + 1 := by simp [itemCount, hb]
      have hnew : ∀ w, ¬ Holds c d b.key w := fun w =>
        hfresh b.key b.value w ((among_cons hb _ _).mpr (.inl ⟨hc.refl b.key, rfl⟩))
      obtain ⟨p, d1, hd1, hins, hw1, hhold1⟩ :=
        insertItem_new hc hw (by omega) hb hnew b.value false
      -- The items still to copy are not under the key just copied
      have hfresh1 : ∀ x w w', Among c bs x w → ¬ Holds c d1 x w' := by
        intro x w w' ha hh
        rcases (hhold1 x w').mp hh with ⟨hxb, -⟩ | hh
        · obtain ⟨b', hb', hres', hxb', -⟩ := ha
          have hfalse := hb_rel b' hb' hb hres'
          rw [hc.trans (hc.symm hxb) hxb'] at hfalse
          cases hfalse
        · exact hfresh x w w' ((among_cons hb x w).mpr (.inr ha)) hh
      obtain ⟨d', hrun, hw', hnt', hsize, hitems, hhold⟩ :=
        ih d1 hw1 (hd1 ▸ hnt.set_entry hb b.value p _ _) hpw' hfresh1
          (by simp only [hd1, hcount] at hload ⊢; omega)
      refine ⟨d', ?_, hw', hnt', hsize.trans (by rw [hd1]), ?_, ?_⟩
      · rw [reinsertItems, if_neg (by simp [hb]), hins]
        exact hrun
      · simp only [hitems, hcount, hd1]
        omega
      · intro x w
        rw [hhold, hhold1, among_cons hb, or_comm (b := Holds c d x w), or_assoc]

/-- The old buckets, read as a list of items, are what the old table answers. -/
theorem among_buckets_iff (c : Config K V) (d : Dict K V) (x : K) (w : V) :
    Among c d.buckets x w ↔ Holds c d x w := by
  constructor
  · rintro ⟨b, hb, hres, he, rfl⟩
    obtain ⟨p, hp, hpb⟩ := getElem_of_mem hb
    refine ⟨p, b.key, ?_, he⟩
    rw [slotAt_slots, bucketAt, getElem?_eq_getElem hp, hpb]
    exact slotOf_of_not_reserved hres b.value
  · rintro ⟨p, k, hp, he⟩
    obtain ⟨hres, hbucket⟩ := not_reserved_of_slotAt hp
    have hlt : p < d.buckets.length := by
      simpa [slots] using lt_length_of_entry hp
    have hget : d.buckets[p] = ⟨k, w⟩ := by
      rw [← hbucket, bucketAt, getElem?_eq_getElem hlt]
      rfl
    exact ⟨⟨k, w⟩, hget ▸ getElem_mem hlt, hres, he, rfl⟩

theorem itemCount_buckets (c : Config K V) (d : Dict K V) :
    itemCount c d.buckets = entries (slots c d) := by
  rw [itemCount, entries, slots, countP_map]
  congr 1
  funext b
  rw [← slotOf_isFree, Slot.isFree_eq_not_isEntry, Bool.not_not]
  rfl

theorem WellFormed.pairwise_unrelated (hw : WellFormed c d) :
    d.buckets.Pairwise (Unrelated c) := by
  rw [pairwise_iff_getElem]
  intro i j hi hj hij hri hrj
  have hslot : ∀ (n : Nat) (hn : n < d.buckets.length), isReserved c d.buckets[n].key = false →
      slotAt (slots c d) n = .entry d.buckets[n].key d.buckets[n].value := by
    intro n hn hr
    rw [slotAt_slots, bucketAt, getElem?_eq_getElem hn]
    exact slotOf_of_not_reserved hr _
  by_contra he
  have hij' := hw.inv.distinct (hslot i hi hri) (hslot j hj hrj) (Bool.of_not_eq_false he)
  omega

/-- Two tables that count and answer the same. -/
structure SameItems (c : Config K V) (d d' : Dict K V) : Prop where
  nItems : d'.nItems = d.nItems
  holds : ∀ x w, Holds c d' x w ↔ Holds c d x w

theorem SameItems.refl (c : Config K V) (d : Dict K V) : SameItems c d d := ⟨rfl, fun _ _ => Iff.rfl⟩

/-- A rehash to a size that keeps the items under half of it keeps every answer. -/
theorem dictResize_spec (hc : c.Lawful) (hw : WellFormed c d) (hm : 4 ≤ m)
    (hload : 2 * d.nItems ≤ 2 ^ m) :
    ∃ d', dictResize c d (2 ^ m) = some d' ∧ WellFormed c d' ∧ NoTombstone c d' ∧
      d'.size = 2 ^ m ∧ SameItems c d d' := by
  have hcount : itemCount c d.buckets = d.nItems := by rw [itemCount_buckets, hw.items]
  have hload' : 2 * ((freshDict c (2 ^ m)).nItems + itemCount c d.buckets) ≤
      (freshDict c (2 ^ m)).size := by
    simp only [freshDict, hcount]
    omega
  obtain ⟨d', hrun, hw', hnt', hsize, hitems, hhold⟩ :=
    reinsertItems_spec hc d.buckets (freshDict c (2 ^ m)) (freshDict_wellFormed c hm)
      (freshDict_noTombstone c _) hw.pairwise_unrelated
      (fun x _ w' _ => not_holds_freshDict c _ x w') hload'
  refine ⟨d', ?_, hw', hnt', hsize, ?_, ?_⟩
  · rw [dictResize, if_pos (two_pow_and_pred m)]
    exact hrun
  · rw [hitems, hcount]
    simp [freshDict]
  · intro x w
    rw [hhold, among_buckets_iff]
    exact or_iff_right (not_holds_freshDict c _ x w)

/-! ## `maybe_resize` -/

/-- The target is a power of two that keeps the items, and the one to come, under half of it. -/
theorem Sized.targetSize_eq (hs : Sized c d) (delta : Nat) (hdelta : delta = 0 ∨ delta = 1) :
    ∃ b, 4 ≤ b ∧ targetSize d delta = some (2 ^ b) ∧ 2 * (d.nItems + delta) ≤ 2 ^ b := by
  obtain ⟨a, ha, hsize⟩ := hs.log
  unfold targetSize
  split
  · obtain ⟨b, hb, heq, hbound⟩ := minimumDictSize_eq 4 (d.nItems + delta)
    exact ⟨b, hb, heq, hbound⟩
  rename_i hno
  refine ⟨a, ha, by rw [hsize], ?_⟩
  have hload := hs.load
  have hbusy := hs.busy
  rcases hdelta with rfl | rfl
  · omega
  · have hroom : ¬ d.size / 2 < d.nBusy + 1 := fun h => hno (.inl ⟨Nat.one_pos, h⟩)
    omega

/-- Both ways `maybe_resize` can take: the table is left alone, or rehashed without
    tombstones. -/
theorem maybeResize_spec (hc : c.Lawful) (hw : WellFormed c d) (delta : Nat)
    (hdelta : delta = 0 ∨ delta = 1) :
    ∃ d', maybeResize c d delta = some d' ∧ WellFormed c d' ∧ SameItems c d d' ∧
      2 * (d.nItems + delta) ≤ d'.size ∧
      ((targetSize d delta = some d.size ∧ d' = d) ∨
        (targetSize d delta ≠ some d.size ∧ NoTombstone c d')) := by
  obtain ⟨b, hb, heq, hbound⟩ := hw.sized.targetSize_eq delta hdelta
  by_cases hsame : d.size = 2 ^ b
  · refine ⟨d, by simp [maybeResize, heq, hsame], hw, .refl c d, by omega, .inl ⟨?_, rfl⟩⟩
    rw [heq, hsame]
  obtain ⟨d', hres, hw', hnt, hsize', hitems⟩ := dictResize_spec hc hw hb (by omega)
  refine ⟨d', by simp [maybeResize, heq, hsame, hres], hw', hitems, by omega, .inr ⟨?_, hnt⟩⟩
  rw [heq]
  intro h
  exact hsame (Option.some.inj h).symm

end S2opc.Dictionary
