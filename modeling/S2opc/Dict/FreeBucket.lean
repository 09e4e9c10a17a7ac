/-
`insert_item` always finds a bucket.

The probe sequence visits half of the buckets at least, and `maybe_resize` keeps
the items under half of the table before an item is added.  The counters that
this rests on are kept by every operation, whatever the hash and the equality of
the keys, and even if a key has several buckets.
-/
import S2opc.Dict.Refinement

namespace S2opc.Dictionary

open Lib OpenAddressing

variable {K V : Type} [DecidableEq K] {c : Config K V} {d : Dict K V}

/-! ## Inserting an item -/

/-- With room in the table, `insert_item` finds a bucket and adds one item at most. -/
theorem Sized.insertItem (hs : Sized c d) (hload : 2 * (d.nItems + 1) ≤ d.size) {key : K}
    (hk : isReserved c key = false) (value : V) (overwrite : Bool) :
    ∃ d', insertItem c d (c.hashFunc key) key value overwrite = some d' ∧ Sized c d' ∧
      d'.size = d.size ∧ d'.nItems ≤ d.nItems + 1 := by
  obtain ⟨p, hp⟩ := hs.settle_isSome hload key overwrite
  obtain ⟨pre, post, hpath, -⟩ := settle_path hp
  have hlt : p < (slots c d).length := path_lt hs key (by simp [hpath])
  have hslot := slotOf_of_not_reserved hk value
  have hbusy := hs.busy
  refine ⟨_, insertItem_eq value hp, ?_⟩
  unfold putAt
  cases hres : isReserved c (bucketAt c d p).key with
  | true =>
    have hfree : (slotAt (slots c d) p).isFree = true := by
      rw [slotAt_slots, slotOf_isFree, hres]
    rw [if_pos rfl]
    refine ⟨hs.of_set ?_ (by omega) hload, rfl, Nat.le_refl _⟩
    rw [hslot, entries_set_entry_of_isFree hlt hfree, hs.items]
  | false =>
    have hentry := (slotAt_slots c d p).trans (slotOf_of_not_reserved hres _)
    rw [if_neg (by simp)]
    refine ⟨hs.of_set ?_ hbusy hs.load, rfl, Nat.le_succ _⟩
    rw [hslot, entries_set_entry_of_entry hentry, hs.items]

/-! ## Rehashing -/

/-- The copy loop of `dict_resize`, each turn of which inserts one item. -/
theorem Sized.reinsertItems (bs : List (Bucket K V)) (hs : Sized c d)
    (hload : 2 * (d.nItems + itemCount c bs) ≤ d.size) :
    ∃ d', reinsertItems c bs d = some d' ∧ Sized c d' ∧ d'.size = d.size ∧
      d'.nItems ≤ d.nItems + itemCount c bs := by
  induction bs generalizing d with
  | nil => exact ⟨d, rfl, hs, rfl, Nat.le_refl _⟩
  | cons b bs ih =>
    cases hb : isReserved c b.key with
    | true =>
      have hcount : itemCount c (b :: bs) = itemCount c bs := by simp [itemCount, hb]
      rw [hcount] at hload ⊢
      obtain ⟨d', hrun, h'⟩ := ih hs hload
      exact ⟨d', by rw [Dictionary.reinsertItems, if_pos hb, hrun], h'⟩
    | false =>
      have hcount : itemCount c (b :: bs) = itemCount c bs + 1 := by simp [itemCount, hb]
      rw [hcount] at hload ⊢
      obtain ⟨d₁, hins, hs₁, hsize₁, hitems₁⟩ := hs.insertItem (by omega) hb b.value false
      obtain ⟨d', hrun, hs', hsize', hitems'⟩ := ih hs₁ (by omega)
      refine ⟨d', ?_, hs', hsize'.trans hsize₁, by omega⟩
      rw [Dictionary.reinsertItems, if_neg (by simp [hb]), hins]
      exact hrun

section

variable (hs : Sized c d)
include hs

theorem Sized.dictResize {m : Nat} (hm : 4 ≤ m) (hload : 2 * d.nItems ≤ 2 ^ m) :
    ∃ d', dictResize c d (2 ^ m) = some d' ∧ Sized c d' ∧ d'.size = 2 ^ m ∧
      d'.nItems ≤ d.nItems := by
  have hcount : itemCount c d.buckets = d.nItems := by rw [itemCount_buckets, hs.items]
  have hroom : 2 * ((freshDict c (2 ^ m)).nItems + itemCount c d.buckets) ≤
      (freshDict c (2 ^ m)).size := by
    rw [hcount]
    show 2 * (0 + d.nItems) ≤ 2 ^ m
    omega
  obtain ⟨d', hrun, hs', hsize, hitems⟩ :=
    (freshDict_wellFormed c hm).sized.reinsertItems d.buckets hroom
  refine ⟨d', ?_, hs', hsize, ?_⟩
  · rw [Dictionary.dictResize, if_pos (two_pow_and_pred m)]
    exact hrun
  · rw [hcount] at hitems
    change d'.nItems ≤ 0 + d.nItems at hitems
    omega

theorem Sized.maybeResize (delta : Nat) (hdelta : delta = 0 ∨ delta = 1) :
    ∃ d', maybeResize c d delta = some d' ∧ Sized c d' ∧ 2 * (d'.nItems + delta) ≤ d'.size := by
  obtain ⟨b, hb, heq, hbound⟩ := hs.targetSize_eq delta hdelta
  by_cases hsame : d.size = 2 ^ b
  · exact ⟨d, by simp [Dictionary.maybeResize, heq, hsame], hs, by omega⟩
  · obtain ⟨d', hres, hs', hsize, hitems⟩ := hs.dictResize hb (by omega)
    exact ⟨d', by simp [Dictionary.maybeResize, heq, hsame, hres], hs', by omega⟩

/-! ## Operations -/

theorem Sized.dictInsert (key : K) (value : V) :
    ∃ answer d', dictInsert c d key value = some (answer, d') ∧ Sized c d' := by
  unfold Dictionary.dictInsert
  cases hk : isReserved c key with
  | true => exact ⟨false, d, rfl, hs⟩
  | false =>
    obtain ⟨d₁, hres, hs₁, hload⟩ := hs.maybeResize 1 (.inr rfl)
    obtain ⟨d', hins, hs', -⟩ := hs₁.insertItem hload hk value true
    exact ⟨true, d', by simp [hres, hins], hs'⟩

theorem Sized.dictRemove (hc : c.emptyKey ≠ c.tombstoneKey) (key : K) :
    ∃ d', dictRemove c d key = some d' ∧ Sized c d' := by
  unfold Dictionary.dictRemove
  rw [if_neg hc]
  rcases hget : getInternal c d key with _ | p
  · exact ⟨d, rfl, hs⟩
  obtain ⟨-, k, v, hslot, -⟩ := getInternal_some hget
  have htomb : slotOf c ⟨c.tombstoneKey, c.zero⟩ = .tombstone := slotOf_tombstone (Ne.symm hc) rfl
  have hcount := entries_set_tombstone hslot
  have hitems := hs.items
  have hbusy := hs.busy
  have hload := hs.load
  have hs₁ : Sized c { d with
      buckets := d.buckets.set p ⟨c.tombstoneKey, c.zero⟩, nItems := d.nItems - 1 } := by
    apply hs.of_set
    · rw [htomb]
      omega
    · omega
    · omega
  obtain ⟨d', hres, hs', -⟩ := hs₁.maybeResize 0 (.inl rfl)
  exact ⟨d', hres, hs'⟩

theorem Sized.dictReserve (nItems : Nat) :
    ∃ d', dictReserve c d nItems = some d' ∧ Sized c d' := by
  obtain ⟨a, ha, hsize⟩ := hs.log
  have hload := hs.load
  obtain ⟨b, hab, hmin, -⟩ := minimumDictSize_eq a nItems
  have hle : (2 : Nat) ^ a ≤ 2 ^ b := Nat.pow_le_pow_right (by decide) hab
  obtain ⟨d', hres, hs', -⟩ := hs.dictResize (m := b) (by omega) (by omega)
  exact ⟨d', by simp [Dictionary.dictReserve, hsize, hmin, hres], hs'⟩

/-- An operation only stops at an assertion if it removes from a dictionary without a tombstone
    key. -/
theorem Sized.step (op : Op K V) :
    (∃ d', step c d op = some d' ∧ Sized c d') ∨
      (c.emptyKey = c.tombstoneKey ∧ ∃ key, op = .remove key) := by
  cases op with
  | insert key value =>
    obtain ⟨answer, d', hins, hs'⟩ := hs.dictInsert key value
    exact .inl ⟨d', by simp [Dictionary.step, hins], hs'⟩
  | remove key =>
    by_cases hc : c.emptyKey = c.tombstoneKey
    · exact .inr ⟨hc, key, rfl⟩
    · exact .inl (hs.dictRemove hc key)
  | reserve nItems => exact .inl (hs.dictReserve nItems)

theorem Sized.runFrom (ops : List (Op K V)) :
    (∃ d', runFrom c d ops = some d') ∨
      (c.emptyKey = c.tombstoneKey ∧ ∃ pre key suf, ops = pre ++ .remove key :: suf ∧
        ∃ d', runFrom c d pre = some d') := by
  induction ops generalizing d with
  | nil => exact .inl ⟨d, rfl⟩
  | cons op ops ih =>
    rcases hs.step op with ⟨d₁, hstep, hs₁⟩ | ⟨hc, key, rfl⟩
    · rcases ih hs₁ with ⟨d', hrun⟩ | ⟨hc, pre, key, suf, rfl, d', hrun⟩
      · exact .inl ⟨d', by rw [Dictionary.runFrom, hstep, Option.bind_some, hrun]⟩
      · refine .inr ⟨hc, op :: pre, key, suf, rfl, d', ?_⟩
        rw [Dictionary.runFrom, hstep, Option.bind_some, hrun]
    · exact .inr ⟨hc, [], key, ops, rfl, d, rfl⟩

end

/-- A history goes through without any failed assertion, that of `insert_item` included, unless it
    removes from a dictionary whose tombstone key was not set; it then goes through up to there. -/
theorem free_bucket_is_found (c : Config K V) (ops : List (Op K V)) :
    (∃ d, run c ops = some d) ∨
      (c.emptyKey = c.tombstoneKey ∧ ∃ pre key suf, ops = pre ++ .remove key :: suf ∧
        ∃ d, run c pre = some d) :=
  (dictCreate_refines c).wellFormed.sized.runFrom ops

end S2opc.Dictionary
