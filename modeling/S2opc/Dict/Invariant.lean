/-
The dictionary as an open-addressing table, and its invariant.

`slots` reads the buckets through the two reserved keys, `path` is the probe
sequence of a key.  The probe sequence is not a permutation of the table: its
attempts of even rank alone visit `size / 2` distinct buckets, which is what
guarantees a free bucket while the items fill less than half of the table.
-/
import S2opc.Dict.Basic

namespace S2opc.Dictionary

open Lib List OpenAddressing

variable {K V : Type} [DecidableEq K]

/-- What the callers promise of a configuration: distinct reserved keys, an
    equality of keys, and a hash that equal keys share. -/
structure Config.Lawful (c : Config K V) : Prop where
  reserved_ne : c.emptyKey ≠ c.tombstoneKey
  refl : ∀ k, c.equalFunc k k = true
  symm : ∀ {k k'}, c.equalFunc k k' = true → c.equalFunc k' k = true
  trans : ∀ {k k' k''}, c.equalFunc k k' = true → c.equalFunc k' k'' = true →
    c.equalFunc k k'' = true
  hash_eq : ∀ {k k'}, c.equalFunc k k' = true → c.hashFunc k = c.hashFunc k'

/-- A bucket read through the reserved keys. -/
def slotOf (c : Config K V) (b : Bucket K V) : OpenAddressing.Slot K V :=
  if b.key = c.emptyKey then .empty
  else if b.key = c.tombstoneKey then .tombstone
  else .entry b.key b.value

/-- The table of slots of a dictionary. -/
def slots (c : Config K V) (d : Dict K V) : OpenAddressing.Table K V :=
  d.buckets.map (slotOf c)

/-- The buckets the attempts `is` visit. -/
def probes (d : Dict K V) (hash : Nat) (is : List Nat) : List Nat :=
  is.map (dictHash d.sizemask hash)

/-- The probe sequence of a key. -/
def path (c : Config K V) (d : Dict K V) (key : K) : List Nat :=
  probes d (c.hashFunc key) (List.range d.size)

/-- The invariant of every table a history reaches. -/
structure WellFormed (c : Config K V) (d : Dict K V) : Prop where
  log : ∃ m, 4 ≤ m ∧ d.size = 2 ^ m
  mask : d.sizemask = d.size - 1
  length : d.buckets.length = d.size
  items : d.nItems = OpenAddressing.entries (slots c d)
  busy : d.nItems ≤ d.nBusy
  load : 2 * d.nItems ≤ d.size
  inv : OpenAddressing.Inv c.equalFunc (path c d) (slots c d)

/-- The part of the invariant that needs nothing of the configuration: the counters and the load
    of the table. -/
structure Sized (c : Config K V) (d : Dict K V) : Prop where
  log : ∃ m, 4 ≤ m ∧ d.size = 2 ^ m
  mask : d.sizemask = d.size - 1
  length : d.buckets.length = d.size
  items : d.nItems = OpenAddressing.entries (slots c d)
  busy : d.nItems ≤ d.nBusy
  load : 2 * d.nItems ≤ d.size

variable {c : Config K V} {d : Dict K V}

theorem WellFormed.sized (hw : WellFormed c d) : Sized c d :=
  ⟨hw.log, hw.mask, hw.length, hw.items, hw.busy, hw.load⟩

/-- The dictionary answers `v` for `key`. -/
def Holds (c : Config K V) (d : Dict K V) (key : K) (v : V) : Prop :=
  OpenAddressing.Has c.equalFunc (slots c d) key v

/-! ## Reading buckets as slots -/

variable {b : Bucket K V}

theorem slotOf_empty (h : b.key = c.emptyKey) :
    slotOf c b = .empty := by
  rw [slotOf, if_pos h]

theorem slotOf_tombstone (he : b.key ≠ c.emptyKey) (ht : b.key = c.tombstoneKey) :
    slotOf c b = .tombstone := by
  rw [slotOf, if_neg he, if_pos ht]

theorem slotOf_entry (he : b.key ≠ c.emptyKey) (ht : b.key ≠ c.tombstoneKey) :
    slotOf c b = .entry b.key b.value := by
  rw [slotOf, if_neg he, if_neg ht]

variable {k : K}

theorem isReserved_eq_false :
    isReserved c k = false ↔ k ≠ c.emptyKey ∧ k ≠ c.tombstoneKey := by
  simp [isReserved]

theorem slotOf_isFree (c : Config K V) (b : Bucket K V) :
    (slotOf c b).isFree = isReserved c b.key := by
  by_cases he : b.key = c.emptyKey
  · simp [slotOf_empty he, isReserved, he]
  by_cases ht : b.key = c.tombstoneKey
  · simp [slotOf_tombstone he ht, isReserved, ht]
  · simp [slotOf_entry he ht, isReserved, he, ht]

theorem slotAt_slots (c : Config K V) (d : Dict K V) (p : Nat) :
    slotAt (slots c d) p = slotOf c (bucketAt c d p) := by
  rw [slotAt, slots, bucketAt, getElem?_map]
  cases d.buckets[p]? with
  | none => simp [slotOf]
  | some b => rfl

theorem slots_set (c : Config K V) (d : Dict K V) (p : Nat) (b : Bucket K V) (n n' : Nat) :
    slots c { d with buckets := d.buckets.set p b, nItems := n, nBusy := n' } =
      (slots c d).set p (slotOf c b) := by
  simp [slots, map_set]

variable {p : Nat}

/-- An entry of the table never carries a reserved key. -/
theorem not_reserved_of_slotAt {v : V} (h : slotAt (slots c d) p = .entry k v) :
    isReserved c k = false ∧ bucketAt c d p = ⟨k, v⟩ := by
  rw [slotAt_slots, slotOf] at h
  split at h
  · cases h
  split at h
  · cases h
  rename_i he ht
  cases h
  exact ⟨isReserved_eq_false.mpr ⟨he, ht⟩, rfl⟩

/-! ## The two probe loops as walks of the path -/

omit [DecidableEq K] in
theorem probes_cons (d : Dict K V) (hash i : Nat) (is : List Nat) :
    probes d hash (i :: is) = dictHash d.sizemask hash i :: probes d hash is := rfl

theorem getInternalLoop_eq (c : Config K V) (d : Dict K V) (hash : Nat) (key : K)
    (is : List Nat) :
    getInternalLoop c d hash key is =
      find c.equalFunc (slots c d) key (probes d hash is) := by
  induction is with
  | nil => rfl
  | cons i is ih =>
    rw [probes_cons]
    simp only [getInternalLoop, find, slotAt_slots]
    generalize hb : bucketAt c d (dictHash d.sizemask hash i) = b
    by_cases he : b.key = c.emptyKey
    · rw [if_pos he, slotOf_empty he]
    rw [if_neg he]
    by_cases ht : b.key = c.tombstoneKey
    · simp [ht, slotOf_tombstone he ht, ih]
    · simp [ht, slotOf_entry he ht, ih]

/-- What `insert_item` does at the bucket it settles on. -/
def putAt (c : Config K V) (d : Dict K V) (key : K) (value : V) (p : Nat) : Dict K V :=
  if isReserved c (bucketAt c d p).key then
    { d with buckets := d.buckets.set p ⟨key, value⟩, nItems := d.nItems + 1,
             nBusy := d.nBusy + 1 }
  else
    { d with buckets := d.buckets.set p ⟨key, value⟩ }

theorem insertItemLoop_eq (c : Config K V) (d : Dict K V) (hash : Nat) (key : K) (value : V)
    (overwrite : Bool) (is : List Nat) :
    insertItemLoop c d hash key value overwrite is =
      (settle c.equalFunc overwrite (slots c d) key (probes d hash is)).map
        (putAt c d key value) := by
  induction is with
  | nil => rfl
  | cons i is ih =>
    rw [probes_cons]
    rw [settle_cons, slotAt_slots]
    simp only [insertItemLoop]
    generalize hb : bucketAt c d (dictHash d.sizemask hash i) = b
    cases hr : isReserved c b.key with
    | true =>
      have hfree := (slotOf_isFree c b).trans hr
      simp [settles_of_isFree overwrite hfree, putAt, hb, hr]
    | false =>
      obtain ⟨he, ht⟩ := isReserved_eq_false.mp hr
      rw [slotOf_entry he ht]
      cases ho : overwrite && c.equalFunc key b.key with
      | true => simp [Slot.settles, ho, putAt, hb, hr]
      | false => simp [Slot.settles, ho, ih]

/-! ## Coverage of the probe sequence -/

theorem two_pow_and_pred (m : Nat) : 2 ^ m &&& (2 ^ m - 1) = 0 := by
  rw [Nat.and_two_pow_sub_one_eq_mod, Nat.mod_self]

theorem dictHash_eq_mod (m hash i : Nat) :
    dictHash (2 ^ m - 1) hash i = (hash + i / 2 + i * i / 2) % 2 ^ m := by
  rw [dictHash, Nat.and_two_pow_sub_one_eq_mod]

theorem dictHash_even (m hash a : Nat) :
    dictHash (2 ^ m - 1) hash (2 * a) = (hash + (2 * a * a + a)) % 2 ^ m := by
  have h1 : 2 * a / 2 = a := by omega
  have h2 : 2 * a * (2 * a) / 2 = 2 * a * a := by
    rw [show 2 * a * (2 * a) = 2 * (2 * a * a) by ring]
    omega
  rw [dictHash_eq_mod, h1, h2]
  congr 1
  ring

/-- `2 a² + a` takes different values modulo `2 ^ m` on different `a` below `2 ^ m`:
    the difference of two of them is `a - b` times an odd number. -/
theorem even_probe_injective {m hash a b : Nat} (ha : a < 2 ^ m) (hb : b < 2 ^ m)
    (h : dictHash (2 ^ m - 1) hash (2 * a) = dictHash (2 ^ m - 1) hash (2 * b)) : a = b := by
  rw [dictHash_even, dictHash_even] at h
  have hmod : 2 * a * a + a ≡ 2 * b * b + b [MOD 2 ^ m] := Nat.ModEq.add_left_cancel' hash h
  have hdvd : ((2 ^ m : Nat) : Int) ∣ ((2 * (a + b) + 1 : Nat) : Int) * ((b : Int) - a) := by
    have hz := (Nat.modEq_iff_dvd).mp hmod
    have hfac : ((2 * b * b + b : Nat) : Int) - ((2 * a * a + a : Nat) : Int) =
        ((2 * (a + b) + 1 : Nat) : Int) * ((b : Int) - a) := by
      push_cast
      ring
    rwa [hfac] at hz
  have hodd : IsCoprime ((2 ^ m : Nat) : Int) ((2 * (a + b) + 1 : Nat) : Int) := by
    rw [Nat.isCoprime_iff_coprime]
    exact Nat.Coprime.pow_left m (by simp)
  have hdiff : ((2 ^ m : Nat) : Int) ∣ (b : Int) - a := hodd.dvd_of_dvd_mul_left hdvd
  have hab : a ≡ b [MOD 2 ^ m] := Nat.modEq_iff_dvd.mpr hdiff
  exact Nat.ModEq.eq_of_lt_of_lt hab ha hb

/-- The attempts of even rank. -/
def evenProbes (d : Dict K V) (hash : Nat) : List Nat :=
  (List.range (d.size / 2)).map fun a => dictHash d.sizemask hash (2 * a)

theorem evenProbes_nodup (hs : Sized c d) (hash : Nat) :
    (evenProbes d hash).Nodup := by
  obtain ⟨m, -, hm⟩ := hs.log
  rw [evenProbes, hs.mask, hm]
  apply Nodup.map_on _ nodup_range
  intro a ha b hb hab
  have ha' : a < 2 ^ m / 2 := List.mem_range.mp ha
  have hb' : b < 2 ^ m / 2 := List.mem_range.mp hb
  exact even_probe_injective (by omega) (by omega) hab

omit [DecidableEq K] in
theorem evenProbes_subset_path (c : Config K V) (d : Dict K V) (key : K) :
    evenProbes d (c.hashFunc key) ⊆ path c d key := by
  intro p hp
  obtain ⟨a, ha, rfl⟩ := List.mem_map.mp hp
  have ha' : a < d.size / 2 := List.mem_range.mp ha
  exact List.mem_map.mpr ⟨2 * a, List.mem_range.mpr (by omega), rfl⟩

/-- While the items fill less than half of the table, every path meets a free bucket. -/
theorem Sized.exists_free (hs : Sized c d) (hload : 2 * (d.nItems + 1) ≤ d.size) (key : K) :
    ∃ p ∈ path c d key, (slotAt (slots c d) p).isFree = true := by
  have hlen : entries (slots c d) < (evenProbes d (c.hashFunc key)).length := by
    rw [← hs.items, evenProbes, length_map, length_range]
    omega
  obtain ⟨p, hp, hfree⟩ := OpenAddressing.exists_free (evenProbes_nodup hs _) hlen
  exact ⟨p, evenProbes_subset_path c d key hp, hfree⟩

theorem path_lt (hs : Sized c d) (key : K) (hp : p ∈ path c d key) : p < (slots c d).length := by
  obtain ⟨i, -, rfl⟩ := List.mem_map.mp hp
  obtain ⟨m, -, hm⟩ := hs.log
  rw [slots, length_map, hs.length, hs.mask, hm, dictHash_eq_mod]
  exact Nat.mod_lt _ (Nat.two_pow_pos m)

omit [DecidableEq K] in
theorem Config.Lawful.compatible (hc : c.Lawful) (d : Dict K V) :
    Compatible c.equalFunc (path c d) where
  refl := hc.refl
  symm := hc.symm
  trans := hc.trans
  path_eq := by
    intro k k' he
    rw [path, path, hc.hash_eq he]

/-! ## `insert_item` -/

section InsertItem

variable {c : Config K V} {d : Dict K V} {key : K}

theorem slotOf_of_not_reserved (hk : isReserved c key = false) (value : V) :
    slotOf c ⟨key, value⟩ = .entry key value := by
  obtain ⟨he, ht⟩ := isReserved_eq_false.mp hk
  exact slotOf_entry he ht

/-- Under the load bound `insert_item` always settles on a bucket of the path. -/
theorem Sized.settle_isSome (hs : Sized c d) (hload : 2 * (d.nItems + 1) ≤ d.size)
    (key : K) (overwrite : Bool) :
    ∃ p, settle c.equalFunc overwrite (slots c d) key (path c d key) = some p :=
  Option.isSome_iff_exists.mp
    (OpenAddressing.settle_isSome overwrite (hs.exists_free hload key))

theorem insertItem_eq {overwrite : Bool} (value : V)
    (hp : settle c.equalFunc overwrite (slots c d) key (path c d key) = some p) :
    insertItem c d (c.hashFunc key) key value overwrite = some (putAt c d key value p) := by
  rw [path] at hp
  rw [insertItem, insertItemLoop_eq, hp]
  rfl

variable {n n' : Nat}

theorem Sized.of_set (hs : Sized c d)
    (hitems : n = entries ((slots c d).set p (slotOf c b))) (hbusy : n ≤ n')
    (hload : 2 * n ≤ d.size) :
    Sized c { d with buckets := d.buckets.set p b, nItems := n, nBusy := n' } where
  log := hs.log
  mask := hs.mask
  length := by simp [hs.length]
  items := by rw [slots_set, hitems]
  busy := hbusy
  load := hload

/-- The invariant of the table once one slot of it was rewritten and the counters
    changed accordingly. -/
theorem WellFormed.of_set (hw : WellFormed c d)
    (hinv : Inv c.equalFunc (path c d) ((slots c d).set p (slotOf c b)))
    (hitems : n = entries ((slots c d).set p (slotOf c b))) (hbusy : n ≤ n')
    (hload : 2 * n ≤ d.size) :
    WellFormed c { d with buckets := d.buckets.set p b, nItems := n, nBusy := n' } := by
  have hs := hw.sized.of_set hitems hbusy hload
  refine ⟨hs.log, hs.mask, hs.length, hs.items, hs.busy, hs.load, ?_⟩
  rw [slots_set]
  exact hinv

/-- Inserting a key that has no item: one more item, everything else unchanged. -/
theorem insertItem_new (hc : c.Lawful) (hw : WellFormed c d)
    (hload : 2 * (d.nItems + 1) ≤ d.size) (hk : isReserved c key = false)
    (hnew : ∀ w, ¬ Holds c d key w) (value : V) (overwrite : Bool) :
    ∃ p d', d' = { d with buckets := d.buckets.set p ⟨key, value⟩, nItems := d.nItems + 1,
                          nBusy := d.nBusy + 1 } ∧
      insertItem c d (c.hashFunc key) key value overwrite = some d' ∧ WellFormed c d' ∧
      ∀ x w, Holds c d' x w ↔ (c.equalFunc x key = true ∧ w = value) ∨ Holds c d x w := by
  obtain ⟨p, hp⟩ := hw.sized.settle_isSome hload key overwrite
  have hfree := settle_isFree hp hnew
  obtain ⟨pre, post, hpath, hpre⟩ := settle_path hp
  have hlt : p < (slots c d).length := path_lt hw.sized key (by simp [hpath])
  have hres : isReserved c (bucketAt c d p).key = true := by
    rw [← slotOf_isFree, ← slotAt_slots]
    exact hfree
  have hslot := slotOf_of_not_reserved hk value
  refine ⟨p, _, rfl, ?_, ?_, ?_⟩
  · rw [insertItem_eq value hp, putAt, if_pos hres]
  · apply hw.of_set
    · rw [hslot]
      exact hw.inv.fill (hc.compatible d) hlt hpath hpre hnew
    · rw [hslot, entries_set_entry_of_isFree hlt hfree, hw.items]
    · exact Nat.succ_le_succ hw.busy
    · exact hload
  · intro x w
    rw [Holds, slots_set, hslot]
    exact has_fill hlt hfree

/-- Inserting over the item of an equal key, no tombstone standing before it: the
    value is replaced and no counter moves. -/
theorem insertItem_overwrite (hc : c.Lawful) (hw : WellFormed c d)
    (hk : isReserved c key = false) {old : V} (hold : Holds c d key old)
    (hbur : buriedBefore c.equalFunc (slots c d) key (path c d key) = false)
    (value : V) :
    ∃ d', insertItem c d (c.hashFunc key) key value true = some d' ∧ WellFormed c d' ∧
      d'.nItems = d.nItems ∧ ∀ x w, Holds c d' x w ↔
        (c.equalFunc x key = true ∧ w = value) ∨ (c.equalFunc x key = false ∧ Holds c d x w) := by
  obtain ⟨p, k', hslotp, he⟩ := hold
  have hfind := hw.inv.find_entry (hc.compatible d) hslotp he
  have hp := settle_entry hbur hfind
  have hres : isReserved c (bucketAt c d p).key = false := by
    rw [(not_reserved_of_slotAt hslotp).2]
    exact (not_reserved_of_slotAt hslotp).1
  have hslot := slotOf_of_not_reserved hk value
  refine ⟨{ d with buckets := d.buckets.set p ⟨key, value⟩ }, ?_, ?_, rfl, ?_⟩
  · rw [insertItem_eq value hp, putAt, if_neg (by simp [hres])]
  · apply hw.of_set
    · rw [hslot]
      exact hw.inv.overwrite (hc.compatible d) hslotp he
    · rw [hslot, entries_set_entry_of_entry hslotp, hw.items]
    · exact hw.busy
    · exact hw.load
  · intro x w
    rw [Holds, slots_set c d p ⟨key, value⟩ d.nItems d.nBusy, hslot]
    exact hw.inv.has_overwrite (hc.compatible d) hslotp he

/-- Inserting over a tombstone that stands before the key's own item: the item is
    counted a second time. -/
theorem insertItem_buried
    (hbur : buriedBefore c.equalFunc (slots c d) key (path c d key) = true)
    (value : V) :
    ∃ d', insertItem c d (c.hashFunc key) key value true = some d' ∧
      d'.nItems = d.nItems + 1 := by
  obtain ⟨p, hp, hslotp⟩ := settle_tombstone hbur
  have hres : isReserved c (bucketAt c d p).key = true := by
    rw [← slotOf_isFree, ← slotAt_slots, hslotp]
    rfl
  refine ⟨putAt c d key value p, insertItem_eq value hp, ?_⟩
  rw [putAt, if_pos hres]

end InsertItem

end S2opc.Dictionary
