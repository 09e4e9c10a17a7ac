/-
The identifiers of the monitored items.

The table is indexed by the identifiers and doubles when it is too small.  An
identifier is taken from the list of those that were freed, or is the next one
if there is none.  The identifiers up to the highest one that was given are
those of the live items and those of the list, each of them once: this is kept
by each operation, and the other properties follow from it.
-/
import S2opc.Lib.Run

namespace S2opc.SubscriptionCore.ItemIds

open Lib.Run List Function

variable {Sub Info : Type}

/-! ## The table -/

/-- `SOPC_InternalMonitoredItem`: `info` is what `modify` may change, and what nothing changes. -/
structure MonitoredItem (Sub Info : Type) where
  monitoredItemId : Nat
  subId : Sub
  info : Info
  deriving DecidableEq

/-- The variables of `monitored_item_pointer_bs`. -/
structure ItemTable (Sub Info : Type) where
  monitoredItemById : List (Option (MonitoredItem Sub Info))
  monitoredItemIdFreed : List Nat
  monitoredItemIdMax : Nat
  nbMonitoredItems : Nat
  nbMonitoredItemsPerSubscription : Sub → Nat

/-- The status codes of a creation that is refused. -/
inductive CreateFault where
  | badIndexRangeInvalid
  | badTooManyMonitoredItems
  | badOutOfMemory
  deriving DecidableEq, Repr

/-- The two limits, where 0 is no limit. -/
structure ItemLimits where
  monitoredItemsLimit : Nat
  monitoredItemsPerSubscriptionLimit : Nat

/-- `UINT32_MAX`. -/
def uint32Max : Nat := 2 ^ 32 - 1

/-- The loop of `mi_table_ensure` on the new capacity, with `SIZE_MAX` of 64 bits. -/
def newCapacity (id : Nat) : (fuel : Nat) → Nat → Option Nat
  | 0, _ => none
  | fuel + 1, capacity =>
    if capacity < id then
      if (2 ^ 64 - 1) / 2 < capacity then none else newCapacity id fuel (capacity * 2)
    else some capacity

namespace ItemTable

/-- `INITIALISATION`. -/
def init : ItemTable Sub Info where
  monitoredItemById := List.replicate 16 none
  monitoredItemIdFreed := []
  monitoredItemIdMax := 0
  nbMonitoredItems := 0
  nbMonitoredItemsPerSubscription := fun _ => 0

/-- `is_monitored_item_limit_reached`. -/
def limitReached (limits : ItemLimits) (t : ItemTable Sub Info) (sub : Sub) : Bool :=
  (limits.monitoredItemsLimit ≠ 0 && limits.monitoredItemsLimit ≤ t.nbMonitoredItems) ||
    (limits.monitoredItemsPerSubscriptionLimit ≠ 0 &&
      limits.monitoredItemsPerSubscriptionLimit ≤ t.nbMonitoredItemsPerSubscription sub)

variable (t : ItemTable Sub Info)

/-- `mi_table_ensure`, for an allocation that succeeds. -/
def miTableEnsure (id : Nat) : Option (ItemTable Sub Info) :=
  if id = 0 ∨ id = uint32Max then none
  else if id ≤ t.monitoredItemById.length then some t
  else
    (newCapacity id 64 t.monitoredItemById.length).map fun capacity =>
      { t with monitoredItemById := t.monitoredItemById ++
          List.replicate (capacity - t.monitoredItemById.length) none }

/-- `mi_table_get`. -/
def miTableGet (id : Nat) : Option (MonitoredItem Sub Info) :=
  if id = 0 ∨ t.monitoredItemById.length < id then none
  else (t.monitoredItemById[id - 1]?).join

def setSlot (id : Nat) (slot : Option (MonitoredItem Sub Info)) :
    ItemTable Sub Info :=
  { t with monitoredItemById := t.monitoredItemById.set (id - 1) slot }

/-- The identifier of a new item, which is 0 if there is none. -/
def freshId : ItemTable Sub Info × Nat :=
  match t.monitoredItemIdFreed with
  | [] =>
    if t.monitoredItemIdMax < uint32Max then
      ({ t with monitoredItemIdMax := t.monitoredItemIdMax + 1 }, t.monitoredItemIdMax + 1)
    else (t, 0)
  | id :: freed => ({ t with monitoredItemIdFreed := freed }, id)

variable [DecidableEq Sub]

/-- `create_monitored_item_pointer`, for an index range that is valid or not and for allocations
    that succeed. -/
def create (limits : ItemLimits) (t : ItemTable Sub Info) (sub : Sub) (rangeValid : Bool)
    (info : Info) : Except CreateFault (MonitoredItem Sub Info) × ItemTable Sub Info :=
  if rangeValid = false then (.error .badIndexRangeInvalid, t)
  else if t.limitReached limits sub then (.error .badTooManyMonitoredItems, t)
  else
    let (t, id) := t.freshId
    match t.miTableEnsure id with
    | none => (.error .badOutOfMemory, t)
    | some t =>
      let item : MonitoredItem Sub Info := ⟨id, sub, info⟩
      (.ok item, { t.setSlot id (some item) with
        nbMonitoredItems := t.nbMonitoredItems + 1
        nbMonitoredItemsPerSubscription := Function.update t.nbMonitoredItemsPerSubscription sub
          (t.nbMonitoredItemsPerSubscription sub + 1) })

/-- `modify_monitored_item_pointer`: the item of the table is changed in place. -/
def modify (t : ItemTable Sub Info) (item : MonitoredItem Sub Info) (info : Info) :
    ItemTable Sub Info :=
  t.setSlot item.monitoredItemId (some { item with info := info })

/-- `delete_monitored_item_pointer`, or `none` at one of its assertions. -/
def delete (t : ItemTable Sub Info) (item : MonitoredItem Sub Info) : Option (ItemTable Sub Info) :=
  if 0 < t.nbMonitoredItems ∧ 0 < t.nbMonitoredItemsPerSubscription item.subId then
    let t := { t with
      monitoredItemIdFreed := t.monitoredItemIdFreed ++ [item.monitoredItemId]
      nbMonitoredItems := t.nbMonitoredItems - 1
      nbMonitoredItemsPerSubscription := Function.update t.nbMonitoredItemsPerSubscription
        item.subId (t.nbMonitoredItemsPerSubscription item.subId - 1) }
    some (if 0 < item.monitoredItemId ∧ item.monitoredItemId ≤ t.monitoredItemById.length then
      t.setSlot item.monitoredItemId none else t)
  else none

end ItemTable

/-! ## Histories -/

/-- An operation, on the item that the lookup of an identifier gives. -/
inductive Op (Sub Info : Type) where
  | create (sub : Sub) (rangeValid : Bool) (info : Info)
  | modify (id : Nat) (info : Info)
  | delete (id : Nat)

/-- The table, with the items that were created and not deleted and the highest identifier that
    was given. -/
structure History (Sub Info : Type) where
  table : ItemTable Sub Info
  live : List (MonitoredItem Sub Info)
  highest : Nat

variable [DecidableEq Sub] [DecidableEq Info]

/-- A step of a history, or `none` if the process stops at an assertion. -/
def step (limits : ItemLimits) (history : Option (History Sub Info)) (op : Op Sub Info) :
    Option (History Sub Info) :=
  history.bind fun h =>
    match op with
    | .create sub rangeValid info =>
      match h.table.create limits sub rangeValid info with
      | (.error _, table) => some { h with table := table }
      | (.ok item, table) => some ⟨table, item :: h.live, max h.highest item.monitoredItemId⟩
    | .modify id info =>
      match h.table.miTableGet id with
      | none => some h
      | some item => some { h with
          table := h.table.modify item info
          live := { item with info := info } :: h.live.erase item }
    | .delete id =>
      match h.table.miTableGet id with
      | none => some h
      | some item =>
        (h.table.delete item).map fun table =>
          { h with table := table, live := h.live.erase item }

/-- What is asked of the identifiers. -/
structure IdsConsistent (h : History Sub Info) : Prop where
  distinct : (h.live.map MonitoredItem.monitoredItemId).Nodup
  nonzero : ∀ item ∈ h.live, item.monitoredItemId ≠ 0
  lookup : ∀ id item, h.table.miTableGet id = some item ↔ item ∈ h.live ∧ item.monitoredItemId = id
  liveOrFreed : ∀ id, 0 < id → id ≤ h.highest →
    Xor (id ∈ h.live.map MonitoredItem.monitoredItemId) (id ∈ h.table.monitoredItemIdFreed)
  count : h.table.nbMonitoredItems = h.live.length

/-! ## The slots of the table -/

theorem newCapacity_spec {id : Nat} (hid : id ≤ uint32Max) :
    ∀ (fuel capacity : Nat), id ≤ capacity * 2 ^ fuel →
      ∃ c, newCapacity id (fuel + 1) capacity = some c ∧ id ≤ c := by
  intro fuel
  induction fuel with
  | zero =>
    intro capacity h
    rw [Nat.pow_zero, Nat.mul_one] at h
    rw [newCapacity, if_neg (by omega)]
    exact ⟨capacity, rfl, h⟩
  | succ fuel ih =>
    intro capacity h
    rw [newCapacity]
    split_ifs with hlt hsize
    · -- The capacity is below an identifier: doubling it does not overflow
      unfold uint32Max at hid
      omega
    · exact ih (capacity * 2) (by rwa [Nat.mul_assoc, ← Nat.pow_succ'])
    · exact ⟨capacity, rfl, by omega⟩

namespace ItemTable

variable {t : ItemTable Sub Info} {id : Nat}

omit [DecidableEq Sub] [DecidableEq Info]

theorem miTableGet_eq (t : ItemTable Sub Info) (id : Nat) :
    t.miTableGet id = if id = 0 then none else (t.monitoredItemById[id - 1]?).join := by
  unfold miTableGet
  split_ifs with h h0
  · rfl
  · rw [getElem?_eq_none (by omega)]
    rfl
  · omega
  · rfl

theorem miTableGet_setSlot (hpos : 0 < id) (hle : id ≤ t.monitoredItemById.length)
    (slot : Option (MonitoredItem Sub Info)) (other : Nat) :
    (t.setSlot id slot).miTableGet other = if other = id then slot else t.miTableGet other := by
  rw [miTableGet_eq, miTableGet_eq, setSlot, getElem?_set]
  split_ifs <;> first | rfl | omega

/-- The table may be extended for each identifier but the last one, and the lookups are the same. -/
theorem miTableEnsure_spec (hpos : 0 < id) (hlt : id < uint32Max)
    (hcapacity : 0 < t.monitoredItemById.length) :
    ∃ slots, t.miTableEnsure id = some { t with monitoredItemById := slots } ∧
      id ≤ slots.length ∧ ∀ other,
        miTableGet { t with monitoredItemById := slots } other = t.miTableGet other := by
  unfold miTableEnsure
  rw [if_neg (by omega)]
  split_ifs with hle
  · exact ⟨_, rfl, hle, fun _ => rfl⟩
  have hbound : id ≤ t.monitoredItemById.length * 2 ^ 63 := by
    unfold uint32Max at hlt
    omega
  obtain ⟨c, hc, hidc⟩ := newCapacity_spec hlt.le 63 _ hbound
  refine ⟨_, by rw [hc]; rfl, ?_, fun other => ?_⟩
  · rw [length_append, length_replicate]
    omega
  · rw [miTableGet_eq, miTableGet_eq]
    rw [getElem?_append]
    split_ifs with h0 hlt
    · rfl
    · rfl
    · -- A slot that is new is empty
      rw [getElem?_replicate, getElem?_eq_none (l := t.monitoredItemById) (by omega)]
      split_ifs <;> rfl

end ItemTable

/-! ## The invariant -/

/-- The identifiers up to the highest one are those of the live items and those that are freed. -/
structure Tracks (h : History Sub Info) : Prop where
  lookup : ∀ id item, h.table.miTableGet id = some item ↔ item ∈ h.live ∧ item.monitoredItemId = id
  ids : (h.live.map MonitoredItem.monitoredItemId ++ h.table.monitoredItemIdFreed).Perm
    (List.range' 1 h.highest)
  highest : h.highest = min h.table.monitoredItemIdMax (uint32Max - 1)
  capacity : 0 < h.table.monitoredItemById.length
  count : h.table.nbMonitoredItems = h.live.length
  perSubscription : ∀ sub, h.table.nbMonitoredItemsPerSubscription sub =
    h.live.countP fun item => item.subId = sub

variable {h : History Sub Info} {table : ItemTable Sub Info} {highest : Nat}
    {item : MonitoredItem Sub Info} {live live' : List (MonitoredItem Sub Info)}

omit [DecidableEq Info]

theorem Tracks.idsConsistent (h : Tracks ⟨table, live, highest⟩) :
    IdsConsistent ⟨table, live, highest⟩ := by
  have hnodup := h.ids.nodup_iff.2 nodup_range'
  obtain ⟨hlive, hfreed, hdisjoint⟩ := nodup_append.1 hnodup
  refine ⟨hlive, fun item hitem hzero => ?_, h.lookup, fun id hpos hle => ?_, h.count⟩
  · have := h.ids.subset (mem_append_left _ (mem_map_of_mem hitem))
    have := mem_range'_1.1 this
    omega
  · have hlt : id < 1 + highest := Nat.lt_one_add_iff.2 hle
    have hmem := h.ids.mem_iff.2 (mem_range'_1.2 ⟨hpos, hlt⟩)
    rcases mem_append.1 hmem with hid | hid
    · exact .inl ⟨hid, fun hother => hdisjoint id hid id hother rfl⟩
    · exact .inr ⟨hid, fun hother => hdisjoint id hother id hid rfl⟩

theorem Tracks.perm (h : Tracks ⟨table, live, highest⟩) (hperm : live.Perm live') :
    Tracks ⟨table, live', highest⟩ where
  lookup id item := by rw [h.lookup, hperm.mem_iff]
  ids := ((hperm.symm.map _).append_right _).trans h.ids
  highest := h.highest
  capacity := h.capacity
  count := h.count.trans hperm.length_eq
  perSubscription sub := (h.perSubscription sub).trans (hperm.countP_eq _)

/-- The identifier of an item is in the table, and no other item has it. -/
theorem Tracks.head (h : Tracks ⟨table, item :: live, highest⟩) :
    0 < item.monitoredItemId ∧ item.monitoredItemId ≤ table.monitoredItemById.length ∧
      ∀ other ∈ live, other.monitoredItemId ≠ item.monitoredItemId := by
  have hget : table.miTableGet item.monitoredItemId = some item :=
    (h.lookup item.monitoredItemId item).2 ⟨mem_cons_self, rfl⟩
  unfold ItemTable.miTableGet at hget
  split_ifs at hget with hout
  have hdistinct := h.idsConsistent.distinct
  rw [map_cons, nodup_cons] at hdistinct
  refine ⟨by omega, by omega, fun other hother heq => hdistinct.1 ?_⟩
  exact heq ▸ mem_map_of_mem hother

/-- The slot of an item changes with it. -/
theorem Tracks.lookup_setSlot (h : Tracks ⟨table, item :: live, highest⟩)
    (slot : Option (MonitoredItem Sub Info))
    (hslot : ∀ item' ∈ slot, item'.monitoredItemId = item.monitoredItemId) (id : Nat)
    (item' : MonitoredItem Sub Info) :
    (table.setSlot item.monitoredItemId slot).miTableGet id = some item' ↔
      item' ∈ slot.toList ++ live ∧ item'.monitoredItemId = id := by
  obtain ⟨hpos, hle, hother⟩ := h.head
  rw [ItemTable.miTableGet_setSlot hpos hle, mem_append, Option.mem_toList]
  split_ifs with hid
  · constructor
    · intro hsome
      exact ⟨.inl hsome, (hslot item' hsome).trans hid.symm⟩
    · rintro ⟨hsome | hmem, hid'⟩
      · exact hsome
      · exact absurd (hid'.trans hid) (hother item' hmem)
  rw [h.lookup, mem_cons]
  constructor
  · rintro ⟨rfl | hmem, hid'⟩
    · exact absurd hid'.symm hid
    · exact ⟨.inr hmem, hid'⟩
  · rintro ⟨hsome | hmem, hid'⟩
    · exact absurd (hid'.symm.trans (hslot item' hsome)) hid
    · exact ⟨.inr hmem, hid'⟩

/-! ## The operations -/

theorem Tracks.modify (h : Tracks ⟨table, item :: live, highest⟩) (info : Info) :
    Tracks ⟨table.modify item info, { item with info := info } :: live, highest⟩ where
  lookup := h.lookup_setSlot (some { item with info := info }) (by rintro _ ⟨rfl⟩; rfl)
  ids := h.ids
  highest := h.highest
  capacity := h.capacity.trans_eq List.length_set.symm
  count := h.count
  perSubscription sub := by
    rw [countP_cons]
    exact (h.perSubscription sub).trans countP_cons

theorem Tracks.delete (h : Tracks ⟨table, item :: live, highest⟩) :
    ∃ table', table.delete item = some table' ∧ Tracks ⟨table', live, highest⟩ := by
  obtain ⟨hpos, hle, -⟩ := h.head
  have hcount : table.nbMonitoredItems = live.length + 1 := h.count
  have hsub := h.perSubscription
  unfold ItemTable.delete
  rw [if_pos ⟨by omega, by rw [hsub]; simp⟩]
  dsimp only
  rw [if_pos ⟨hpos, hle⟩]
  refine ⟨_, rfl, ?_, ?_, h.highest, h.capacity.trans_eq List.length_set.symm, ?_, fun sub => ?_⟩
  · exact h.lookup_setSlot none nofun
  · -- The identifier goes from the live items to the end of the list
    show (live.map _ ++ (table.monitoredItemIdFreed ++ [item.monitoredItemId])).Perm _
    rw [← append_assoc]
    exact (perm_append_singleton _ _).trans h.ids
  · show table.nbMonitoredItems - 1 = live.length
    omega
  · show Function.update _ _ _ sub = _
    by_cases hitem : item.subId = sub
    · subst hitem
      rw [update_self, hsub]
      simp
    · rw [update_of_ne (Ne.symm hitem), hsub]
      simp [hitem]

/-- An item is added with an identifier that is not used. -/
theorem Tracks.add (h : Tracks ⟨table, live, highest⟩) {slots freed idMax id highest'}
    (hpos : 0 < id) (hle : id ≤ List.length slots)
    (hget : ∀ other, ItemTable.miTableGet { table with monitoredItemById := slots } other =
      table.miTableGet other)
    (hids : (id :: live.map MonitoredItem.monitoredItemId ++ freed).Perm (range' 1 highest'))
    (hhighest : highest' = min idMax (uint32Max - 1)) (sub : Sub) (info : Info) :
    Tracks ⟨{ (⟨slots, freed, idMax, table.nbMonitoredItems,
        table.nbMonitoredItemsPerSubscription⟩ : ItemTable Sub Info).setSlot id
          (some ⟨id, sub, info⟩) with
        nbMonitoredItems := table.nbMonitoredItems + 1
        nbMonitoredItemsPerSubscription := Function.update table.nbMonitoredItemsPerSubscription sub
          (table.nbMonitoredItemsPerSubscription sub + 1) }, ⟨id, sub, info⟩ :: live, highest'⟩ := by
  have hfresh : ∀ item ∈ live, item.monitoredItemId ≠ id := by
    have hnodup := hids.nodup_iff.2 nodup_range'
    rw [cons_append, nodup_cons] at hnodup
    intro item hitem heq
    exact hnodup.1 (mem_append_left _ (heq ▸ mem_map_of_mem hitem))
  refine ⟨fun other item => ?_, hids, hhighest, ?_, ?_, fun sub' => ?_⟩
  · have hset := ItemTable.miTableGet_setSlot
      (t := { table with monitoredItemById := slots }) hpos hle (some ⟨id, sub, info⟩) other
    refine (congrArg (· = some item) hset).to_iff.trans ?_
    rw [mem_cons]
    split_ifs with hother
    · subst hother
      constructor
      · rintro ⟨rfl⟩
        exact ⟨.inl rfl, rfl⟩
      · rintro ⟨rfl | hmem, hid⟩
        · rfl
        · exact absurd hid (hfresh item hmem)
    · rw [hget, h.lookup]
      constructor
      · rintro ⟨hmem, hid⟩
        exact ⟨.inr hmem, hid⟩
      · rintro ⟨rfl | hmem, hid⟩
        · exact absurd hid.symm hother
        · exact ⟨hmem, hid⟩
  · show 0 < (slots.set _ _).length
    rw [length_set]
    omega
  · exact congrArg (· + 1) h.count
  · show Function.update _ _ _ sub' = _
    rw [countP_cons]
    by_cases hsub : sub = sub'
    · subst hsub
      rw [update_self, h.perSubscription]
      simp
    · rw [update_of_ne (Ne.symm hsub), h.perSubscription]
      simp [hsub]

/-- The identifier of a new item is not used, or there is no identifier left. -/
theorem Tracks.freshId (h : Tracks ⟨table, live, highest⟩) :
    (∃ idMax id, table.freshId = ({ table with monitoredItemIdMax := idMax }, id) ∧
      (id = 0 ∨ id = uint32Max) ∧
      Tracks ⟨{ table with monitoredItemIdMax := idMax }, live, highest⟩) ∨
    ∃ freed idMax id, table.freshId =
        ({ table with monitoredItemIdFreed := freed, monitoredItemIdMax := idMax }, id) ∧
      0 < id ∧ id < uint32Max ∧ max highest id = min idMax (uint32Max - 1) ∧
      (id :: live.map MonitoredItem.monitoredItemId ++ freed).Perm
        (range' 1 (max highest id)) := by
  obtain ⟨slots, freed, idMax, nb, perSubscription⟩ := table
  have hids : (live.map MonitoredItem.monitoredItemId ++ freed).Perm (range' 1 highest) := h.ids
  have hhighest : highest = min idMax (uint32Max - 1) := h.highest
  unfold ItemTable.freshId
  cases freed with
  | nil =>
    rw [append_nil] at hids
    dsimp only
    split_ifs with hlt
    · by_cases hlast : idMax + 1 = uint32Max
      · -- The last identifier is not given
        have hsame : highest = min (idMax + 1) (uint32Max - 1) := by omega
        exact .inl ⟨idMax + 1, idMax + 1, rfl, .inr hlast, h.lookup, h.ids, hsame, h.capacity,
          h.count, h.perSubscription⟩
      refine .inr ⟨[], idMax + 1, idMax + 1, rfl, by omega, by omega, by omega, ?_⟩
      have hnext : max highest (idMax + 1) = highest + 1 := by omega
      have hid : idMax + 1 = 1 + highest := by omega
      rw [hnext, range'_1_concat, append_nil, hid]
      exact (perm_append_singleton _ _).symm.trans (hids.append_right _)
    · exact .inl ⟨idMax, 0, rfl, .inl rfl, h⟩
  | cons id freed =>
    have hid := mem_range'_1.1 (hids.subset (mem_append_right _ mem_cons_self))
    have hsame : max highest id = highest := by omega
    refine .inr ⟨freed, idMax, id, rfl, by omega, by omega, by omega, ?_⟩
    rw [hsame]
    exact List.perm_middle.symm.trans hids

theorem Tracks.create (h : Tracks ⟨table, live, highest⟩) (limits : ItemLimits) (sub : Sub)
    (rangeValid : Bool) (info : Info) :
    match table.create limits sub rangeValid info with
    | (.error _, table') => Tracks ⟨table', live, highest⟩
    | (.ok item, table') => Tracks ⟨table', item :: live, max highest item.monitoredItemId⟩ := by
  unfold ItemTable.create
  split_ifs
  · exact h
  · exact h
  · rcases h.freshId with
      ⟨idMax, id, hfresh, hout, htracks⟩ | ⟨freed, idMax, id, hfresh, hpos, hlt, hmax, hids⟩
    · rw [hfresh]
      dsimp only
      rw [ItemTable.miTableEnsure, if_pos hout]
      exact htracks
    rw [hfresh]
    dsimp only
    obtain ⟨slots, hensure, hle, hget⟩ := ItemTable.miTableEnsure_spec
      (t := { table with monitoredItemIdFreed := freed, monitoredItemIdMax := idMax }) hpos hlt
      h.capacity
    rw [hensure]
    exact h.add hpos hle hget hids hmax sub info

/-! ## Runs -/

variable [DecidableEq Info]

theorem Tracks.step (hh : Tracks h) (limits : ItemLimits) (op : Op Sub Info) :
    ∃ h', step limits (some h) op = some h' ∧ Tracks h' := by
  obtain ⟨table, live, highest⟩ := h
  have hfound : ∀ id item, table.miTableGet id = some item →
      Tracks ⟨table, item :: live.erase item, highest⟩ := by
    intro id item hget
    exact hh.perm (perm_cons_erase ((hh.lookup id item).1 hget).1)
  cases op with
  | create sub rangeValid info =>
    have hcreate := hh.create limits sub rangeValid info
    show ∃ h', (match table.create limits sub rangeValid info with
      | (.error _, table) => some ⟨table, live, highest⟩
      | (.ok item, table) => some ⟨table, item :: live, max highest item.monitoredItemId⟩) =
        some h' ∧ Tracks h'
    generalize table.create limits sub rangeValid info = created at hcreate
    match created with
    | (.error _, table') => exact ⟨_, rfl, hcreate⟩
    | (.ok item, table') => exact ⟨_, rfl, hcreate⟩
  | modify id info =>
    cases hget : table.miTableGet id with
    | none => exact ⟨_, by simp [ItemIds.step, hget], hh⟩
    | some item => exact ⟨_, by simp [ItemIds.step, hget], (hfound id item hget).modify info⟩
  | delete id =>
    rcases hget : table.miTableGet id with _ | item
    · exact ⟨_, by simp [ItemIds.step, hget], hh⟩
    obtain ⟨table', hdelete, htracks⟩ := (hfound id item hget).delete
    exact ⟨_, by simp [ItemIds.step, hget, hdelete], htracks⟩

/-- In all the states of a run, the identifiers are consistent, and no assertion fails. -/
theorem ids_consistent_run (limits : ItemLimits) (ops : List (Op Sub Info)) :
    EveryState (step limits) (fun s => ∃ h, s = some h ∧ IdsConsistent h)
      (some ⟨.init, [], 0⟩) ops := by
  have hinit : Tracks (⟨.init, [], 0⟩ : History Sub Info) := by
    refine ⟨fun id item => ?_, List.Perm.refl _, rfl, Nat.succ_pos 15, rfl, fun _ => rfl⟩
    rw [ItemTable.miTableGet_eq, ItemTable.init, List.getElem?_replicate]
    constructor
    · intro hget
      split_ifs at hget <;> cases hget
    · rintro ⟨hmem, -⟩
      cases hmem
  have hstep : ∀ (s : Option (History Sub Info)) op, (∃ h, s = some h ∧ Tracks h) →
      ∃ h, step limits s op = some h ∧ Tracks h := by
    rintro _ op ⟨h, rfl, htracks⟩
    exact htracks.step limits op
  apply (everyState_of_invariant hstep ⟨_, rfl, hinit⟩).mono
  rintro _ ⟨h, rfl, htracks⟩
  exact ⟨h, rfl, htracks.idsConsistent⟩

end S2opc.SubscriptionCore.ItemIds
