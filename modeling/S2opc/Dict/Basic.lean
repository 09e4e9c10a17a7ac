/-
The dictionary of `sopc_dict.c`: open addressing over a power-of-two table.

Keys and values are machine words in the source; here they are any two types.
Two keys are reserved: the empty key marks a bucket never used, the tombstone
key one whose item was removed.  A failed `SOPC_ASSERT` is `none`; allocation
succeeds, and the free functions of keys and values, which change no bucket,
are left out.
-/
import S2opc.Lib.OpenAddressing

namespace S2opc.Dictionary

/-- A bucket of the table. -/
structure Bucket (K V : Type) where
  key : K
  value : V
  deriving Repr, DecidableEq

/-- What a dictionary is created with; `zero` is the null word a cleared bucket holds. -/
structure Config (K V : Type) where
  emptyKey : K
  tombstoneKey : K
  hashFunc : K → Nat
  equalFunc : K → K → Bool
  zero : V

/-- The table: `size` is a power of two and `sizemask` is `size - 1`. -/
structure Dict (K V : Type) where
  buckets : List (Bucket K V)
  size : Nat
  sizemask : Nat
  nItems : Nat
  nBusy : Nat
  deriving Repr, DecidableEq

/-- `DICT_INITIAL_SIZE`. -/
def dictInitialSize : Nat := 16

variable {K V : Type} [DecidableEq K]

/-- `SOPC_DICT_HASH(hash, i) & sizemask`.  The source adds and multiplies modulo
    `2 ^ 64`; the mask keeps fewer than 64 bits, so the wrap-around never shows. -/
def dictHash (sizemask hash i : Nat) : Nat := (hash + i / 2 + i * i / 2) &&& sizemask

variable (c : Config K V)

/-- The bucket array of a fresh table: every key is the empty key. -/
def setEmptyKeys (n : Nat) : List (Bucket K V) :=
  List.replicate n ⟨c.emptyKey, c.zero⟩

/-- `SOPC_Dict_Create`, with the tombstone key of `SOPC_Dict_SetTombstoneKey`. -/
def dictCreate : Dict K V where
  buckets := setEmptyKeys c dictInitialSize
  size := dictInitialSize
  sizemask := dictInitialSize - 1
  nItems := 0
  nBusy := 0

/-- A key no bucket of an item carries. -/
def isReserved (key : K) : Bool :=
  key = c.emptyKey || key = c.tombstoneKey

variable (d : Dict K V)

/-- The bucket at an index of the table. -/
def bucketAt (idx : Nat) : Bucket K V :=
  d.buckets[idx]?.getD ⟨c.emptyKey, c.zero⟩

/-- The probe loop of `insert_item`, over the attempts `i` still to make. -/
def insertItemLoop (c : Config K V) (d : Dict K V) (hash : Nat) (key : K) (value : V)
    (overwrite : Bool) : List Nat → Option (Dict K V)
  | [] => none -- "Cannot find a free bucket?!"
  | i :: is =>
    let idx := dictHash d.sizemask hash i
    let b := bucketAt c d idx
    if isReserved c b.key then
      -- Normal insert, over an empty bucket or over a tombstone
      some { d with
        buckets := d.buckets.set idx ⟨key, value⟩
        nItems := d.nItems + 1
        nBusy := d.nBusy + 1 }
    else if overwrite && c.equalFunc key b.key then
      some { d with buckets := d.buckets.set idx ⟨key, value⟩ }
    else
      insertItemLoop c d hash key value overwrite is

/-- `insert_item`. -/
def insertItem (hash : Nat) (key : K) (value : V) (overwrite : Bool) : Option (Dict K V) :=
  insertItemLoop c d hash key value overwrite (List.range d.size)

/-- The copy loop of `dict_resize`: every item of the old table goes into the new one. -/
def reinsertItems (c : Config K V) : List (Bucket K V) → Dict K V → Option (Dict K V)
  | [], d => some d
  | b :: bs, d =>
    if isReserved c b.key then reinsertItems c bs d
    else (insertItem c d (c.hashFunc b.key) b.key b.value false).bind (reinsertItems c bs)

/-- `dict_resize`. -/
def dictResize (size : Nat) : Option (Dict K V) :=
  let sizemask := size - 1
  if size &&& sizemask = 0 then
    reinsertItems c d.buckets
      { buckets := setEmptyKeys c size, size := size, sizemask := sizemask, nItems := 0, nBusy := 0 }
  else
    none

/-- The doubling loop of `minimum_dict_size`; `fuel` bounds its turns. -/
def minimumDictSizeLoop (nItems : Nat) : Nat → Nat → Nat
  | 0, size => size
  | fuel + 1, size =>
    if size < 2 * nItems then minimumDictSizeLoop nItems fuel (size * 2) else size

/-- `minimum_dict_size`. -/
def minimumDictSize (startSize nItems : Nat) : Option Nat :=
  if startSize &&& (startSize - 1) = 0 then
    some (minimumDictSizeLoop nItems (2 * nItems) startSize)
  else
    none

/-- `(size_t)(SHRINK_FACTOR * ((double) d->size))`.  The double `0.4` is
    `3602879701896397 / 2 ^ 53`, and its product with a power of two is exact. -/
def shrinkLimit (size : Nat) : Nat := size * 3602879701896397 / 2 ^ 53

/-- The size `maybe_resize` aims at. -/
def targetSize (delta : Nat) : Option Nat :=
  if (0 < delta ∧ d.size / 2 < d.nBusy + delta) ∨ (delta = 0 ∧ d.nItems < shrinkLimit d.size) then
    minimumDictSize dictInitialSize (d.nItems + delta)
  else
    some d.size

/-- `maybe_resize`: delta is 1 when adding, 0 when removing. -/
def maybeResize (delta : Nat) : Option (Dict K V) :=
  (targetSize d delta).bind fun target =>
    if d.size = target then some d else dictResize c d target

/-- `SOPC_Dict_Insert`, with its return value. -/
def dictInsert (key : K) (value : V) :
    Option (Bool × Dict K V) :=
  if isReserved c key then
    some (false, d)
  else
    (maybeResize c d 1).bind fun d' =>
      (insertItem c d' (c.hashFunc key) key value true).map fun d'' => (true, d'')

/-- The probe loop of `get_internal`; the answer is the index of the bucket. -/
def getInternalLoop (c : Config K V) (d : Dict K V) (hash : Nat) (key : K) :
    List Nat → Option Nat
  | [] => none
  | i :: is =>
    let idx := dictHash d.sizemask hash i
    let bucketKey := (bucketAt c d idx).key
    if bucketKey = c.emptyKey then none
    else if bucketKey ≠ c.tombstoneKey && c.equalFunc key bucketKey then some idx
    else getInternalLoop c d hash key is

/-- `get_internal`. -/
def getInternal (key : K) : Option Nat :=
  if isReserved c key then none
  else getInternalLoop c d (c.hashFunc key) key (List.range d.size)

/-- `SOPC_Dict_Get`: `none` is the value 0 with `found` false. -/
def dictGet (key : K) : Option V :=
  (getInternal c d key).map fun idx => (bucketAt c d idx).value

/-- `SOPC_Dict_Size`. -/
def dictSize : Nat := d.nItems

/-- `SOPC_Dict_Remove`. -/
def dictRemove (key : K) : Option (Dict K V) :=
  if c.emptyKey = c.tombstoneKey then
    none
  else
    match getInternal c d key with
    | none => some d
    | some idx =>
      maybeResize c
        { d with buckets := d.buckets.set idx ⟨c.tombstoneKey, c.zero⟩, nItems := d.nItems - 1 } 0

/-- `SOPC_Dict_Reserve`. -/
def dictReserve (nItems : Nat) : Option (Dict K V) :=
  (minimumDictSize d.size nItems).bind (dictResize c d)

/-! ## Histories -/

/-- The operations of a history.  No table for 2^62 items or more can be allocated: the loop of
    `minimum_dict_size` does not end for them, or the product of a `size_t` wraps around. -/
inductive Op (K V : Type) where
  | insert (key : K) (value : V)
  | remove (key : K)
  | reserve (nItems : Fin (2 ^ 62))
  deriving Repr, DecidableEq

/-- One operation on the table. -/
def step : Op K V → Option (Dict K V)
  | .insert key value => (dictInsert c d key value).map Prod.snd
  | .remove key => dictRemove c d key
  | .reserve nItems => dictReserve c d nItems

/-- A history, from a table on. -/
def runFrom (c : Config K V) (d : Dict K V) : List (Op K V) → Option (Dict K V)
  | [] => some d
  | op :: ops => (step c d op).bind fun d' => runFrom c d' ops

/-- A history, from the table just created. -/
def run (ops : List (Op K V)) : Option (Dict K V) := runFrom c (dictCreate c) ops

theorem runFrom_append (ops ops' : List (Op K V)) (d : Dict K V) :
    runFrom c d (ops ++ ops') = (runFrom c d ops).bind fun d' => runFrom c d' ops' := by
  induction ops generalizing d with
  | nil => rfl
  | cons op ops ih =>
    simp only [List.cons_append, runFrom, Option.bind_assoc]
    congr 1
    funext d'
    exact ih d'

theorem run_snoc (ops : List (Op K V)) (op : Op K V) :
    run c (ops ++ [op]) = (run c ops).bind fun d => step c d op := by
  rw [run, run, runFrom_append]
  congr 1
  funext d
  cases h : step c d op <;> simp [runFrom, h]

end S2opc.Dictionary
