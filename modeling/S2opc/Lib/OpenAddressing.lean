/-
Open addressing with tombstones, over any key type, equality and probe paths.

A table is a list of slots; each key owns a probe path, the list of slot
indices it visits in order.  `Table.Inv` is what a lookup relies on: no two
entries under equal keys, and every entry reached along its own path without
crossing an empty slot.  The file shows what `find` returns under the
invariant, that filling a free slot, rewriting an entry and burying it keep
the invariant, and how the entries counted relate to the slots visited.
-/
import Mathlib

namespace S2opc.Lib.OpenAddressing

open List

/-- One slot: never used, used and buried, or holding an entry. -/
inductive Slot (K V : Type) where
  | empty
  | tombstone
  | entry (key : K) (value : V)
  deriving Repr, DecidableEq

/-- A table of slots. -/
abbrev Table (K V : Type) := List (Slot K V)

variable {K V : Type}

namespace Slot

/-- A slot an insertion may take. -/
def isFree : Slot K V → Bool
  | entry _ _ => false
  | _ => true

/-- A slot that holds an entry. -/
def isEntry : Slot K V → Bool
  | entry _ _ => true
  | _ => false

/-- A slot at which an insertion of `k` stops: a free one or, when overwriting, an
    entry under an equal key. -/
def settles (eqv : K → K → Bool) (overwrite : Bool) (k : K) : Slot K V → Bool
  | entry k' _ => overwrite && eqv k k'
  | _ => true

@[simp] theorem isFree_empty : (empty : Slot K V).isFree = true := rfl
@[simp] theorem isFree_tombstone : (tombstone : Slot K V).isFree = true := rfl
@[simp] theorem isFree_entry (k : K) (v : V) : (entry k v).isFree = false := rfl
@[simp] theorem isEntry_empty : (empty : Slot K V).isEntry = false := rfl
@[simp] theorem isEntry_tombstone : (tombstone : Slot K V).isEntry = false := rfl
@[simp] theorem isEntry_entry (k : K) (v : V) : (entry k v).isEntry = true := rfl

theorem isFree_eq_not_isEntry (s : Slot K V) : s.isFree = !s.isEntry := by
  cases s <;> rfl

end Slot

open Slot

/-- The slot at an index; what lies outside the table reads as empty. -/
def slotAt (t : Table K V) (p : Nat) : Slot K V := t[p]?.getD .empty

/-- The lookup: follow the path, stop at an empty slot, skip tombstones,
    answer with the index of the first entry under an equal key. -/
def find (eqv : K → K → Bool) (t : Table K V) (k : K) : List Nat → Option Nat
  | [] => none
  | p :: ps =>
    match slotAt t p with
    | .empty => none
    | .tombstone => find eqv t k ps
    | .entry k' _ => if eqv k k' then some p else find eqv t k ps

/-- The slot an insertion settles on: the first free slot of the path or, when
    overwriting, the first entry under an equal key if it comes before. -/
def settle (eqv : K → K → Bool) (overwrite : Bool) (t : Table K V) (k : K) (ps : List Nat) :
    Option Nat :=
  ps.find? fun p => (slotAt t p).settles eqv overwrite k

/-- The path of the key meets a tombstone before the key's own entry. -/
def buriedBefore (eqv : K → K → Bool) (t : Table K V) (k : K) : List Nat → Bool
  | [] => false
  | p :: ps =>
    match slotAt t p with
    | .empty => false
    | .tombstone => (find eqv t k ps).isSome
    | .entry k' _ => if eqv k k' then false else buriedBefore eqv t k ps

/-- What the equality and the paths of a table must satisfy: the equality is an
    equivalence, and equal keys follow the same path. -/
structure Compatible (eqv : K → K → Bool) (path : K → List Nat) : Prop where
  refl : ∀ k, eqv k k = true
  symm : ∀ {k k'}, eqv k k' = true → eqv k' k = true
  trans : ∀ {k k' k''}, eqv k k' = true → eqv k' k'' = true → eqv k k'' = true
  path_eq : ∀ {k k'}, eqv k k' = true → path k = path k'

/-- The invariant of a table with respect to an equality and probe paths. -/
structure Inv (eqv : K → K → Bool) (path : K → List Nat) (t : Table K V) : Prop where
  distinct : ∀ {p q : Nat} {k k' : K} {v v' : V}, slotAt t p = .entry k v →
    slotAt t q = .entry k' v' → eqv k k' = true → p = q
  reach : ∀ {p : Nat} {k : K} {v : V}, slotAt t p = .entry k v →
    ∃ pre post, path k = pre ++ p :: post ∧ ∀ q ∈ pre, slotAt t q ≠ .empty

/-- The table answers `v` for the key `k`. -/
def Has (eqv : K → K → Bool) (t : Table K V) (k : K) (v : V) : Prop :=
  ∃ p k', slotAt t p = .entry k' v ∧ eqv k k' = true

/-- The number of entries. -/
def entries (t : Table K V) : Nat := t.countP isEntry

/-! ## Reading a slot -/

variable {t : Table K V} {p : Nat}

theorem slotAt_eq_getElem (h : p < t.length) : slotAt t p = t[p] := by
  simp [slotAt, h]

theorem lt_length_of_slotAt_ne_empty (h : slotAt t p ≠ .empty) :
    p < t.length := by
  by_contra hp
  exact h (by simp [slotAt, getElem?_eq_none (Nat.le_of_not_lt hp)])

theorem lt_length_of_entry {k : K} {v : V} (h : slotAt t p = .entry k v) : p < t.length :=
  lt_length_of_slotAt_ne_empty (by simp [h])

theorem slotAt_set_ne {q : Nat} (s : Slot K V) (h : q ≠ p) :
    slotAt (t.set p s) q = slotAt t q := by
  rw [slotAt, slotAt, getElem?_set_ne (Ne.symm h)]

theorem slotAt_set_self (s : Slot K V) (h : p < t.length) :
    slotAt (t.set p s) p = s := by
  rw [slotAt, getElem?_set_self h]
  rfl

variable {s : Slot K V}

/-- A slot of a table rewritten at `p` is the new slot at `p` or an old one elsewhere. -/
theorem slotAt_set_cases (hp : p < t.length) (q : Nat) :
    (q = p ∧ slotAt (t.set p s) q = s) ∨ (q ≠ p ∧ slotAt (t.set p s) q = slotAt t q) := by
  by_cases hqp : q = p
  · subst hqp
    exact .inl ⟨rfl, slotAt_set_self s hp⟩
  · exact .inr ⟨hqp, slotAt_set_ne s hqp⟩

/-! ## Lookup under the invariant -/

variable {k : K} {ps : List Nat} {k' : K} {pre : List Nat}

section Lookup

variable {eqv : K → K → Bool} {path : K → List Nat} {t : Table K V}

/-- A lookup that answers points at an entry under an equal key. -/
theorem find_some (h : find eqv t k ps = some p) :
    ∃ k' v, slotAt t p = .entry k' v ∧ eqv k k' = true := by
  induction ps with
  | nil => simp [find] at h
  | cons q qs ih =>
    simp only [find] at h
    split at h
    · simp at h
    · exact ih h
    · rename_i k' v hq
      split at h
      · rename_i he
        cases h
        exact ⟨k', v, hq, he⟩
      · exact ih h

variable {v : V}

/-- Along a path without an empty slot before `p`, a lookup of a key equal to
    the entry at `p` finds some entry. -/
theorem find_isSome_of_reach {post : List Nat} (hp : slotAt t p = .entry k' v)
    (he : eqv k k' = true) (hpre : ∀ q ∈ pre, slotAt t q ≠ .empty) :
    (find eqv t k (pre ++ p :: post)).isSome := by
  induction pre with
  | nil => simp [find, hp, he]
  | cons q qs ih =>
    have hrest := ih fun r hr => hpre r (mem_cons_of_mem q hr)
    have hq : slotAt t q ≠ .empty := hpre q mem_cons_self
    simp only [cons_append, find]
    split
    · contradiction
    · exact hrest
    · split
      · rfl
      · exact hrest

/-- The lookup of a key that has an entry finds that entry. -/
theorem Inv.find_entry (hc : Compatible eqv path) (hi : Inv eqv path t)
    (hp : slotAt t p = .entry k' v) (he : eqv k k' = true) :
    find eqv t k (path k) = some p := by
  obtain ⟨pre, post, hpath, hpre⟩ := hi.reach hp
  have hsome : (find eqv t k (path k)).isSome := by
    rw [hc.path_eq he, hpath]
    exact find_isSome_of_reach hp he hpre
  obtain ⟨q, hq⟩ := Option.isSome_iff_exists.mp hsome
  obtain ⟨k'', v'', hqe, he'⟩ := find_some hq
  have hqp : q = p := hi.distinct hqe hp (hc.trans (hc.symm he') he)
  rw [hq, hqp]

/-- The lookup of a key without an entry answers nothing. -/
theorem find_eq_none (ps : List Nat) (h : ∀ v, ¬ Has eqv t k v) :
    find eqv t k ps = none := by
  rcases hf : find eqv t k ps with _ | p
  · rfl
  obtain ⟨k', v, hp, he⟩ := find_some hf
  exact absurd ⟨p, k', hp, he⟩ (h v)

end Lookup

/-! ## Where an insertion settles -/

section Settle

variable {eqv : K → K → Bool} {t : Table K V} {k : K} {ps : List Nat} {p : Nat}

variable (overwrite : Bool)

theorem settles_of_isFree (h : s.isFree = true) :
    s.settles eqv overwrite k = true := by
  cases s with
  | entry k' v' => cases h
  | empty => rfl
  | tombstone => rfl

theorem settle_cons (q : Nat) :
    settle eqv overwrite t k (q :: ps) =
      if (slotAt t q).settles eqv overwrite k then some q else settle eqv overwrite t k ps := by
  rw [settle, find?_cons]
  cases (slotAt t q).settles eqv overwrite k <;> rfl

theorem settle_isSome (h : ∃ q ∈ ps, (slotAt t q).isFree = true) :
    (settle eqv overwrite t k ps).isSome := by
  obtain ⟨q, hq, hfree⟩ := h
  rw [settle, find?_isSome]
  exact ⟨q, hq, settles_of_isFree overwrite hfree⟩

variable {overwrite : Bool}

/-- The slots passed before settling all hold entries. -/
theorem settle_path (h : settle eqv overwrite t k ps = some p) :
    ∃ pre post, ps = pre ++ p :: post ∧ ∀ q ∈ pre, slotAt t q ≠ .empty := by
  obtain ⟨-, pre, post, hps, hpre⟩ := List.find?_eq_some_iff_append.mp h
  refine ⟨pre, post, hps, ?_⟩
  intro q hq he
  simpa [he, settles] using hpre q hq

/-- An insertion of a key without an entry settles on a free slot. -/
theorem settle_isFree (h : settle eqv overwrite t k ps = some p) (hnew : ∀ v, ¬ Has eqv t k v) :
    (slotAt t p).isFree = true := by
  have hp := find?_some h
  cases hs : slotAt t p with
  | empty => rfl
  | tombstone => rfl
  | entry k' v' =>
    simp only [hs, settles, Bool.and_eq_true] at hp
    exact absurd ⟨p, k', hs, hp.2⟩ (hnew v')

/-- An insertion over a buried path settles on the tombstone, not on the entry. -/
theorem settle_tombstone (h : buriedBefore eqv t k ps = true) :
    ∃ p, settle eqv true t k ps = some p ∧ slotAt t p = .tombstone := by
  induction ps with
  | nil => simp [buriedBefore] at h
  | cons q qs ih =>
    simp only [buriedBefore] at h
    split at h
    · cases h
    · rename_i hq
      exact ⟨q, by simp [settle_cons, hq, settles], hq⟩
    · rename_i k' v' hq
      split at h
      · cases h
      rename_i he
      obtain ⟨p, hp, hs⟩ := ih h
      refine ⟨p, ?_, hs⟩
      rw [settle_cons, if_neg (by simp [hq, he, settles])]
      exact hp

/-- An insertion over a path that is not buried settles on the entry. -/
theorem settle_entry (h : buriedBefore eqv t k ps = false) (hf : find eqv t k ps = some p) :
    settle eqv true t k ps = some p := by
  induction ps with
  | nil => simp [find] at hf
  | cons q qs ih =>
    simp only [buriedBefore] at h
    simp only [find] at hf
    cases hq : slotAt t q with
    | empty => simp [hq] at hf
    | tombstone =>
      simp only [hq] at h hf
      simp [hf] at h
    | entry k' v' =>
      simp only [hq] at h hf
      by_cases he : eqv k k' = true
      · simp only [he, if_true, Option.some.injEq] at hf
        subst hf
        simp [settle_cons, hq, he, settles]
      rw [if_neg he] at h hf
      rw [settle_cons, if_neg (by simp [hq, he, settles])]
      exact ih h hf

theorem buriedBefore_eq_false (h : ∀ q, slotAt t q ≠ .tombstone) :
    buriedBefore eqv t k ps = false := by
  induction ps with
  | nil => rfl
  | cons q qs ih =>
    simp only [buriedBefore]
    split
    · rfl
    · rename_i hq
      exact absurd hq (h q)
    · split
      · rfl
      · exact ih

/-- A path is buried only before an entry. -/
theorem find_isSome_of_buried (h : buriedBefore eqv t k ps = true) :
    (find eqv t k ps).isSome := by
  induction ps with
  | nil => simp [buriedBefore] at h
  | cons q qs ih =>
    simp only [buriedBefore] at h
    simp only [find]
    cases hq : slotAt t q with
    | empty => simp [hq] at h
    | tombstone => simpa [hq] using h
    | entry k' v' =>
      simp only [hq] at h
      by_cases he : eqv k k' = true
      · simp [he]
      · rw [if_neg he] at h
        simpa [he] using ih h

end Settle

/-! ## Rewriting one slot -/

variable {x : K} {w : V}

section Update

variable {eqv : K → K → Bool} {path : K → List Nat} {t : Table K V} {p : Nat} {k k' : K} {v v' : V}

theorem not_entry_of_isFree (h : s.isFree = true) : s ≠ .entry k v := by
  rintro rfl
  cases h

/-- An entry that lies before a rewritten slot on a path is still reached: only a
    slot turned empty could cut the path. -/
theorem reach_set (hp : p < t.length) (hs : s ≠ .empty) (hpre : ∀ q ∈ pre, slotAt t q ≠ .empty) :
    ∀ q ∈ pre, slotAt (t.set p s) q ≠ .empty := by
  intro q hq
  rcases slotAt_set_cases (s := s) hp q with ⟨-, h⟩ | ⟨-, h⟩
  · rw [h]
    exact hs
  · rw [h]
    exact hpre q hq

/-- Rewriting a slot keeps the invariant, when the path of a new key reaches the slot and no
    other slot has an equal one: a tombstone does not cut a path. -/
theorem Inv.set (hc : Compatible eqv path) (hi : Inv eqv path t) (hp : p < t.length)
    (hs : s ≠ .empty)
    (hreach : ∀ {k v}, s = .entry k v →
      ∃ pre post, path k = pre ++ p :: post ∧ ∀ q ∈ pre, slotAt t q ≠ .empty)
    (halone : ∀ {k v q k' v'}, s = .entry k v → slotAt t q = .entry k' v' → eqv k k' = true →
      q = p) :
    Inv eqv path (t.set p s) where
  distinct := by
    intro q r kq kr vq vr hq hr he
    rcases slotAt_set_cases (s := s) hp q with ⟨rfl, hq'⟩ | ⟨hqp, hq'⟩ <;>
      rcases slotAt_set_cases (s := s) hp r with ⟨rfl, hr'⟩ | ⟨hrp, hr'⟩
    · rfl
    · exact (halone (hq'.symm.trans hq) (hr' ▸ hr) he).symm
    · exact halone (hr'.symm.trans hr) (hq' ▸ hq) (hc.symm he)
    · exact hi.distinct (hq' ▸ hq) (hr' ▸ hr) he
  reach := by
    intro q kq vq hq
    rcases slotAt_set_cases (s := s) hp q with ⟨rfl, hq'⟩ | ⟨-, hq'⟩
    · obtain ⟨pre, post, hpath, hpre⟩ := hreach (hq'.symm.trans hq)
      exact ⟨pre, post, hpath, reach_set hp hs hpre⟩
    · obtain ⟨pre, post, hpath, hpre⟩ := hi.reach (hq' ▸ hq)
      exact ⟨pre, post, hpath, reach_set hp hs hpre⟩

/-- Filling a free slot that the path reaches keeps the invariant, when the key
    had no entry. -/
theorem Inv.fill (hc : Compatible eqv path) (hi : Inv eqv path t) (hp : p < t.length)
    {post : List Nat} (hpath : path k = pre ++ p :: post) (hpre : ∀ q ∈ pre, slotAt t q ≠ .empty)
    (hnew : ∀ w, ¬ Has eqv t k w) :
    Inv eqv path (t.set p (.entry k v)) := by
  refine hi.set hc hp (by simp) (fun h => ?_) fun h hq he => ?_
  · cases h
    exact ⟨pre, post, hpath, hpre⟩
  · cases h
    exact absurd ⟨_, _, hq, he⟩ (hnew _)

/-- Rewriting an entry under an equal key keeps the invariant. -/
theorem Inv.overwrite (hc : Compatible eqv path) (hi : Inv eqv path t)
    (hp : slotAt t p = .entry k' v') (he : eqv k k' = true) :
    Inv eqv path (t.set p (.entry k v)) := by
  refine hi.set hc (lt_length_of_entry hp) (by simp) (fun h => ?_) fun h hq heq => ?_
  · cases h
    rw [hc.path_eq he]
    exact hi.reach hp
  · cases h
    exact hi.distinct hq hp (hc.trans (hc.symm heq) he)

/-- What the slots other than `p` answer. -/
def HasElsewhere (eqv : K → K → Bool) (t : Table K V) (p : Nat) (k : K) (v : V) : Prop :=
  ∃ q k', q ≠ p ∧ slotAt t q = .entry k' v ∧ eqv k k' = true

/-- What the table answers after a slot is rewritten. -/
theorem has_set (hp : p < t.length) :
    Has eqv (t.set p s) x w ↔
      (∃ k, s = .entry k w ∧ eqv x k = true) ∨ HasElsewhere eqv t p x w := by
  constructor
  · rintro ⟨q, kq, hq, he⟩
    rcases slotAt_set_cases (s := s) hp q with ⟨rfl, hq'⟩ | ⟨hqp, hq'⟩
    · exact .inl ⟨kq, hq'.symm.trans hq, he⟩
    · exact .inr ⟨q, kq, hqp, hq' ▸ hq, he⟩
  · rintro (⟨k, rfl, he⟩ | ⟨q, kq, hqp, hq, he⟩)
    · exact ⟨p, k, slotAt_set_self _ hp, he⟩
    · exact ⟨q, kq, by rw [slotAt_set_ne _ hqp, hq], he⟩

theorem entry_answers_iff :
    (∃ k', (.entry k v : Slot K V) = .entry k' w ∧ eqv x k' = true) ↔ eqv x k = true ∧ w = v := by
  constructor
  · rintro ⟨k', h, he⟩
    cases h
    exact ⟨he, rfl⟩
  · rintro ⟨he, rfl⟩
    exact ⟨k, rfl, he⟩

/-- Of an entry at `p`, the other slots answer nothing. -/
theorem Inv.hasElsewhere_iff (hc : Compatible eqv path) (hi : Inv eqv path t)
    (hp : slotAt t p = .entry k' v') :
    HasElsewhere eqv t p x w ↔ eqv x k' = false ∧ Has eqv t x w := by
  constructor
  · rintro ⟨q, kq, hqp, hq, he⟩
    refine ⟨?_, q, kq, hq, he⟩
    by_contra hxk
    exact hqp (hi.distinct hq hp (hc.trans (hc.symm he) (Bool.of_not_eq_false hxk)))
  · rintro ⟨hxk, q, kq, hq, he⟩
    refine ⟨q, kq, ?_, hq, he⟩
    rintro rfl
    rw [hp] at hq
    cases hq
    rw [he] at hxk
    cases hxk

/-- What the table answers after a free slot is filled. -/
theorem has_fill (hp : p < t.length) (hfree : (slotAt t p).isFree = true) :
    Has eqv (t.set p (.entry k v)) x w ↔ (eqv x k = true ∧ w = v) ∨ Has eqv t x w := by
  rw [has_set hp, entry_answers_iff]
  refine or_congr_right ⟨fun ⟨q, kq, _, hq⟩ => ⟨q, kq, hq⟩, fun ⟨q, kq, hq, he⟩ => ?_⟩
  refine ⟨q, kq, ?_, hq, he⟩
  rintro rfl
  exact not_entry_of_isFree hfree hq

/-- What the table answers after an entry is rewritten under an equal key. -/
theorem Inv.has_overwrite (hc : Compatible eqv path) (hi : Inv eqv path t)
    (hp : slotAt t p = .entry k' v') (he : eqv k k' = true) :
    Has eqv (t.set p (.entry k v)) x w ↔
      (eqv x k = true ∧ w = v) ∨ (eqv x k = false ∧ Has eqv t x w) := by
  have hsame : eqv x k' = eqv x k :=
    Bool.eq_iff_iff.2 ⟨fun h => hc.trans h (hc.symm he), fun h => hc.trans h he⟩
  rw [has_set (lt_length_of_entry hp), entry_answers_iff, hi.hasElsewhere_iff hc hp, hsame]

/-- What the table answers after an entry is buried. -/
theorem Inv.has_bury (hc : Compatible eqv path) (hi : Inv eqv path t)
    (hp : slotAt t p = .entry k' v') :
    Has eqv (t.set p .tombstone) x w ↔ eqv x k' = false ∧ Has eqv t x w := by
  rw [has_set (lt_length_of_entry hp), hi.hasElsewhere_iff hc hp]
  simp

end Update

/-! ## Counting entries -/

section Count

variable {t : Table K V} {p : Nat}

theorem entries_set (hp : p < t.length) :
    entries (t.set p s) + (if (slotAt t p).isEntry then 1 else 0) =
      entries t + if s.isEntry then 1 else 0 := by
  have hpos : t[p].isEntry = true → 0 < t.countP isEntry :=
    fun h => List.countP_pos_iff.mpr ⟨t[p], getElem_mem hp, h⟩
  rw [entries, entries, countP_set hp, slotAt_eq_getElem hp]
  split_ifs with hold
  · have := hpos hold
    omega
  · have := hpos hold
    omega
  · omega
  · omega

theorem entries_set_entry_of_isFree (hp : p < t.length) (hfree : (slotAt t p).isFree = true)
    (k : K) (v : V) : entries (t.set p (.entry k v)) = entries t + 1 := by
  have hset := entries_set (s := .entry k v) hp
  rw [isFree_eq_not_isEntry, Bool.not_eq_true'] at hfree
  simpa [hfree] using hset

variable {v' : V}

theorem entries_set_entry_of_entry (hp : slotAt t p = .entry k' v') (k : K) (v : V) :
    entries (t.set p (.entry k v)) = entries t := by
  have hset := entries_set (s := .entry k v) (lt_length_of_entry hp)
  simpa [hp] using hset

theorem entries_set_tombstone (hp : slotAt t p = .entry k' v') :
    entries (t.set p .tombstone) + 1 = entries t := by
  have hset := entries_set (s := .tombstone) (lt_length_of_entry hp)
  simpa [hp] using hset

/-- Distinct indices that all hold entries are no more than the entries. -/
theorem length_le_entries (hnd : ps.Nodup) (h : ∀ q ∈ ps, (slotAt t q).isEntry = true) :
    ps.length ≤ entries t := by
  have hsub : ps ⊆ (range t.length).filter fun q => (slotAt t q).isEntry := by
    intro q hq
    have hlt : q < t.length := by
      apply lt_length_of_slotAt_ne_empty
      intro he
      simpa [he] using h q hq
    exact List.mem_filter.mpr ⟨List.mem_range.mpr hlt, h q hq⟩
  have hlen := (hnd.subperm hsub).length_le
  have hmap : (range t.length).map (slotAt t) = t := by
    apply ext_getElem
    · simp
    · intro i h1 h2
      simp [slotAt_eq_getElem h2]
  have hcount : entries t = ((range t.length).filter fun q => (slotAt t q).isEntry).length := by
    conv_lhs => rw [entries, ← hmap, countP_map]
    rw [countP_eq_length_filter]
    rfl
  omega

/-- A path that visits more distinct slots than there are entries meets a free one. -/
theorem exists_free (hnd : ps.Nodup) (h : entries t < ps.length) :
    ∃ q ∈ ps, (slotAt t q).isFree = true := by
  by_contra hno
  have hall : ∀ q ∈ ps, (slotAt t q).isEntry = true := by
    intro q hq
    by_contra he
    exact hno ⟨q, hq, by simpa [isFree_eq_not_isEntry] using he⟩
  exact absurd (length_le_entries hnd hall) (Nat.not_le.mpr h)

end Count

end S2opc.Lib.OpenAddressing
