/-
Numbering of the index tuples of a box.

The box of extents `[l₀, ..., lₙ₋₁]` holds the tuples `[k₀, ..., kₙ₋₁]` with
`kᵢ < lᵢ`.  `rowMajor` numbers them with the last coordinate running fastest
and `unrank` is its inverse; `unrankFirst` enumerates them with the first
coordinate running fastest, the order of `List.sections`.  The two orders are
the same exactly when at most one extent is greater than one.
-/
import Mathlib

namespace S2opc.Lib.RowMajor

open List Nat

/-! ## Row-major order -/

/-- The tuple is in the box. -/
def InBox (ks ls : List Nat) : Prop := List.Forall₂ (· < ·) ks ls

/-- The number of a tuple, the last coordinate running fastest. -/
def rowMajor : List Nat → List Nat → Nat
  | _ :: ls, k :: ks => k * ls.prod + rowMajor ls ks
  | _, _ => 0

/-- The tuple of a number, the last coordinate running fastest. -/
def unrank : List Nat → Nat → List Nat
  | [], _ => []
  | _ :: ls, q => q / ls.prod :: unrank ls (q % ls.prod)

/-- The distance between tuples that differ by one in a coordinate. -/
def strides : List Nat → List Nat
  | [] => []
  | _ :: ls => ls.prod :: strides ls

theorem length_strides (ls : List Nat) : (strides ls).length = ls.length := by
  induction ls with
  | nil => rfl
  | cons l ls ih => rw [strides, length_cons, length_cons, ih]

variable {ks ls : List Nat}

theorem rowMajor_lt (h : InBox ks ls) : rowMajor ls ks < ls.prod := by
  induction h with
  | nil => simp [rowMajor]
  | @cons k l ks ls hk _ ih =>
    rw [rowMajor, prod_cons]
    calc k * ls.prod + rowMajor ls ks < k * ls.prod + ls.prod := by omega
      _ = (k + 1) * ls.prod := by rw [Nat.add_mul, Nat.one_mul]
      _ ≤ l * ls.prod := Nat.mul_le_mul_right _ hk

theorem unrank_rowMajor (h : InBox ks ls) : unrank ls (rowMajor ls ks) = ks := by
  induction h with
  | nil => rfl
  | @cons k l ks ls hk hks ih =>
    have hlt := rowMajor_lt hks
    rw [rowMajor, unrank, Nat.mul_comm, mul_add_div (by omega), div_eq_of_lt hlt,
      Nat.add_zero, mul_add_mod, mod_eq_of_lt hlt, ih]

variable {q : Nat}

theorem inBox_unrank (h : q < ls.prod) : InBox (unrank ls q) ls := by
  induction ls generalizing q with
  | nil => exact .nil
  | cons l ls ih =>
    rw [prod_cons] at h
    have hpos : 0 < ls.prod := Nat.pos_of_ne_zero fun h0 => by simp [h0] at h
    exact .cons ((Nat.div_lt_iff_lt_mul hpos).2 h) (ih (mod_lt _ hpos))

theorem rowMajor_unrank (h : q < ls.prod) :
    rowMajor ls (unrank ls q) = q := by
  induction ls generalizing q with
  | nil =>
    rw [prod_nil] at h
    rw [rowMajor]
    · omega
    · intro _ _ _ _ hnil
      cases hnil
  | cons l ls ih =>
    rw [prod_cons] at h
    have hpos : 0 < ls.prod := Nat.pos_of_ne_zero fun h0 => by simp [h0] at h
    rw [unrank, rowMajor, ih (mod_lt _ hpos), Nat.mul_comm]
    exact div_add_mod q ls.prod

/-- The number of a tuple is the sum of its coordinates times their strides. -/
theorem rowMajor_eq_sum (ls ks : List Nat) :
    rowMajor ls ks = (zipWith (· * ·) ks (strides ls)).sum := by
  induction ls generalizing ks with
  | nil => cases ks <;> rfl
  | cons l ls ih =>
    cases ks with
    | nil => rfl
    | cons k ks => rw [rowMajor, strides, zipWith_cons_cons, sum_cons, ih]

/-- The last coordinate is added to the number of the others. -/
theorem rowMajor_concat (k : Nat) (h : ks.length + 1 = ls.length) :
    rowMajor ls (ks ++ [k]) = rowMajor ls ks + k := by
  induction ls generalizing ks with
  | nil => simp at h
  | cons l ls ih =>
    cases ks with
    | nil =>
      obtain rfl : ls = [] := length_eq_zero_iff.1 (by simpa using h)
      simp [rowMajor]
    | cons a ks =>
      rw [cons_append, rowMajor, rowMajor, ih (by simpa using h), Nat.add_assoc]

theorem unrank_append (ls : List Nat) (l q : Nat) (hq : q < ls.prod * l) :
    unrank (ls ++ [l]) q = unrank ls (q / l) ++ [q % l] := by
  induction ls generalizing q with
  | nil =>
    rw [prod_nil, Nat.one_mul] at hq
    simp [unrank, mod_eq_of_lt hq]
  | cons a ls ih =>
    have hpos : 0 < ls.prod * l := Nat.pos_of_ne_zero fun h0 => by
      simp [Nat.mul_assoc, h0] at hq
    rw [cons_append, unrank, prod_append, prod_singleton, ih _ (mod_lt _ hpos),
      unrank, Nat.mul_comm ls.prod, ← Nat.div_div_eq_div_mul, mod_mul_right_div_self,
      mod_mul_right_mod]
    rfl

/-! ## The first coordinate running fastest -/

/-- The tuple of a number, the first coordinate running fastest. -/
def unrankFirst : List Nat → Nat → List Nat
  | [], _ => []
  | l :: ls, q => q % l :: unrankFirst ls (q / l)

theorem inBox_unrankFirst (h : q < ls.prod) :
    InBox (unrankFirst ls q) ls := by
  induction ls generalizing q with
  | nil => exact .nil
  | cons l ls ih =>
    rw [prod_cons] at h
    have hpos : 0 < l := Nat.pos_of_ne_zero fun h0 => by simp [h0] at h
    exact .cons (mod_lt _ hpos) (ih (Nat.div_lt_of_lt_mul h))

/-- A range of numbers in stretches of one length. -/
theorem range_mul (m n : Nat) :
    range (m * n) = (range n).flatMap fun j => (range m).map fun i => i + m * j := by
  induction n with
  | zero => simp
  | succ n ih =>
    rw [mul_succ, range_add, range_succ, flatMap_append, ← ih]
    simp [Nat.add_comm]

/-- The tuples of a box in the order of `List.sections`. -/
theorem sections_range (ls : List Nat) :
    (ls.map range).sections = (range ls.prod).map (unrankFirst ls) := by
  induction ls with
  | nil => rfl
  | cons l ls ih =>
    rw [map_cons, sections, ih, prod_cons, range_mul, map_flatMap,
      flatMap_map]
    refine flatMap_congr fun j _ => ?_
    rw [map_map]
    refine map_congr_left fun i hi => ?_
    have hi := mem_range.1 hi
    rw [Function.comp, unrankFirst, add_mul_mod_self_left, mod_eq_of_lt hi,
      add_mul_div_left _ _ (by omega), div_eq_of_lt hi, Nat.zero_add]

/-! ## When the two orders agree -/

/-- The number of extents that are greater than one. -/
def wide (ls : List Nat) : Nat := ls.countP (1 < ·)

section

variable (hpos : ∀ l ∈ ls, 0 < l)
include hpos

theorem prod_eq_one_of_wide (h : wide ls = 0) :
    ls.prod = 1 := by
  refine prod_eq_one fun l hl => ?_
  have hle := countP_eq_zero.1 h l hl
  have := hpos l hl
  simp only [decide_eq_true_eq] at hle
  omega

theorem one_lt_prod_of_wide (h : 0 < wide ls) :
    1 < ls.prod := by
  induction ls with
  | nil => cases h
  | cons l ls ih =>
    have hl := hpos l mem_cons_self
    have hls : ∀ a ∈ ls, 0 < a := fun a ha => hpos a (mem_cons_of_mem _ ha)
    have hprod : 0 < ls.prod := prod_pos hls
    rw [prod_cons]
    by_cases hwide : 1 < l
    · calc 1 < l := hwide
        _ = l * 1 := (Nat.mul_one l).symm
        _ ≤ l * ls.prod := Nat.mul_le_mul_left _ hprod
    rw [wide, countP_cons_of_neg (by simpa using hwide)] at h
    rw [show l = 1 by omega, Nat.one_mul]
    exact ih hls h

/-- With one wide extent at most, both orders run along it. -/
theorem unrankFirst_eq_unrank (h : wide ls ≤ 1) (hq : q < ls.prod) :
    unrankFirst ls q = unrank ls q := by
  induction ls generalizing q with
  | nil => rfl
  | cons l ls ih =>
    have hl := hpos l mem_cons_self
    have hls : ∀ a ∈ ls, 0 < a := fun a ha => hpos a (mem_cons_of_mem _ ha)
    rw [prod_cons] at hq
    rw [unrankFirst, unrank]
    by_cases hwide : 1 < l
    · rw [wide, countP_cons_of_pos (by simpa using hwide)] at h
      have hone := prod_eq_one_of_wide hls (by rw [wide]; omega)
      rw [hone, Nat.mul_one] at hq
      rw [hone, mod_eq_of_lt hq, Nat.div_one, mod_one, div_eq_of_lt hq,
        ih hls (by rw [wide]; omega) (by rw [hone]; exact Nat.one_pos)]
    rw [wide, countP_cons_of_neg (by simpa using hwide)] at h
    obtain rfl : l = 1 := by omega
    rw [Nat.one_mul] at hq
    rw [mod_one, Nat.div_one, div_eq_of_lt hq, mod_eq_of_lt hq, ih hls h hq]

/-- With two wide extents, the orders differ somewhere. -/
theorem exists_unrankFirst_ne (h : 1 < wide ls) :
    ∃ q < ls.prod, unrankFirst ls q ≠ unrank ls q := by
  induction ls with
  | nil => cases h
  | cons l ls ih =>
    have hl := hpos l mem_cons_self
    have hls : ∀ a ∈ ls, 0 < a := fun a ha => hpos a (mem_cons_of_mem _ ha)
    rw [prod_cons]
    by_cases hwide : 1 < l
    · -- The second tuple: one order moves in the first coordinate, the other does not
      rw [wide, countP_cons_of_pos (by simpa using hwide)] at h
      have hrest := one_lt_prod_of_wide hls (by rw [wide]; omega)
      refine ⟨1, ?_, fun heq => ?_⟩
      · calc 1 < ls.prod := hrest
          _ = 1 * ls.prod := (Nat.one_mul _).symm
          _ ≤ l * ls.prod := Nat.mul_le_mul_right _ hl
      · rw [unrankFirst, unrank, mod_eq_of_lt hwide, div_eq_of_lt hrest] at heq
        cases heq
    · rw [wide, countP_cons_of_neg (by simpa using hwide)] at h
      obtain rfl : l = 1 := by omega
      obtain ⟨q, hq, hne⟩ := ih hls h
      refine ⟨q, by rw [Nat.one_mul]; exact hq, fun heq => hne ?_⟩
      rw [unrankFirst, unrank, Nat.div_one, mod_eq_of_lt hq] at heq
      exact (List.cons.inj heq).2

end

end S2opc.Lib.RowMajor
