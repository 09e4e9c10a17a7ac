/-
What `SOPC_Variant_GetRange` reads of a matrix.

The range selects a box of the matrix.  `flatten_matrix_numeric_ranges` adds the
indexes of each dimension to those of the dimensions before it, so that the
first dimension runs fastest among those before the last one; the elements of
the result are expected row by row, with the first dimension running slowest.
The two orders are the same when at most one of the dimensions before the last
has several indexes selected, as is always so for two dimensions.
-/
import S2opc.BuiltinTypes.Range
import S2opc.Lib.RowMajor

namespace S2opc.BuiltinTypes

open Lib.RowMajor Lib.Tuple List Function UInt32

/-! ## The box of a range -/

/-- The dimensions of a matrix as natural numbers. -/
abbrev extentsOf (arrayDimensions : List Int32) : List Nat :=
  arrayDimensions.map fun d => d.toInt.toNat

/-- The first index of each dimension. -/
def starts (range : NumericRange) : List Nat := range.map fun dim => dim.start.toNat

/-- The numbers of indexes of a range. -/
abbrev rangeLengths (range : NumericRange) : List Nat :=
  range.map fun dim => dim.endIndex.toNat - dim.start.toNat + 1

/-- The numbers of indexes of the dimensions that are in the range. -/
def selectedExtents (extents : List Nat) (range : NumericRange) : List Nat :=
  List.zipWith (fun d dim => min dim.endIndex.toNat (d - 1) - dim.start.toNat + 1) extents range

/-- The tuple at some place of the box, in the matrix. -/
def shifted (starts ks : List Nat) : List Nat := List.zipWith (· + ·) starts ks

/-- The range `truncated` is `range` cut to the dimensions of the matrix. -/
inductive Truncated : List Int32 → NumericRange → NumericRange → Prop
  | nil : Truncated [] [] []
  | cons {d : Int32} {dim cut : Dimension} {ds : List Int32} {range truncated : NumericRange}
      (hd : 0 < d.toInt) (hstart : dim.start.toNat < d.toInt.toNat) (hsame : cut.start = dim.start)
      (hend : cut.endIndex.toNat = min dim.endIndex.toNat (d.toInt.toNat - 1))
      (rest : Truncated ds range truncated) : Truncated (d :: ds) (dim :: range) (cut :: truncated)

variable {d : Int32}

theorem toNat_toUInt32 (h : 0 ≤ d.toInt) : d.toUInt32.toNat = d.toInt.toNat := by
  have hbmod : d.toInt = (d.toUInt32.toNat : Int).bmod (2 ^ 32) := by
    rw [← Int32.toInt_toBitVec, BitVec.toInt_eq_toNat_bmod]
    rfl
  have hlt := d.toUInt32.toNat_lt
  rw [Int.bmod_def] at hbmod
  split_ifs at hbmod <;> omega

theorem truncatedDim_eq_some {dim cut : Dimension} (h : truncatedDim d dim = some cut) :
    0 < d.toInt ∧ dim.start.toNat < d.toInt.toNat ∧ cut.start = dim.start ∧
      cut.endIndex.toNat = min dim.endIndex.toNat (d.toInt.toNat - 1) := by
  unfold truncatedDim isArrayValidRange at h
  by_cases hd : d ≤ 0
  · simp [hd] at h
  have hpos : 0 < d.toInt := by
    rw [Int32.le_iff_toInt_le, show (0 : Int32).toInt = 0 from rfl] at hd
    omega
  have hnat := toNat_toUInt32 (Int.le_of_lt hpos)
  simp only [if_neg hd, Bool.not_false, Bool.true_or, Bool.and_true, decide_eq_true_eq] at h
  split_ifs at h with hstart hle
  have hone : (d.toUInt32 - 1).toNat = d.toInt.toNat - 1 := by
    rw [UInt32.toNat_sub_of_le _ _ (by rw [le_iff_toNat_le, hnat]; show 1 ≤ _; omega), hnat]
    rfl
  rw [lt_iff_toNat_lt, hnat] at hstart
  cases h
  refine ⟨hpos, hstart, rfl, ?_⟩
  show (min dim.endIndex (d.toUInt32 - 1)).toNat = _
  rw [← hone, UInt32.min_def, Nat.min_def]
  simp only [le_iff_toNat_le]
  split_ifs <;> rfl

variable {ds : List Int32} {truncated range : NumericRange}

/-- What the loop on the dimensions computes. -/
theorem truncatedRange_eq_ok (hlen : range.length = ds.length)
    (h : truncatedRange ds range = .ok truncated) :
    Truncated ds range truncated := by
  induction ds generalizing range truncated with
  | nil =>
    obtain rfl := length_eq_zero_iff.1 hlen
    rw [truncatedRange] at h
    cases h
    exact .nil
  | cons d ds ih =>
    rcases range with _ | ⟨dim, range⟩
    · simp at hlen
    rw [truncatedRange] at h
    rcases hcut : truncatedDim d dim with _ | cut
    · rw [hcut] at h; cases h
    rcases hrest : truncatedRange ds range with e | rest
    · rw [hcut, hrest] at h; cases h
    rw [hcut, hrest] at h
    cases h
    obtain ⟨hd, hstart, hsame, hend⟩ := truncatedDim_eq_some hcut
    exact .cons hd hstart hsame hend (ih (by simpa using hlen) hrest)

namespace Truncated

variable {ds : List Int32} {range truncated : NumericRange}

section

variable (h : Truncated ds range truncated)
include h

theorem starts_eq : starts truncated = starts range := by
  induction h with
  | nil => rfl
  | cons _ _ hsame _ _ ih =>
    rw [starts, starts, map_cons, map_cons, hsame]
    exact congrArg _ ih

theorem length_eq :
    range.length = ds.length ∧ truncated.length = ds.length := by
  induction h with
  | nil => exact ⟨rfl, rfl⟩
  | cons _ _ _ _ _ ih => simp [ih.1, ih.2]

/-- The lengths of the cut dimensions are the extents of the box. -/
theorem lengths_eq :
    rangeLengths truncated =
      selectedExtents (extentsOf ds) range := by
  induction h with
  | nil => rfl
  | cons _ _ hsame hend _ ih =>
    rw [rangeLengths, map_cons, extentsOf, map_cons, selectedExtents,
      zipWith_cons_cons, hsame, hend]
    exact congrArg _ ih

theorem toNat_eltsInRange :
    ∀ dim ∈ truncated, dim.eltsInRange.toNat = dim.endIndex.toNat - dim.start.toNat + 1 := by
  induction h with
  | nil => exact fun _ h => absurd h not_mem_nil
  | @cons d dim cut ds range truncated hd hstart hsame hend _ ih =>
    refine forall_mem_cons.2 ⟨?_, ih⟩
    have hlt := d.toInt_lt
    have hsub := UInt32.toNat_sub_of_le _ _ cut.start_le
    rw [Dimension.eltsInRange, UInt32.toNat_add, hsub]
    show (_ + 1) % 2 ^ 32 = _
    rw [Nat.mod_eq_of_lt (by omega)]

/-- The tuples of the box are in the matrix. -/
theorem inBox_shifted {ks : List Nat}
    (hks : InBox ks (selectedExtents (extentsOf ds) range)) :
    InBox (shifted (starts range) ks) (extentsOf ds) := by
  induction h generalizing ks with
  | nil =>
    cases hks
    exact .nil
  | cons hd hstart _ _ _ ih =>
    cases hks with
    | cons hk hks =>
      refine .cons ?_ (ih hks)
      simp only at hk ⊢
      omega

theorem endIndex_lt :
    ∀ dim ∈ truncated, dim.endIndex.toNat < 2147483647 := by
  induction h with
  | nil => exact fun _ h => absurd h not_mem_nil
  | @cons d dim cut ds range truncated hd _ _ hend _ ih =>
    refine forall_mem_cons.2 ⟨?_, ih⟩
    have hlt := d.toInt_lt
    omega

theorem selectedExtents_pos :
    ∀ l ∈ selectedExtents (extentsOf ds) range, 0 < l := by
  rw [← h.lengths_eq]
  intro l hl
  obtain ⟨dim, -, rfl⟩ := mem_map.1 hl
  omega

theorem selectedExtents_ne_nil (hne : range ≠ []) :
    selectedExtents (extentsOf ds) range ≠ [] := by
  cases h with
  | nil => exact absurd rfl hne
  | cons => exact cons_ne_nil _ _

/-- The elements between two indexes, as they are without overflow. -/
theorem elementsPerIndex_eq :
    elementsPerIndex ds = (strides (extentsOf ds)).map UInt32.ofNat := by
  induction h with
  | nil => rfl
  | @cons d dim cut ds range truncated hd _ _ _ rest ih =>
    cases rest with
    | nil => rfl
    | @cons d' _ _ ds' _ _ hd' _ _ _ _ =>
      have hd : d'.toUInt32 = UInt32.ofNat d'.toInt.toNat := by
        rw [← toNat_toUInt32 (Int.le_of_lt hd'), UInt32.ofNat_toNat]
      unfold elementsPerIndex
      rw [ih]
      simp only [map_cons, strides, prod_cons, hd, ← ofNat_mul]
      rw [Nat.mul_comm]

end

end Truncated

/-! ## The flattened indexes -/

theorem indexesFrom_eq (start endIndex : UInt32) :
    indexesFrom start endIndex =
      (List.range (endIndex.toNat - start.toNat + 1)).map fun k => UInt32.ofNat (start.toNat + k) := by
  refine map_congr_left fun k _ => ?_
  rw [ofNat_add, UInt32.ofNat_toNat]

/-- The place of a tuple, its last coordinates missing, among the elements of the matrix. -/
def offset (elements starts ks : List Nat) : Nat :=
  (List.zipWith (· * ·) (shifted starts ks) elements).sum

/-- The loop enumerates the tuples with the first coordinate running fastest. -/
theorem flatIndexes_eq (dims : NumericRange) (elements previous : List Nat) :
    flatIndexes dims (elements.map UInt32.ofNat) (previous.map UInt32.ofNat) =
      ((((rangeLengths dims).take elements.length).map List.range).sections.flatMap fun ks =>
          previous.map (· + offset elements (starts dims) ks)).map UInt32.ofNat := by
  induction dims generalizing elements previous with
  | nil => simp [flatIndexes, offset, shifted, starts]
  | cons dim dims ih =>
    rcases elements with _ | ⟨e, es⟩
    · simp [flatIndexes, offset]
    have hstep : ((indexesFrom dim.start dim.endIndex).flatMap fun iInDim =>
        (previous.map UInt32.ofNat).map (· + iInDim * UInt32.ofNat e)) =
        ((List.range (dim.endIndex.toNat - dim.start.toNat + 1)).flatMap fun k =>
          previous.map (· + (dim.start.toNat + k) * e)).map UInt32.ofNat := by
      rw [indexesFrom_eq, flatMap_map, map_flatMap]
      refine flatMap_congr fun k _ => ?_
      simp only [map_map]
      refine map_congr_left fun p _ => ?_
      simp only [comp, ofNat_add, ofNat_mul]
    rw [map_cons, flatIndexes, hstep, ih]
    simp only [map_cons, length_cons, take_succ_cons, sections,
      flatMap_assoc, flatMap_map]
    congr 1
    refine flatMap_congr fun ks _ => ?_
    rw [map_flatMap]
    refine flatMap_congr fun k _ => ?_
    rw [map_map]
    refine map_congr_left fun p _ => ?_
    simp only [comp, offset, starts, shifted, map_cons, zipWith_cons_cons,
      sum_cons, Nat.add_assoc]

/-- The tuple of the box whose element comes at place `q`: the last coordinate runs fastest, then
    the first one, then the second one. -/
def copiedTuple (extents : List Nat) (q : Nat) : List Nat :=
  unrankFirst extents.dropLast (q / extents.getLastD 0) ++ [q % extents.getLastD 0]

theorem copiedTuple_append (ls : List Nat) (l q : Nat) :
    copiedTuple (ls ++ [l]) q = unrankFirst ls (q / l) ++ [q % l] := by
  simp [copiedTuple]

variable {extents : List Nat}

theorem inBox_copiedTuple {q : Nat} (h : q < extents.prod) (hne : extents ≠ []) :
    InBox (copiedTuple extents q) extents := by
  obtain ⟨ls, l, rfl⟩ : ∃ ls l, extents = ls ++ [l] :=
    ⟨_, _, (dropLast_concat_getLast hne).symm⟩
  rw [prod_append, prod_singleton] at h
  have hl : 0 < l := Nat.pos_of_ne_zero fun h0 => by simp [h0] at h
  rw [copiedTuple_append]
  exact rel_append (inBox_unrankFirst ((Nat.div_lt_iff_lt_mul hl).2 h))
    (.cons (Nat.mod_lt _ hl) .nil)

section
variable {ds : List Int32} {range init : NumericRange} {last : Dimension}

theorem rowMajor_shifted_concat (h : Truncated ds range (init ++ [last])) {ks : List Nat} (k : Nat)
    (hks : ks.length = init.length) :
    rowMajor (extentsOf ds) (shifted (starts range) (ks ++ [k])) =
      rowMajor (extentsOf ds) (shifted (starts init) ks) + (last.start.toNat + k) := by
  have hlen := h.length_eq.2
  have hstarts : starts range = starts init ++ [last.start.toNat] := by
    rw [← h.starts_eq, starts, map_append]
    rfl
  have hsplit : shifted (starts range) (ks ++ [k]) =
      shifted (starts init) ks ++ [last.start.toNat + k] := by
    rw [hstarts, shifted, zipWith_append (by rw [starts, length_map, hks])]
    rfl
  rw [hsplit, rowMajor_concat]
  rw [shifted, length_zipWith, starts, length_map, length_map, hks, Nat.min_self,
    ← hlen, length_append, length_singleton]

/-- The indexes before the last dimension is added. -/
theorem flatIndexes_rowMajor (h : Truncated ds range (init ++ [last])) :
    flatIndexes init (elementsPerIndex ds) [0] =
      (List.range (rangeLengths init).prod).map fun j =>
        UInt32.ofNat (rowMajor (extentsOf ds) (shifted (starts init)
          (unrankFirst (rangeLengths init) j))) := by
  have hlen : init.length + 1 = ds.length := by
    rw [← h.length_eq.2, length_append, length_singleton]
  have hall := flatIndexes_eq init (strides (extentsOf ds)) [0]
  rw [take_of_length_le (by rw [length_strides, length_map, length_map]; omega),
    sections_range, flatMap_map] at hall
  rw [h.elementsPerIndex_eq, show [(0 : UInt32)] = [0].map UInt32.ofNat from rfl, hall]
  simp only [map_cons, map_nil, Nat.zero_add, offset, ← rowMajor_eq_sum]
  rw [map_flatMap]
  exact List.map_eq_flatMap.symm

/-- The interval of one index before the last dimension. -/
theorem indexesFrom_last {p : Nat} (hp : p + last.endIndex.toNat < 2 ^ 32) :
    indexesFrom (UInt32.ofNat p + last.start) (UInt32.ofNat p + last.endIndex) =
      (List.range (last.endIndex.toNat - last.start.toNat + 1)).map fun k =>
        UInt32.ofNat (p + (last.start.toNat + k)) := by
  have hle := le_iff_toNat_le.1 last.start_le
  have hadd : ∀ n : UInt32, n.toNat ≤ last.endIndex.toNat →
      (UInt32.ofNat p + n).toNat = p + n.toNat := by
    intro n hn
    rw [UInt32.toNat_add, toNat_ofNat', Nat.mod_add_mod, Nat.mod_eq_of_lt (by omega)]
  rw [indexesFrom_eq, hadd _ hle, hadd _ (Nat.le_refl _), Nat.add_sub_add_left]
  simp only [Nat.add_assoc]

/-- The elements are copied in the order of `copiedTuple`. -/
theorem sourceIndexes_eq (h : Truncated ds range (init ++ [last]))
    (hprod : (extentsOf ds).prod < 2 ^ 32) :
    sourceIndexes ((flatIndexes init (elementsPerIndex ds) [0]).map fun index =>
        ⟨index + last.start, index + last.endIndex⟩) =
      (List.range (selectedExtents (extentsOf ds) range).prod).map fun q =>
        UInt32.ofNat (rowMajor (extentsOf ds) (shifted (starts range)
          (copiedTuple (selectedExtents (extentsOf ds) range) q))) := by
  have hextents := h.lengths_eq
  rw [rangeLengths, map_append, map_singleton] at hextents
  rw [flatIndexes_rowMajor h, sourceIndexes, map_map, flatMap_map, ← hextents,
    prod_append, prod_singleton, Nat.mul_comm, range_mul, map_flatMap]
  refine flatMap_congr fun j hj => ?_
  have hks := inBox_unrankFirst (mem_range.1 hj)
  have hlen := hks.length_eq
  rw [length_map] at hlen
  simp only [comp]
  rw [indexesFrom_last, map_map]
  · refine map_congr_left fun k hk => ?_
    have hk := mem_range.1 hk
    rw [comp, copiedTuple_append, Nat.add_mul_mod_self_left, Nat.mod_eq_of_lt hk,
      Nat.add_mul_div_left _ _ (by omega), Nat.div_eq_of_lt hk, Nat.zero_add,
      rowMajor_shifted_concat h k hlen]
  · -- The last tuple of the interval is in the matrix
    have hlast : InBox (unrankFirst (rangeLengths init) j ++ [last.endIndex.toNat - last.start.toNat])
        (selectedExtents (extentsOf ds) range) := by
      rw [← hextents]
      exact rel_append hks (.cons (Nat.lt_succ_self _) .nil)
    have hlt := rowMajor_lt (h.inBox_shifted hlast)
    rw [rowMajor_shifted_concat h _ hlen] at hlt
    omega

end

/-! ## The result -/

/-- The element at a place of an array. -/
def elementAt {α : Type} {n : Nat} (content : Fin n → α) (j : Nat) : Option α :=
  if h : j < n then some (content ⟨j, h⟩) else none

variable {n j : Nat}

theorem elementAt_of_lt {α : Type} {content : Fin n → α} (h : j < n) :
    elementAt content j = some (content ⟨j, h⟩) := dif_pos h

theorem prod_extentsOf_ofFn (dims : Fin n → Int32) :
    (extentsOf (ofFn dims)).prod = dimensionsProduct n dims := by
  induction n with
  | zero => rfl
  | succ n ih =>
    rw [ofFn_succ, extentsOf, map_cons, prod_cons, dimensionsProduct]
    exact congrArg _ (ih fun i => dims i.succ)

theorem toInt_toInt32 {n : UInt32} (h : n.toNat ≤ 2147483647) : n.toInt32.toInt = n.toNat := by
  have hint : n.toInt32.toInt = (n.toNat : Int).bmod (2 ^ 32) := by
    rw [← Int32.toInt_toBitVec, toBitVec_toInt32, BitVec.toInt_eq_toNat_bmod,
      toNat_toBitVec]
  rw [hint, Int.bmod_def]
  split_ifs <;> omega

variable {lengths : List UInt32}

theorem ofFn_destinationDimensions_eq (hlen : lengths.length ≤ 2147483647) :
    ofFn (destinationDimensions lengths) = lengths.map toInt32 := by
  refine ext_getElem (by rw [length_ofFn, toNat_ofNat hlen, length_map])
    fun i h₁ h₂ => ?_
  rw [length_map] at h₂
  rw [List.getElem_ofFn, getElem_map, destinationDimensions, getD_eq_getElem?_getD,
    getElem?_eq_getElem h₂, Option.getD_some]

/-- The dimensions of the destination are the lengths. -/
theorem ofFn_destinationDimensions (hlen : lengths.length ≤ 2147483647)
    (hle : ∀ n ∈ lengths, n.toNat ≤ 2147483647) :
    ofFn (fun i => (destinationDimensions lengths i).toInt) =
      lengths.map fun n => (n.toNat : Int) := by
  have hdims := congrArg (List.map Int32.toInt) (ofFn_destinationDimensions_eq hlen)
  rw [map_ofFn, map_map] at hdims
  exact hdims.trans (map_congr_left fun n hn => toInt_toInt32 (hle n hn))

variable {Obj : Type} {copyObj : Obj → Except Status Obj} {id : BuiltinId}

theorem elementCopy_eq_ok {content : Fin n → Builtin Obj id} {x : Builtin Obj id}
    (h : elementCopy copyObj content j = .ok x) :
    (elementAt content j).map (builtinCopy copyObj) = some (.ok x) := by
  unfold elementCopy at h
  split_ifs at h with hj
  rw [elementAt_of_lt hj, Option.map_some]
  cases hcopy : builtinCopy copyObj (content ⟨j, hj⟩) with
  | error e => rw [hcopy] at h; cases h
  | ok y => rw [hcopy] at h; cases h; rfl

/-- What `SOPC_Variant_GetRange` gives for a matrix: a matrix of the extents of the box, whose
    elements are copied in the order of `copiedTuple`. -/
structure CopiesBox {id : BuiltinId} (copyObj : Obj → Except Status Obj) (arrayDimensions : List Int32)
    {n : Nat} (content : Fin n → Builtin Obj id) (range : NumericRange) (d : Int32)
    (dims : Fin d.toInt.toNat → Int32) (result : Fin (matrixLength d dims) → Builtin Obj id) : Prop where
  dims_eq : List.ofFn (fun i => (dims i).toInt) =
    (selectedExtents (extentsOf arrayDimensions) range).map Int.ofNat
  elements : ∀ q < (selectedExtents (extentsOf arrayDimensions) range).prod,
    (elementAt content (rowMajor (extentsOf arrayDimensions) (shifted (starts range)
      (copiedTuple (selectedExtents (extentsOf arrayDimensions) range) q)))).map
        (builtinCopy copyObj) = (elementAt result q).map .ok

theorem copyFlattenedRanges_eq_ok {content : Fin n → Builtin Obj id} {indexes : List UInt32}
    {w : RangeResult Obj} (h : copyFlattenedRanges copyObj content lengths indexes = .ok w) :
    ∃ result, w = .variant (.matrix id (Int32.ofNat lengths.length) (destinationDimensions lengths)
        result) ∧
      ∀ q j, indexes[q]? = some j → (elementAt content j.toNat).map (builtinCopy copyObj) =
        (elementAt result q).map .ok := by
  unfold copyFlattenedRanges at h
  split_ifs at h with hlen
  obtain ⟨elements, hall, rfl⟩ := map_eq_ok.1 h
  refine ⟨_, rfl, fun q j hj => ?_⟩
  obtain ⟨hq, rfl⟩ := List.getElem?_eq_some_iff.1 hj
  have hcopy := elementCopy_eq_ok (sequence_eq_ok.1 hall ⟨q, hq⟩)
  rw [get_eq_getElem] at hcopy
  rw [hcopy, elementAt_of_lt (by rw [hlen]; exact hq)]
  rfl

theorem Truncated.destinationDimensions_eq (h : Truncated ds range truncated)
    (hlen : range.length ≤ 2147483647) :
    ofFn (fun i => (destinationDimensions (truncated.map Dimension.eltsInRange) i).toInt) =
      (selectedExtents (extentsOf ds) range).map Int.ofNat := by
  have hlengths := h.length_eq
  rw [ofFn_destinationDimensions, ← h.lengths_eq, map_map, map_map]
  · refine map_congr_left fun dim hdim => ?_
    rw [comp, comp, h.toNat_eltsInRange dim hdim]
    rfl
  · rw [length_map]
    omega
  · intro n hn
    obtain ⟨dim, hdim, rfl⟩ := mem_map.1 hn
    have hlt := h.endIndex_lt dim hdim
    rw [h.toNat_eltsInRange dim hdim]
    omega

section
variable {id : BuiltinId} {d : Int32} {dims : Fin d.toInt.toNat → Int32}
  {content : Fin (matrixLength d dims) → Builtin Obj id} {range : NumericRange} {w : RangeResult Obj}

theorem flattenMatrixNumericRanges_eq_ok {franges : List FlattenedRange}
    (h : flattenMatrixNumericRanges ds truncated = .ok franges) :
    ∃ init last, truncated = init ++ [last] ∧
      franges = (flatIndexes init (elementsPerIndex ds) [0]).map fun index =>
        ⟨index + last.start, index + last.endIndex⟩ := by
  unfold flattenMatrixNumericRanges at h
  split_ifs at h with hlen
  rcases hnumber : numberOfRanges truncated.dropLast ds.dropLast with e | nRanges
  · rw [hnumber] at h; cases h
  rcases hlast : truncated.getLast? with _ | last
  · rw [hnumber, hlast] at h; cases h
  rw [hnumber, hlast] at h
  cases h
  obtain ⟨init, rfl⟩ := getLast?_eq_some_iff.1 hlast
  refine ⟨init, last, rfl, ?_⟩
  rw [dropLast_concat]

/-- The element of the matrix that the loops on a box go to at some number. -/
def boxPlace (ds : List Int32) (range : NumericRange) (q : Nat) : Nat :=
  rowMajor (extentsOf ds) (shifted (starts range) (copiedTuple (selectedExtents (extentsOf ds) range) q))

/-- The number of elements of the box. -/
def boxCount (ds : List Int32) (range : NumericRange) : Nat :=
  (selectedExtents (extentsOf ds) range).prod

/-- The intervals of the storage are the elements of the box, which are in the matrix. -/
theorem Truncated.sourceIndexes_spec {franges : List FlattenedRange}
    (h : Truncated ds range truncated) (hprod : (extentsOf ds).prod ≤ 2147483647)
    (hflat : flattenMatrixNumericRanges ds truncated = .ok franges) :
    (sourceIndexes franges).length = boxCount ds range ∧
      ∀ q (hq : q < (sourceIndexes franges).length),
        (sourceIndexes franges)[q].toNat = boxPlace ds range q ∧
          boxPlace ds range q < (extentsOf ds).prod := by
  obtain ⟨init, last, rfl, rfl⟩ := flattenMatrixNumericRanges_eq_ok hflat
  have hne : range ≠ [] := by
    rintro rfl
    have hlengths := h.length_eq
    rw [length_append, length_singleton, length_nil] at hlengths
    omega
  have hindexes := sourceIndexes_eq h (by omega)
  have hlength := congrArg List.length hindexes
  rw [length_map, length_range] at hlength
  refine ⟨hlength, fun q hq => ?_⟩
  have hplace : boxPlace ds range q < (extentsOf ds).prod :=
    rowMajor_lt (h.inBox_shifted (inBox_copiedTuple (hlength ▸ hq) (h.selectedExtents_ne_nil hne)))
  rw [getElem_of_eq hindexes hq, getElem_map, getElem_range]
  exact ⟨toNat_ofNat_of_lt' (hplace.trans_le (by rw [UInt32.size]; omega)), hplace⟩

/-- The part on a matrix copies the box. -/
theorem getRangeOfMatrix_eq_ok (hrange : range.length = d.toInt.toNat) (hd : d ≠ 0)
    (hwf : (checkedMatrixLength d dims).isSome)
    (hok : getRangeOfMatrix copyObj d dims content range = .ok w) :
    ∃ truncated, Truncated (ofFn dims) range truncated ∧
      ∃ d' dims' result, w = .variant (.matrix id d' dims' result) ∧
        CopiesBox copyObj (ofFn dims) content range d' dims' result := by
  obtain ⟨m, hm⟩ := Option.isSome_iff_exists.1 hwf
  obtain ⟨hlength, hmax⟩ := checkedMatrixLength_eq_some hm
  unfold getRangeOfMatrix at hok
  split_ifs at hok with hneg
  rcases htruncated : truncatedRange (ofFn dims) range with e | truncated
  · rw [htruncated] at hok; cases hok
  rw [htruncated] at hok
  simp only at hok
  split_ifs at hok with htotal
  rcases hflat : flattenMatrixNumericRanges (ofFn dims) truncated with e | franges
  · rw [hflat] at hok; cases hok
  rw [hflat] at hok
  have htrunc := truncatedRange_eq_ok (by rw [hrange, length_ofFn]) htruncated
  refine ⟨_, htrunc, ?_⟩
  have hprod : (extentsOf (ofFn dims)).prod ≤ 2147483647 := by
    rw [matrixLength, if_neg hd] at hlength
    rw [prod_extentsOf_ofFn, ← hlength]
    omega
  obtain ⟨hcount, hindexes⟩ := htrunc.sourceIndexes_spec hprod hflat
  obtain ⟨result, rfl, helements⟩ := copyFlattenedRanges_eq_ok hok
  refine ⟨_, _, result, rfl, ?_, fun q hq => ?_⟩
  · exact htrunc.destinationDimensions_eq (by rw [hrange]; have := d.toInt_lt; omega)
  · have hlt : q < (sourceIndexes franges).length := hcount ▸ hq
    rw [← helements q _ (getElem?_eq_getElem hlt), (hindexes q hlt).1]
    rfl

theorem variantGetRange_matrix_eq_ok (hrange : range.length = d.toInt.toNat)
    (hwf : (checkedMatrixLength d dims).isSome)
    (hok : variantGetRange copyObj (.matrix id d dims content) range = .ok w) :
    ∃ truncated, Truncated (ofFn dims) range truncated ∧
      ∃ d' dims' result, w = .variant (.matrix id d' dims' result) ∧
        CopiesBox copyObj (ofFn dims) content range d' dims' result := by
  match range, hrange, hok with
  | [], _, hok => cases hok
  | [_], _, hok => cases hok
  | first :: second :: rest, hrange, hok =>
    have hlt := d.toInt_lt
    have hd : d ≠ 0 := by
      rintro rfl
      simp at hrange
    rw [variantGetRange, getRangeMatrix, if_neg (by rw [hrange]; omega)] at hok
    · exact getRangeOfMatrix_eq_ok hrange hd hwf hok
    · simp
    · simp

section

variable (dims : Fin d.toInt.toNat → Int32)

section

variable (content : Fin (matrixLength d dims) → Builtin Obj id)

/-- The element of the matrix at a place of the box. -/
def boxElement (range : NumericRange) (ks : List Nat) :
    Option (Builtin Obj id) :=
  elementAt content (rowMajor (extentsOf (List.ofFn dims)) (shifted (starts range) ks))

/-- The extents of the box a range selects. -/
def boxExtents (range : NumericRange) : List Nat :=
  selectedExtents (extentsOf (List.ofFn dims)) range

/-- The result is the box of the matrix, row by row. -/
def SelectsBox (range : NumericRange)
    (w : RangeResult Obj) : Prop :=
  ∃ d' dims' result, w = .variant (.matrix id d' dims' result) ∧
    List.ofFn (fun i => (dims' i).toInt) = (boxExtents dims range).map Int.ofNat ∧
    ∀ ks, InBox ks (boxExtents dims range) →
      elementAt result (rowMajor (boxExtents dims range) ks) = boxElement dims content range ks

end

end

/-- The place of the box whose element `SOPC_Variant_GetRange` puts at the place `ks`. -/
def copiedFrom (extents ks : List Nat) : List Nat := copiedTuple extents (rowMajor extents ks)

theorem copiedFrom_eq {ks : List Nat} (hpos : ∀ l ∈ extents, 0 < l)
    (hwide : wide extents.dropLast ≤ 1) (hne : extents ≠ []) (hks : InBox ks extents) :
    copiedFrom extents ks = ks := by
  obtain ⟨ls, l, rfl⟩ : ∃ ls l, extents = ls ++ [l] :=
    ⟨_, _, (dropLast_concat_getLast hne).symm⟩
  have hq := rowMajor_lt hks
  rw [prod_append, prod_singleton] at hq
  have hl := hpos l (by simp)
  rw [dropLast_concat] at hwide
  rw [copiedFrom, copiedTuple_append, unrankFirst_eq_unrank (fun a ha => hpos a (by simp [ha])) hwide
    ((Nat.div_lt_iff_lt_mul hl).2 hq), ← unrank_append ls l _ hq, unrank_rowMajor hks]

theorem exists_copiedFrom_ne (hpos : ∀ l ∈ extents, 0 < l) (hwide : 1 < wide extents.dropLast)
    (hne : extents ≠ []) :
    ∃ ks, InBox ks extents ∧ InBox (copiedFrom extents ks) extents ∧ copiedFrom extents ks ≠ ks := by
  obtain ⟨ls, l, rfl⟩ : ∃ ls l, extents = ls ++ [l] :=
    ⟨_, _, (dropLast_concat_getLast hne).symm⟩
  have hl := hpos l (by simp)
  rw [dropLast_concat] at hwide
  obtain ⟨j, hj, hdiffer⟩ := exists_unrankFirst_ne (fun a ha => hpos a (by simp [ha])) hwide
  have hq : j * l < (ls ++ [l]).prod := by
    rw [prod_append, prod_singleton]
    exact Nat.mul_lt_mul_of_pos_right hj hl
  have hrank := rowMajor_unrank hq
  refine ⟨unrank (ls ++ [l]) (j * l), inBox_unrank hq, ?_, ?_⟩
  · rw [copiedFrom, hrank]
    exact inBox_copiedTuple hq hne
  · rw [prod_append, prod_singleton] at hq
    rw [copiedFrom, hrank, copiedTuple_append, unrank_append ls l _ hq, Nat.mul_div_cancel _ hl,
      Nat.mul_mod_left]
    intro heq
    exact hdiffer (append_cancel_right heq)

/-- What is read of a matrix is right if and only if each element of the box is a copy of the
    one at the place it is copied from.  With one wide extent at most before the last these are
    the same place; with two of them the result is wrong for elements that all differ. -/
theorem get_range_of_matrix_iff (hrange : range.length = d.toInt.toNat)
    (hwf : (checkedMatrixLength d dims).isSome)
    (hok : variantGetRange copyObj (.matrix id d dims content) range = .ok w) :
    (SelectsBox dims content range w ↔
      ∀ ks, InBox ks (boxExtents dims range) →
        (boxElement dims content range (copiedFrom (boxExtents dims range) ks)).map
          (builtinCopy copyObj) = (boxElement dims content range ks).map .ok) ∧
    (wide (boxExtents dims range).dropLast ≤ 1 →
      (∀ ks, InBox ks (boxExtents dims range) →
        (boxElement dims content range ks).map (builtinCopy copyObj) =
          (boxElement dims content range ks).map .ok) → SelectsBox dims content range w) ∧
    (1 < wide (boxExtents dims range).dropLast →
      (∀ ks ks', InBox ks (boxExtents dims range) → InBox ks' (boxExtents dims range) →
        (boxElement dims content range ks).map (builtinCopy copyObj) =
          (boxElement dims content range ks').map .ok → ks = ks') →
      ¬ SelectsBox dims content range w) := by
  obtain ⟨truncated, htrunc, d', dims', result, rfl, hcopies⟩ :=
    variantGetRange_matrix_eq_ok hrange hwf hok
  have hpos : ∀ l ∈ boxExtents dims range, 0 < l := htrunc.selectedExtents_pos
  have hiff : SelectsBox dims content range (.variant (.matrix id d' dims' result)) ↔
      ∀ ks, InBox ks (boxExtents dims range) →
        (boxElement dims content range (copiedFrom (boxExtents dims range) ks)).map
          (builtinCopy copyObj) = (boxElement dims content range ks).map .ok := by
    constructor
    · rintro ⟨_, _, _, heq, -, helements⟩ ks hks
      cases heq
      rw [← helements ks hks]
      exact hcopies.elements _ (rowMajor_lt hks)
    · intro hall
      refine ⟨d', dims', result, rfl, hcopies.dims_eq, fun ks hks => ?_⟩
      have hcopy := hcopies.elements _ (rowMajor_lt hks)
      exact Option.map_injective (fun _ _ => Except.ok.inj) (hcopy.symm.trans (hall ks hks))
  have hne : boxExtents dims range ≠ [] := htrunc.selectedExtents_ne_nil fun hnil => by
    subst hnil
    cases hok
  refine ⟨hiff, fun hwide hsame => ?_, fun hwide hdiffer hselects => ?_⟩
  · rw [hiff]
    intro ks hks
    rw [copiedFrom_eq hpos hwide hne hks]
    exact hsame ks hks
  · obtain ⟨ks, hks, hfrom, hneq⟩ := exists_copiedFrom_ne hpos hwide hne
    exact hneq (hdiffer _ _ hfrom hks (hiff.1 hselects ks hks))

end

/-! ## Two matrices -/

/-- The dimensions of a matrix of two rows and three columns. -/
def twoByThree : Fin (2 : Int32).toInt.toNat → Int32 := fun i => if i.val = 0 then 2 else 3

/-- The dimensions of a matrix of two by two by one elements. -/
def twoByTwoByOne : Fin (3 : Int32).toInt.toNat → Int32 := fun i => if i.val = 2 then 1 else 2

/-- The elements are their own places. -/
def numbered {n : Nat} (i : Fin n) : Builtin Empty .int32 := .flat (.int32 (Int32.ofNat i.val))

/-- Both rows, and the last two columns. -/
def lastColumns : NumericRange := [⟨0, 1, by decide⟩, ⟨1, 2, by decide⟩]

/-- All of the three dimensions. -/
def allOfThree : NumericRange := [⟨0, 1, by decide⟩, ⟨0, 1, by decide⟩, ⟨0, 0, by decide⟩]

/-- There is no object to copy. -/
def copyNoObject (o : Empty) : Except Status Empty := o.elim

theorem twoByThree_selects_box :
    ∃ w, variantGetRange copyNoObject (.matrix .int32 2 twoByThree numbered) lastColumns = .ok w ∧
      SelectsBox twoByThree (@numbered _) lastColumns w := by
  obtain ⟨w, hw⟩ : ∃ w, variantGetRange copyNoObject (.matrix .int32 2 twoByThree numbered)
      lastColumns = .ok w := ⟨_, rfl⟩
  refine ⟨w, hw, (get_range_of_matrix_iff rfl (by decide) hw).2.1 (by decide) fun ks _ => ?_⟩
  unfold boxElement elementAt
  split_ifs <;> rfl

/-- The second element of the box of three dimensions is not the second element read. -/
theorem twoByTwoByOne_is_transposed :
    ∃ w, variantGetRange copyNoObject (.matrix .int32 3 twoByTwoByOne numbered) allOfThree = .ok w ∧
      ¬ SelectsBox twoByTwoByOne (@numbered _) allOfThree w := by
  obtain ⟨w, hw⟩ : ∃ w, variantGetRange copyNoObject (.matrix .int32 3 twoByTwoByOne numbered)
      allOfThree = .ok w := ⟨_, rfl⟩
  refine ⟨w, hw, ?_⟩
  obtain ⟨_, -, d', dims', result, rfl, hcopies⟩ :=
    variantGetRange_matrix_eq_ok (w := w) rfl (by decide) hw
  rintro ⟨_, _, _, heq, -, helements⟩
  cases heq
  have hread := hcopies.elements 1 (by decide)
  have hsecond := helements [0, 1, 0] (.cons (by decide) (.cons (by decide) (.cons (by decide) .nil)))
  have hplace : rowMajor (boxExtents twoByTwoByOne allOfThree) [0, 1, 0] = 1 := by decide
  rw [hplace] at hsecond
  rw [hsecond] at hread
  have hdiffer : (some (.ok (.flat (.int32 2))) : Option (Except Status (Builtin Empty .int32))) =
      some (.ok (.flat (.int32 1))) := hread
  simp at hdiffer

end S2opc.BuiltinTypes
