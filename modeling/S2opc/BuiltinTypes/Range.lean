/-
Index ranges of `sopc_builtintypes.c`: which part of a variant a range selects.

A range has one pair of indexes per dimension, both included, the first at most
the second, as `SOPC_NumericRange_Parse` makes them.  One dimension applies to
an array or to the characters of a string, two to an array of strings, any
number of them from two on to a matrix.  A matrix is stored row by row, the
last dimension running fastest; `flattenMatrixNumericRanges` turns the range
into intervals of that storage.

Numbers are unsigned 32-bit as in the source, and `size_t` has 64 bits.
-/
import S2opc.BuiltinTypes.Copy

namespace S2opc.BuiltinTypes

open Lib.Tuple

/-! ## Ranges -/

/-- `SOPC_Dimension`. -/
structure Dimension where
  start : UInt32
  endIndex : UInt32
  start_le : start ≤ endIndex
  deriving DecidableEq, Repr

/-- `SOPC_NumericRange`. -/
abbrev NumericRange := List Dimension

/-- How a function stops before its end: with a status, at an assertion, or by an access outside
    of the memory it was given, whose outcome is not defined.  With `overlaid` the function returns
    `SOPC_STATUS_OK`, but what it wrote lies over memory that holds another kind of value: only the
    type and the kind of its destination are still known. -/
inductive Failure where
  | status (s : Status)
  | assertion
  | undefined
  | overlaid
  deriving DecidableEq, Repr

/-- The number of indexes in a range. -/
def Dimension.eltsInRange (dim : Dimension) : UInt32 := dim.endIndex - dim.start + 1

/-- The numbers from `start` to `endIndex`, as a loop on them goes through them. -/
def indexesFrom (start endIndex : UInt32) : List UInt32 :=
  (List.range (endIndex.toNat - start.toNat + 1)).map fun k => start + UInt32.ofNat k

theorem toNat_toInt_toInt32_le (n : UInt32) : n.toInt32.toInt.toNat ≤ n.toNat := by
  have hint : n.toInt32.toInt = (n.toNat : Int).bmod (2 ^ 32) := by
    rw [← Int32.toInt_toBitVec, UInt32.toBitVec_toInt32, BitVec.toInt_eq_toNat_bmod, UInt32.toNat_toBitVec]
  rw [hint, Int.bmod_def]
  split_ifs <;> omega

/-- `is_array_valid_range`. -/
def isArrayValidRange (arrayLength : Int32) (dim : Dimension) (fullRange : Bool) : Bool :=
  if arrayLength ≤ 0 then false
  else dim.start < arrayLength.toUInt32 && (!fullRange || dim.endIndex < arrayLength.toUInt32)

variable {Obj : Type}

/-- The characters of a string or of a byte string. -/
def stringOf {id : BuiltinId} : Builtin Obj id → Option SopcString
  | .flat (.string s) => some s
  | .flat (.byteString s) => some s
  | _ => none

/-! ## Has a range -/

variable (variant : Variant Obj)

/-- `has_range_array`. -/
def hasRangeArray (dim : Dimension) (fullRange : Bool) : Bool :=
  match variant with
  | .single v =>
    match stringOf v with
    | some s => isArrayValidRange s.length dim fullRange
    | none => false
  | .array _ length _ => if length ≤ 0 then false else isArrayValidRange length dim fullRange
  | _ => false

/-- The strings of an array a range selects, in `has_range_matrix`. -/
def hasRangeStrings {id : BuiltinId} {n : Nat} (content : Fin n → Builtin Obj id)
    (rows columns : Dimension) (fullRange : Bool) : Bool :=
  (List.finRange n).all fun i =>
    if rows.start.toNat ≤ i.val ∧ i.val ≤ rows.endIndex.toNat then
      match stringOf (content i) with
      | some s => isArrayValidRange s.length columns fullRange
      | none => false
    else true

/-- `has_range_matrix`. -/
def hasRangeMatrix (range : NumericRange) (fullRange : Bool) : Bool :=
  if 2147483647 < range.length then false
  else
    match variant, range with
    | .array id length content, [rows, columns] =>
      if id = .string ∨ id = .byteString then
        isArrayValidRange length rows false && hasRangeStrings content rows columns fullRange
      else false
    | .matrix _ dimensions arrayDimensions _, range =>
      if h : dimensions.toInt = range.length then
        (List.finRange range.length).all fun i =>
          isArrayValidRange (arrayDimensions (i.cast (by omega))) (range.get i) fullRange
      else false
    | _, _ => false

/-- `SOPC_Variant_HasRange`. -/
def variantHasRange (range : NumericRange) (fullRange : Bool) :
    Except Failure Bool :=
  match range with
  | [] => .error (.status .invalidParameters)
  | [dim] => .ok (hasRangeArray variant dim fullRange)
  | range => .ok (hasRangeMatrix variant range fullRange)

/-! ## Intervals of a flattened matrix -/

/-- `SOPC_FlattenedRange`. -/
structure FlattenedRange where
  start : UInt32
  endIndex : UInt32
  deriving DecidableEq, Repr

/-- `numberOfElementsPerDimensionIndex`: the elements between two indexes of a dimension that
    follow each other. -/
def elementsPerIndex : List Int32 → List UInt32
  | [] => []
  | _ :: dims =>
    match dims, elementsPerIndex dims with
    | d :: _, e :: es => e * d.toUInt32 :: e :: es
    | _, _ => [1]

/-- `n_ranges`, from the last dimension but one to the first. -/
def numberOfRanges : NumericRange → List Int32 → Except Failure Nat
  | dim :: dims, d :: ds =>
    match numberOfRanges dims ds with
    | .error e => .error e
    | .ok nRanges =>
      if d ≤ 0 then .error .assertion
      else if dim.eltsInRange.toNat < (2 ^ 64 - 1) / nRanges then
        .ok (nRanges * dim.eltsInRange.toNat)
      else .error (.status .outOfMemory)
  | _, _ => .ok 1

/-- The loop on the dimensions but the last one: each index of a dimension is added to all the
    indexes flattened so far. -/
def flatIndexes : NumericRange → List UInt32 → List UInt32 → List UInt32
  | dim :: dims, elements :: rest, previous =>
    flatIndexes dims rest
      ((indexesFrom dim.start dim.endIndex).flatMap fun iInDim =>
        previous.map (· + iInDim * elements))
  | _, _, previous => previous

/-- `flatten_matrix_numeric_ranges`, on the dimensions of a matrix. -/
def flattenMatrixNumericRanges (arrayDimensions : List Int32) (numRanges : NumericRange) :
    Except Failure (List FlattenedRange) :=
  if arrayDimensions = [] ∨ numRanges.length ≠ arrayDimensions.length then .error .assertion
  else
    match numberOfRanges numRanges.dropLast arrayDimensions.dropLast, numRanges.getLast? with
    | .error e, _ => .error e
    | .ok _, none => .error .assertion
    | .ok _, some dim =>
      .ok ((flatIndexes numRanges.dropLast (elementsPerIndex arrayDimensions) [0]).map
        fun index => ⟨index + dim.start, index + dim.endIndex⟩)

/-! ## Reading a range -/

/-- What `SOPC_Variant_GetRange` makes of its destination: a variant, or only its type, without
    any value, when there is nothing to copy. -/
inductive RangeResult (Obj : Type) where
  | variant (v : Variant Obj)
  | nothing (id : BuiltinId)

/-- `get_range_string_helper`. -/
def getRangeStringHelper (src : SopcString) (dim : Dimension) : Except Failure SopcString :=
  if src.length < 0 then .error .assertion
  else if src.length.toUInt32 ≤ dim.start then .ok ⟨0, [], rfl⟩
  else
    let last := min dim.endIndex (src.length.toUInt32 - 1)
    .ok (.ofBytes ((src.data.drop dim.start.toNat).take (last - dim.start + 1).toNat) (by
      have := src.length_data_lt
      rw [List.length_take, List.length_drop]
      omega))

/-- A string or a byte string cut to a range. -/
def getRangeString {id : BuiltinId} (src : Builtin Obj id) (dim : Dimension) :
    Except Failure (Builtin Obj id) :=
  match src with
  | .flat (.string s) => (getRangeStringHelper s dim).map fun s => .flat (.string s)
  | .flat (.byteString s) => (getRangeStringHelper s dim).map fun s => .flat (.byteString s)
  | _ => .error (.status .invalidParameters)

section
variable (copyObj : Obj → Except Status Obj)

variable {id : BuiltinId}

/-- The copy of one element of an array. -/
def elementCopy {n : Nat} (content : Fin n → Builtin Obj id) (j : Nat) :
    Except Failure (Builtin Obj id) :=
  if h : j < n then (builtinCopy copyObj (content ⟨j, h⟩)).mapError .status
  else .error .undefined

variable (src : Variant Obj)

/-- `get_range_array`. -/
def getRangeArray (dim : Dimension) : Except Failure (RangeResult Obj) :=
  match src with
  | .single v => (getRangeString v dim).map fun v => .variant (.single v)
  | .array id length content =>
    if length < 0 then .error .assertion
    else if length.toUInt32 ≤ dim.start then .ok (.nothing id)
    else
      let last := min dim.endIndex (length.toUInt32 - 1)
      let dstLen := (last - dim.start + 1).toInt32
      (sequence dstLen.toInt.toNat fun i => elementCopy copyObj content (dim.start.toNat + i.val)).map
        fun content => .variant (.array id dstLen content)
  | _ => .error (.status .invalidParameters)

/-- `get_range_matrix_on_string_array`. -/
def getRangeMatrixOnStringArray (length : Int32)
    (content : Fin length.toInt.toNat → Builtin Obj id) (rows columns : Dimension) :
    Except Failure (RangeResult Obj) :=
  if length.toUInt32 ≤ rows.start then .error (.status .invalidParameters)
  else
    let last := if rows.endIndex < length.toUInt32 then rows.endIndex else length.toUInt32 - 1
    let arrayLength := last - rows.start + 1
    if id = .string ∨ id = .byteString then
      if h : rows.start.toNat + arrayLength.toNat ≤ length.toInt.toNat then
        (sequence arrayLength.toInt32.toInt.toNat fun i =>
          getRangeString (content ⟨rows.start.toNat + i.val, by
            have := toNat_toInt_toInt32_le arrayLength
            omega⟩) columns).map
          fun content => .variant (.array id arrayLength.toInt32 content)
      else .error .undefined
    else .error (.status .invalidParameters)

/-- A dimension of the range, cut to the dimension of the matrix.  The length of a valid one
    is never beyond `INT32_MAX`. -/
def truncatedDim (arrayLength : Int32) (dim : Dimension) : Option Dimension :=
  if isArrayValidRange arrayLength dim false then
    if h : dim.start ≤ min dim.endIndex (arrayLength.toUInt32 - 1) then
      some ⟨dim.start, min dim.endIndex (arrayLength.toUInt32 - 1), h⟩
    else none
  else none

/-- The loop on the dimensions in `get_range_matrix`: a range of more dimensions than the matrix
    would be compared to dimensions outside of it. -/
def truncatedRange (arrayDimensions : List Int32) (range : NumericRange) :
    Except Failure NumericRange :=
  match arrayDimensions, range with
  | _, [] => .ok []
  | [], _ :: _ => .error .undefined
  | d :: ds, dim :: dims =>
    match truncatedDim d dim, truncatedRange ds dims with
    | none, _ => .error (.status .invalidParameters)
    | some _, .error e => .error e
    | some first, .ok rest => .ok (first :: rest)

/-- The intervals of the storage, one index after the other. -/
def sourceIndexes (franges : List FlattenedRange) : List UInt32 :=
  franges.flatMap fun frange => indexesFrom frange.start frange.endIndex

/-- The dimensions of the destination, as many as there are lengths. -/
def destinationDimensions (lengths : List UInt32) (i : Fin (Int32.ofNat lengths.length).toInt.toNat) :
    Int32 :=
  (lengths.getD i.val 0).toInt32

/-- The copies in `get_range_matrix`, once the range is cut: more elements than the destination
    has would be written outside of it. -/
def copyFlattenedRanges {n : Nat} (content : Fin n → Builtin Obj id)
    (lengths : List UInt32) (indexes : List UInt32) : Except Failure (RangeResult Obj) :=
  if h : matrixLength (Int32.ofNat lengths.length) (destinationDimensions lengths) = indexes.length then
    (sequence indexes.length fun i => elementCopy copyObj content (indexes.get i).toNat).map
      fun elements => .variant (.matrix id (Int32.ofNat lengths.length) (destinationDimensions lengths)
        fun i => elements (i.cast h))
  else .error .undefined

/-- The part of `get_range_matrix` on a matrix. -/
def getRangeOfMatrix (dimensions : Int32)
    (arrayDimensions : Fin dimensions.toInt.toNat → Int32)
    (content : Fin (matrixLength dimensions arrayDimensions) → Builtin Obj id)
    (range : NumericRange) : Except Failure (RangeResult Obj) :=
  -- The assertion is on the length of an array, which is in the place of the dimensions
  if dimensions < 0 then .error .assertion
  else
    match truncatedRange (List.ofFn arrayDimensions) range with
    | .error e => .error e
    | .ok truncated =>
      let lengths := truncated.map Dimension.eltsInRange
      if (2147483647 : UInt32) < lengths.foldl (· * ·) 1 then .error (.status .invalidParameters)
      else
        match flattenMatrixNumericRanges (List.ofFn arrayDimensions) truncated with
        | .error e => .error e
        | .ok franges => copyFlattenedRanges copyObj content lengths (sourceIndexes franges)

/-- `get_range_matrix`: `return false` is `SOPC_STATUS_OK`, with nothing done. -/
def getRangeMatrix (range : NumericRange) : Except Failure (RangeResult Obj) :=
  if 2147483647 < range.length then .ok (.variant .null)
  else
    match src, range with
    | .array _ length content, [rows, columns] =>
      getRangeMatrixOnStringArray length content rows columns
    | .matrix _ dimensions arrayDimensions content, range =>
      getRangeOfMatrix copyObj dimensions arrayDimensions content range
    | _, _ => .error (.status .invalidParameters)

/-- `SOPC_Variant_GetRange`. -/
def variantGetRange (range : NumericRange) : Except Failure (RangeResult Obj) :=
  match range with
  | [] => .error (.status .invalidParameters)
  | [dim] => getRangeArray copyObj src dim
  | range => getRangeMatrix copyObj src range

end

end S2opc.BuiltinTypes
