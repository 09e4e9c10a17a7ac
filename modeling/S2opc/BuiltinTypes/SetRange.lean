/-
Writing a part of a variant: `SOPC_Variant_SetRange` of `sopc_builtintypes.c`.

The destination is modified in place, element after element, so that each
function returns the destination as it leaves it together with the way it ends.
The type of the source is compared with the type of the destination, but not
always its shape: the length of an array is then read where another kind of
value is stored.  Where the checks on such a length let the function go on, it
writes over that other value and returns `SOPC_STATUS_OK`, which is the outcome
`Failure.overlaid`.
-/
import S2opc.BuiltinTypes.Range

namespace S2opc.BuiltinTypes

/-! ## The destination -/

/-- A variant to be modified, with its `DoNotClear` flag. -/
structure VariantCell (Obj : Type) where
  value : Variant Obj
  doNotClear : Bool

variable {Obj : Type}

/-- The number found in the place of the length of an array, if it is one of the variant.  In a
    single value that is no string, these are four bytes of the value, or of a pointer to it: the
    range is refused for them, or the content is written where no pointer is. -/
def Variant.lengthField : Variant Obj → Option Int32
  | .null => none
  | .single v => (stringOf v).map SopcString.length
  | .array _ length _ => some length
  | .matrix _ dimensions _ _ => some dimensions

/-- An element of the content of an array or of a matrix, as a value of type `id`. -/
def Variant.element (id : BuiltinId) : Variant Obj → Nat → Option (Builtin Obj id)
  | .array id' length content, k =>
    if h : id' = id ∧ k < length.toInt.toNat then some (h.1 ▸ content ⟨k, h.2⟩) else none
  | .matrix id' dimensions arrayDimensions content, k =>
    if h : id' = id ∧ k < matrixLength dimensions arrayDimensions then
      some (h.1 ▸ content ⟨k, h.2⟩)
    else none
  | _, _ => none

/-- A loop of assignments to elements of the destination, each of them from a source, that stops
    at the first failure.  An element or a source that does not exist is outside of the memory
    of its array. -/
def assign {α β : Type} {n : Nat} (op : α → β → α × Except Failure Unit) :
    List (Nat × Option β) → (Fin n → α) → (Fin n → α) × Except Failure Unit
  | [], content => (content, .ok ())
  | (_, none) :: _, content => (content, .error .undefined)
  | (j, some src) :: rest, content =>
    if h : j < n then
      match op (content ⟨j, h⟩) src with
      | (v, .ok ()) => assign op rest (Function.update content ⟨j, h⟩ v)
      | (v, .error e) => (Function.update content ⟨j, h⟩ v, .error e)
    else (content, .error .undefined)

/-! ## Strings -/

/-- The characters from `start` on replaced by others. -/
def SopcString.overwrite (dst : SopcString) (start : Nat) (data : List UInt8) : SopcString where
  length := dst.length
  data := dst.data.mapIdx fun i c =>
    if start ≤ i then data.getD (i - start) c else c
  wf := by rw [List.length_mapIdx, dst.wf]

/-- `set_range_string`. -/
def setRangeString (dst src : SopcString) (dimension : Dimension) : Except Failure SopcString :=
  if src.length.toUInt32 ≠ dimension.eltsInRange then .error (.status .invalidParameters)
  else if !isArrayValidRange dst.length dimension true then .error (.status .invalidParameters)
  else .ok (dst.overwrite dimension.start.toNat src.data)

/-- `set_range_string` on a value that is a string or a byte string. -/
def setRangeOfString {id : BuiltinId} (dimension : Dimension) (dst : Builtin Obj id)
    (src : SopcString) : Builtin Obj id × Except Failure Unit :=
  match dst with
  | .flat (.string s) =>
    match setRangeString s src dimension with
    | .ok s' => (.flat (.string s'), .ok ())
    | .error e => (.flat (.string s), .error e)
  | .flat (.byteString s) =>
    match setRangeString s src dimension with
    | .ok s' => (.flat (.byteString s'), .ok ())
    | .error e => (.flat (.byteString s), .error e)
  | other => (other, .error .undefined)

/-- The checks on lengths in `set_range_array`, on the length of the source and on what is read
    as the length of the destination. -/
def checkLengths (dst : Variant Obj) (srcLength : Int32) (dimension : Dimension) :
    Except Failure Unit :=
  if srcLength.toUInt32 ≠ dimension.eltsInRange then .error (.status .invalidParameters)
  else
    match dst.lengthField with
    | none => .error .undefined
    | some length =>
      if !isArrayValidRange length dimension true then .error (.status .invalidParameters)
      else .ok ()

/-! ## Arrays -/

section
variable (copyObj : Obj → Except Status Obj) (dst : VariantCell Obj)

/-- The copy of a destination that shall not be cleared, which its elements will be. -/
def VariantCell.madeClearable : Except Failure (VariantCell Obj) :=
  if dst.doNotClear then
    ((variantCopy copyObj dst.value).map fun value => ⟨value, false⟩).mapError .status
  else .ok dst

/-- The value of an element after its Clear function. -/
def cleared {id : BuiltinId} (v : Builtin Obj id) : Builtin Obj id :=
  if h : id = .null then v else initialBuiltin Obj id h

/-- An element is cleared, then copied from its source.  It stays cleared if the copy fails. -/
def clearAndCopy {id : BuiltinId} (dst src : Builtin Obj id) : Builtin Obj id × Except Failure Unit :=
  match builtinCopy copyObj src with
  | .ok v => (v, .ok ())
  | .error e => (cleared dst, .error (.status e))

variable (src : Variant Obj)

/-- The loop of `set_range_array`. -/
def setElements (dimension : Dimension) :
    VariantCell Obj × Except Failure Unit :=
  match dst.value with
  | .array id length content =>
    let assigned := assign (clearAndCopy copyObj)
      ((List.range dimension.eltsInRange.toNat).map fun i =>
        (dimension.start.toNat + i, src.element id i)) content
    ({ dst with value := .array id length assigned.1 }, assigned.2)
  -- The elements are written over the dimensions of a matrix, or over the characters of a string
  | _ => (dst, .error .overlaid)

/-- `set_range_array`. -/
def setRangeArray (dimension : Dimension) :
    VariantCell Obj × Except Failure Unit :=
  match src with
  | .single v =>
    match stringOf v with
    | none => (dst, .error (.status .invalidParameters))
    | some s =>
      match dst.value with
      | .single d =>
        let written := setRangeOfString dimension d s
        ({ dst with value := .single written.1 }, written.2)
      | other =>
        match checkLengths other s.length dimension with
        | .error e => (dst, .error e)
        -- The characters are written over the elements of an array, or the dimensions of a matrix
        | .ok () => (dst, .error .overlaid)
  | .array _ length _ =>
    match checkLengths dst.value length dimension with
    | .error e => (dst, .error e)
    | .ok () =>
      match dst.madeClearable copyObj with
      | .error e => (dst, .error e)
      | .ok dst => setElements copyObj dst src dimension
  | _ => (dst, .error (.status .invalidParameters))

/-! ## Arrays of strings and matrices -/

/-- `set_range_matrix_on_string_array`. -/
def setRangeMatrixOnStringArray (rows columns : Dimension) :
    VariantCell Obj × Except Failure Unit :=
  match dst.value with
  | .array id length content =>
    if !isArrayValidRange length rows true then (dst, .error (.status .invalidParameters))
    else if id = .string ∨ id = .byteString then
      let assigned := assign (setRangeOfString columns)
        ((List.range rows.eltsInRange.toNat).map fun i =>
          (rows.start.toNat + i, (src.element id i).bind stringOf)) content
      ({ dst with value := .array id length assigned.1 }, assigned.2)
    else (dst, .error (.status .invalidParameters))
  | _ => (dst, .error .assertion)

/-- The loop on the dimensions of `set_range_matrix`, on the dimensions of the destination and of
    the source. -/
def checkDimensions : List Int32 → List Int32 → NumericRange → Except Failure Unit
  | _, _, [] => .ok ()
  | _, [], _ :: _ => .error .undefined
  | ds, s :: ss, dim :: dims =>
    if s.toUInt32 ≠ dim.eltsInRange then .error (.status .invalidParameters)
    else
      match ds with
      | [] => .error .undefined
      | d :: ds =>
        if !isArrayValidRange d dim true then .error (.status .invalidParameters)
        else checkDimensions ds ss dims

/-- The part of `set_range_matrix` that follows the copy of the destination. -/
def setMatrixElements (numRanges : NumericRange) :
    VariantCell Obj × Except Failure Unit :=
  match dst.value, src with
  | .matrix id dimensions arrayDimensions content, .matrix _ _ srcDimensions _ =>
    match checkDimensions (List.ofFn arrayDimensions) (List.ofFn srcDimensions) numRanges with
    | .error e => (dst, .error e)
    | .ok () =>
      match flattenMatrixNumericRanges (List.ofFn arrayDimensions) numRanges with
      | .error e => (dst, .error e)
      | .ok franges =>
        let assigned := assign (clearAndCopy copyObj)
          ((sourceIndexes franges).zipIdx.map fun j => (j.1.toNat, src.element id j.2)) content
        ({ dst with value := .matrix id dimensions arrayDimensions assigned.1 }, assigned.2)
  | _, _ => (dst, .error (.status .nok))

/-- `set_range_matrix`: `return false` is `SOPC_STATUS_OK`, with nothing done. -/
def setRangeMatrix (numRanges : NumericRange) :
    VariantCell Obj × Except Failure Unit :=
  if 2147483647 < numRanges.length then (dst, .ok ())
  else
    match src, numRanges with
    | .array .., [rows, columns] => setRangeMatrixOnStringArray dst src rows columns
    | .matrix .., numRanges =>
      match dst.value with
      | .matrix _ dimensions _ _ =>
        -- Without dimensions, `ArrayDimensions` is NULL, which is refused, or an empty block
        if dimensions ≤ 0 then (dst, .error .undefined)
        else
          match dst.madeClearable copyObj with
          | .error e => (dst, .error e)
          | .ok dst => setMatrixElements copyObj dst src numRanges
      | _ => (dst, .error (.status .nok))
    | _, _ => (dst, .error (.status .nok))

/-- `SOPC_Variant_SetRange`. -/
def variantSetRange (range : NumericRange) :
    VariantCell Obj × Except Failure Unit :=
  if dst.value.builtInTypeId ≠ src.builtInTypeId then (dst, .error (.status .invalidParameters))
  else
    match range with
    | [] => (dst, .error (.status .invalidParameters))
    | [dimension] => setRangeArray copyObj dst src dimension
    | range => setRangeMatrix copyObj dst src range

end

end S2opc.BuiltinTypes
