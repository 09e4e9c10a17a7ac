/-
What is written is what is read: variants and data values of any nesting.

`readBack` is the value a Read function gives for a written one, by recursion on
the value.  It differs from the value where the format has a canonical form
(strings, booleans, negative lengths and timestamps) and where the encoder
drops or normalizes something (other locales, the namespace URI and server index
of an extension object's type, floating-point NaNs and subnormals, negative
diagnostic indexes).  Arrays copied from memory come back byte for byte.

`Fits` collects what a reader refuses: strings and arrays over the configured
maximum lengths, arrays of 4 GiB and more, negative numbers of dimensions.
-/
import S2opc.Encoder.Variant

namespace S2opc.Encoder

open BuiltinTypes Lib.Bytes Lib.ByteCodec

variable {Obj : Type} (cst : EncodingConstants) {objs : ObjectCodec Obj} {slack : Nat}
  (spec : objs.Spec slack)

/-! ## Values without a variant -/

/-- A value without a variant as it is read back. -/
def flatReadBack {id : BuiltinId} : FlatValue Obj id → FlatValue Obj id
  | .boolean v => .boolean (booleanValue v)
  | .float v => .float (normalizeFloat v)
  | .double v => .double (normalizeDouble v)
  | .string v => .string (stringReadBack v)
  | .byteString v => .byteString (stringReadBack v)
  | .xmlElement v => .xmlElement (stringReadBack v)
  | .nodeId v => .nodeId (nodeIdReadBack v)
  | .expandedNodeId v => .expandedNodeId (expandedNodeIdReadBack v)
  | .qualifiedName v => .qualifiedName (qualifiedNameReadBack v)
  | .localizedText v => .localizedText (localizedTextReadBack v)
  | .extensionObject v => .extensionObject (extensionObjectReadBack spec v)
  | .diagnosticInfo v => .diagnosticInfo (diagnosticInfoReadBack v)
  | v => v

/-- A value without a variant can be read. -/
def flatFits {id : BuiltinId} : FlatValue Obj id → Prop
  | .string v => v.length ≤ cst.maxStringLength
  | .byteString v => v.length ≤ cst.maxStringLength
  | .xmlElement v => v.length ≤ cst.maxStringLength
  | .nodeId v => nodeIdFits cst v
  | .expandedNodeId v => expandedNodeIdFits cst v
  | .qualifiedName v => v.name.length ≤ cst.maxStringLength
  | .localizedText v => localizedTextFits cst v
  | .extensionObject v => extensionObjectFits cst spec v
  | .diagnosticInfo v => diagnosticInfoFits cst v
  | _ => True

variable {id : BuiltinId}

theorem flat_roundTrip (room : Nat) (variantR : Reader (Variant Obj))
    (dataValueR : Reader (DataValue Obj)) {v : FlatValue Obj id} (hfits : flatFits cst spec v) :
    RoundTrip slack (flatWrite cst objs room v) (elementRead cst objs room variantR dataValueR id)
      (.flat (flatReadBack spec v)) := by
  cases v with
  | boolean v => exact (boolean_roundTrip room v).last rfl
  | float v => exact ((scalar_roundTrip .uint32 room _).last (normalizeFloat_idem v)).last rfl
  | double v => exact ((scalar_roundTrip .uint64 room _).last (normalizeDouble_idem v)).last rfl
  | string v => exact (string_roundTrip cst room hfits).last rfl
  | byteString v | xmlElement v => exact (byteString_roundTrip cst room hfits).last rfl
  | dateTime v => exact (dateTime_roundTrip room v).last rfl
  | guid v => exact (guid_roundTrip room v).last rfl
  | nodeId v => exact (nodeId_roundTrip cst room hfits).last rfl
  | expandedNodeId v => exact (expandedNodeId_roundTrip cst room hfits).last rfl
  | qualifiedName v => exact (qualifiedName_roundTrip cst room hfits).last rfl
  | localizedText v => exact (localizedText_roundTrip cst room hfits).last rfl
  | extensionObject v => exact (extensionObject_roundTrip cst spec room hfits).last rfl
  | diagnosticInfo v =>
    exact (nested_roundTrip fun _ _ => diagnosticInfoInternal_roundTrip cst _ hfits).last rfl
  | _ => exact (scalar_roundTrip _ room _).last rfl

/-! ## What is read back -/

/-- The arrays of this type are copied as they lie in memory. -/
def isCopied (id : BuiltinId) : Bool := (@optimizableScalar Obj id).isSome

mutual

/-- A value as it is read back. -/
def builtinReadBack {id : BuiltinId} : Builtin Obj id → Builtin Obj id
  | .flat v => .flat (flatReadBack spec v)
  | .dataValue v => .dataValue (dataValueReadBack v)
  | .variant v => .variant (variantReadBack v)

/-- A variant as it is read back. -/
def variantReadBack : Variant Obj → Variant Obj
  | .null => .null
  | .single v => .single (builtinReadBack v)
  | .array id length content => .array id (clampLength length) fun i =>
    let v := content (i.cast (toNat_clampLength length))
    if @isCopied Obj id then v else builtinReadBack v
  | .matrix id dimensions arrayDimensions content => .matrix id dimensions arrayDimensions fun i =>
    if @isCopied Obj id then content i else builtinReadBack (content i)

/-- A data value as it is read back. -/
def dataValueReadBack : DataValue Obj → DataValue Obj
  | .mk value status sourceTimestamp serverTimestamp sourcePicoSeconds serverPicoSeconds =>
    .mk (if value.builtInTypeId = .null then .null else variantReadBack value) status
      (if 0 < sourceTimestamp then sourceTimestamp else 0)
      (if 0 < serverTimestamp then serverTimestamp else 0) sourcePicoSeconds serverPicoSeconds

end

/-! ## What can be read -/

/-- An array of `n` elements has not too many of them, nor too many bytes to be copied. -/
def lengthFits (id : BuiltinId) (n : Nat) : Prop :=
  (n : Int) ≤ cst.maxArrayLength.toInt ∧
    ∀ s, @optimizableScalar Obj id = some s → n * s.width < 2 ^ 32

mutual

/-- A value can be read. -/
def builtinFits {id : BuiltinId} : Builtin Obj id → Prop
  | .flat v => flatFits cst spec v
  | .dataValue v => dataValueFits v
  | .variant v => variantFits v

/-- A variant can be read. -/
def variantFits : Variant Obj → Prop
  | .null => True
  | .single v => builtinFits v
  | .array id length content =>
    @lengthFits Obj cst id length.toInt.toNat ∧ ∀ i, builtinFits (content i)
  | .matrix id dimensions arrayDimensions content =>
    @lengthFits Obj cst id (matrixLength dimensions arrayDimensions) ∧ 0 ≤ dimensions ∧
      dimensions ≤ cst.maxArrayLength ∧ ∀ i, builtinFits (content i)

/-- A data value can be read. -/
def dataValueFits : DataValue Obj → Prop
  | .mk value _ _ _ _ _ => variantFits value

end

/-! ## Arrays -/

variable {n : Nat}

theorem length_take_rawBytes (s : Scalar (Builtin Obj id)) (content : Fin n → Builtin Obj id)
    (hsize : n * s.width < 2 ^ 32) :
    (s.rawBytes content).take (n * s.width % 2 ^ 32) = s.rawBytes content := by
  rw [Nat.mod_eq_of_lt hsize, List.take_of_length_le]
  rw [s.length_rawBytes]

variable {elemW : Builtin Obj id → Writer} {elemR : Reader (Builtin Obj id)}
  {back : Builtin Obj id → Builtin Obj id} {a : ArrayValue Obj id}

theorem arrayContent_roundTrip (hfits : @lengthFits Obj cst id a.length.toInt.toNat)
    (helem : ∀ i, RoundTrip slack (elemW (a.content i)) elemR (back (a.content i))) :
    RoundTrip slack
      (match optimizableScalar id with
      | some s => writeIf (0 < a.length) (bufferWrite ((s.rawBytes a.content).take
          (a.length.toInt.toNat * s.width % 2 ^ 32)))
      | none => writeEach _ fun i => elemW (a.content i))
      (arrayContentRead elemR a.length)
      ⟨a.length, fun i => if @isCopied Obj id then a.content i else back (a.content i)⟩ := by
  unfold arrayContentRead isCopied
  rcases hs : optimizableScalar id with _ | s
  · show RoundTrip slack (writeEach _ fun i => elemW (a.content i)) _ _
    exact (RoundTrip.each helem).last rfl
  have hsize := hfits.2 s hs
  have hle : a.length.toInt.toNat ≤ (2 ^ 32 - 1) / s.width := by
    rw [Nat.le_div_iff_mul_le (optimizableScalar_width_pos hs)]
    omega
  have hbytes : RoundTrip slack _ _ _ :=
    (bufferWrite_roundTrip (s.length_rawBytes a.content)).mapReadError readStatus
  have hwrite : writeIf (0 < a.length) (bufferWrite (s.rawBytes a.content)) =
      bufferWrite (s.rawBytes a.content) := by
    unfold writeIf
    by_cases hpos : 0 < a.length
    · rw [if_pos hpos]
    -- Without elements there is nothing to copy
    have hzero : a.length.toInt.toNat = 0 := by
      rw [Int32.lt_iff_toInt_lt, show (0 : Int32).toInt = 0 from rfl] at hpos
      omega
    have hnil : s.rawBytes a.content = [] := by
      rw [← List.length_eq_zero_iff, s.length_rawBytes, hzero, Nat.zero_mul]
    rw [if_neg hpos, hnil, bufferWrite_nil]
  simp only [if_pos hle, length_take_rawBytes s a.content hsize, hwrite]
  refine hbytes.last ?_
  simp [s.ofRaw_rawBytes]

variable (room : Nat)

theorem variantArray_roundTrip (hclamp : clampLength a.length = a.length)
    (hfits : @lengthFits Obj cst id a.length.toInt.toNat)
    (helem : ∀ i, RoundTrip slack (elemW (a.content i)) elemR (back (a.content i))) :
    RoundTrip slack (variantArrayWrite room elemW a) (variantArrayRead cst room elemR)
      ⟨a.length, fun i => if @isCopied Obj id then a.content i else back (a.content i)⟩ := by
  unfold variantArrayWrite variantArrayRead
  by_cases hid : id = .null
  · rw [if_pos hid]
    exact .fail _ _ _
  have hmax : ¬ cst.maxArrayLength < clampLength a.length := by
    have hle := hfits.1
    have hneg : 0 ≤ a.length.toInt := by
      unfold clampLength at hclamp
      split_ifs at hclamp with hlt
      · rw [← hclamp]
        decide
      · rw [Int32.lt_iff_toInt_lt, show (0 : Int32).toInt = 0 from rfl] at hlt
        omega
    rw [hclamp, Int32.lt_iff_toInt_lt]
    omega
  have hcontent := arrayContent_roundTrip cst hfits helem
  rw [if_neg hid, if_neg hid]
  cases hs : optimizableScalar id with
  | _ =>
    rw [hs] at hcontent
    refine (scalar_roundTrip .int32 room a.length).bind ?_
    rw [if_neg hmax, hclamp]
    exact hcontent

/-! ## Variants -/

theorem encodingMask_single (id : BuiltinId) :
    id.code &&& 0x80 = 0 ∧ id.code &&& 0x40 = 0 ∧ id.code &&& 0x3F = id.code := by
  cases id <;> decide

theorem encodingMask_array (id : BuiltinId) :
    (id.code ||| 0x80) &&& 0x80 ≠ 0 ∧ (id.code ||| 0x80) &&& 0x40 = 0 ∧
      (id.code ||| 0x80) &&& 0x3F = id.code := by
  cases id <;> decide

theorem encodingMask_matrix (id : BuiltinId) :
    (id.code ||| 0x80 ||| 0x40) &&& 0x80 ≠ 0 ∧ (id.code ||| 0x80 ||| 0x40) &&& 0x40 ≠ 0 ∧
      (id.code ||| 0x80 ||| 0x40) &&& 0x3F = id.code := by
  cases id <;> decide

variable (single : (id : BuiltinId) → Reader (Builtin Obj id))

section

variable (array : (id : BuiltinId) → Reader (ArrayValue Obj id))

/-- The reader finds in the mask of a single value that it is one. -/
theorem variantValueRead_single (hnull : id ≠ .null)
    (hvariant : id ≠ .variant) :
    variantValueRead cst room single array id.code =
      single id >>= fun v => pure (Variant.single v) := by
  obtain ⟨h80, h40, h3f⟩ := encodingMask_single id
  unfold variantValueRead
  rw [if_neg (not_not.2 h80), if_neg (not_not.2 h40), h3f, BuiltinId.ofCode_code]
  cases id <;> first | rfl | exact absurd rfl hnull | exact absurd rfl hvariant

theorem variantValueRead_null :
    variantValueRead cst room single array BuiltinId.null.code = pure .null := by
  obtain ⟨h80, h40, h3f⟩ := encodingMask_single .null
  unfold variantValueRead
  rw [if_neg (not_not.2 h80), if_neg (not_not.2 h40), h3f, BuiltinId.ofCode_code]

/-- The reader finds in the mask of an array that it is one. -/
theorem variantValueRead_array (id : BuiltinId) :
    variantValueRead cst room single array (id.code ||| 0x80) =
      array id >>= fun a => pure (Variant.array id a.length a.content) := by
  obtain ⟨h80, h40, h3f⟩ := encodingMask_array id
  unfold variantValueRead
  rw [if_pos h80, h3f, BuiltinId.ofCode_code]
  simp only [if_neg (not_not.2 h40)]

/-- The reader finds in the mask of a matrix that it is one. -/
theorem variantValueRead_matrix (id : BuiltinId) :
    variantValueRead cst room single array (id.code ||| 0x80 ||| 0x40) =
      array id >>= fun a => matrixRead cst room a := by
  obtain ⟨h80, h40, h3f⟩ := encodingMask_matrix id
  unfold variantValueRead
  rw [if_pos h80, h3f, BuiltinId.ofCode_code]
  simp only [if_pos h40]

end

/-- The dimensions that multiply to the number of elements are read back. -/
theorem dimensions_roundTrip {dims : Fin n → Int32} {length m : Nat}
    (h : matrixLengthLoop n dims length = some m) :
    RoundTrip slack (writeEach n fun i => int32Write room (dims i)) (dimensionsRead room m n length)
      dims := by
  induction n generalizing length with
  | zero => exact .pure (funext fun i => i.elim0)
  | succ n ih =>
    simp only [matrixLengthLoop] at h
    split_ifs at h with hc
    have hle := le_of_matrixLengthLoop h
    refine (scalar_roundTrip .int32 room (dims 0)).bind ?_
    rw [if_pos ⟨hc.1, hle⟩]
    exact (ih h).last (Fin.cons_self_tail dims)

section
variable {single : {id : BuiltinId} → Builtin Obj id → Writer}
  {singleR : (id : BuiltinId) → Reader (Builtin Obj id)}
  {array : {id : BuiltinId} → ArrayValue Obj id → Writer}
  {arrayR : (id : BuiltinId) → Reader (ArrayValue Obj id)}

/-- The array an array or a matrix of this content is read back as. -/
def arrayReadBack {id : BuiltinId} (a : ArrayValue Obj id) : ArrayValue Obj id :=
  ⟨a.length, fun i => if @isCopied Obj id then a.content i else builtinReadBack spec (a.content i)⟩

theorem variantValue_roundTrip (room : Nat)
    (hsingle : ∀ {id : BuiltinId} (b : Builtin Obj id), builtinFits cst spec b →
      RoundTrip slack (single b) (singleR id) (builtinReadBack spec b))
    (harray : ∀ {id : BuiltinId} (a : ArrayValue Obj id), clampLength a.length = a.length →
      @lengthFits Obj cst id a.length.toInt.toNat → (∀ i, builtinFits cst spec (a.content i)) →
      RoundTrip slack (array a) (arrayR id) (arrayReadBack spec a))
    {v : Variant Obj} (hfits : variantFits cst spec v) :
    RoundTrip slack (variantValueWrite room single array v)
      (variantValueRead cst room singleR arrayR (getVariantEncodingMask v))
      (variantReadBack spec v) := by
  cases v with
  | null =>
    show RoundTrip slack (pure ()) (variantValueRead cst room singleR arrayR BuiltinId.null.code) _
    rw [variantValueRead_null, variantReadBack]
    exact .pure rfl
  | @single id b =>
    by_cases hvariant : id = .variant
    · simp only [variantValueWrite, if_pos hvariant]
      exact .fail _ _ _
    have hnull : id ≠ .null := by
      rintro rfl
      cases b with
      | flat f => cases f
    simp only [variantValueWrite, if_neg hvariant, getVariantEncodingMask,
      Variant.builtInTypeId, variantReadBack]
    rw [variantValueRead_single cst room singleR arrayR hnull hvariant]
    exact (hsingle b hfits).last rfl
  | array id length content =>
    simp only [variantValueWrite, getVariantEncodingMask, variantReadBack]
    by_cases hneg : length < -1
    · rw [if_pos hneg]
      exact .fail _ _ _
    have ha := harray (clampedArray length content) (clampLength_clampLength length)
      (by rw [clampedArray, toNat_clampLength]; exact hfits.1) fun i => hfits.2 _
    rw [if_neg hneg, variantValueRead_array]
    exact ha.last rfl
  | matrix id d dims content =>
    obtain ⟨hlength, hneg, hmax, helems⟩ := hfits
    simp only [variantValueWrite, getVariantEncodingMask, variantReadBack]
    rw [variantValueRead_matrix]
    split
    · exact .fail _ _ _
    rename_i m hm
    obtain ⟨heq, hle⟩ := checkedMatrixLength_eq_some hm
    have hnat : (matrixArray hm content).length.toInt.toNat = m := toNat_ofNat hle
    have ha := harray (matrixArray hm content) (clampLength_ofNat hle)
      (by rw [hnat, heq]; exact hlength) fun i => helems _
    refine ha.bind ?_
    refine (scalar_roundTrip .int32 room d).bind ?_
    rw [if_neg (not_or.2 ⟨Int32.not_lt.2 hneg, Int32.not_lt.2 hmax⟩)]
    have hdims : RoundTrip slack _ _ _ := dimensions_roundTrip room hm
    have hcount : (arrayReadBack spec (matrixArray hm content)).length.toInt.toNat = m := hnat
    rw [← hcount] at hdims
    refine hdims.thenPure ?_
    rw [dif_pos (heq.symm.trans hcount.symm)]
    rfl

end

/-! ## Data values -/

theorem dataValueMask_flags (value : Variant Obj) (status : UInt32)
    (sourceTimestamp serverTimestamp : Int64) (sourcePicoSeconds serverPicoSeconds : UInt16) :
    let m := getDataValueEncodingMask (.mk value status sourceTimestamp serverTimestamp
      sourcePicoSeconds serverPicoSeconds)
    (m &&& 0x01 ≠ 0 ↔ value.builtInTypeId ≠ .null) ∧ (m &&& 0x02 ≠ 0 ↔ status ≠ 0) ∧
    (m &&& 0x04 ≠ 0 ↔ 0 < sourceTimestamp) ∧ (m &&& 0x10 ≠ 0 ↔ 0 < sourcePicoSeconds) ∧
    (m &&& 0x08 ≠ 0 ↔ 0 < serverTimestamp) ∧ (m &&& 0x20 ≠ 0 ↔ 0 < serverPicoSeconds) := by
  simp only [getDataValueEncodingMask, or_and_ne_zero, flag_and_ne_zero]
  refine ⟨?_, ?_, ?_, ?_, ?_, ?_⟩ <;> simp [singleBits_and_eq_zero]

variable {p : Prop}

variable (room : Nat)

/-- One of the two timestamps. -/
theorem timestamp_roundTrip [Decidable p] {date : Int64} (h : p ↔ 0 < date) :
    RoundTrip slack (writeIf p (dateTimeWrite room date)) (readIf p (dateTimeRead room) 0)
      (if 0 < date then date else 0) := by
  refine .optional .rfl (fun hp => ?_) fun hp => ?_
  · rw [if_pos (h.1 hp)]
    exact dateTime_roundTrip room date
  · rw [if_neg (mt h.2 hp)]

/-- One of the two numbers of picoseconds. -/
theorem picoSeconds_roundTrip [Decidable p] {pico : UInt16} (h : p ↔ 0 < pico) :
    RoundTrip slack (writeIf p (uint16Write room pico)) (readIf p (uint16Read room) 0) pico := by
  refine .optional .rfl (fun _ => scalar_roundTrip .uint16 room pico) fun hp => ?_
  exact (UInt16.le_zero_iff.1 (UInt16.not_lt.1 (mt h.2 hp))).symm

theorem dataValueFields_roundTrip {variantW : Variant Obj → Writer}
    {variantR : Reader (Variant Obj)} {d : DataValue Obj} (hfits : dataValueFits cst spec d)
    (hvariant : ∀ v, variantFits cst spec v → RoundTrip slack (variantW v) variantR (variantReadBack spec v)) :
    RoundTrip slack (dataValueFieldsWrite room variantW d) (dataValueFieldsRead room variantR)
      (dataValueReadBack spec d) := by
  obtain ⟨value, status, sourceTs, serverTs, sourcePico, serverPico⟩ := d
  obtain ⟨hvalue, hstatus, hsource, hsourcePico, hserver, hserverPico⟩ :=
    dataValueMask_flags value status sourceTs serverTs sourcePico serverPico
  refine (scalar_roundTrip .uint8 room _).bind ?_
  refine .bind (a := if value.builtInTypeId = .null then .null else variantReadBack spec value)
    (.optional .rfl (fun hp => ?_) fun hp => ?_) ?_
  · rw [if_neg (hvalue.1 hp)]
    exact hvariant value hfits
  · rw [if_pos (not_not.1 (mt hvalue.2 hp))]
  refine .bind (a := status)
    (.optional .rfl (fun _ => scalar_roundTrip .uint32 room status) fun hp => ?_) ?_
  · exact (not_not.1 (mt hstatus.2 hp)).symm
  refine (timestamp_roundTrip room hsource).bind ?_
  refine (picoSeconds_roundTrip room hsourcePico).bind ?_
  refine (timestamp_roundTrip room hserver).bind ?_
  refine (picoSeconds_roundTrip room hserverPico).last ?_
  rw [dataValueReadBack]

/-! ## Any nesting -/

/-- Variants and data values at a nesting level are read back. -/
def RoundTripsAt : Prop :=
  (∀ v : Variant Obj, variantFits cst spec v →
    RoundTrip slack (variantWriteAt cst objs room v) (variantReadAt cst objs room) (variantReadBack spec v)) ∧
  ∀ d : DataValue Obj, dataValueFits cst spec d →
    RoundTrip slack (dataValueWriteAt cst objs room d) (dataValueReadAt cst objs room)
      (dataValueReadBack spec d)

variable {room : Nat}

theorem element_roundTrip (h : RoundTripsAt cst spec room) {b : Builtin Obj id}
    (hfits : builtinFits cst spec b) :
    RoundTrip slack
      (elementWrite cst objs room (fun v => variantWriteAt cst objs room v)
        (fun v => dataValueWriteAt cst objs room v) b)
      (elementRead cst objs room (variantReadAt cst objs room) (dataValueReadAt cst objs room) id)
      (builtinReadBack spec b) := by
  cases b with
  | flat v =>
    rw [builtinReadBack]
    exact flat_roundTrip cst spec room _ _ hfits
  | dataValue d =>
    rw [builtinReadBack]
    exact (h.2 d hfits).last rfl
  | variant v =>
    rw [builtinReadBack]
    exact (h.1 v hfits).last rfl

/-- A level is read back if the two levels below it are. -/
theorem roundTripsAt_succ (h : RoundTripsAt cst spec room)
    (h' : ∀ room', room = room' + 1 → RoundTripsAt cst spec room') :
    RoundTripsAt cst spec (room + 1) := by
  refine ⟨fun v hfits => ?_, fun d hfits => ?_⟩
  · rw [variantWriteAt, variantReadAt]
    refine (scalar_roundTrip .uint8 room _).bind ?_
    refine variantValue_roundTrip cst spec room (fun b hb => element_roundTrip cst spec h hb) ?_ hfits
    intro id a hclamp hlength helems
    rcases room with _ | room'
    · exact .fail _ _ _
    exact variantArray_roundTrip cst room' hclamp hlength fun i =>
      element_roundTrip cst spec (h' room' rfl) (helems i)
  · rw [dataValueWriteAt, dataValueReadAt]
    exact dataValueFields_roundTrip cst spec room hfits h.1

theorem roundTripsAt (room : Nat) : RoundTripsAt cst spec room := by
  induction room using Nat.strong_induction_on with
  | _ room ih =>
    cases room with
    | zero =>
      refine ⟨fun v _ => ?_, fun d _ => ?_⟩
      · rw [variantWriteAt]
        exact .fail _ _ _
      · rw [dataValueWriteAt]
        exact .fail _ _ _
    | succ room =>
      refine roundTripsAt_succ cst spec (ih room (by omega)) fun room' h => ih room' (by omega)

/-! ## The Write and Read functions -/

variable (nestedStructLevel : UInt32)

/-- The levels left at a nesting level. -/
def roomAt : Nat := cst.maxNestedStruct.toNat - nestedStructLevel.toNat

variable (objs) in
/-- The Write function of the built-in type `id` (`SOPC_Variant_Write`,
    `SOPC_DataValue_Write`, `SOPC_NodeId_Write`...). -/
def builtinWrite {id : BuiltinId} (value : Builtin Obj id) : Writer :=
  elementWrite cst objs (roomAt cst nestedStructLevel)
    (fun v => variantWriteAt cst objs (roomAt cst nestedStructLevel) v)
    (fun v => dataValueWriteAt cst objs (roomAt cst nestedStructLevel) v) value

variable (objs) in
/-- The Read function of the built-in type `id`. -/
def builtinRead (id : BuiltinId) : Reader (Builtin Obj id) :=
  elementRead cst objs (roomAt cst nestedStructLevel)
    (variantReadAt cst objs (roomAt cst nestedStructLevel))
    (dataValueReadAt cst objs (roomAt cst nestedStructLevel)) id

variable (known : UInt16 → UInt32 → Bool)

/-- Extension objects whose bodies are left as byte strings, `known` being the types
    `SOPC_EncodeableType_GetEncodeableType` finds. -/
def opaqueObjects : ObjectCodec Empty where
  typeId o := o.elim
  encode _ o := o.elim
  decode ns n := if known ns n then some fun _ => throw .notSupported else none

/-- There is nothing to ask from objects when there are none. -/
def opaqueSpec : (opaqueObjects known).Spec 0 where
  readBack o := o
  Fits _ := True
  faithful o := o.elim

/-- A written value of any built-in type and any nesting is read back, from where its bytes
    start to right after them. -/
theorem written_value_is_read_back (known : UInt16 → UInt32 → Bool) (nestedStructLevel : UInt32)
    {id : BuiltinId} (value : Builtin Empty id) (hfits : builtinFits cst (opaqueSpec known) value)
    (b b' : Buffer)
    (hwrite : builtinWrite cst (opaqueObjects known) nestedStructLevel value b = .ok ((), b')) :
    ∃ start, b'.seek b.position = some start ∧
      builtinRead cst (opaqueObjects known) nestedStructLevel id start =
        .ok (builtinReadBack (opaqueSpec known) value, b') := by
  have hfree : b'.position + 0 ≤ b'.maximumSize.toNat := b'.position_le.trans b'.length_le
  obtain ⟨bytes, hbytes, haccepts⟩ :=
    element_roundTrip cst (opaqueSpec known) (roundTripsAt cst _ _) hfits b b' hwrite hfree
  obtain ⟨start, hseek, hread⟩ := Buffer.read_of_write hbytes
  exact ⟨start, hseek, haccepts start b' hread⟩

/-- The constants of the examples below. -/
def smallConstants : EncodingConstants := ⟨100, 100, 5, 10⟩

/-- A variant array holding a boolean 5 and a data value with a negative timestamp. -/
def nestedArray : Builtin Empty .variant :=
  .variant (.array .variant 2 fun i =>
    if i.val = 0 then .variant (.single (.flat (.boolean 5)))
    else .variant (.single (.dataValue (.mk (.single (.flat (.int32 (-7)))) 0 (-3) 4 0 0))))

/-- The buffer that array is written to. -/
def nestedArrayBuffer : Buffer :=
  ⟨[152, 2, 0, 0, 0, 1, 1, 23, 9, 6, 249, 255, 255, 255, 4, 0, 0, 0, 0, 0, 0, 0], 22, 64,
    by decide, by decide⟩

theorem nested_array_is_read_back :
    ∃ start, nestedArrayBuffer.seek 0 = some start ∧
      builtinRead smallConstants (opaqueObjects fun _ _ => false) 0 .variant start =
        .ok (builtinReadBack (opaqueSpec fun _ _ => false) nestedArray, nestedArrayBuffer) := by
  refine written_value_is_read_back smallConstants (fun _ _ => false) 0 nestedArray ?_
    (Buffer.empty 64) nestedArrayBuffer (by decide +kernel)
  simp only [nestedArray, builtinFits, variantFits]
  refine ⟨⟨by decide, fun s hs => by cases hs⟩, fun i => ?_⟩
  split_ifs
  · simp only [builtinFits, variantFits, flatFits]
  · simp only [builtinFits, variantFits, dataValueFits, flatFits]

/-- A subnormal single float is read back as the quiet NaN. -/
theorem subnormal_float_is_read_back_as_nan :
    ∃ b' start, builtinWrite smallConstants (opaqueObjects fun _ _ => false) 0
        (.variant (.single (.flat (.float 1)))) (Buffer.empty 64) = .ok ((), b') ∧
      b'.seek 0 = some start ∧
      builtinRead smallConstants (opaqueObjects fun _ _ => false) 0 .variant start =
        .ok (.variant (.single (.flat (.float 0x7FC00000))), b') := by
  refine ⟨_, _, rfl, rfl, rfl⟩

end S2opc.Encoder
