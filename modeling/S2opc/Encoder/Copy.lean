/-
Writing a copy.

A copy differs from the original in two ways that Write can meet: the inner
status codes of diagnostic information are lost, and a null array becomes an
empty one.  The second is written alike; each inner status code takes four
bytes, which the copy then lacks.  `Exceeds` relates the two writers by the
number of those bytes, along the nesting.
-/
import S2opc.BuiltinTypes.Copy
import S2opc.Encoder.RoundTrip

namespace S2opc.Encoder

open BuiltinTypes Lib.Bytes Lib.ByteCodec Lib.Tuple

/-! ## The sizes of the simple values -/

theorem bufferWrite_advances (bytes : List UInt8) : Advances (bufferWrite bytes) bytes.length :=
  fun _ _ hw => (Buffer.write_eq_some.1 (bufferWrite_eq_ok hw)).2.2.1

variable {room : Nat}

theorem nested_exceeds {k : Nat} {w w' : Nat → Writer} (h : ∀ room', Exceeds (w room') (w' room') k) :
    Exceeds (nested room w) (nested room w') k := by
  cases room with
  | zero => exact .fail _ k
  | succ room => exact h room

theorem nested_sized {w : Nat → Writer} (h : ∀ room', Sized (w room')) :
    Sized (nested room w) :=
  nested_exceeds h

theorem scalarWrite_advances {α : Type} (s : Scalar α) (room : Nat) (value : α) :
    Advances (scalarWrite s room value) s.width := by
  rcases room with _ | room
  · intro b b' hw
    cases hw
  have h := (bufferWrite_advances (s.bytes value)).mapErrors writeStatus
  rw [s.length_bytes] at h
  exact h

theorem scalarWrite_sized {α : Type} (s : Scalar α) (room : Nat) (value : α) :
    Sized (scalarWrite s room value) :=
  (scalarWrite_advances s room value).sized

theorem stringData_sized (s : SopcString) :
    Sized (writeIf (0 < s.length) (mapError writeStatus (bufferWrite s.data))) :=
  .optional ((bufferWrite_advances s.data).mapErrors writeStatus).sized

section

variable (room : Nat)

theorem stringWrite_sized (s : SopcString) : Sized (stringWrite room s) :=
  nested_sized fun room' => (scalarWrite_sized .int32 room' _).bind (stringData_sized s)

theorem byteStringWrite_sized (s : SopcString) : Sized (byteStringWrite room s) :=
  nested_sized fun room' =>
    ((scalarWrite_sized .int32 room' _).mapErrors writeStatus).bind (stringData_sized s)

theorem guidWrite_sized (g : Guid) : Sized (guidWrite room g) := by
  refine nested_sized fun room' => .mapErrors writeStatus ?_
  refine (scalarWrite_sized .uint32 room' _).bind ?_
  refine (scalarWrite_sized .uint16 room' _).bind ?_
  refine (scalarWrite_sized .uint16 room' _).bind ?_
  exact (bufferWrite_advances _).sized

theorem internalNodeIdWrite_sized (encodingByte : UInt8) (nodeId : NodeId) (room : Nat) :
    Sized (internalNodeIdWrite encodingByte nodeId room) := by
  obtain ⟨ns, data⟩ := nodeId
  refine (scalarWrite_sized .uint8 room _).bind ?_
  cases data with
  | numeric n =>
    show Sized (if encodingByte &&& 0x0F = 0x00 then byteWrite room n.toUInt8 else _)
    split_ifs
    · exact scalarWrite_sized .uint8 room _
    · exact (scalarWrite_sized .uint8 room _).bind (scalarWrite_sized .uint16 room _)
    · exact (scalarWrite_sized .uint16 room _).bind (scalarWrite_sized .uint32 room _)
  | string s => exact (scalarWrite_sized .uint16 room _).bind (stringWrite_sized room s)
  | guid g =>
    refine (scalarWrite_sized .uint16 room _).bind ?_
    cases g with
    | none => exact .fail _ 0
    | some g => exact guidWrite_sized room g
  | byteString s => exact (scalarWrite_sized .uint16 room _).bind (byteStringWrite_sized room s)

theorem nodeIdWrite_sized (nodeId : NodeId) : Sized (nodeIdWrite room nodeId) :=
  nested_sized fun room' => internalNodeIdWrite_sized _ nodeId room'

theorem expandedNodeIdWrite_sized (e : ExpandedNodeId) :
    Sized (expandedNodeIdWrite room e) := by
  refine nested_sized fun room' => (internalNodeIdWrite_sized _ e.nodeId room').bind ?_
  refine .bind (.optional (stringWrite_sized room' _)) ?_
  exact .optional (scalarWrite_sized .uint32 room' _)

theorem qualifiedNameWrite_sized (q : QualifiedName) :
    Sized (qualifiedNameWrite room q) :=
  nested_sized fun room' => (scalarWrite_sized .uint16 room' _).bind (stringWrite_sized room' _)

theorem localizedTextWrite_sized (t : LocalizedText) :
    Sized (localizedTextWrite room t) := by
  refine nested_sized fun room' => (scalarWrite_sized .uint8 room' _).bind ?_
  exact .bind (.optional (stringWrite_sized room' _))
    (.optional (stringWrite_sized room' _))

end

/-! ## Diagnostic information -/

section
variable (cst : EncodingConstants)

/-- Without its inner status code a level takes four bytes less. -/
theorem diagnosticLevelWrite_exceeds (d : DiagnosticLevel) (inner : Bool) :
    Exceeds (diagnosticLevelWrite cst d inner)
      (diagnosticLevelWrite cst { d with innerStatusCode := 0 } inner)
      (4 * if 0 < d.innerStatusCode then 1 else 0) := by
  obtain ⟨hsym, hns, hloc, htext, hinfo, hcode, -⟩ := diagInfoEncodingByte_flags d inner
  obtain ⟨hsym', hns', hloc', htext', hinfo', hcode', -⟩ :=
    diagInfoEncodingByte_flags { d with innerStatusCode := 0 } inner
  have hindex : ∀ {p q : Prop} [Decidable p] [Decidable q] (v : Int32), (p ↔ q) →
      Longer (writeIf p (int32Write cst.maxNestedStruct.toNat v))
        (writeIf q (int32Write cst.maxNestedStruct.toNat v)) 0 := fun v hpq =>
    (Exceeds.optional hpq (scalarWrite_sized .int32 _ v) fun _ => rfl).longer
  have hstring := Exceeds.optional (hinfo.trans hinfo'.symm)
    (stringWrite_sized cst.maxNestedStruct.toNat d.additionalInfo) fun _ => rfl
  by_cases hpos : 0 < d.innerStatusCode
  · rw [if_pos hpos]
    refine ⟨by omega, ?_⟩
    -- The masks differ, but of the fields only the last
    have hmask : Longer (byteWrite cst.maxNestedStruct.toNat (getDiagInfoEncodingByte d inner))
        (byteWrite cst.maxNestedStruct.toNat
          (getDiagInfoEncodingByte { d with innerStatusCode := 0 } inner)) 0 :=
      ⟨1, scalarWrite_advances .uint8 _ _, scalarWrite_advances .uint8 _ _⟩
    show Longer _ _ (0 + (0 + (0 + (0 + (0 + (0 + 4))))))
    refine hmask.bind ((hindex _ (hsym.trans hsym'.symm)).bind ?_)
    refine (hindex _ (hns.trans hns'.symm)).bind ((hindex _ (hloc.trans hloc'.symm)).bind ?_)
    refine (hindex _ (htext.trans htext'.symm)).bind (hstring.longer.bind ?_)
    exact Longer.dropped (hcode.2 hpos) (mt hcode'.1 (UInt32.lt_irrefl 0))
      (scalarWrite_advances .uint32 _ _)
  · have hzero : d.innerStatusCode = 0 := UInt32.le_zero_iff.1 (UInt32.not_lt.1 hpos)
    have hsame : { d with innerStatusCode := 0 } = d := by rw [← hzero]
    rw [if_neg hpos, hsame]
    refine (scalarWrite_sized .uint8 _ _).bind ?_
    refine Sized.bind (Sized.optional (scalarWrite_sized .int32 _ _)) ?_
    refine Sized.bind (Sized.optional (scalarWrite_sized .int32 _ _)) ?_
    refine Sized.bind (Sized.optional (scalarWrite_sized .int32 _ _)) ?_
    refine Sized.bind (Sized.optional (scalarWrite_sized .int32 _ _)) ?_
    refine Sized.bind (Sized.optional (stringWrite_sized _ _)) ?_
    exact Sized.optional (scalarWrite_sized .uint32 _ _)

theorem diagnosticInfoWriteInternal_exceeds (left : Nat) (d : DiagnosticInfo) :
    Exceeds (diagnosticInfoWriteInternal cst left d)
      (diagnosticInfoWriteInternal cst left (diagnosticInfoCopy d)) (4 * diagnosticStatuses d) := by
  induction d generalizing left with
  | leaf level =>
    simp only [diagnosticInfoWriteInternal, diagnosticInfoCopy, diagnosticStatuses]
    exact diagnosticLevelWrite_exceeds cst level false
  | nest level inner ih =>
    have hlevel := diagnosticLevelWrite_exceeds cst level true
    rw [diagnosticInfoCopy, diagnosticStatuses, Nat.mul_add]
    cases left with
    | zero => exact hlevel.bind (.fail _ _)
    | succ left => exact hlevel.bind (ih left)

end

/-! ## Values without a variant

Extension objects keep their bodies as byte strings. -/

variable {id : BuiltinId} {v : FlatValue Empty id} {v' : Builtin Empty id}

section
variable (cst : EncodingConstants) (known : UInt16 → UInt32 → Bool)

/-- There is no object to copy. -/
def opaqueCopy (o : Empty) : Except Status Empty := o.elim

theorem extensionObjectCopy_same {src dest : ExtensionObject Empty}
    (h : extensionObjectCopy opaqueCopy src = .ok dest) : dest = src := by
  obtain ⟨htype, hbody⟩ := extensionObjectCopy_eq_ok opaqueCopy h
  obtain ⟨typeId, body⟩ := src
  obtain ⟨typeId', body'⟩ := dest
  cases body with
  | object o => exact o.elim
  | _ => cases hbody; cases htype; rfl

theorem extensionObjectWrite_sized (room : Nat) (e : ExtensionObject Empty) :
    Sized (extensionObjectWrite (opaqueObjects known) room e) := by
  refine nested_sized fun room' => (nodeIdWrite_sized room' _).bind ?_
  refine (scalarWrite_sized .uint8 room' _).bind ?_
  obtain ⟨typeId, body⟩ := e
  cases body with
  | none => exact .pure
  | byteString s => exact byteStringWrite_sized room' s
  | xmlElement s => exact byteStringWrite_sized room' s
  | object o => exact o.elim

theorem flatWrite_sized (room : Nat) (hid : id ≠ .diagnosticInfo) :
    Sized (flatWrite cst (opaqueObjects known) room v) := by
  cases v with
  | boolean v => exact nested_sized fun room' => scalarWrite_sized .uint8 room' _
  | string v => exact stringWrite_sized room v
  | dateTime v => exact nested_sized fun room' => scalarWrite_sized .int64 room' v
  | guid v => exact guidWrite_sized room v
  | byteString v => exact byteStringWrite_sized room v
  | xmlElement v => exact byteStringWrite_sized room v
  | nodeId v => exact nodeIdWrite_sized room v
  | expandedNodeId v => exact expandedNodeIdWrite_sized room v
  | qualifiedName v => exact qualifiedNameWrite_sized room v
  | localizedText v => exact localizedTextWrite_sized room v
  | extensionObject v => exact extensionObjectWrite_sized known room v
  | diagnosticInfo v => exact absurd rfl hid
  | _ => exact scalarWrite_sized _ room _

/-- Only diagnostic information is changed by a copy. -/
theorem flatCopy_eq_ok {v' : FlatValue Empty id} (h : flatCopy opaqueCopy v = .ok v') :
    (v' = v ∧ flatStatuses v = 0) ∨ id = .diagnosticInfo := by
  cases v with
  | diagnosticInfo v => exact .inr rfl
  | nodeId v =>
    obtain ⟨n, hcopy, rfl⟩ := map_eq_ok.1 h
    exact .inl ⟨by rw [nodeIdCopy_eq_ok hcopy], rfl⟩
  | expandedNodeId v =>
    obtain ⟨n, hcopy, rfl⟩ := map_eq_ok.1 h
    exact .inl ⟨by rw [expandedNodeIdCopy_eq_ok hcopy], rfl⟩
  | extensionObject v =>
    obtain ⟨n, hcopy, rfl⟩ := map_eq_ok.1 h
    exact .inl ⟨by rw [extensionObjectCopy_same hcopy], rfl⟩
  | _ =>
    cases h
    exact .inl ⟨rfl, rfl⟩

theorem flatWrite_exceeds (room : Nat) {v' : FlatValue Empty id}
    (h : flatCopy opaqueCopy v = .ok v') :
    Exceeds (flatWrite cst (opaqueObjects known) room v) (flatWrite cst (opaqueObjects known) room v')
      (4 * flatStatuses v) := by
  by_cases hid : id = .diagnosticInfo
  · subst hid
    cases v with
    | diagnosticInfo d =>
      cases h
      exact nested_exceeds fun _ => diagnosticInfoWriteInternal_exceeds cst _ d
  obtain ⟨rfl, hzero⟩ | hdiag := flatCopy_eq_ok h
  · rw [hzero]
    exact flatWrite_sized cst known room hid
  · exact absurd hdiag hid

/-! ## Variants and data values -/

/-- The values of the types copied from memory are the same in the copy. -/
theorem builtinCopy_optimizable {s : Scalar (Builtin Empty id)} (hs : optimizableScalar id = some s)
    {v : Builtin Empty id} (h : builtinCopy opaqueCopy v = .ok v') :
    v' = v ∧ builtinStatuses v = 0 := by
  cases v with
  | flat f =>
    rw [builtinCopy] at h
    obtain ⟨f', hcopy, rfl⟩ := map_eq_ok.1 h
    rw [builtinStatuses]
    obtain ⟨rfl, hzero⟩ | rfl := flatCopy_eq_ok hcopy
    · exact ⟨rfl, hzero⟩
    · cases hs
  | dataValue d => cases hs
  | variant v => cases hs

/-- The Write functions of variants and data values lose with the inner status codes four
    bytes for each. -/
def CopyExceedsAt (room : Nat) : Prop :=
  (∀ v v', variantCopy opaqueCopy v = .ok v' →
    Exceeds (variantWriteAt cst (opaqueObjects known) room v)
      (variantWriteAt cst (opaqueObjects known) room v') (4 * variantStatuses v)) ∧
  ∀ d d', dataValueCopy opaqueCopy d = .ok d' →
    Exceeds (dataValueWriteAt cst (opaqueObjects known) room d)
      (dataValueWriteAt cst (opaqueObjects known) room d') (4 * dataValueStatuses d)

variable {cst known}

theorem elementWrite_exceeds (hroom : CopyExceedsAt cst known room) {v : Builtin Empty id}
    (h : builtinCopy opaqueCopy v = .ok v') :
    Exceeds
      (elementWrite cst (opaqueObjects known) room
        (fun v => variantWriteAt cst (opaqueObjects known) room v)
        (fun v => dataValueWriteAt cst (opaqueObjects known) room v) v)
      (elementWrite cst (opaqueObjects known) room
        (fun v => variantWriteAt cst (opaqueObjects known) room v)
        (fun v => dataValueWriteAt cst (opaqueObjects known) room v) v')
      (4 * builtinStatuses v) := by
  cases v with
  | flat f =>
    rw [builtinCopy] at h
    obtain ⟨f', hcopy, rfl⟩ := map_eq_ok.1 h
    rw [builtinStatuses]
    exact flatWrite_exceeds cst known room hcopy
  | dataValue d =>
    rw [builtinCopy] at h
    obtain ⟨d', hcopy, rfl⟩ := map_eq_ok.1 h
    rw [builtinStatuses]
    exact hroom.2 d d' hcopy
  | variant v =>
    rw [builtinCopy] at h
    obtain ⟨v', hcopy, rfl⟩ := map_eq_ok.1 h
    rw [builtinStatuses]
    exact hroom.1 v v' hcopy

theorem variantArrayWrite_exceeds (room : Nat) {elem : Builtin Empty id → Writer} {length : Int32}
    {content content' : Fin length.toInt.toNat → Builtin Empty id}
    (hcopy : ∀ i, builtinCopy opaqueCopy (content i) = .ok (content' i))
    (helem : ∀ i, Exceeds (elem (content i)) (elem (content' i))
      (4 * builtinStatuses (content i))) :
    Exceeds (variantArrayWrite room elem ⟨length, content⟩)
      (variantArrayWrite room elem ⟨length, content'⟩) (4 * ∑ i, builtinStatuses (content i)) := by
  unfold variantArrayWrite
  by_cases hid : id = .null
  · rw [if_pos hid, if_pos hid]
    exact .fail _ _
  rw [if_neg hid, if_neg hid]
  rcases hs : optimizableScalar id with _ | s
  · have hlength : Sized (int32Write room length) := scalarWrite_sized .int32 room length
    rw [Finset.mul_sum, ← Nat.zero_add (∑ i, _)]
    exact .bind hlength (.each helem)
  have hsame : content' = content := funext fun i => (builtinCopy_optimizable hs (hcopy i)).1
  have hzero : ∑ i, builtinStatuses (content i) = 0 :=
    Finset.sum_eq_zero fun i _ => (builtinCopy_optimizable hs (hcopy i)).2
  rw [hsame, hzero]
  exact (scalarWrite_sized .int32 room length).bind (.optional (bufferWrite_advances _).sized)

/-- Two arrays without elements are the same. -/
theorem arrayValue_eq_of_length_zero {a a' : ArrayValue Empty id} (h : a.length = 0)
    (h' : a'.length = 0) : a = a' := by
  obtain ⟨length, content⟩ := a
  obtain ⟨length', content'⟩ := a'
  cases h
  cases h'
  have hcontent : content = content' := funext fun i => i.elim0
  rw [hcontent]

section
variable {single : {id : BuiltinId} → Builtin Empty id → Writer}
  {array : {id : BuiltinId} → ArrayValue Empty id → Writer}

theorem variantValueWrite_exceeds (room : Nat)
    (hsingle : ∀ {id : BuiltinId} (b b' : Builtin Empty id), builtinCopy opaqueCopy b = .ok b' →
      Exceeds (single b) (single b') (4 * builtinStatuses b))
    (harray : ∀ {id : BuiltinId} {length : Int32}
      {content content' : Fin length.toInt.toNat → Builtin Empty id},
      (∀ i, builtinCopy opaqueCopy (content i) = .ok (content' i)) →
      Exceeds (array ⟨length, content⟩) (array ⟨length, content'⟩)
        (4 * ∑ i, builtinStatuses (content i)))
    {v v' : Variant Empty} (h : variantCopy opaqueCopy v = .ok v') :
    Exceeds (variantValueWrite room single array v) (variantValueWrite room single array v')
      (4 * variantStatuses v) := by
  cases v with
  | null =>
    rw [variantCopy] at h
    cases h
    rw [variantStatuses]
    exact .pure
  | @single id b =>
    rw [variantStatuses]
    cases b with
    | flat f =>
      rw [variantCopy] at h
      obtain ⟨f', hcopy, rfl⟩ := map_eq_ok.1 h
      simp only [variantValueWrite]
      by_cases hid : id = .variant
      · rw [if_pos hid, if_pos hid]
        exact .fail _ _
      rw [if_neg hid, if_neg hid]
      refine hsingle (.flat f) (.flat f') ?_
      rw [builtinCopy, hcopy]
      rfl
    | dataValue d =>
      rw [variantCopy] at h
      obtain ⟨d', hcopy, rfl⟩ := map_eq_ok.1 h
      refine hsingle (.dataValue d) (.dataValue d') ?_
      rw [builtinCopy, hcopy]
      rfl
    | variant v =>
      rw [variantCopy] at h
      cases h
      exact .fail _ _
  | array id length content =>
    rw [variantStatuses]
    obtain ⟨content', rfl, hcopy⟩ | ⟨hlength, rfl⟩ := variantCopy_array_eq_ok opaqueCopy h
    · simp only [variantValueWrite]
      by_cases hneg : length < -1
      · rw [if_pos hneg, if_pos hneg]
        exact .fail _ _
      rw [if_neg hneg, if_neg hneg]
      have hsum := Equiv.sum_comp (finCongr (toNat_clampLength length))
        fun i => builtinStatuses (content i)
      rw [← hsum]
      exact harray fun i => hcopy _
    · -- The null array is written as the empty one
      subst hlength
      have hempty : clampedArray (-1) content = clampedArray 0 fun i => i.elim0 :=
        arrayValue_eq_of_length_zero rfl rfl
      have hzero : ∑ i, builtinStatuses (content i) = 0 := Finset.sum_eq_zero fun i _ => i.elim0
      show Exceeds (array (clampedArray (-1) content)) _ _
      rw [hempty, hzero]
      exact harray fun i => i.elim0
  | matrix id d dims content =>
    rw [variantStatuses]
    obtain ⟨content', rfl, hcopy⟩ := variantCopy_matrix_eq_ok opaqueCopy h
    simp only [variantValueWrite]
    split
    · exact .fail _ _
    rename_i m hm
    obtain ⟨heq, hle⟩ := checkedMatrixLength_eq_some hm
    have hsum := Equiv.sum_comp (finCongr ((toNat_ofNat hle).trans heq))
      fun i => builtinStatuses (content i)
    rw [← hsum, ← Nat.add_zero (4 * _)]
    refine .bind (harray fun i => hcopy _) ?_
    refine (scalarWrite_sized .int32 room d).bind ?_
    exact .each fun i => scalarWrite_sized .int32 room (dims i)

end

/-- A variant of the Null type has nothing in it. -/
theorem variantStatuses_of_null {v : Variant Empty} (h : v.builtInTypeId = .null) :
    variantStatuses v = 0 := by
  have hnone : ∀ b : Builtin Empty .null, builtinStatuses b = 0 := by
    intro b
    cases b with
    | flat f => cases f
  cases v with
  | null => rw [variantStatuses]
  | single b =>
    cases h
    rw [variantStatuses, hnone]
  | _ =>
    cases h
    rw [variantStatuses]
    exact Finset.sum_eq_zero fun i _ => hnone _

theorem dataValueFieldsWrite_exceeds (room : Nat) {variantW : Variant Empty → Writer}
    (hvariant : ∀ v v', variantCopy opaqueCopy v = .ok v' →
      Exceeds (variantW v) (variantW v') (4 * variantStatuses v))
    {d d' : DataValue Empty} (h : dataValueCopy opaqueCopy d = .ok d') :
    Exceeds (dataValueFieldsWrite room variantW d) (dataValueFieldsWrite room variantW d')
      (4 * dataValueStatuses d) := by
  obtain ⟨value, status, sourceTs, serverTs, sourcePico, serverPico⟩ := d
  rw [dataValueCopy] at h
  obtain ⟨value', hcopy, rfl⟩ := map_eq_ok.1 h
  have hmask : getDataValueEncodingMask (.mk value' status sourceTs serverTs sourcePico serverPico) =
      getDataValueEncodingMask (.mk value status sourceTs serverTs sourcePico serverPico) := by
    simp only [getDataValueEncodingMask, (variantCopy_types opaqueCopy hcopy).1]
  have hvalue := (dataValueMask_flags value status sourceTs serverTs sourcePico serverPico).1
  have hsplit : 4 * variantStatuses value = 0 + (4 * variantStatuses value + 0) := by omega
  rw [dataValueFieldsWrite, dataValueFieldsWrite, dataValueStatuses, hmask, hsplit]
  refine .bind (scalarWrite_sized .uint8 room _) (.bind ?_ ?_)
  · refine .optional .rfl (hvariant value value' hcopy) fun hp => ?_
    rw [variantStatuses_of_null (not_not.1 (mt hvalue.2 hp))]
  · refine Sized.bind (Sized.optional (scalarWrite_sized .uint32 room _)) ?_
    refine .bind (.optional (nested_sized fun _ => scalarWrite_sized .int64 _ _)) ?_
    refine .bind (.optional (scalarWrite_sized .uint16 room _)) ?_
    refine .bind (.optional (nested_sized fun _ => scalarWrite_sized .int64 _ _)) ?_
    exact .optional (scalarWrite_sized .uint16 room _)

/-- The mask of a variant says its types and nothing else. -/
theorem getVariantEncodingMask_congr {v v' : Variant Empty} (hid : v'.builtInTypeId = v.builtInTypeId)
    (harray : v'.arrayType = v.arrayType) : getVariantEncodingMask v' = getVariantEncodingMask v := by
  cases v <;> cases v' <;>
    simp_all [getVariantEncodingMask, Variant.builtInTypeId, Variant.arrayType]

theorem copyExceedsAt_succ (h : CopyExceedsAt cst known room)
    (h' : ∀ room', room = room' + 1 → CopyExceedsAt cst known room') :
    CopyExceedsAt cst known (room + 1) := by
  refine ⟨fun v v' hcopy => ?_, fun d d' hcopy => ?_⟩
  · obtain ⟨hid, harray⟩ := variantCopy_types opaqueCopy hcopy
    rw [variantWriteAt, variantWriteAt, getVariantEncodingMask_congr hid harray,
      ← Nat.zero_add (4 * variantStatuses v)]
    refine .bind (scalarWrite_sized .uint8 room _) ?_
    refine variantValueWrite_exceeds room (fun b b' hb => elementWrite_exceeds h hb) ?_ hcopy
    intro id length content content' hcontent
    rcases room with _ | room'
    · exact .fail _ _
    exact variantArrayWrite_exceeds room' hcontent fun i =>
      elementWrite_exceeds (h' room' rfl) (hcontent i)
  · rw [dataValueWriteAt, dataValueWriteAt]
    exact dataValueFieldsWrite_exceeds room h.1 hcopy

theorem copyExceedsAt (cst : EncodingConstants) (known : UInt16 → UInt32 → Bool) (room : Nat) :
    CopyExceedsAt cst known room := by
  induction room using Nat.strong_induction_on with
  | _ room ih =>
    cases room with
    | zero =>
      refine ⟨fun v v' _ => ?_, fun d d' _ => ?_⟩
      · rw [variantWriteAt, variantWriteAt]
        exact .fail _ _
      · rw [dataValueWriteAt, dataValueWriteAt]
        exact .fail _ _
    | succ room =>
      exact copyExceedsAt_succ (ih room (by omega)) fun room' h => ih room' (by omega)

theorem builtinWrite_exceeds (cst : EncodingConstants) (known : UInt16 → UInt32 → Bool)
    (nestedStructLevel : UInt32) {v : Builtin Empty id} (h : builtinCopy opaqueCopy v = .ok v') :
    Exceeds (builtinWrite cst (opaqueObjects known) nestedStructLevel v)
      (builtinWrite cst (opaqueObjects known) nestedStructLevel v') (4 * builtinStatuses v) :=
  elementWrite_exceeds (copyExceedsAt cst known _) h

end

/-! ## The bytes of a copy -/

/-- Both values are written alike under every configuration, at every level and into every
    buffer: the same bytes or the same failure. -/
def WrittenAlike (known : UInt16 → UInt32 → Bool) {id : BuiltinId} (v v' : Builtin Empty id) : Prop :=
  ∀ (cst : EncodingConstants) (nestedStructLevel : UInt32) (b : Buffer),
    builtinWrite cst (opaqueObjects known) nestedStructLevel v' b =
      builtinWrite cst (opaqueObjects known) nestedStructLevel v b

/-- Some configuration has a level and a buffer the value can be written at. -/
def Encodable (known : UInt16 → UInt32 → Bool) {id : BuiltinId} (v : Builtin Empty id) : Prop :=
  ∃ (cst : EncodingConstants) (nestedStructLevel : UInt32) (b b' : Buffer),
    builtinWrite cst (opaqueObjects known) nestedStructLevel v b = .ok ((), b')

/-- A copy is written like the original when there is no inner status code in it, and for a
    value that can be written at all only then. -/
theorem copy_written_alike_iff (known : UInt16 → UInt32 → Bool) {id : BuiltinId}
    (v copy : Builtin Empty id) (hcopy : builtinCopy opaqueCopy v = .ok copy) :
    (builtinStatuses v = 0 → WrittenAlike known v copy) ∧
      (Encodable known v → (WrittenAlike known v copy ↔ builtinStatuses v = 0)) := by
  have hsame : builtinStatuses v = 0 → WrittenAlike known v copy := by
    intro hzero cst level b
    rw [(builtinWrite_exceeds cst known level hcopy).same (by omega)]
  refine ⟨hsame, fun ⟨cst, level, b, b', hwrite⟩ => ⟨fun halike => ?_, hsame⟩⟩
  by_contra hne
  -- The original leaves the cursor further than the copy can
  obtain ⟨n, hshort, hlong⟩ := (builtinWrite_exceeds cst known level hcopy).longer
  have hcopied := hshort b b' ((halike cst level b).trans hwrite)
  have horiginal := hlong b b' hwrite
  omega

/-- Diagnostic information with a bad inner status code. -/
def badDiagnostic : Builtin Empty .diagnosticInfo :=
  .flat (.diagnosticInfo (.leaf ⟨-1, -1, -1, -1, .null, 0x80000000⟩))

/-- Its copy. -/
def badDiagnosticCopy : Builtin Empty .diagnosticInfo :=
  .flat (.diagnosticInfo (.leaf ⟨-1, -1, -1, -1, .null, 0⟩))

theorem badDiagnostic_not_written_alike :
    ¬ WrittenAlike (fun _ _ => false) badDiagnostic badDiagnosticCopy := by
  have hencodable : Encodable (fun _ _ => false) badDiagnostic :=
    ⟨smallConstants, 0, Buffer.empty 64, _, rfl⟩
  have hiff := (copy_written_alike_iff (fun _ _ => false) badDiagnostic badDiagnosticCopy rfl).2
    hencodable
  rw [hiff]
  decide +kernel

/-- The status code takes four bytes that are missing from what the copy is written to. -/
theorem copied_diagnostic_loses_status :
    ∃ b b', builtinCopy opaqueCopy badDiagnostic = .ok badDiagnosticCopy ∧
      builtinWrite smallConstants (opaqueObjects fun _ _ => false) 0 badDiagnostic (Buffer.empty 64) =
        .ok ((), b) ∧ b.data = [0x20, 0, 0, 0, 0x80] ∧
      builtinWrite smallConstants (opaqueObjects fun _ _ => false) 0 badDiagnosticCopy (Buffer.empty 64) =
        .ok ((), b') ∧ b'.data = [0x00] := by
  refine ⟨_, _, rfl, rfl, rfl, rfl, rfl⟩

end S2opc.Encoder
