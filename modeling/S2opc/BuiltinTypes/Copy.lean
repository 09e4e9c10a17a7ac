/-
The Copy functions of `sopc_builtintypes.c`.

The destination is freshly initialized, as the source asks, and allocations
succeed.  The copies of numbers, strings, Guids, names and texts then always
succeed and give the same value, so they have no definition of their own.  The
copies of the decoded objects of extension objects are left to `copyObj`, the
function `SOPC_EncodeableObject_Copy`.
-/
import S2opc.BuiltinTypes.Variant
import S2opc.Lib.Tuple

namespace S2opc.BuiltinTypes

open Lib.Tuple

variable {Obj : Type} (copyObj : Obj → Except Status Obj)

/-! ## Values without a variant -/

/-- `SOPC_NodeId_Copy`: the Guid may be missing. -/
def nodeIdCopy (src : NodeId) : Except Status NodeId :=
  match src.data with
  | .guid none => .error .invalidParameters
  | _ => .ok src

/-- `SOPC_ExpandedNodeId_Copy`. -/
def expandedNodeIdCopy (src : ExpandedNodeId) : Except Status ExpandedNodeId :=
  match nodeIdCopy src.nodeId with
  | .ok nodeId => .ok { src with nodeId := nodeId }
  | .error e => .error e

/-- `SOPC_DiagnosticInfo_Copy`: the `InnerStatusCode` of the destination stays as it was
    initialized. -/
def diagnosticInfoCopy : DiagnosticInfo → DiagnosticInfo
  | .leaf level => .leaf { level with innerStatusCode := 0 }
  | .nest level inner => .nest { level with innerStatusCode := 0 } (diagnosticInfoCopy inner)

/-- The body in `SOPC_ExtensionObject_Copy`. -/
def extObjectBodyCopy : ExtObjectBody Obj → Except Status (ExtObjectBody Obj)
  | .object o =>
    match copyObj o with
    | .ok o' => .ok (.object o')
    | .error e => .error e
  | body => .ok body

/-- `SOPC_ExtensionObject_Copy`. -/
def extensionObjectCopy (src : ExtensionObject Obj) : Except Status (ExtensionObject Obj) :=
  match extObjectBodyCopy copyObj src.body with
  | .error e => .error e
  | .ok body =>
    match expandedNodeIdCopy src.typeId with
    | .error e => .error e
    | .ok typeId => .ok ⟨typeId, body⟩

/-- The Copy function of a built-in type, in `SOPC_BuiltInType_HandlingTable`. -/
def flatCopy {id : BuiltinId} : FlatValue Obj id → Except Status (FlatValue Obj id)
  | .nodeId v => (nodeIdCopy v).map .nodeId
  | .expandedNodeId v => (expandedNodeIdCopy v).map .expandedNodeId
  | .extensionObject v => (extensionObjectCopy copyObj v).map .extensionObject
  | .diagnosticInfo v => .ok (.diagnosticInfo (diagnosticInfoCopy v))
  | v => .ok v

/-! ## Variants and data values -/

mutual

/-- The Copy function of the built-in type `id`. -/
def builtinCopy {id : BuiltinId} : Builtin Obj id → Except Status (Builtin Obj id)
  | .flat v => (flatCopy copyObj v).map .flat
  | .dataValue v => (dataValueCopy v).map .dataValue
  | .variant v => (variantCopy v).map .variant

/-- `SOPC_Variant_Copy`.  A single value that is a variant is not copied at all. -/
def variantCopy : Variant Obj → Except Status (Variant Obj)
  | .null => .ok .null
  | .single (.variant _) => .ok (.single (.variant .null))
  | .single (.flat v) => (flatCopy copyObj v).map fun v => .single (.flat v)
  | .single (.dataValue v) => (dataValueCopy v).map fun v => .single (.dataValue v)
  | .array id length content =>
    if 0 ≤ length then
      if id = .null then .error .nok
      else (sequence _ fun i => builtinCopy (content i)).map (.array id length)
    else if length = -1 then .ok (.array id 0 fun i => i.elim0)
    else .error .invalidParameters
  | .matrix id dimensions arrayDimensions content =>
    if dimensions = 0 then .ok (.matrix id dimensions arrayDimensions content)
    else if 0 < dimensions ∧ (checkedMatrixLength dimensions arrayDimensions).isSome then
      if id = .null then .error .outOfMemory
      else (sequence _ fun i => builtinCopy (content i)).map
        (.matrix id dimensions arrayDimensions)
    else .error .invalidParameters

/-- `SOPC_DataValue_Copy`. -/
def dataValueCopy : DataValue Obj → Except Status (DataValue Obj)
  | .mk value status sourceTimestamp serverTimestamp sourcePicoSeconds serverPicoSeconds =>
    (variantCopy value).map fun value =>
      .mk value status sourceTimestamp serverTimestamp sourcePicoSeconds serverPicoSeconds

end

/-! ## Inner status codes -/

/-- The inner status codes of diagnostic information that are not `SOPC_GoodGenericStatus`. -/
def diagnosticStatuses : DiagnosticInfo → Nat
  | .leaf level => if 0 < level.innerStatusCode then 1 else 0
  | .nest level inner => (if 0 < level.innerStatusCode then 1 else 0) + diagnosticStatuses inner

/-- The inner status codes in a value without a variant. -/
def flatStatuses {id : BuiltinId} : FlatValue Obj id → Nat
  | .diagnosticInfo v => diagnosticStatuses v
  | _ => 0

mutual

/-- The number of inner status codes in a value. -/
def builtinStatuses {id : BuiltinId} : Builtin Obj id → Nat
  | .flat v => flatStatuses v
  | .dataValue v => dataValueStatuses v
  | .variant v => variantStatuses v

/-- The number of inner status codes in a variant. -/
def variantStatuses : Variant Obj → Nat
  | .null => 0
  | .single v => builtinStatuses v
  | .array _ _ content => ∑ i, builtinStatuses (content i)
  | .matrix _ _ _ content => ∑ i, builtinStatuses (content i)

/-- The number of inner status codes in a data value. -/
def dataValueStatuses : DataValue Obj → Nat
  | .mk value _ _ _ _ _ => variantStatuses value

end

/-! ## What a copy is -/

theorem nodeIdCopy_eq_ok {src dest : NodeId} (h : nodeIdCopy src = .ok dest) : dest = src := by
  unfold nodeIdCopy at h
  split at h
  · cases h
  · cases h
    rfl

theorem expandedNodeIdCopy_eq_ok {src dest : ExpandedNodeId} (h : expandedNodeIdCopy src = .ok dest) :
    dest = src := by
  unfold expandedNodeIdCopy at h
  rcases hcopy : nodeIdCopy src.nodeId with e | nodeId
  · rw [hcopy] at h
    cases h
  rw [hcopy] at h
  cases h
  rw [nodeIdCopy_eq_ok hcopy]

/-- Only what is below an object may differ in the copy of an extension object. -/
theorem extensionObjectCopy_eq_ok {src dest : ExtensionObject Obj}
    (h : extensionObjectCopy copyObj src = .ok dest) :
    dest.typeId = src.typeId ∧ extObjectBodyCopy copyObj src.body = .ok dest.body := by
  unfold extensionObjectCopy at h
  rcases hbody : extObjectBodyCopy copyObj src.body with e | body
  · rw [hbody] at h
    cases h
  rw [hbody] at h
  rcases htype : expandedNodeIdCopy src.typeId with e | typeId
  · rw [htype] at h
    cases h
  rw [htype] at h
  cases h
  exact ⟨expandedNodeIdCopy_eq_ok htype, rfl⟩

variable {dest : Variant Obj} {id : BuiltinId}

theorem variantCopy_array_eq_ok {length : Int32} {content : Fin length.toInt.toNat → Builtin Obj id}
    (h : variantCopy copyObj (.array id length content) = .ok dest) :
    (∃ content', dest = .array id length content' ∧
      ∀ i, builtinCopy copyObj (content i) = .ok (content' i)) ∨
    (length = -1 ∧ dest = .array id 0 fun i => i.elim0) := by
  rw [variantCopy] at h
  split_ifs at h with hlength hid hnull
  · obtain ⟨content', hcopy, rfl⟩ := map_eq_ok.1 h
    exact Or.inl ⟨content', rfl, sequence_eq_ok.1 hcopy⟩
  · cases h
    exact Or.inr ⟨hnull, rfl⟩

theorem variantCopy_matrix_eq_ok {dimensions : Int32}
    {arrayDimensions : Fin dimensions.toInt.toNat → Int32}
    {content : Fin (matrixLength dimensions arrayDimensions) → Builtin Obj id}
    (h : variantCopy copyObj (.matrix id dimensions arrayDimensions content) = .ok dest) :
    ∃ content', dest = .matrix id dimensions arrayDimensions content' ∧
      ∀ i, builtinCopy copyObj (content i) = .ok (content' i) := by
  rw [variantCopy] at h
  split_ifs at h with hzero hdims hid
  · -- Without dimensions there is nothing to copy
    cases h
    refine ⟨content, rfl, fun i => ?_⟩
    have hnone : matrixLength dimensions arrayDimensions = 0 := by rw [matrixLength, if_pos hzero]
    exact (i.cast hnone).elim0
  · obtain ⟨content', hcopy, rfl⟩ := map_eq_ok.1 h
    exact ⟨content', rfl, sequence_eq_ok.1 hcopy⟩

/-- A copy has the types of the original. -/
theorem variantCopy_types {src : Variant Obj} (h : variantCopy copyObj src = .ok dest) :
    dest.builtInTypeId = src.builtInTypeId ∧ dest.arrayType = src.arrayType := by
  cases src with
  | null =>
    rw [variantCopy] at h
    cases h
    exact ⟨rfl, rfl⟩
  | single b =>
    cases b with
    | variant v =>
      rw [variantCopy] at h
      cases h
      exact ⟨rfl, rfl⟩
    | _ =>
      rw [variantCopy] at h
      obtain ⟨v', -, rfl⟩ := map_eq_ok.1 h
      exact ⟨rfl, rfl⟩
  | array id length content =>
    obtain ⟨content', rfl, -⟩ | ⟨-, rfl⟩ := variantCopy_array_eq_ok copyObj h
    all_goals exact ⟨rfl, rfl⟩
  | matrix id dimensions arrayDimensions content =>
    obtain ⟨content', rfl, -⟩ := variantCopy_matrix_eq_ok copyObj h
    exact ⟨rfl, rfl⟩

end S2opc.BuiltinTypes
