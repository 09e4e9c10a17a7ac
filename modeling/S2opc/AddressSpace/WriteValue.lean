/-
Writing the value of a node: `SOPC_AddressSpaceAccess_WriteValue`
(`sopc_address_space_access.c`).

The status and the source timestamp are written first, then the value, whole or
in a range of indexes, and the operation is recorded if the access was made to
record.  After a failure of one of the last two, the three are restored from
what was saved before they were written.

A whole write moves the value that it replaces, and moves it back.  A write in
a range saves a copy of the value, but only once the range was found in it: a
range that is not leaves nothing to restore, and the node loses its value.
-/
import S2opc.BuiltinTypes.SetRange

namespace S2opc.AddressSpace

open BuiltinTypes

variable {Obj : Type}

/-! ## Nodes with a value -/

/-- `SOPC_Value_Timestamp`. -/
structure ValueTimestamp where
  timestamp : Int64
  picoSeconds : UInt16
  deriving DecidableEq, Repr

/-- The value of a Variable or of a VariableType, with its metadata. -/
structure ValueNode (Obj : Type) where
  value : VariantCell Obj
  valueStatus : UInt32
  valueSourceTs : ValueTimestamp

/-- The value of an `OpcUa_WriteValue` kept in a recorded operation. -/
structure RecordedValue (Obj : Type) where
  value : Variant Obj
  status : UInt32
  sourceTs : ValueTimestamp

/-- `SOPC_AddressSpaceAccessOperation`, for `SOPC_ADDSPACE_WRITE`. -/
structure WriteOperation (Obj : Type) where
  nodeId : NodeId
  previous : RecordedValue Obj
  new : RecordedValue Obj

/-- `SOPC_AddressSpaceAccess`, with the nodes of the address space it is on.  Read-only nodes have
    a constant status, and no timestamp but the current time. -/
structure AddressSpaceAccess (Obj : Type) where
  readOnlyNodes : Bool
  getNode : NodeId → Option (ValueNode Obj)
  recordOperations : Bool
  operations : List (WriteOperation Obj)

namespace AddressSpaceAccess

variable (access : AddressSpaceAccess Obj)

/-- `SOPC_AddressSpace_Get_StatusCode`. -/
def getStatusCode (node : ValueNode Obj) : UInt32 :=
  if access.readOnlyNodes then 0 else node.valueStatus

/-- `SOPC_AddressSpace_Set_StatusCode`. -/
def setStatusCode (node : ValueNode Obj) (status : UInt32) :
    ValueNode Obj :=
  if access.readOnlyNodes then node else { node with valueStatus := status }

/-- `SOPC_AddressSpace_Get_SourceTs`, at a given time. -/
def getSourceTs (now : Int64) (node : ValueNode Obj) :
    ValueTimestamp :=
  if access.readOnlyNodes then ⟨now, 0⟩ else node.valueSourceTs

/-- `SOPC_AddressSpace_Set_SourceTs`. -/
def setSourceTs (node : ValueNode Obj) (ts : ValueTimestamp) :
    ValueNode Obj :=
  if access.readOnlyNodes then node else { node with valueSourceTs := ts }

/-- The address space with other content in a node. -/
def putNode (nodeId : NodeId) (node : ValueNode Obj) :
    AddressSpaceAccess Obj :=
  { access with getNode := Function.update access.getNode nodeId (some node) }

end AddressSpaceAccess

/-! ## The write -/

/-- The status codes returned by the write of a value. -/
inductive WriteCode where
  | good
  | badInvalidArgument
  | badNodeIdUnknown
  | badOutOfMemory
  | badIndexRangeInvalid
  | badIndexRangeNoData
  deriving DecidableEq, Repr

/-- The current value after it was written, and what was saved of the previous one. -/
structure Written (Obj : Type) where
  current : VariantCell Obj
  previous : VariantCell Obj
  code : WriteCode

/-- A variant as `SOPC_Variant_Initialize` and `SOPC_Variant_Clear` leave it. -/
def nullCell : VariantCell Obj := ⟨.null, false⟩

/-- The source timestamp to set: the current time if both parts are 0. -/
def newSourceTs (now timestamp : Int64) (optSourcePicoSeconds : Option UInt16) : ValueTimestamp :=
  let picoSeconds := optSourcePicoSeconds.getD 0
  if timestamp = 0 ∧ picoSeconds = 0 then ⟨now, picoSeconds⟩ else ⟨timestamp, picoSeconds⟩

section
variable (copyObj : Obj → Except Status Obj)

/-- The current value is moved, cleared and replaced by a copy of the new one. -/
def writeWhole (current : VariantCell Obj) (value : Variant Obj) : Written Obj :=
  match variantCopy copyObj value with
  | .ok copy => ⟨⟨copy, false⟩, current, .good⟩
  | .error _ => ⟨nullCell, current, .badOutOfMemory⟩

/-- The new value is written in a range of the current one.  The failures that are not statuses
    stop the program, or leave memory that is not the one of a variant: they are not followed. -/
def writeRange (current : VariantCell Obj) (value : Variant Obj) (range : NumericRange) :
    Except Failure (Written Obj) :=
  match variantHasRange current.value range true with
  | .error (.status _) => .ok ⟨current, nullCell, .badIndexRangeInvalid⟩
  | .error stop => .error stop
  | .ok false => .ok ⟨current, nullCell, .badIndexRangeNoData⟩
  | .ok true =>
    match variantCopy copyObj current.value with
    | .error _ => .ok ⟨current, nullCell, .badOutOfMemory⟩
    | .ok previous =>
      match variantSetRange copyObj current value range with
      | (current, .ok ()) => .ok ⟨current, ⟨previous, false⟩, .good⟩
      | (current, .error (.status _)) => .ok ⟨current, ⟨previous, false⟩, .badOutOfMemory⟩
      | (_, .error stop) => .error stop

section

variable (access : AddressSpaceAccess Obj)

/-- `SOPC_InternalRecordOperation_Write`: the operations after it, unless a copy fails. -/
def recordOperationWrite (now : Int64) (nodeId : NodeId)
    (node : ValueNode Obj) (previous : RecordedValue Obj) : Option (List (WriteOperation Obj)) :=
  match nodeIdCopy nodeId, variantCopy copyObj node.value.value with
  | .ok id, .ok value =>
    some (access.operations ++
      [⟨id, previous, ⟨value, access.getStatusCode node, access.getSourceTs now node⟩⟩])
  | _, _ => none

/-- The end of a write: the operation is recorded, or the node is restored. -/
def finishWrite (now : Int64) (nodeId : NodeId)
    (node : ValueNode Obj) (written : Written Obj) (prevStatusCode : UInt32)
    (prevSourceTs : ValueTimestamp) : WriteCode × AddressSpaceAccess Obj :=
  let node := { node with value := written.current }
  let restored := access.setSourceTs
    (access.setStatusCode { node with value := written.previous } prevStatusCode) prevSourceTs
  match written.code with
  | .good =>
    if access.recordOperations then
      match recordOperationWrite copyObj access now nodeId node
          ⟨written.previous.value, prevStatusCode, prevSourceTs⟩ with
      | some operations => (.good, { access.putNode nodeId node with operations := operations })
      | none => (.badOutOfMemory, access.putNode nodeId restored)
    else (.good, access.putNode nodeId node)
  | code => (code, access.putNode nodeId restored)

/-- `SOPC_AddressSpaceAccess_WriteValue`, at a given time.  The setters fail on read-only nodes
    only, on which they are not called. -/
def writeValue (now : Int64) (nodeId : NodeId)
    (optNumRange : Option NumericRange) (value : Variant Obj) (optStatus : Option UInt32)
    (optSourceTimestamp : Option Int64) (optSourcePicoSeconds : Option UInt16) :
    Except Failure (WriteCode × AddressSpaceAccess Obj) :=
  if optSourcePicoSeconds.isSome ∧ optSourceTimestamp = none then .ok (.badInvalidArgument, access)
  else
    match access.getNode nodeId with
    | none => .ok (.badNodeIdUnknown, access)
    | some node =>
      let withStatus := optStatus.elim node (access.setStatusCode node)
      let withSourceTs := optSourceTimestamp.elim withStatus fun timestamp =>
        access.setSourceTs withStatus (newSourceTs now timestamp optSourcePicoSeconds)
      let written : Except Failure (Written Obj) :=
        match optNumRange with
        | none => .ok (writeWhole copyObj node.value value)
        | some range => writeRange copyObj node.value value range
      written.map fun written =>
        finishWrite copyObj access now nodeId withSourceTs written (access.getStatusCode node)
          (access.getSourceTs now node)

end

end

/-! ## What a failed write leaves -/

variable (access : AddressSpaceAccess Obj)

/-- The value of a node, its status and its source timestamp. -/
def AddressSpaceAccess.content (nodeId : NodeId) :
    Option (Variant Obj × UInt32 × ValueTimestamp) :=
  (access.getNode nodeId).map fun node => (node.value.value, node.valueStatus, node.valueSourceTs)

/-- A write that returns another code than Good leaves the content of the node as it was. -/
def KeepsOnFailure (nodeId : NodeId) (outcome : Except Failure (WriteCode × AddressSpaceAccess Obj)) :
    Prop :=
  ∀ code access', outcome = .ok (code, access') → code ≠ .good →
    access'.content nodeId = access.content nodeId

/-- Only the metadata of `node` was written in `node'`, and on nodes that are not read-only. -/
structure SameConstants (access : AddressSpaceAccess Obj) (node node' : ValueNode Obj) : Prop where
  status : access.readOnlyNodes = true → node'.valueStatus = node.valueStatus
  sourceTs : access.readOnlyNodes = true → node'.valueSourceTs = node.valueSourceTs

theorem SameConstants.refl (node : ValueNode Obj) :
    SameConstants access node node :=
  ⟨fun _ => rfl, fun _ => rfl⟩

open AddressSpaceAccess

section

variable {access : AddressSpaceAccess Obj}

section

variable {node node' : ValueNode Obj}

theorem SameConstants.setStatusCode (h : SameConstants access node node') (status : UInt32) :
    SameConstants access node (access.setStatusCode node' status) := by
  constructor <;> intro hro
  · simpa [AddressSpaceAccess.setStatusCode, hro] using h.status hro
  · simpa [AddressSpaceAccess.setStatusCode, hro] using h.sourceTs hro

theorem SameConstants.setSourceTs (h : SameConstants access node node') (ts : ValueTimestamp) :
    SameConstants access node (access.setSourceTs node' ts) := by
  constructor <;> intro hro
  · simpa [AddressSpaceAccess.setSourceTs, hro] using h.status hro
  · simpa [AddressSpaceAccess.setSourceTs, hro] using h.sourceTs hro

/-- The status and the timestamp that were read are those of the node once they are set back. -/
theorem content_restored
    (h : SameConstants access node node') (now : Int64) (nodeId : NodeId) (value : VariantCell Obj) :
    (access.putNode nodeId (access.setSourceTs
      (access.setStatusCode { node' with value := value } (access.getStatusCode node))
      (access.getSourceTs now node))).content nodeId =
      some (value.value, node.valueStatus, node.valueSourceTs) := by
  simp only [content, putNode]
  cases hro : access.readOnlyNodes with
  | true =>
    simp [setSourceTs, setStatusCode, hro, h.status hro,
      h.sourceTs hro]
  | false =>
    simp [setSourceTs, setStatusCode,
      getSourceTs, getStatusCode, hro]

end

end

section
variable {copyObj : Obj → Except Status Obj}

/-- Nothing prevents the write of a value to be recorded. -/
def Recordable (copyObj : Obj → Except Status Obj) (access : AddressSpaceAccess Obj)
    (nodeId : NodeId) (value : Variant Obj) : Prop :=
  access.recordOperations = true →
    (∃ id, nodeIdCopy nodeId = .ok id) ∧ ∃ copy, variantCopy copyObj value = .ok copy

/-- A write ends well once the value is written and recorded. -/
theorem finishWrite_good_iff {access : AddressSpaceAccess Obj} {now : Int64} {nodeId : NodeId}
    {node : ValueNode Obj} {written : Written Obj} {status : UInt32} {ts : ValueTimestamp} :
    (finishWrite copyObj access now nodeId node written status ts).1 = .good ↔
      written.code = .good ∧ Recordable copyObj access nodeId written.current.value := by
  obtain ⟨current, previous, code⟩ := written
  cases code with
  | good =>
    rcases hrecord : access.recordOperations with _ | _
    · simp [finishWrite, Recordable, hrecord]
    cases hid : nodeIdCopy nodeId <;> cases hcopy : variantCopy copyObj current.value <;>
      simp [finishWrite, Recordable, recordOperationWrite, hrecord, hid, hcopy]
  | _ => simp [finishWrite]

/-- A write that does not end well puts the value that was saved in the node. -/
theorem finishWrite_content {access : AddressSpaceAccess Obj} {now : Int64} {nodeId : NodeId}
    {node node' : ValueNode Obj} {written : Written Obj} (h : SameConstants access node node')
    (hbad : (finishWrite copyObj access now nodeId node' written (access.getStatusCode node)
      (access.getSourceTs now node)).1 ≠ .good) :
    (finishWrite copyObj access now nodeId node' written (access.getStatusCode node)
      (access.getSourceTs now node)).2.content nodeId =
      some (written.previous.value, node.valueStatus, node.valueSourceTs) := by
  have hrestored := content_restored h now nodeId written.previous
  obtain ⟨current, previous, code⟩ := written
  unfold finishWrite at hbad ⊢
  cases code with
  | good =>
    simp only at hbad ⊢
    split_ifs at hbad ⊢ with hrecord
    · split at hbad
      · exact absurd rfl hbad
      · exact hrestored
    · exact absurd rfl hbad
  | _ => exact hrestored

/-! ## When the value survives -/

theorem variantHasRange_null {range : NumericRange} {fullRange : Bool} :
    variantHasRange (Variant.null : Variant Obj) range fullRange ≠ .ok true := by
  match range with
  | [] => simp [variantHasRange]
  | [dim] => simp [variantHasRange, hasRangeArray]
  | _ :: _ :: _ => simp [variantHasRange, hasRangeMatrix]

/-- The write of `value` in a range of a node cannot lose the value of the node: there is none,
    or the range was found in it and the value is one that a copy reproduces, or one that has a
    copy and will not have to be restored. -/
def Restorable (copyObj : Obj → Except Status Obj) (access : AddressSpaceAccess Obj)
    (nodeId : NodeId) (current : VariantCell Obj) (value : Variant Obj) (range : NumericRange) :
    Prop :=
  current.value = .null ∨
    variantHasRange current.value range true = .ok true ∧
      (variantCopy copyObj current.value = .ok current.value ∨
        (∃ previous, variantCopy copyObj current.value = .ok previous) ∧
          (∀ s, (variantSetRange copyObj current value range).2 ≠ .error (.status s)) ∧
          ((variantSetRange copyObj current value range).2 = .ok () →
            Recordable copyObj access nodeId (variantSetRange copyObj current value range).1.value))

/-- The end of a write keeps the content of the node exactly if it ends well or has the value
    of the node saved. -/
theorem keepsOnFailure_finishWrite {access : AddressSpaceAccess Obj} {now : Int64} {nodeId : NodeId}
    {node node' : ValueNode Obj} {written : Written Obj} (hnode : access.getNode nodeId = some node)
    (h : SameConstants access node node') :
    KeepsOnFailure access nodeId (.ok (finishWrite copyObj access now nodeId node' written
        (access.getStatusCode node) (access.getSourceTs now node))) ↔
      (written.code = .good ∧ Recordable copyObj access nodeId written.current.value) ∨
        written.previous.value = node.value.value := by
  have hgood := @finishWrite_good_iff Obj copyObj access now nodeId node' written
    (access.getStatusCode node) (access.getSourceTs now node)
  have hcontent := @finishWrite_content Obj copyObj access now nodeId node node' written h
  have hbefore : access.content nodeId =
      some (node.value.value, node.valueStatus, node.valueSourceTs) := by
    simp [content, hnode]
  generalize finishWrite copyObj access now nodeId node' written (access.getStatusCode node)
    (access.getSourceTs now node) = outcome at hgood hcontent ⊢
  obtain ⟨code, after⟩ := outcome
  rw [← hgood]
  constructor
  · intro hkeeps
    by_cases hcode : code = .good
    · exact .inl hcode
    have hsame := hkeeps code after rfl hcode
    rw [hcontent hcode, hbefore] at hsame
    simp only [Option.some.injEq, Prod.mk.injEq, and_true] at hsame
    exact .inr hsame
  · rintro hor code' after' hout hbad
    cases hout
    rcases hor with hcode | hprevious
    · exact absurd hcode hbad
    · rw [hcontent hbad, hbefore, hprevious]

/-- The value that a write in a range saves is the value of the node, or it is not needed,
    exactly if the write is restorable. -/
theorem writeRange_saves_iff {access : AddressSpaceAccess Obj} {nodeId : NodeId}
    {current : VariantCell Obj} {value : Variant Obj} {range : NumericRange} :
    (∀ written, writeRange copyObj current value range = .ok written →
      (written.code = .good ∧ Recordable copyObj access nodeId written.current.value) ∨
        written.previous.value = current.value) ↔
      Restorable copyObj access nodeId current value range := by
  unfold writeRange Restorable
  rcases hrange : variantHasRange current.value range true with e | found
  · -- the only failure of the test of a range is a status
    match range with
    | [] => cases hrange; simp [nullCell, eq_comm]
    | [_] => cases hrange
    | _ :: _ :: _ => cases hrange
  rcases found with _ | _
  · simp [nullCell, eq_comm]
  have hnull : current.value ≠ .null := fun h => variantHasRange_null (h ▸ hrange)
  rcases hcopy : variantCopy copyObj current.value with e | previous
  · simp [nullCell, hnull, hnull.symm]
  rcases hset : variantSetRange copyObj current value range with ⟨current', result⟩
  match result with
  | .ok () => simp [hnull, or_comm]
  | .error (.status s) => simp [hnull]
  | .error .assertion => simp [hnull]
  | .error .undefined => simp [hnull]
  | .error .overlaid => simp [hnull]

/-- A write that fails leaves the value, its status and its source timestamp as they were,
    exactly if the arguments are refused at once, or the whole value is written, or the write in
    a range is restorable. -/
theorem writeValue_keeps_on_failure_iff (copyObj : Obj → Except Status Obj)
    (access : AddressSpaceAccess Obj) (now : Int64) (nodeId : NodeId)
    (optNumRange : Option NumericRange) (value : Variant Obj) (optStatus : Option UInt32)
    (optSourceTimestamp : Option Int64) (optSourcePicoSeconds : Option UInt16) :
    KeepsOnFailure access nodeId (writeValue copyObj access now nodeId optNumRange value optStatus
        optSourceTimestamp optSourcePicoSeconds) ↔
      (optSourcePicoSeconds.isSome ∧ optSourceTimestamp = none) ∨
        ∀ node range, access.getNode nodeId = some node → optNumRange = some range →
          Restorable copyObj access nodeId node.value value range := by
  unfold writeValue
  by_cases hargs : optSourcePicoSeconds.isSome ∧ optSourceTimestamp = none
  · rw [if_pos hargs]
    refine iff_of_true ?_ (.inl hargs)
    rintro code access' hout -
    cases hout
    rfl
  rw [if_neg hargs]
  rcases hnode : access.getNode nodeId with _ | node
  · refine iff_of_true ?_ (.inr fun node range h => nomatch h)
    rintro code access' hout -
    cases hout
    rfl
  -- The metadata written before the value
  have hstatus : SameConstants access node (optStatus.elim node (access.setStatusCode node)) := by
    cases optStatus with
    | none => exact .refl access node
    | some status => exact (SameConstants.refl access node).setStatusCode status
  have hsource : SameConstants access node (optSourceTimestamp.elim
      (optStatus.elim node (access.setStatusCode node)) fun timestamp =>
      access.setSourceTs (optStatus.elim node (access.setStatusCode node))
        (newSourceTs now timestamp optSourcePicoSeconds)) := by
    cases optSourceTimestamp with
    | none => exact hstatus
    | some timestamp => exact hstatus.setSourceTs _
  rcases optNumRange with _ | range
  · have hprevious : (writeWhole copyObj node.value value).previous = node.value := by
      unfold writeWhole
      split <;> rfl
    refine iff_of_true ?_ (.inr fun node range _ h => nomatch h)
    exact (keepsOnFailure_finishWrite hnode hsource).2 (.inr (by rw [hprevious]))
  rw [or_iff_right hargs]
  have hiff := @writeRange_saves_iff Obj copyObj access nodeId node.value value range
  have hall : (∀ node' range', some node = some node' → some range = some range' →
      Restorable copyObj access nodeId node'.value value range') ↔
      Restorable copyObj access nodeId node.value value range := by
    constructor
    · intro h
      exact h node range rfl rfl
    · rintro h _ _ ⟨⟩ ⟨⟩
      exact h
  rw [hall, ← hiff]
  dsimp only
  rcases hwritten : writeRange copyObj node.value value range with stop | written
  · refine iff_of_true ?_ (fun _ h => nomatch h)
    rintro code access' hout -
    cases hout
  simp only [Except.ok.injEq, forall_eq']
  exact keepsOnFailure_finishWrite hnode hsource

/-! ## A value that is lost -/

/-- Three numbers, in the node of every identifier. -/
def threeNumbers : AddressSpaceAccess Empty where
  readOnlyNodes := false
  getNode := fun _ => some
    ⟨⟨.array .int32 3 fun i => .flat (.int32 (Int32.ofNat (i.val + 1))), false⟩, 0, ⟨7, 0⟩⟩
  recordOperations := false
  operations := []

/-- One number written at the index 5, which is beyond the end. -/
def writeBeyondEnd : Except Failure (WriteCode × AddressSpaceAccess Empty) :=
  writeValue (fun o => nomatch o) threeNumbers 9 ⟨0, .numeric 1⟩ (some [⟨5, 5, by decide⟩])
    (.array .int32 1 fun _ => .flat (.int32 4)) none none none

/-- The write is refused with `OpcUa_BadIndexRangeNoData`, and the three numbers are lost. -/
theorem value_is_lost_beyond_end :
    ¬ KeepsOnFailure threeNumbers ⟨0, .numeric 1⟩ writeBeyondEnd := by
  intro hkeeps
  obtain ⟨after, hout, hlost⟩ : ∃ after, writeBeyondEnd = .ok (.badIndexRangeNoData, after) ∧
      after.content ⟨0, .numeric 1⟩ = some (.null, 0, ⟨7, 0⟩) :=
    ⟨_, rfl, rfl⟩
  have hsame := hkeeps _ _ hout (by decide)
  rw [hlost] at hsame
  cases hsame

/-! ## Reading back what was written -/

/-- The status codes other than Good returned by the read of a value. -/
inductive ReadCode where
  | badNodeIdUnknown
  | badInternalError
  | badIndexRangeInvalid
  | badIndexRangeNoData
  deriving DecidableEq, Repr

/-- The `SOPC_DataValue` that is read, in which the server timestamp is not set. -/
structure ReadData (Obj : Type) where
  value : RangeResult Obj
  status : UInt32
  sourceTimestamp : Int64
  sourcePicoSeconds : UInt16
  serverPicoSeconds : UInt16

/-- `SOPC_AddressSpaceAccess_ReadValue`, at a given time. -/
def readValue (copyObj : Obj → Except Status Obj) (now : Int64) (nodeId : NodeId)
    (optNumRange : Option NumericRange) : Except Failure (Except ReadCode (ReadData Obj)) :=
  match access.getNode nodeId with
  | none => .ok (.error .badNodeIdUnknown)
  | some node =>
    let src := node.value.value
    let sourceTs := access.getSourceTs now node
    -- The picoseconds of the source go to the field of those of the server
    let dv value : ReadData Obj :=
      ⟨value, access.getStatusCode node, sourceTs.timestamp, 0, sourceTs.picoSeconds⟩
    match optNumRange with
    | none =>
      match variantCopy copyObj src with
      | .ok copy => .ok (.ok (dv (.variant copy)))
      | .error _ => .ok (.error .badInternalError)
    | some range =>
      match variantHasRange src range false with
      | .error (.status _) => .ok (.error .badIndexRangeInvalid)
      | .error stop => .error stop
      | .ok false => .ok (.error .badIndexRangeNoData)
      | .ok true =>
        match variantGetRange copyObj src range with
        | .ok value => .ok (.ok (dv value))
        | .error (.status _) => .ok (.error .badInternalError)
        | .error stop => .error stop

/-- What the end of a write leaves when it ends well. -/
theorem finishWrite_eq_good {access after : AddressSpaceAccess Obj} {now : Int64} {nodeId : NodeId}
    {node : ValueNode Obj} {written : Written Obj} {status : UInt32} {ts : ValueTimestamp}
    (h : finishWrite copyObj access now nodeId node written status ts = (.good, after)) :
    written.code = .good ∧ after.readOnlyNodes = access.readOnlyNodes ∧
      after.getNode nodeId = some { node with value := written.current } := by
  have hcode := (finishWrite_good_iff.1 (congrArg Prod.fst h)).1
  refine ⟨hcode, ?_⟩
  unfold finishWrite at h
  rw [hcode] at h
  dsimp only at h
  split_ifs at h
  · split at h <;> cases h
    exact ⟨rfl, Function.update_self ..⟩
  · cases h
    exact ⟨rfl, Function.update_self ..⟩

/-- A whole value that was written with all its metadata is read back with them exactly if there
    are no picoseconds, two copies of the value give the value, and the metadata are kept: on
    read-only nodes those that are read anyway, on others any but a timestamp of 0, in place of
    which the time of the write is kept. -/
theorem readValue_writeValue_iff (copyObj : Obj → Except Status Obj)
    (access after : AddressSpaceAccess Obj) (now later : Int64) (nodeId : NodeId)
    (value : Variant Obj) (status : UInt32) (timestamp : Int64) (picoSeconds : UInt16)
    (hwrite : writeValue copyObj access now nodeId none value (some status) (some timestamp)
      (some picoSeconds) = .ok (.good, after)) :
    (∃ server, readValue after copyObj later nodeId none =
        .ok (.ok ⟨.variant value, status, timestamp, picoSeconds, server⟩)) ↔
      picoSeconds = 0 ∧
        (∃ copy, variantCopy copyObj value = .ok copy ∧ variantCopy copyObj copy = .ok value) ∧
        if access.readOnlyNodes then status = 0 ∧ timestamp = later
        else timestamp ≠ 0 ∨ now = 0 := by
  unfold writeValue at hwrite
  rcases hnode : access.getNode nodeId with _ | node
  · simp [hnode] at hwrite
  simp only [hnode, reduceCtorEq, and_false, if_false, Except.map, Except.ok.injEq] at hwrite
  obtain ⟨hcode, hro, hafter⟩ := finishWrite_eq_good hwrite
  rcases hcopy : variantCopy copyObj value with e | copy
  · simp [writeWhole, hcopy] at hcode
  simp only [writeWhole, hcopy] at hafter
  unfold readValue
  rcases hagain : variantCopy copyObj copy with e | again
  · simp [hafter, hagain]
  simp only [AddressSpaceAccess.getStatusCode, AddressSpaceAccess.getSourceTs, hro, hafter,
    hagain, Option.elim_some]
  cases hkept : access.readOnlyNodes with
  | true =>
    simp [hagain]
    tauto
  | false =>
    simp [AddressSpaceAccess.setStatusCode, AddressSpaceAccess.setSourceTs, newSourceTs, hkept]
    -- The time of the write is in place of a timestamp of 0
    by_cases hzero : timestamp = 0 <;> grind

/-- The write and the read of a number, with the time of the write as its source timestamp. -/
theorem readValue_writeValue_number : ∃ after,
    writeValue (fun o => nomatch o) threeNumbers 9 ⟨0, .numeric 1⟩ none
      (.single (.flat (.int32 4))) (some 0) (some 8) (some 0) = .ok (.good, after) ∧
    ∃ server, readValue after (fun o => nomatch o) 10 ⟨0, .numeric 1⟩ none =
      .ok (.ok ⟨.variant (.single (.flat (.int32 4))), 0, 8, 0, server⟩) :=
  ⟨_, rfl, (readValue_writeValue_iff _ threeNumbers _ 9 10 _ _ 0 8 0 rfl).2
    ⟨rfl, ⟨_, rfl, rfl⟩, by decide⟩⟩

/-- Five picoseconds that were written are not read back. -/
theorem picoSeconds_not_read_back : ∃ after,
    writeValue (fun o => nomatch o) threeNumbers 9 ⟨0, .numeric 1⟩ none
      (.single (.flat (.int32 4))) (some 0) (some 8) (some 5) = .ok (.good, after) ∧
    readValue after (fun o => nomatch o) 10 ⟨0, .numeric 1⟩ none =
      .ok (.ok ⟨.variant (.single (.flat (.int32 4))), 0, 8, 0, 5⟩) :=
  ⟨_, rfl, rfl⟩

end

end S2opc.AddressSpace
