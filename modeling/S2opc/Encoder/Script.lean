/-
The writes the encoder does, as scripts.

Each Write function of the source gets its script: the calls of
`SOPC_Buffer_Write` it makes, in order, and where it gives up.  A function
`Follows` its script if it ends as the script does, with the same buffer if it
ends well.  The script says more than the function's model: what the buffer
holds after a failure, and how large each write is.
-/
import S2opc.Encoder.Variant
import S2opc.Lib.WriteScript

namespace S2opc.Encoder

open BuiltinTypes Lib.Bytes Lib.ByteCodec Lib.WriteScript

/-! ## Outcomes -/

/-- How a function of the source ends, whatever the status of a failure. -/
def outcome {α : Type} : Except Status α → Outcome α
  | .ok a => .done a
  | .error .undefinedBehaviour => .undefined
  | .error _ => .failed

section
variable {α β : Type}

@[simp] theorem outcome_ok (a : α) : outcome (.ok a) = .done a := rfl

theorem outcome_bind (c : Codec Status α) (f : α → Codec Status β) (b : Buffer) :
    outcome ((c >>= f) b) = (outcome (c b)).bind fun r => outcome (f r.1 r.2) := by
  change outcome (c b >>= fun r => f r.1 r.2) = _
  cases c b with
  | ok r => rfl
  | error e => cases e <;> rfl

theorem outcome_mapError_write (c : Codec Status α) (b : Buffer) :
    outcome (mapError writeStatus c b) = outcome (c b) := by
  unfold mapError
  cases c b with
  | ok r => rfl
  | error e => cases e <;> rfl

end

/-! ## Following a script -/

/-- How a script ends, with the buffer if it ends well. -/
def effect (r : Buffer × Outcome Unit) : Outcome (Unit × Buffer) :=
  r.2.bind fun _ => .done ((), r.1)

/-- A Write function ends as a script does. -/
def Follows (w : Writer) (s : Script) : Prop := ∀ b, outcome (w b) = effect (s.run b)

variable (room : Nat)

/-- A script behind the test on the nesting level. -/
def nestedScript (body : Nat → Script) : Script :=
  match room with
  | 0 => .fail
  | room + 1 => body room

namespace Follows

variable {w w' : Writer} {s s' : Script}

theorem pure : Follows (Pure.pure ()) .done := fun _ => rfl

theorem throw {e : Status} (he : e ≠ .undefinedBehaviour) : Follows (MonadExcept.throw e) .fail := by
  intro b
  show outcome (.error e) = _
  cases e <;> first | rfl | exact absurd rfl he

theorem throw_undefined : Follows (MonadExcept.throw .undefinedBehaviour) .undefined := fun _ => rfl

theorem bind (h : Follows w s) (h' : Follows w' s') :
    Follows (w >>= fun _ => w') (s.append s') := by
  intro b
  rw [outcome_bind, h b, Script.run_append]
  generalize s.run b = r
  obtain ⟨b', o⟩ := r
  cases o with
  | done u => exact h' b'
  | failed => rfl
  | undefined => rfl

theorem bufferWrite (bytes : List UInt8) : Follows (bufferWrite bytes) (.write bytes .done) := by
  intro b
  rw [Script.run, Script.putting, put, Encoder.bufferWrite]
  by_cases hle : (b.position + bytes.length) % 2 ^ 32 ≤ b.maximumSize.toNat
  · rw [if_pos hle, if_pos hle]
    cases b.write bytes <;> rfl
  · rw [if_neg hle, if_neg hle]
    rfl

/-- Bytes that are lost leave no trace. -/
theorem losing (h : Follows w s) (bytes : List UInt8) : Follows w (s.append (.loseAll bytes)) := by
  intro b
  rw [h b, Script.run_append]
  generalize s.run b = r
  obtain ⟨b', o⟩ := r
  cases o with
  | done u => rw [Script.follow_done, Script.run_loseAll]
  | failed => rfl
  | undefined => rfl

theorem mapError (h : Follows w s) : Follows (S2opc.Lib.ByteCodec.mapError writeStatus w) s := by
  intro b
  rw [outcome_mapError_write, h b]

theorem nested {room : Nat} {w : Nat → Writer} {s : Nat → Script} (h : ∀ room, Follows (w room) (s room)) :
    Follows (Encoder.nested room w) (nestedScript room s) := by
  cases room with
  | zero => exact throw (by decide)
  | succ room => exact h room

variable {p : Prop}

theorem writeIf [Decidable p] (h : Follows w s) :
    Follows (S2opc.Lib.ByteCodec.writeIf p w) (.when p s) := by
  unfold S2opc.Lib.ByteCodec.writeIf Script.when
  by_cases hp : p
  · rw [if_pos hp, if_pos hp]
    exact h
  · rw [if_neg hp, if_neg hp]
    exact pure

theorem ite [Decidable p] (h : Follows w s) (h' : Follows w' s') :
    Follows (if p then w else w') (if p then s else s') := by
  by_cases hp : p
  · rw [if_pos hp, if_pos hp]
    exact h
  · rw [if_neg hp, if_neg hp]
    exact h'

theorem each {n : Nat} {w : Fin n → Writer} {s : Fin n → Script} (h : ∀ i, Follows (w i) (s i)) :
    Follows (writeEach n w) (.each n s) := by
  induction n with
  | zero => exact pure
  | succ n ih => exact (h 0).bind (ih fun i => h i.succ)

end Follows

/-! ## Numbers and strings -/

/-- A number. -/
def scalarScript {α : Type} (s : Scalar α) (room : Nat) (value : α) : Script :=
  nestedScript room fun _ => .write (s.bytes value) .done

theorem scalar_follows {α : Type} (s : Scalar α) (room : Nat) (value : α) :
    Follows (scalarWrite s room value) (scalarScript s room value) :=
  Follows.nested fun _ => (Follows.bufferWrite _).mapError

/-- `SOPC_Boolean_Write`. -/
def booleanScript (value : UInt8) : Script :=
  nestedScript room fun room => scalarScript .uint8 room (if value = 0 then value else 1)

/-- `SOPC_DateTime_Write`. -/
def dateTimeScript (date : Int64) : Script :=
  nestedScript room fun room => scalarScript .int64 room date

variable (str : SopcString)

/-- `SOPC_String_Write`, also `SOPC_ByteString_Write` and `SOPC_XmlElement_Write`. -/
def stringScript : Script :=
  nestedScript room fun room =>
    (scalarScript .int32 room (writtenLength str)).append
      (.when (0 < str.length) (.write str.data .done))

theorem boolean_follows (value : UInt8) :
    Follows (booleanWrite room value) (booleanScript room value) :=
  .nested fun room => scalar_follows .uint8 room _

theorem dateTime_follows (date : Int64) :
    Follows (dateTimeWrite room date) (dateTimeScript room date) :=
  .nested fun room => scalar_follows .int64 room date

theorem string_follows :
    Follows (stringWrite room str) (stringScript room str) :=
  .nested fun room =>
    (scalar_follows .int32 room _).bind ((Follows.bufferWrite _).mapError.writeIf)

theorem byteString_follows :
    Follows (byteStringWrite room str) (stringScript room str) :=
  .nested fun room =>
    (scalar_follows .int32 room _).mapError.bind ((Follows.bufferWrite _).mapError.writeIf)

/-- `SOPC_Guid_Write`. -/
def guidScript (guid : Guid) : Script :=
  nestedScript room fun room =>
    (scalarScript .uint32 room guid.data1).append
      ((scalarScript .uint16 room guid.data2).append
        ((scalarScript .uint16 room guid.data3).append (.write guid.data4.toList .done)))

theorem guid_follows (guid : Guid) :
    Follows (guidWrite room guid) (guidScript room guid) :=
  .nested fun room => .mapError
    ((scalar_follows .uint32 room _).bind ((scalar_follows .uint16 room _).bind
      ((scalar_follows .uint16 room _).bind (.bufferWrite _))))

/-! ## NodeIds -/

variable (encodingByte : UInt8)

variable (nodeId : NodeId)

/-- The fields of a NodeId after its encoding byte. -/
def nodeIdDataScript (room : Nat) : Script :=
  match nodeId.data with
  | .numeric n =>
    if encodingByte &&& 0x0F = 0x00 then scalarScript .uint8 room n.toUInt8
    else if encodingByte &&& 0x0F = 0x01 then
      (scalarScript .uint8 room nodeId.namespaceIndex.toUInt8).append
        (scalarScript .uint16 room n.toUInt16)
    else (scalarScript .uint16 room nodeId.namespaceIndex).append (scalarScript .uint32 room n)
  | .string s => (scalarScript .uint16 room nodeId.namespaceIndex).append (stringScript room s)
  | .guid none => (scalarScript .uint16 room nodeId.namespaceIndex).append .fail
  | .guid (some g) => (scalarScript .uint16 room nodeId.namespaceIndex).append (guidScript room g)
  | .byteString s => (scalarScript .uint16 room nodeId.namespaceIndex).append (stringScript room s)

/-- `Internal_NodeId_Write`. -/
def internalNodeIdScript (room : Nat) : Script :=
  (scalarScript .uint8 room encodingByte).append (nodeIdDataScript encodingByte nodeId room)

/-- `SOPC_NodeId_Write`. -/
def nodeIdScript : Script :=
  nestedScript room (internalNodeIdScript (getNodeIdDataEncoding nodeId) nodeId)

/-- `SOPC_ExpandedNodeId_Write`. -/
def expandedNodeIdScript (expNodeId : ExpandedNodeId) : Script :=
  nestedScript room fun room =>
    (internalNodeIdScript (expandedEncodingByte expNodeId) expNodeId.nodeId room).append
      ((Script.when (0 < expNodeId.namespaceUri.length)
        (stringScript room expNodeId.namespaceUri)).append
          (.when (0 < expNodeId.serverIndex) (scalarScript .uint32 room expNodeId.serverIndex)))

theorem internalNodeId_follows (room : Nat) :
    Follows (internalNodeIdWrite encodingByte nodeId room)
      (internalNodeIdScript encodingByte nodeId room) := by
  obtain ⟨ns, data⟩ := nodeId
  refine (scalar_follows .uint8 room encodingByte).bind ?_
  cases data with
  | numeric n =>
    refine .ite (scalar_follows .uint8 room _) (.ite ?_ ?_)
    · exact (scalar_follows .uint8 room _).bind (scalar_follows .uint16 room _)
    · exact (scalar_follows .uint16 room ns).bind (scalar_follows .uint32 room n)
  | string s => exact (scalar_follows .uint16 room ns).bind (string_follows room s)
  | guid g =>
    cases g with
    | none => exact (scalar_follows .uint16 room ns).bind (.throw (by decide))
    | some g => exact (scalar_follows .uint16 room ns).bind (guid_follows room g)
  | byteString s => exact (scalar_follows .uint16 room ns).bind (byteString_follows room s)

theorem nodeId_follows :
    Follows (nodeIdWrite room nodeId) (nodeIdScript room nodeId) :=
  .nested fun room => internalNodeId_follows _ nodeId room

theorem expandedNodeId_follows (e : ExpandedNodeId) :
    Follows (expandedNodeIdWrite room e) (expandedNodeIdScript room e) :=
  .nested fun room => (internalNodeId_follows _ _ room).bind
    ((string_follows room _).writeIf.bind (scalar_follows .uint32 room _).writeIf)

/-! ## Names, texts and diagnostic information -/

/-- `SOPC_QualifiedName_Write`. -/
def qualifiedNameScript (qname : QualifiedName) : Script :=
  nestedScript room fun room =>
    (scalarScript .uint16 room qname.namespaceIndex).append (stringScript room qname.name)

/-- `SOPC_LocalizedText_Write`. -/
def localizedTextScript (ltext : LocalizedText) : Script :=
  nestedScript room fun room =>
    (scalarScript .uint8 room (getLocalizedTextEncodingByte ltext)).append
      ((Script.when (getLocalizedTextEncodingByte ltext &&& 0x01 ≠ 0)
        (stringScript room ltext.defaultLocale)).append
        (.when (getLocalizedTextEncodingByte ltext &&& 0x02 ≠ 0)
          (stringScript room ltext.defaultText)))

theorem qualifiedName_follows (q : QualifiedName) :
    Follows (qualifiedNameWrite room q) (qualifiedNameScript room q) :=
  .nested fun room => (scalar_follows .uint16 room _).bind (string_follows room _)

theorem localizedText_follows (t : LocalizedText) :
    Follows (localizedTextWrite room t) (localizedTextScript room t) :=
  .nested fun room => (scalar_follows .uint8 room _).bind
    ((string_follows room _).writeIf.bind (string_follows room _).writeIf)

section
variable (cst : EncodingConstants)

/-- The fields of one level in `SOPC_DiagnosticInfo_Write_Internal`. -/
def diagnosticLevelScript (d : DiagnosticLevel) (inner : Bool) : Script :=
  let room := cst.maxNestedStruct.toNat
  let encodingByte := getDiagInfoEncodingByte d inner
  (scalarScript .uint8 room encodingByte).append <|
    (Script.when (encodingByte &&& 0x01 ≠ 0) (scalarScript .int32 room d.symbolicId)).append <|
    (Script.when (encodingByte &&& 0x02 ≠ 0) (scalarScript .int32 room d.namespaceUri)).append <|
    (Script.when (encodingByte &&& 0x08 ≠ 0) (scalarScript .int32 room d.locale)).append <|
    (Script.when (encodingByte &&& 0x04 ≠ 0) (scalarScript .int32 room d.localizedText)).append <|
    (Script.when (encodingByte &&& 0x10 ≠ 0) (stringScript room d.additionalInfo)).append <|
    Script.when (encodingByte &&& 0x20 ≠ 0) (scalarScript .uint32 room d.innerStatusCode)

/-- `SOPC_DiagnosticInfo_Write_Internal`. -/
def diagnosticInfoScriptInternal : Nat → DiagnosticInfo → Script
  | _, .leaf d => diagnosticLevelScript cst d false
  | left, .nest d inner =>
    (diagnosticLevelScript cst d true).append
      (match left with
      | 0 => .fail
      | left + 1 => diagnosticInfoScriptInternal left inner)

/-- `SOPC_DiagnosticInfo_Write`. -/
def diagnosticInfoScript (room : Nat) (diagInfo : DiagnosticInfo) : Script :=
  nestedScript room fun _ => diagnosticInfoScriptInternal cst cst.maxNestedDiagInfo.toNat diagInfo

theorem diagnosticLevel_follows (d : DiagnosticLevel) (inner : Bool) :
    Follows (diagnosticLevelWrite cst d inner) (diagnosticLevelScript cst d inner) :=
  (scalar_follows .uint8 _ _).bind <| (scalar_follows .int32 _ _).writeIf.bind <|
    (scalar_follows .int32 _ _).writeIf.bind <| (scalar_follows .int32 _ _).writeIf.bind <|
    (scalar_follows .int32 _ _).writeIf.bind <| (string_follows _ _).writeIf.bind
    (scalar_follows .uint32 _ _).writeIf

theorem diagnosticInfoInternal_follows (left : Nat) (d : DiagnosticInfo) :
    Follows (diagnosticInfoWriteInternal cst left d) (diagnosticInfoScriptInternal cst left d) := by
  induction d generalizing left with
  | leaf d =>
    cases left with
    | _ => exact diagnosticLevel_follows cst d false
  | nest d inner ih =>
    cases left with
    | zero => exact (diagnosticLevel_follows cst d true).bind (.throw (by decide))
    | succ left => exact (diagnosticLevel_follows cst d true).bind (ih left)

end

/-! ## Extension objects -/

variable {b b' : Buffer} {bytes : List UInt8}

theorem bufferWrite_of_write (h : b.write bytes = some b') :
    bufferWrite bytes b = .ok ((), b') := by
  have hle := (Buffer.write_eq_some.1 h).1
  have hmax := b.maximumSize.toNat_lt
  rw [bufferWrite, if_pos (by rw [Nat.mod_eq_of_lt (by omega)]; exact hle), h]

variable {e : Status}

theorem seekTo_of_seek {p : Nat} (h : b.seek p = some b') :
    seekTo e p b = .ok ((), b') := by
  rw [seekTo, h]

/-- A field is written over its placeholder. -/
theorem overwrite_follows {start : Nat} (h : Script.overwrite b start bytes = some b') :
    (seekTo e start >>= fun _ => mapError writeStatus (bufferWrite bytes) >>= fun _ =>
      seekTo e b.position : Writer) b = .ok ((), b') := by
  obtain ⟨s₁, hs₁, hrest⟩ := Option.bind_eq_some_iff.1 h
  obtain ⟨s₂, hs₂, hs₃⟩ := Option.bind_eq_some_iff.1 hrest
  rw [bind_ok (seekTo_of_seek hs₁), bind_ok (mapError_eq_ok.2 (bufferWrite_of_write hs₂)),
    seekTo_of_seek hs₃]

/-- A body with its length patched in. -/
theorem Follows.backPatch {placeholder : List UInt8} {body : Writer} {s : Script}
    {field : Nat → Option (List UInt8)}
    (hfield : ∀ n bytes, field n = some bytes → bytes.length = placeholder.length)
    (h : Follows body s) :
    Follows (S2opc.Lib.ByteCodec.backPatch e
        (S2opc.Lib.ByteCodec.mapError writeStatus (Encoder.bufferWrite placeholder)) body
        fun n => (field n).map fun bytes =>
          S2opc.Lib.ByteCodec.mapError writeStatus (Encoder.bufferWrite bytes))
      (.patch placeholder s field hfield .done) := by
  intro b
  rw [Script.run, S2opc.Lib.ByteCodec.backPatch, get_bind]
  rcases Script.putting_cases b placeholder with ⟨b₁, hw, heq⟩ | ⟨hw, hlt, heq⟩ | ⟨hw, hle, heq⟩
  · rw [heq, bind_ok (mapError_eq_ok.2 (bufferWrite_of_write hw)), get_bind, outcome_bind, h b₁]
    have hg := Script.run_grows s b₁
    rw [Script.follow_done]
    generalize s.run b₁ = r at hg ⊢
    obtain ⟨b₂, o⟩ := r
    cases o with
    | failed => rfl
    | undefined => rfl
    | done u =>
      rw [show effect (b₂, Outcome.done u) = .done ((), b₂) from rfl, Outcome.done_bind,
        get_bind, Script.follow_done]
      rcases hf : field (b₂.position - b₁.position) with _ | bytes
      · rfl
      obtain ⟨b₃, hover, -⟩ := Script.overwrite_eq_some
        (Script.placeholder_fits (hfield _ bytes hf) hw hg)
      rw [Script.patching, hover]
      exact congrArg outcome (overwrite_follows hover)
  · rw [heq, outcome_bind, outcome_mapError_write, Follows.bufferWrite placeholder b, Script.run, heq]
    rfl
  · rw [heq, outcome_bind, outcome_mapError_write, Follows.bufferWrite placeholder b, Script.run, heq]
    rfl

variable {id : BuiltinId}

section
variable {Obj : Type}

/-- The scripts of the Encode functions of a codec. -/
structure ObjectCodec.Scripts (objs : ObjectCodec Obj) where
  script : Nat → Obj → Script
  follows : ∀ room o, Follows (objs.encode room o) (script room o)

/-- The length of an object, if it has one. -/
def lengthField (length : Nat) : Option (List UInt8) :=
  if length ≤ 2147483647 then some (Scalar.int32.bytes (Int32.ofNat length)) else none

theorem length_lengthField (n : Nat) (bytes : List UInt8) (h : lengthField n = some bytes) :
    bytes.length = (Scalar.int32.bytes (-1)).length := by
  unfold lengthField at h
  split_ifs at h
  cases h
  rw [Scalar.length_bytes, Scalar.length_bytes]

variable (cst : EncodingConstants) {objs : ObjectCodec Obj} (scripts : objs.Scripts) (room : Nat)

/-- The body of an extension object. -/
def extObjectBodyScript : ExtObjectBody Obj → Script
  | .none => .done
  | .byteString s => stringScript room s
  | .xmlElement s => stringScript room s
  | .object o => nestedScript room fun _ =>
    .patch (Scalar.int32.bytes (-1)) (scripts.script room o) lengthField length_lengthField .done

/-- `SOPC_ExtensionObject_Write`. -/
def extensionObjectScript (extObj : ExtensionObject Obj) : Script :=
  nestedScript room fun room =>
    (nodeIdScript room (writtenTypeId objs extObj)).append
      ((scalarScript .uint8 room (bodyEncodingByte extObj.body)).append
        (extObjectBodyScript scripts room extObj.body))

theorem object_follows (o : Obj) :
    Follows (backPatch .invalidParameters (int32Write room (-1)) (objs.encode room o) fun length =>
        if length ≤ 2147483647 then some (int32Write room (Int32.ofNat length)) else none)
      (extObjectBodyScript scripts room (.object o)) := by
  rcases room with _ | room
  · exact fun b => rfl
  have hfield : (fun length => if length ≤ 2147483647 then
      some (int32Write (room + 1) (Int32.ofNat length)) else none) =
      fun n => (lengthField n).map fun bytes => mapError writeStatus (bufferWrite bytes) := by
    funext n
    unfold lengthField
    split_ifs <;> rfl
  rw [hfield]
  exact .backPatch length_lengthField (scripts.follows (room + 1) o)

theorem extensionObject_follows (e : ExtensionObject Obj) :
    Follows (extensionObjectWrite objs room e) (extensionObjectScript scripts room e) := by
  refine .nested fun room => (nodeId_follows room _).bind
    ((scalar_follows .uint8 room _).bind ?_)
  cases e.body with
  | none => exact .pure
  | byteString s => exact byteString_follows room s
  | xmlElement s => exact byteString_follows room s
  | object o => exact object_follows scripts room o

/-! ## Values of the built-in types -/

/-- The Write function of a built-in type. -/
def flatScript {id : BuiltinId} : FlatValue Obj id → Script
  | .boolean v => booleanScript room v
  | .sByte v => scalarScript .int8 room v
  | .byte v => scalarScript .uint8 room v
  | .int16 v => scalarScript .int16 room v
  | .uint16 v => scalarScript .uint16 room v
  | .int32 v => scalarScript .int32 room v
  | .uint32 v => scalarScript .uint32 room v
  | .int64 v => scalarScript .int64 room v
  | .uint64 v => scalarScript .uint64 room v
  | .float v => scalarScript .uint32 room (normalizeFloat v)
  | .double v => scalarScript .uint64 room (normalizeDouble v)
  | .string v => stringScript room v
  | .dateTime v => dateTimeScript room v
  | .guid v => guidScript room v
  | .byteString v => stringScript room v
  | .xmlElement v => stringScript room v
  | .nodeId v => nodeIdScript room v
  | .expandedNodeId v => expandedNodeIdScript room v
  | .statusCode v => scalarScript .uint32 room v
  | .qualifiedName v => qualifiedNameScript room v
  | .localizedText v => localizedTextScript room v
  | .extensionObject v => extensionObjectScript scripts room v
  | .diagnosticInfo v => diagnosticInfoScript cst room v

theorem flat_follows (v : FlatValue Obj id) :
    Follows (flatWrite cst objs room v) (flatScript cst scripts room v) := by
  cases v with
  | boolean v => exact boolean_follows room v
  | string v => exact string_follows room v
  | dateTime v => exact dateTime_follows room v
  | guid v => exact guid_follows room v
  | byteString v => exact byteString_follows room v
  | xmlElement v => exact byteString_follows room v
  | nodeId v => exact nodeId_follows room v
  | expandedNodeId v => exact expandedNodeId_follows room v
  | qualifiedName v => exact qualifiedName_follows room v
  | localizedText v => exact localizedText_follows room v
  | extensionObject v => exact extensionObject_follows scripts room v
  | diagnosticInfo v => exact .nested fun _ => diagnosticInfoInternal_follows cst _ v
  | _ => exact scalar_follows _ room _

variable (variantS : Variant Obj → Script)

/-- The Write function of an element, given those of variants and data values. -/
def elementScript (dataValueS : DataValue Obj → Script)
    {id : BuiltinId} : Builtin Obj id → Script
  | .flat v => flatScript cst scripts room v
  | .dataValue v => dataValueS v
  | .variant v => variantS v

/-- `WriteVariantArrayBuiltInType` below its nesting test.  The size of elements that are copied
    wraps around: the bytes beyond it are lost. -/
def variantArrayScript {id : BuiltinId} (elem : Builtin Obj id → Script) (array : ArrayValue Obj id) :
    Script :=
  if id = .null then .fail
  else (scalarScript .int32 room array.length).append <|
    match optimizableScalar id with
    | some s =>
      let size := array.length.toInt.toNat * s.width % 2 ^ 32
      .when (0 < array.length) (.write ((s.rawBytes array.content).take size)
        (.loseAll ((s.rawBytes array.content).drop size)))
    | none => .each _ fun i => elem (array.content i)

/-- The value of a variant. -/
def variantValueScript (single : {id : BuiltinId} → Builtin Obj id → Script)
    (array : {id : BuiltinId} → ArrayValue Obj id → Script) : Variant Obj → Script
  | .null => .done
  | @Variant.single _ id v => if id = .variant then .fail else single v
  | .array _ length content =>
    if length < -1 then .fail else array (clampedArray length content)
  | .matrix _ dimensions arrayDimensions content =>
    match h : checkedMatrixLength dimensions arrayDimensions with
    | none => .fail
    | some _ =>
      (array (matrixArray h content)).append ((scalarScript .int32 room dimensions).append
        (.each _ fun i => scalarScript .int32 room (arrayDimensions i)))

/-- The fields of a data value, given the variant. -/
def dataValueFieldsScript (v : DataValue Obj) :
    Script :=
  match v with
  | .mk value status sourceTimestamp serverTimestamp sourcePicoSeconds serverPicoSeconds =>
    let encodingMask := getDataValueEncodingMask v
    (scalarScript .uint8 room encodingMask).append <|
      (Script.when (encodingMask &&& 0x01 ≠ 0) (variantS value)).append <|
      (Script.when (encodingMask &&& 0x02 ≠ 0) (scalarScript .uint32 room status)).append <|
      (Script.when (encodingMask &&& 0x04 ≠ 0) (dateTimeScript room sourceTimestamp)).append <|
      (Script.when (encodingMask &&& 0x10 ≠ 0)
        (scalarScript .uint16 room sourcePicoSeconds)).append <|
      (Script.when (encodingMask &&& 0x08 ≠ 0) (dateTimeScript room serverTimestamp)).append <|
      Script.when (encodingMask &&& 0x20 ≠ 0) (scalarScript .uint16 room serverPicoSeconds)

mutual

/-- `SOPC_Variant_Write`, with `room` levels left. -/
def variantScriptAt : Nat → Variant Obj → Script
  | 0, _ => .fail
  | room + 1, v =>
    (scalarScript .uint8 room (getVariantEncodingMask v)).append <|
      variantValueScript room
        (fun b => elementScript cst scripts room (fun v => variantScriptAt room v)
          (fun v => dataValueScriptAt room v) b)
        (fun a =>
          match room with
          | 0 => .fail
          | room + 1 => variantArrayScript room (fun b =>
            elementScript cst scripts room (fun v => variantScriptAt room v)
              (fun v => dataValueScriptAt room v) b) a)
        v

/-- `SOPC_DataValue_Write`, with `room` levels left. -/
def dataValueScriptAt : Nat → DataValue Obj → Script
  | 0, _ => .fail
  | room + 1, v => dataValueFieldsScript room (fun v => variantScriptAt room v) v

end

variable {variantW : Variant Obj → Writer} {variantS : Variant Obj → Script}

theorem element_follows {dataValueW : DataValue Obj → Writer} {dataValueS : DataValue Obj → Script}
    (hvariant : ∀ v, Follows (variantW v) (variantS v))
    (hdataValue : ∀ v, Follows (dataValueW v) (dataValueS v)) (v : Builtin Obj id) :
    Follows (elementWrite cst objs room variantW dataValueW v)
      (elementScript cst scripts room variantS dataValueS v) := by
  cases v with
  | flat v => exact flat_follows cst scripts room v
  | dataValue v => exact hdataValue v
  | variant v => exact hvariant v

theorem variantArray_follows {elemW : Builtin Obj id → Writer} {elemS : Builtin Obj id → Script}
    (h : ∀ v, Follows (elemW v) (elemS v)) (a : ArrayValue Obj id) :
    Follows (variantArrayWrite room elemW a) (variantArrayScript room elemS a) := by
  refine .ite (.throw (by decide)) ?_
  cases optimizableScalar id with
  | some s =>
    exact (scalar_follows .int32 room _).bind ((Follows.bufferWrite _).losing _).writeIf
  | none => exact (scalar_follows .int32 room _).bind (.each fun i => h _)

section
variable (room : Nat) {single : {id : BuiltinId} → Builtin Obj id → Script}
  {array : {id : BuiltinId} → ArrayValue Obj id → Script} {id : BuiltinId} {d : Int32}
  {dims : Fin d.toInt.toNat → Int32} (content : Fin (matrixLength d dims) → Builtin Obj id)

theorem variantValueScript_matrix {m : Nat} (h : checkedMatrixLength d dims = some m) :
    variantValueScript room single array (.matrix id d dims content) =
      (array (matrixArray h content)).append ((scalarScript .int32 room d).append
        (.each _ fun i => scalarScript .int32 room (dims i))) := by
  simp only [variantValueScript]
  split
  · rename_i hnone
    cases h.symm.trans hnone
  rename_i m' hsome
  cases h.symm.trans hsome
  rfl

end

theorem variantValue_follows {singleW : {id : BuiltinId} → Builtin Obj id → Writer}
    {singleS : {id : BuiltinId} → Builtin Obj id → Script}
    {arrayW : {id : BuiltinId} → ArrayValue Obj id → Writer}
    {arrayS : {id : BuiltinId} → ArrayValue Obj id → Script}
    (hsingle : ∀ {id : BuiltinId} (v : Builtin Obj id), Follows (singleW v) (singleS v))
    (harray : ∀ {id : BuiltinId} (a : ArrayValue Obj id), Follows (arrayW a) (arrayS a))
    (v : Variant Obj) :
    Follows (variantValueWrite room singleW arrayW v) (variantValueScript room singleS arrayS v) := by
  cases v with
  | null => exact .pure
  | single v => exact .ite (.throw (by decide)) (hsingle v)
  | array id length content => exact .ite (.throw (by decide)) (harray _)
  | matrix id dimensions arrayDimensions content =>
    simp only [variantValueWrite]
    split
    · rename_i hnone
      simp only [variantValueScript]
      split
      · exact .throw (by decide)
      · rename_i m hsome
        cases hnone.symm.trans hsome
    rename_i m hsome
    rw [variantValueScript_matrix room content hsome]
    exact (harray _).bind ((scalar_follows .int32 room _).bind
      (.each fun i => scalar_follows .int32 room _))

theorem dataValueFields_follows (h : ∀ v, Follows (variantW v) (variantS v)) (v : DataValue Obj) :
    Follows (dataValueFieldsWrite room variantW v) (dataValueFieldsScript room variantS v) := by
  cases v with
  | mk value status sourceTimestamp serverTimestamp sourcePicoSeconds serverPicoSeconds =>
    refine (scalar_follows .uint8 room _).bind ((h value).writeIf.bind ?_)
    refine (scalar_follows .uint32 room _).writeIf.bind ((dateTime_follows room _).writeIf.bind ?_)
    exact (scalar_follows .uint16 room _).writeIf.bind ((dateTime_follows room _).writeIf.bind
      (scalar_follows .uint16 room _).writeIf)

/-- A variant and a data value are written as their scripts say, at every level. -/
theorem values_follow :
    (∀ v, Follows (variantWriteAt cst objs room v) (variantScriptAt cst scripts room v)) ∧
    (∀ v, Follows (dataValueWriteAt cst objs room v) (dataValueScriptAt cst scripts room v)) := by
  induction room using Nat.strong_induction_on with
  | _ room ih =>
    rcases room with _ | room
    · exact ⟨fun v => .throw (by decide), fun v => .throw (by decide)⟩
    obtain ⟨hvariant, hdataValue⟩ := ih room (Nat.lt_succ_self room)
    refine ⟨fun v => ?_, fun v => ?_⟩
    rotate_left
    · rw [dataValueWriteAt, dataValueScriptAt]
      exact dataValueFields_follows room hvariant v
    rw [variantWriteAt, variantScriptAt]
    refine (scalar_follows .uint8 room _).bind (variantValue_follows room ?_ ?_ v)
    · exact fun b => element_follows cst scripts room hvariant hdataValue b
    · intro id a
      rcases room with _ | room
      · exact .throw (by decide)
      obtain ⟨hvariant', hdataValue'⟩ := ih room (by omega)
      exact variantArray_follows room
        (fun b => element_follows cst scripts room hvariant' hdataValue' b) a

/-- The script of the Write function of the built-in type `id`, with `room` levels left. -/
def builtinScriptAt {id : BuiltinId} (value : Builtin Obj id) : Script :=
  elementScript cst scripts room (fun v => variantScriptAt cst scripts room v)
    (fun v => dataValueScriptAt cst scripts room v) value

end

end S2opc.Encoder
