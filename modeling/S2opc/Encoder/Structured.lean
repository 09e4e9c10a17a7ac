/-
The built-in types of `sopc_encoder.c` made of several fields: NodeIds, names,
texts, diagnostic information and extension objects.

Each type has its Write and its Read function, the value a Read gives back for
a written one (`...ReadBack`), and the round trip between the two.  A mask byte
says which fields follow; the fields it leaves out are read back as the value
the type is initialized with.
-/
import S2opc.Encoder.Basic

namespace S2opc.Encoder

open BuiltinTypes Lib.Bytes Lib.ByteCodec UInt32

variable (cst : EncodingConstants) {slack : Nat}

/-! ## NodeIds -/

/-- `GetNodeIdDataEncoding`. -/
def getNodeIdDataEncoding (nodeId : NodeId) : UInt8 :=
  match nodeId.data with
  | .numeric n =>
    if nodeId.namespaceIndex = 0 ∧ n ≤ 255 then 0x00
    else if nodeId.namespaceIndex ≤ 255 ∧ n ≤ 65535 then 0x01
    else 0x02
  | .string _ => 0x03
  | .guid _ => 0x04
  | .byteString _ => 0x05

/-- `Internal_NodeId_Write`: the encoding byte comes with flags the switch ignores. -/
def internalNodeIdWrite (encodingByte : UInt8) (nodeId : NodeId) (room : Nat) : Writer := do
  byteWrite room encodingByte
  match nodeId.data with
  | .numeric n =>
    if encodingByte &&& 0x0F = 0x00 then byteWrite room n.toUInt8
    else if encodingByte &&& 0x0F = 0x01 then do
      byteWrite room nodeId.namespaceIndex.toUInt8
      uint16Write room n.toUInt16
    else do
      uint16Write room nodeId.namespaceIndex
      uint32Write room n
  | .string s => do
      uint16Write room nodeId.namespaceIndex
      stringWrite room s
  | .guid g => do
      uint16Write room nodeId.namespaceIndex
      match g with
      | none => throw .invalidParameters
      | some g => guidWrite room g
  | .byteString s => do
      uint16Write room nodeId.namespaceIndex
      byteStringWrite room s

variable (e : ExpandedNodeId) (room : Nat)

variable (nodeId : NodeId)

/-- `SOPC_NodeId_Write`. -/
def nodeIdWrite : Writer :=
  nested room (internalNodeIdWrite (getNodeIdDataEncoding nodeId) nodeId)

/-- The fields of a NodeId after its encoding byte. -/
def nodeIdDataRead (encodingType : UInt8) (room : Nat) : Reader NodeId :=
  if encodingType = 0x00 then do
    let byte ← byteRead room
    pure ⟨0, .numeric byte.toUInt32⟩
  else if encodingType = 0x01 then do
    let byte ← byteRead room
    let twoBytes ← uint16Read room
    pure ⟨byte.toUInt16, .numeric twoBytes.toUInt32⟩
  else if encodingType = 0x02 then do
    let ns ← uint16Read room
    let numeric ← uint32Read room
    pure ⟨ns, .numeric numeric⟩
  else if encodingType = 0x03 then do
    let ns ← uint16Read room
    let s ← stringRead cst room
    pure ⟨ns, .string s⟩
  else if encodingType = 0x04 then do
    let ns ← uint16Read room
    let g ← guidRead room
    pure ⟨ns, .guid (some g)⟩
  else if encodingType = 0x05 then do
    let ns ← uint16Read room
    let s ← byteStringRead cst room
    pure ⟨ns, .byteString s⟩
  else throw .invalidParameters

/-- `Internal_NodeId_Read`, with the encoding byte it reads.  Its own test of the nesting
    level is the one `SOPC_Byte_Read` starts with. -/
def internalNodeIdRead : Reader (NodeId × UInt8) := do
  let encodingByte ← byteRead room
  let nodeId ← nodeIdDataRead cst (encodingByte &&& 0x0F) room
  pure (nodeId, encodingByte)

/-- `SOPC_NodeId_Read`. -/
def nodeIdRead : Reader NodeId :=
  nested room fun room => internalNodeIdRead cst room >>= fun p => pure p.1

/-- A NodeId as it is read back. -/
def nodeIdReadBack : NodeId :=
  ⟨nodeId.namespaceIndex,
    match nodeId.data with
    | .numeric n => .numeric n
    | .string s => .string (stringReadBack s)
    | .guid g => .guid g
    | .byteString s => .byteString (stringReadBack s)⟩

/-- The strings of a NodeId are short enough to be read. -/
def nodeIdFits : Prop :=
  match nodeId.data with
  | .string s => s.length ≤ cst.maxStringLength
  | .byteString s => s.length ≤ cst.maxStringLength
  | _ => True

variable {n : UInt32}

theorem toUInt8_toUInt32 (h : n ≤ 255) : n.toUInt8.toUInt32 = n := by
  have hn : n.toNat ≤ 255 := le_iff_toNat_le.1 h
  apply UInt32.toNat_inj.1
  rw [UInt8.toNat_toUInt32, toNat_toUInt8]
  omega

theorem toUInt8_toUInt16 {n : UInt16} (h : n ≤ 255) : n.toUInt8.toUInt16 = n := by
  have hn : n.toNat ≤ 255 := UInt16.le_iff_toNat_le.1 h
  apply UInt16.toNat_inj.1
  rw [UInt8.toNat_toUInt16, UInt16.toNat_toUInt8]
  omega

theorem toUInt16_toUInt32 (h : n ≤ 65535) : n.toUInt16.toUInt32 = n := by
  have hn : n.toNat ≤ 65535 := le_iff_toNat_le.1 h
  apply UInt32.toNat_inj.1
  rw [UInt16.toNat_toUInt32, toNat_toUInt16]
  omega

variable {nodeId : NodeId}

theorem internalNodeId_roundTrip {encodingByte : UInt8}
    (henc : encodingByte &&& 0x0F = getNodeIdDataEncoding nodeId) (hfits : nodeIdFits cst nodeId) :
    RoundTrip slack (internalNodeIdWrite encodingByte nodeId room) (internalNodeIdRead cst room)
      (nodeIdReadBack nodeId, encodingByte) := by
  refine (scalar_roundTrip .uint8 room encodingByte).bind ?_
  obtain ⟨ns, data⟩ := nodeId
  rw [henc]
  refine .last (a := nodeIdReadBack ⟨ns, data⟩) ?_ rfl
  cases data with
  | numeric n =>
    simp only [getNodeIdDataEncoding]
    by_cases htwo : ns = 0 ∧ n ≤ 255
    · simp only [if_pos htwo]
      show RoundTrip slack (byteWrite room n.toUInt8) _ _
      refine (scalar_roundTrip .uint8 room _).last ?_
      rw [htwo.1, toUInt8_toUInt32 htwo.2]
      rfl
    by_cases hfour : ns ≤ 255 ∧ n ≤ 65535
    · simp only [if_neg htwo, if_pos hfour]
      show RoundTrip slack (byteWrite room ns.toUInt8 >>= fun _ => uint16Write room n.toUInt16) _ _
      refine (scalar_roundTrip .uint8 room _).bind ?_
      refine (scalar_roundTrip .uint16 room _).last ?_
      rw [toUInt8_toUInt16 hfour.1, toUInt16_toUInt32 hfour.2]
      rfl
    simp only [if_neg htwo, if_neg hfour]
    show RoundTrip slack (uint16Write room ns >>= fun _ => uint32Write room n) _ _
    refine (scalar_roundTrip .uint16 room _).bind ?_
    exact (scalar_roundTrip .uint32 room _).last rfl
  | string s =>
    refine (scalar_roundTrip .uint16 room ns).bind ?_
    exact (string_roundTrip cst room hfits).last rfl
  | guid g =>
    refine (scalar_roundTrip .uint16 room ns).bind ?_
    cases g with
    | none => exact .fail _ _ _
    | some g => exact (guid_roundTrip room g).last rfl
  | byteString s =>
    refine (scalar_roundTrip .uint16 room ns).bind ?_
    exact (byteString_roundTrip cst room hfits).last rfl

theorem getNodeIdDataEncoding_cases (nodeId : NodeId) :
    getNodeIdDataEncoding nodeId = 0x00 ∨ getNodeIdDataEncoding nodeId = 0x01 ∨
    getNodeIdDataEncoding nodeId = 0x02 ∨ getNodeIdDataEncoding nodeId = 0x03 ∨
    getNodeIdDataEncoding nodeId = 0x04 ∨ getNodeIdDataEncoding nodeId = 0x05 := by
  obtain ⟨ns, data⟩ := nodeId
  cases data with
  | numeric n =>
    simp only [getNodeIdDataEncoding]
    split_ifs <;> decide
  | _ => simp [getNodeIdDataEncoding]

theorem nodeId_roundTrip (hfits : nodeIdFits cst nodeId) :
    RoundTrip slack (nodeIdWrite room nodeId) (nodeIdRead cst room) (nodeIdReadBack nodeId) := by
  refine nested_roundTrip fun room' _ => ?_
  have henc : getNodeIdDataEncoding nodeId &&& 0x0F = getNodeIdDataEncoding nodeId := by
    have hmem := getNodeIdDataEncoding_cases nodeId
    rcases hmem with h | h | h | h | h | h <;> rw [h] <;> rfl
  exact (internalNodeId_roundTrip cst room' henc hfits).last rfl

/-! ## ExpandedNodeIds -/

/-- The encoding byte of an ExpandedNodeId. -/
def expandedEncodingByte (expNodeId : ExpandedNodeId) : UInt8 :=
  getNodeIdDataEncoding expNodeId.nodeId ||| flag (0 < expNodeId.namespaceUri.length) 0x80 |||
    flag (0 < expNodeId.serverIndex) 0x40

/-- `SOPC_ExpandedNodeId_Write`. -/
def expandedNodeIdWrite (expNodeId : ExpandedNodeId) : Writer :=
  nested room fun room => do
    internalNodeIdWrite (expandedEncodingByte expNodeId) expNodeId.nodeId room
    writeIf (0 < expNodeId.namespaceUri.length) (stringWrite room expNodeId.namespaceUri)
    writeIf (0 < expNodeId.serverIndex) (uint32Write room expNodeId.serverIndex)

/-- `SOPC_ExpandedNodeId_Read`. -/
def expandedNodeIdRead : Reader ExpandedNodeId :=
  nested room fun room => do
    let (nodeId, encodingByte) ← internalNodeIdRead cst room
    let namespaceUri ← readIf (encodingByte &&& 0x80 ≠ 0) (stringRead cst room) .null
    let serverIndex ← readIf (encodingByte &&& 0x40 ≠ 0) (uint32Read room) 0
    pure ⟨nodeId, namespaceUri, serverIndex⟩

/-- An ExpandedNodeId as it is read back. -/
def expandedNodeIdReadBack : ExpandedNodeId :=
  ⟨nodeIdReadBack e.nodeId, stringReadBack e.namespaceUri, e.serverIndex⟩

/-- The strings of an ExpandedNodeId are short enough to be read. -/
def expandedNodeIdFits : Prop :=
  nodeIdFits cst e.nodeId ∧ e.namespaceUri.length ≤ cst.maxStringLength

theorem expandedEncodingByte_type :
    expandedEncodingByte e &&& 0x0F = getNodeIdDataEncoding e.nodeId := by
  have hmem := getNodeIdDataEncoding_cases e.nodeId
  unfold expandedEncodingByte flag
  rcases hmem with h | h | h | h | h | h <;> rw [h] <;> split_ifs <;> rfl

theorem expandedEncodingByte_uri :
    expandedEncodingByte e &&& 0x80 ≠ 0 ↔ 0 < e.namespaceUri.length := by
  have hmem := getNodeIdDataEncoding_cases e.nodeId
  unfold expandedEncodingByte
  rw [or_and_ne_zero, or_and_ne_zero, flag_and_ne_zero, flag_and_ne_zero]
  have hbits : getNodeIdDataEncoding e.nodeId &&& 0x80 = 0 := by
    rcases hmem with h | h | h | h | h | h <;> rw [h] <;> rfl
  have hdisjoint : (0x40 : UInt8) &&& 0x80 = 0 := by decide
  simp [hbits, hdisjoint]

theorem expandedEncodingByte_server :
    expandedEncodingByte e &&& 0x40 ≠ 0 ↔ 0 < e.serverIndex := by
  have hmem := getNodeIdDataEncoding_cases e.nodeId
  unfold expandedEncodingByte
  rw [or_and_ne_zero, or_and_ne_zero, flag_and_ne_zero, flag_and_ne_zero]
  have hbits : getNodeIdDataEncoding e.nodeId &&& 0x40 = 0 := by
    rcases hmem with h | h | h | h | h | h <;> rw [h] <;> rfl
  have hdisjoint : (0x80 : UInt8) &&& 0x40 = 0 := by decide
  simp [hbits, hdisjoint]

theorem stringReadBack_of_not_pos {s : SopcString} (h : ¬ 0 < s.length) :
    SopcString.null = stringReadBack s := by
  rw [stringReadBack, if_neg h]

theorem expandedNodeId_roundTrip {e : ExpandedNodeId} (hfits : expandedNodeIdFits cst e) :
    RoundTrip slack (expandedNodeIdWrite room e) (expandedNodeIdRead cst room)
      (expandedNodeIdReadBack e) := by
  refine nested_roundTrip fun room' _ => ?_
  refine (internalNodeId_roundTrip cst room' (expandedEncodingByte_type e) hfits.1).bind ?_
  refine .bind (.optional (expandedEncodingByte_uri e)
    (fun _ => string_roundTrip cst room' hfits.2) stringReadBack_of_not_pos) ?_
  refine .last (.optional (expandedEncodingByte_server e)
    (fun _ => scalar_roundTrip .uint32 room' _) ?_) rfl
  intro hzero
  have hle := UInt32.not_lt.1 hzero
  exact (UInt32.le_zero_iff.1 hle).symm

/-! ## Names and texts -/

/-- `SOPC_QualifiedName_Write`. -/
def qualifiedNameWrite (qname : QualifiedName) : Writer :=
  nested room fun room => do
    uint16Write room qname.namespaceIndex
    stringWrite room qname.name

/-- `SOPC_QualifiedName_Read`. -/
def qualifiedNameRead : Reader QualifiedName :=
  nested room fun room => do
    let namespaceIndex ← uint16Read room
    let name ← stringRead cst room
    pure ⟨namespaceIndex, name⟩

/-- A QualifiedName as it is read back. -/
def qualifiedNameReadBack (q : QualifiedName) : QualifiedName :=
  ⟨q.namespaceIndex, stringReadBack q.name⟩

theorem qualifiedName_roundTrip {q : QualifiedName} (hfits : q.name.length ≤ cst.maxStringLength) :
    RoundTrip slack (qualifiedNameWrite room q) (qualifiedNameRead cst room)
      (qualifiedNameReadBack q) := by
  refine nested_roundTrip fun room' _ => ?_
  refine (scalar_roundTrip .uint16 room' _).bind ?_
  exact (string_roundTrip cst room' hfits).last rfl

/-- `GetLocalizedTextEncodingByte`. -/
def getLocalizedTextEncodingByte (ltext : LocalizedText) : UInt8 :=
  flag (0 < ltext.defaultLocale.length) 0x01 ||| flag (0 < ltext.defaultText.length) 0x02

/-- `SOPC_LocalizedText_Write`: the other locales are not written. -/
def localizedTextWrite (ltext : LocalizedText) : Writer :=
  nested room fun room => do
    byteWrite room (getLocalizedTextEncodingByte ltext)
    writeIf (getLocalizedTextEncodingByte ltext &&& 0x01 ≠ 0) (stringWrite room ltext.defaultLocale)
    writeIf (getLocalizedTextEncodingByte ltext &&& 0x02 ≠ 0) (stringWrite room ltext.defaultText)

/-- `SOPC_LocalizedText_Read`. -/
def localizedTextRead : Reader LocalizedText :=
  nested room fun room => do
    let encodingByte ← byteRead room
    let defaultLocale ← readIf (encodingByte &&& 0x01 ≠ 0) (stringRead cst room) .null
    let defaultText ← readIf (encodingByte &&& 0x02 ≠ 0) (stringRead cst room) .null
    pure ⟨defaultLocale, defaultText, []⟩

variable (t : LocalizedText)

/-- A LocalizedText as it is read back: only its default locale. -/
def localizedTextReadBack : LocalizedText :=
  ⟨stringReadBack t.defaultLocale, stringReadBack t.defaultText, []⟩

/-- The default locale and text are short enough to be read. -/
def localizedTextFits : Prop :=
  t.defaultLocale.length ≤ cst.maxStringLength ∧ t.defaultText.length ≤ cst.maxStringLength

theorem localizedTextEncodingByte_locale :
    getLocalizedTextEncodingByte t &&& 0x01 ≠ 0 ↔ 0 < t.defaultLocale.length := by
  have hdisjoint : (0x02 : UInt8) &&& 0x01 = 0 := by decide
  simp [getLocalizedTextEncodingByte, or_and_ne_zero, flag_and_ne_zero, hdisjoint]

theorem localizedTextEncodingByte_text :
    getLocalizedTextEncodingByte t &&& 0x02 ≠ 0 ↔ 0 < t.defaultText.length := by
  have hdisjoint : (0x01 : UInt8) &&& 0x02 = 0 := by decide
  simp [getLocalizedTextEncodingByte, or_and_ne_zero, flag_and_ne_zero, hdisjoint]

theorem localizedText_roundTrip {t : LocalizedText} (hfits : localizedTextFits cst t) :
    RoundTrip slack (localizedTextWrite room t) (localizedTextRead cst room)
      (localizedTextReadBack t) := by
  refine nested_roundTrip fun room' _ => ?_
  refine (scalar_roundTrip .uint8 room' _).bind ?_
  refine .bind (.optional .rfl
    (fun _ => string_roundTrip cst room' hfits.1) fun h => ?_) ?_
  · exact stringReadBack_of_not_pos (mt (localizedTextEncodingByte_locale t).2 h)
  refine .last (.optional .rfl
    (fun _ => string_roundTrip cst room' hfits.2) fun h => ?_) rfl
  exact stringReadBack_of_not_pos (mt (localizedTextEncodingByte_text t).2 h)

/-! ## Diagnostic information

The fields of every level are written at nesting level 0, whatever the level the whole
stands at; the depth of the chain has a limit of its own. -/

variable (d : DiagnosticLevel)

/-- `GetDiagInfoEncodingByte`. -/
def getDiagInfoEncodingByte (inner : Bool) : UInt8 :=
  flag (-1 < d.symbolicId) 0x01 ||| flag (-1 < d.namespaceUri) 0x02 ||| flag (-1 < d.locale) 0x08
    ||| flag (-1 < d.localizedText) 0x04 ||| flag (0 < d.additionalInfo.length) 0x10
    ||| flag (0 < d.innerStatusCode) 0x20 ||| flag inner 0x40

/-- The fields of one level in `SOPC_DiagnosticInfo_Write_Internal`. -/
def diagnosticLevelWrite (inner : Bool) : Writer := do
  let room := cst.maxNestedStruct.toNat
  let encodingByte := getDiagInfoEncodingByte d inner
  byteWrite room encodingByte
  writeIf (encodingByte &&& 0x01 ≠ 0) (int32Write room d.symbolicId)
  writeIf (encodingByte &&& 0x02 ≠ 0) (int32Write room d.namespaceUri)
  writeIf (encodingByte &&& 0x08 ≠ 0) (int32Write room d.locale)
  writeIf (encodingByte &&& 0x04 ≠ 0) (int32Write room d.localizedText)
  writeIf (encodingByte &&& 0x10 ≠ 0) (stringWrite room d.additionalInfo)
  writeIf (encodingByte &&& 0x20 ≠ 0) (uint32Write room d.innerStatusCode)

/-- `SOPC_DiagnosticInfo_Write_Internal`, `left` being the number of inner levels still
    allowed. -/
def diagnosticInfoWriteInternal : Nat → DiagnosticInfo → Writer
  | _, .leaf d => diagnosticLevelWrite cst d false
  | left, .nest d inner => do
      diagnosticLevelWrite cst d true
      match left with
      | 0 => throw .encodingError
      | left + 1 => diagnosticInfoWriteInternal left inner

/-- `SOPC_DiagnosticInfo_Write`. -/
def diagnosticInfoWrite (diagInfo : DiagnosticInfo) : Writer :=
  nested room fun _ => diagnosticInfoWriteInternal cst cst.maxNestedDiagInfo.toNat diagInfo

/-- The fields of one level in `SOPC_DiagnosticInfo_Read_Internal`, and whether an inner
    level follows. -/
def diagnosticLevelRead : Reader (DiagnosticLevel × Bool) := do
  let room := cst.maxNestedStruct.toNat
  let encodingByte ← byteRead room
  let symbolicId ← readIf (encodingByte &&& 0x01 ≠ 0) (int32Read room) (-1)
  let namespaceUri ← readIf (encodingByte &&& 0x02 ≠ 0) (int32Read room) (-1)
  let locale ← readIf (encodingByte &&& 0x08 ≠ 0) (int32Read room) (-1)
  let localizedText ← readIf (encodingByte &&& 0x04 ≠ 0) (int32Read room) (-1)
  let additionalInfo ← readIf (encodingByte &&& 0x10 ≠ 0) (stringRead cst room) .null
  let innerStatusCode ← readIf (encodingByte &&& 0x20 ≠ 0) (uint32Read room) 0
  pure (⟨symbolicId, namespaceUri, locale, localizedText, additionalInfo, innerStatusCode⟩,
    decide (encodingByte &&& 0x40 ≠ 0))

/-- `SOPC_DiagnosticInfo_Read_Internal`. -/
def diagnosticInfoReadInternal : Nat → Reader DiagnosticInfo
  | 0 => diagnosticLevelRead cst >>= fun (d, inner) =>
    if inner then throw .outOfMemory else pure (.leaf d)
  | left + 1 => diagnosticLevelRead cst >>= fun (d, inner) =>
    if inner then diagnosticInfoReadInternal left >>= fun i => pure (.nest d i)
    else pure (.leaf d)

/-- `SOPC_DiagnosticInfo_Read`. -/
def diagnosticInfoRead : Reader DiagnosticInfo :=
  nested room fun _ => diagnosticInfoReadInternal cst cst.maxNestedDiagInfo.toNat

/-- An index of diagnostic information as it is read back: -1 for any negative one. -/
def indexReadBack (index : Int32) : Int32 := if -1 < index then index else -1

/-- One level as it is read back. -/
def diagnosticLevelReadBack : DiagnosticLevel :=
  ⟨indexReadBack d.symbolicId, indexReadBack d.namespaceUri, indexReadBack d.locale,
    indexReadBack d.localizedText, stringReadBack d.additionalInfo, d.innerStatusCode⟩

/-- Diagnostic information as it is read back. -/
def diagnosticInfoReadBack : DiagnosticInfo → DiagnosticInfo
  | .leaf d => .leaf (diagnosticLevelReadBack d)
  | .nest d inner => .nest (diagnosticLevelReadBack d) (diagnosticInfoReadBack inner)

/-- The strings of diagnostic information are short enough to be read. -/
def diagnosticInfoFits : DiagnosticInfo → Prop
  | .leaf d => d.additionalInfo.length ≤ cst.maxStringLength
  | .nest d inner => d.additionalInfo.length ≤ cst.maxStringLength ∧ diagnosticInfoFits inner

theorem diagInfoEncodingByte_flags (inner : Bool) :
    let m := getDiagInfoEncodingByte d inner
    (m &&& 0x01 ≠ 0 ↔ -1 < d.symbolicId) ∧ (m &&& 0x02 ≠ 0 ↔ -1 < d.namespaceUri) ∧
    (m &&& 0x08 ≠ 0 ↔ -1 < d.locale) ∧ (m &&& 0x04 ≠ 0 ↔ -1 < d.localizedText) ∧
    (m &&& 0x10 ≠ 0 ↔ 0 < d.additionalInfo.length) ∧ (m &&& 0x20 ≠ 0 ↔ 0 < d.innerStatusCode) ∧
    (m &&& 0x40 ≠ 0 ↔ inner = true) := by
  simp only [getDiagInfoEncodingByte, or_and_ne_zero, flag_and_ne_zero]
  refine ⟨?_, ?_, ?_, ?_, ?_, ?_, ?_⟩ <;> simp [singleBits_and_eq_zero]

variable {index : Int32}

theorem indexReadBack_of_not_lt (h : ¬ -1 < index) : -1 = indexReadBack index := by
  rw [indexReadBack, if_neg h]

theorem indexReadBack_of_lt (h : -1 < index) : indexReadBack index = index := by
  rw [indexReadBack, if_pos h]

/-- One of the four indexes of a level. -/
theorem index_roundTrip {p : Prop} [Decidable p] (h : p ↔ -1 < index) :
    RoundTrip slack (writeIf p (int32Write room index)) (readIf p (int32Read room) (-1))
      (indexReadBack index) := by
  refine .optional .rfl (fun hp => ?_) fun hp => indexReadBack_of_not_lt (mt h.2 hp)
  rw [indexReadBack_of_lt (h.1 hp)]
  exact scalar_roundTrip .int32 room index

theorem diagnosticLevel_roundTrip {d : DiagnosticLevel} (inner : Bool)
    (hfits : d.additionalInfo.length ≤ cst.maxStringLength) :
    RoundTrip slack (diagnosticLevelWrite cst d inner) (diagnosticLevelRead cst)
      (diagnosticLevelReadBack d, inner) := by
  obtain ⟨hsym, hns, hloc, htext, hinfo, hcode, hinner⟩ := diagInfoEncodingByte_flags d inner
  refine (scalar_roundTrip .uint8 _ _).bind ?_
  refine (index_roundTrip _ hsym).bind ?_
  refine (index_roundTrip _ hns).bind ?_
  refine (index_roundTrip _ hloc).bind ?_
  refine (index_roundTrip _ htext).bind ?_
  refine .bind (.optional .rfl (fun _ => string_roundTrip cst _ hfits)
    fun h => stringReadBack_of_not_pos (mt hinfo.2 h)) ?_
  refine .last (.optional .rfl (fun _ => scalar_roundTrip .uint32 _ _)
    fun h => ?_) ?_
  · have hle := UInt32.not_lt.1 (mt hcode.2 h)
    exact (UInt32.le_zero_iff.1 hle).symm
  · simp only [hinner, Bool.decide_eq_true]
    rfl

variable {d : DiagnosticInfo}

theorem diagnosticInfoInternal_roundTrip (left : Nat) (hfits : diagnosticInfoFits cst d) :
    RoundTrip slack (diagnosticInfoWriteInternal cst left d) (diagnosticInfoReadInternal cst left)
      (diagnosticInfoReadBack d) := by
  induction d generalizing left with
  | leaf d =>
    have h : RoundTrip slack _ _ _ := diagnosticLevel_roundTrip cst false hfits
    cases left with
    | _ => exact h.thenPure rfl
  | nest d inner ih =>
    have h : RoundTrip slack _ _ _ := diagnosticLevel_roundTrip cst true hfits.1
    cases left with
    | zero => exact h.bind (.fail _ _ _)
    | succ left => exact h.bind ((ih left hfits.2).last rfl)

/-! ## Extension objects -/

/-- What the extension object functions need from the codec of the objects themselves: the
    namespace index and the binary encoding id of an object's type,
    `SOPC_EncodeableObject_Encode`, and `SOPC_EncodeableObject_Decode` for the type
    `SOPC_EncodeableType_GetEncodeableType` finds. -/
structure ObjectCodec (Obj : Type) where
  typeId : Obj → UInt16 × UInt32
  encode : Nat → Obj → Writer
  decode : UInt16 → UInt32 → Option (Nat → Reader Obj)

variable {Obj : Type} (objs : ObjectCodec Obj)

/-- The NodeId an extension object is written with. -/
def writtenTypeId (extObj : ExtensionObject Obj) : NodeId :=
  match extObj.body with
  | .object o => ⟨(objs.typeId o).1, .numeric (objs.typeId o).2⟩
  | _ => extObj.typeId.nodeId

/-- The encoding byte of a body: an object is written as a byte string. -/
def bodyEncodingByte : ExtObjectBody Obj → UInt8
  | .none => 0x00
  | .byteString _ => 0x01
  | .xmlElement _ => 0x02
  | .object _ => 0x01

/-- `SOPC_ExtensionObject_Write`.  The length of an object is patched in once it is
    written, and left at -1 if it does not fit. -/
def extensionObjectWrite (room : Nat) (extObj : ExtensionObject Obj) : Writer :=
  nested room fun room => do
    nodeIdWrite room (writtenTypeId objs extObj)
    byteWrite room (bodyEncodingByte extObj.body)
    match extObj.body with
    | .none => pure ()
    | .byteString s => byteStringWrite room s
    | .xmlElement s => byteStringWrite room s
    | .object o =>
      backPatch .invalidParameters (int32Write room (-1)) (objs.encode room o) fun length =>
        if length ≤ 2147483647 then some (int32Write room (Int32.ofNat length)) else none

/-- The decoder of an object body, if the type is a known one. -/
def objectDecoder (nodeId : NodeId) : Option (Nat → Reader Obj) :=
  match nodeId.data with
  | .numeric n => objs.decode nodeId.namespaceIndex n
  | _ => none

/-- The body after the encoding byte in `SOPC_ExtensionObject_Read`. -/
def extObjectBodyRead (nodeId : NodeId) (encodingByte : UInt8) (room : Nat) :
    Reader (ExtObjectBody Obj) :=
  if encodingByte = 0x00 then pure .none
  else if encodingByte = 0x01 then
    match objectDecoder objs nodeId with
    | none => byteStringRead cst room >>= fun s => pure (.byteString s)
    | some decode => int32Read room >>= fun _ => decode room >>= fun o => pure (.object o)
  else if encodingByte = 0x02 then byteStringRead cst room >>= fun s => pure (.xmlElement s)
  else throw .encodingError

/-- `SOPC_ExtensionObject_Read`. -/
def extensionObjectRead (room : Nat) : Reader (ExtensionObject Obj) :=
  nested room fun room => do
    let nodeId ← nodeIdRead cst room
    let encodingByte ← byteRead room
    let body ← extObjectBodyRead cst objs nodeId encodingByte room
    pure ⟨⟨nodeId, .null, 0⟩, body⟩

/-- A codec of objects whose Decode gives back what its Encode wrote with `slack` bytes left,
    for the objects that fit. -/
structure ObjectCodec.Spec (slack : Nat) where
  readBack : Obj → Obj
  Fits : Obj → Prop
  faithful : ∀ o, Fits o → ∃ decode, objs.decode (objs.typeId o).1 (objs.typeId o).2 = some decode ∧
    ∀ room, RoundTrip slack (objs.encode room o) (decode room) (readBack o)

variable {objs} (spec : objs.Spec slack)

/-- A body as it is read back. -/
def extObjectBodyReadBack : ExtObjectBody Obj → ExtObjectBody Obj
  | .none => .none
  | .byteString s => .byteString (stringReadBack s)
  | .xmlElement s => .xmlElement (stringReadBack s)
  | .object o => .object (spec.readBack o)

variable (e : ExtensionObject Obj)

/-- An extension object as it is read back: of the type id, only the NodeId is written. -/
def extensionObjectReadBack : ExtensionObject Obj :=
  ⟨⟨nodeIdReadBack (writtenTypeId objs e), .null, 0⟩, extObjectBodyReadBack spec e.body⟩

/-- The body can be read: its strings are short enough, and a byte string is not of a known
    type, which the reader would decode. -/
def extObjectBodyFits : Prop :=
  match e.body with
  | .none => True
  | .byteString s => s.length ≤ cst.maxStringLength ∧ objectDecoder objs e.typeId.nodeId = none
  | .xmlElement s => s.length ≤ cst.maxStringLength
  | .object o => spec.Fits o

/-- The extension object can be read. -/
def extensionObjectFits : Prop :=
  nodeIdFits cst (writtenTypeId objs e) ∧ extObjectBodyFits cst spec e

theorem objectDecoder_readBack (nodeId : NodeId) :
    objectDecoder objs (nodeIdReadBack nodeId) = objectDecoder objs nodeId := by
  obtain ⟨ns, data⟩ := nodeId
  cases data <;> rfl

/-- The Int32 in front of an object, which the reader only gets past. -/
theorem int32_fixedField (length : Int32) :
    FixedField (int32Write room length) (int32Read room) 4 := by
  rcases room with _ | room
  · intro b b' hw
    cases hw
  intro b b' hw
  have hbytes := bufferWrite_eq_ok (mapError_eq_ok.1 hw)
  have hfree : b'.position + 0 ≤ b'.maximumSize.toNat := b'.position_le.trans b'.length_le
  obtain ⟨bytes, hwrite, haccepts⟩ := scalar_roundTrip .int32 (room + 1) length b b' hw hfree
  have heq : bytes.length = (Scalar.int32.bytes length).length := by
    have hp := (Buffer.write_eq_some.1 hwrite).2.2.1
    have hp' := (Buffer.write_eq_some.1 hbytes).2.2.1
    omega
  exact ⟨bytes, by rw [heq, Scalar.length_bytes]; rfl, hwrite, length, haccepts⟩

theorem extensionObject_roundTrip (room : Nat) {e : ExtensionObject Obj}
    (hfits : extensionObjectFits cst spec e) :
    RoundTrip slack (extensionObjectWrite objs room e) (extensionObjectRead cst objs room)
      (extensionObjectReadBack spec e) := by
  refine nested_roundTrip fun room' _ => ?_
  obtain ⟨hid, hbody⟩ := hfits
  refine (nodeId_roundTrip cst room' hid).bind ?_
  refine (scalar_roundTrip .uint8 room' _).bind ?_
  refine .last (a := extObjectBodyReadBack spec e.body) ?_ rfl
  obtain ⟨typeId, body⟩ := e
  cases body with
  | none => exact .pure rfl
  | byteString s =>
    obtain ⟨hs, hunknown⟩ := hbody
    have hdecoder : objectDecoder objs (nodeIdReadBack typeId.nodeId) = none := by
      rw [objectDecoder_readBack]
      exact hunknown
    simp only [bodyEncodingByte, writtenTypeId, extObjectBodyRead, hdecoder]
    exact (byteString_roundTrip cst room' hs).last rfl
  | xmlElement s => exact (byteString_roundTrip cst room' hbody).last rfl
  | object o =>
    obtain ⟨decode, hdecode, htrip⟩ := spec.faithful o hbody
    have hdecoder : objectDecoder objs
        (nodeIdReadBack ⟨(objs.typeId o).1, .numeric (objs.typeId o).2⟩) = some decode := hdecode
    simp only [bodyEncodingByte, writtenTypeId, extObjectBodyRead, hdecoder]
    refine .backPatched (int32_fixedField room' (-1)) ?_ ((htrip room').last rfl)
    intro n w hw
    split_ifs at hw
    cases hw
    exact int32_fixedField room' _

end S2opc.Encoder
