/-
The Compare functions of `sopc_builtintypes.c`.

A comparison is an `Ordering`, the sign of the integer the source gives.  The
two operands are two values in memory, so the shortcut of `SOPC_NodeId_Compare`
on equal pointers does not apply.  The comparison of decoded objects is left to
`compareObj`, the function `SOPC_EncodeableObject_Compare`.
-/
import S2opc.BuiltinTypes.NodeId
import S2opc.BuiltinTypes.Variant

namespace S2opc.BuiltinTypes

open scoped Lib.Tuple

/-! ## Sequences of comparisons -/

/-- The second comparison decides when the first finds no difference. -/
def thenCompare (first second : Except Status Ordering) : Except Status Ordering :=
  match first with
  | .ok .eq => second
  | other => other

theorem toNat_congr {length length' : Int32} (h : length = length') :
    length.toInt.toNat = length'.toInt.toNat := by rw [h]

/-- `SOPC_Comp_Array`: the first comparison that finds a difference or fails. -/
def compareEach : (n : Nat) → (Fin n → Except Status Ordering) → Except Status Ordering
  | 0, _ => .ok .eq
  | n + 1, f => thenCompare (f 0) (compareEach n fun i => f i.succ)

theorem thenCompare_eq_iff {first second : Except Status Ordering} :
    thenCompare first second = .ok .eq ↔ first = .ok .eq ∧ second = .ok .eq := by
  cases first with
  | error e => simp [thenCompare]
  | ok o => cases o <;> simp [thenCompare]

theorem compareEach_eq_iff {n : Nat} {f : Fin n → Except Status Ordering} :
    compareEach n f = .ok .eq ↔ ∀ i, f i = .ok .eq := by
  induction n with
  | zero => exact ⟨fun _ i => i.elim0, fun _ => rfl⟩
  | succ n ih => rw [compareEach, thenCompare_eq_iff, Fin.forall_fin_succ, ih]

/-! ## Numbers -/

/-- Numbers, as all of them are compared. -/
def numberCompare {α : Type} [LT α] [DecidableLT α] (left right : α) : Ordering :=
  if left < right then .lt else if right < left then .gt else .eq

variable (exponentWidth fractionWidth : Nat)

/-- A floating-point number of the given exponent and fraction widths is not a NaN. -/
def isNumber (bits : Nat) : Bool :=
  bits % 2 ^ (exponentWidth + fractionWidth) ≤ (2 ^ exponentWidth - 1) * 2 ^ fractionWidth

/-- Numbers that are not NaN are ordered like their bit patterns read as sign and magnitude. -/
def signMagnitude (width : Nat) (bits : Nat) : Int :=
  if bits < 2 ^ width then (bits : Int) else -((bits - 2 ^ width : Nat) : Int)

/-- The order `<` of floating-point numbers, false as soon as one is a NaN. -/
def floatLess (left right : Nat) : Bool :=
  isNumber exponentWidth fractionWidth left && isNumber exponentWidth fractionWidth right &&
    decide (signMagnitude (exponentWidth + fractionWidth) left <
      signMagnitude (exponentWidth + fractionWidth) right)

/-- `SOPC_Float_CompareAux` and `SOPC_Double_CompareAux`. -/
def floatCompare (left right : Nat) : Ordering :=
  if floatLess exponentWidth fractionWidth left right then .lt
  else if floatLess exponentWidth fractionWidth right left then .gt
  else .eq

/-! ## Values without a variant -/

variable {Obj : Type} (compareObj : Obj → Obj → Except Status Ordering)

/-- `SOPC_Guid_Compare`. -/
def guidCompare (left right : Guid) : Ordering :=
  (numberCompare left.data1 right.data1).then <| (numberCompare left.data2 right.data2).then <|
    (numberCompare left.data3 right.data3).then <|
      S2opc.Lib.Bytes.memcmp left.data4.toList right.data4.toList

/-- `SOPC_NodeId_Compare` on two NodeIds in memory. -/
def nodeIdsCompare (left right : NodeId) : Except Status Ordering :=
  match nodeIdCompare (fun p => if p = 0 then left else right) 0 1 with
  | some o => .ok o
  | none => .error .invalidParameters

/-- `SOPC_ExpandedNodeId_Compare`. -/
def expandedNodeIdCompare (left right : ExpandedNodeId) : Except Status Ordering :=
  thenCompare (nodeIdsCompare left.nodeId right.nodeId) <|
    .ok ((stringCompare left.namespaceUri right.namespaceUri).then
      (numberCompare left.serverIndex right.serverIndex))

/-- `SOPC_QualifiedName_Compare`. -/
def qualifiedNameCompare (left right : QualifiedName) : Ordering :=
  (stringCompare left.name right.name).then
    (numberCompare left.namespaceIndex right.namespaceIndex)

/-- The other locales in `SOPC_LocalizedText_Compare_Internal`, when there are as many. -/
def localesCompare : List (SopcString × SopcString) → List (SopcString × SopcString) → Ordering
  | l :: ls, r :: rs =>
    ((stringCompare l.1 r.1).then (stringCompare l.2 r.2)).then (localesCompare ls rs)
  | _, _ => .eq

/-- `SOPC_LocalizedText_Compare`. -/
def localizedTextCompare (left right : LocalizedText) : Ordering :=
  (stringCompare left.defaultLocale right.defaultLocale).then <|
    (stringCompare left.defaultText right.defaultText).then <|
      if left.localizedTextList.length = right.localizedTextList.length then
        localesCompare left.localizedTextList right.localizedTextList
      else if right.localizedTextList.length < left.localizedTextList.length then .gt
      else .lt

/-- The fields of one level in `SOPC_DiagnosticInfo_Compare`, which leaves the inner status
    code out. -/
def diagnosticLevelCompare (left right : DiagnosticLevel) : Ordering :=
  (numberCompare left.locale right.locale).then <|
    (numberCompare left.localizedText right.localizedText).then <|
      (numberCompare left.namespaceUri right.namespaceUri).then <|
        (numberCompare left.symbolicId right.symbolicId).then <|
          stringCompare left.additionalInfo right.additionalInfo

/-- `SOPC_DiagnosticInfo_Compare`: with an inner level on one side only the other pointer is
    NULL. -/
def diagnosticInfoCompare : DiagnosticInfo → DiagnosticInfo → Except Status Ordering
  | .leaf l, .leaf r => .ok (diagnosticLevelCompare l r)
  | .nest l inner, .nest r inner' =>
    thenCompare (.ok (diagnosticLevelCompare l r)) (diagnosticInfoCompare inner inner')
  | .leaf l, .nest r _ => thenCompare (.ok (diagnosticLevelCompare l r)) (.error .invalidParameters)
  | .nest l _, .leaf r => thenCompare (.ok (diagnosticLevelCompare l r)) (.error .invalidParameters)

/-- The value of `SOPC_ExtObjectBodyEncoding`. -/
def bodyEncoding : ExtObjectBody Obj → Nat
  | .none => 0
  | .byteString _ => 1
  | .xmlElement _ => 2
  | .object _ => 3

/-- The bodies in `SOPC_ExtensionObject_Compare`, both with the same encoding. -/
def extObjectBodyCompare : ExtObjectBody Obj → ExtObjectBody Obj → Except Status Ordering
  | .byteString l, .byteString r => .ok (byteStringCompare l r)
  | .xmlElement l, .xmlElement r => .ok (byteStringCompare l r)
  | .object l, .object r => compareObj l r
  | _, _ => .ok .eq

/-- `SOPC_ExtensionObject_Compare`. -/
def extensionObjectCompare (left right : ExtensionObject Obj) : Except Status Ordering :=
  thenCompare (.ok (numberCompare (bodyEncoding left.body) (bodyEncoding right.body))) <|
    thenCompare (expandedNodeIdCompare left.typeId right.typeId)
      (extObjectBodyCompare compareObj left.body right.body)

/-- The Compare function of a built-in type, in `SOPC_BuiltInType_HandlingTable`. -/
def flatCompare {id : BuiltinId} : FlatValue Obj id → FlatValue Obj id → Except Status Ordering
  | .boolean l, .boolean r => .ok (numberCompare l r)
  | .sByte l, .sByte r => .ok (numberCompare l r)
  | .byte l, .byte r => .ok (numberCompare l r)
  | .int16 l, .int16 r => .ok (numberCompare l r)
  | .uint16 l, .uint16 r => .ok (numberCompare l r)
  | .int32 l, .int32 r => .ok (numberCompare l r)
  | .uint32 l, .uint32 r => .ok (numberCompare l r)
  | .int64 l, .int64 r => .ok (numberCompare l r)
  | .uint64 l, .uint64 r => .ok (numberCompare l r)
  | .float l, .float r => .ok (floatCompare 8 23 l.toNat r.toNat)
  | .double l, .double r => .ok (floatCompare 11 52 l.toNat r.toNat)
  | .string l, .string r => .ok (stringCompare l r)
  | .dateTime l, .dateTime r => .ok (numberCompare l r)
  | .guid l, .guid r => .ok (guidCompare l r)
  | .byteString l, .byteString r => .ok (byteStringCompare l r)
  | .xmlElement l, .xmlElement r => .ok (byteStringCompare l r)
  | .nodeId l, .nodeId r => nodeIdsCompare l r
  | .expandedNodeId l, .expandedNodeId r => expandedNodeIdCompare l r
  | .statusCode l, .statusCode r => .ok (numberCompare l r)
  | .qualifiedName l, .qualifiedName r => .ok (qualifiedNameCompare l r)
  | .localizedText l, .localizedText r => .ok (localizedTextCompare l r)
  | .extensionObject l, .extensionObject r => extensionObjectCompare compareObj l r
  | .diagnosticInfo l, .diagnosticInfo r => diagnosticInfoCompare l r

/-! ## Variants and data values -/

/-- The value of `SOPC_VariantArrayType`. -/
def VariantArrayType.code : VariantArrayType → Nat
  | .singleValue => 0
  | .array => 1
  | .matrix => 2

/-- The order of variants whose types differ. -/
def typesCompare (left right : Variant Obj) : Ordering :=
  (numberCompare left.builtInTypeId.code right.builtInTypeId.code).then
    (numberCompare left.arrayType.code right.arrayType.code)

/-- The loop on the dimensions in `SOPC_Variant_CompareCustom`. -/
def dimensionsCompare : (n m : Nat) → (Fin n → Int32) → (Fin m → Int32) → Nat →
    Except Status Ordering
  | n + 1, m + 1, left, right, length =>
    if 0 < left 0 ∧ length * (left 0).toInt.toNat ≤ 2147483647 then
      if left 0 < right 0 then .ok .lt
      else if right 0 < left 0 then .ok .gt
      else dimensionsCompare n m (fun i => left i.succ) (fun i => right i.succ)
        (length * (left 0).toInt.toNat)
    else .error .invalidParameters
  | _, _, _, _, _ => .ok .eq

/-- `CompareVariantArrayBuiltInType` with `SOPC_CompCustom_Array`, once the lengths are known
    to be the same. -/
def contentCompare (id : BuiltinId) (hasContent : Bool) (elements : Except Status Ordering) :
    Except Status Ordering :=
  if id = .null then .error .notSupported
  else if hasContent then elements
  else .error .invalidParameters

mutual

/-- The Compare function of the built-in type `id`. -/
def builtinCompare {id : BuiltinId} : Builtin Obj id → Builtin Obj id → Except Status Ordering
  | .flat l, .flat r => flatCompare compareObj l r
  | .dataValue l, .dataValue r => dataValueCompare l r
  | .variant l, .variant r => variantCompare l r
  | _, _ => .error .undefinedBehaviour

/-- `SOPC_Variant_Compare`.  An array of negative length and a matrix without dimensions have
    no content, which the comparison of arrays refuses. -/
def variantCompare : Variant Obj → Variant Obj → Except Status Ordering
  | .null, .null => .ok .eq
  | @Variant.single _ i l, @Variant.single _ j r =>
    if h : i = j then
      if i = .variant then .error .notSupported else builtinCompare l (h ▸ r)
    else .ok (numberCompare i.code j.code)
  | .array i length l, .array j length' r =>
    if h : i = j then
      if hlength : length = length' then
        contentCompare i (0 ≤ length)
          (compareEach _ fun k => builtinCompare (l k) (h ▸ r (k.cast (toNat_congr hlength))))
      else .ok (numberCompare length length')
    else .ok (numberCompare i.code j.code)
  | .matrix i dimensions dims l, .matrix j dimensions' dims' r =>
    if h : i = j then
      if dimensions = dimensions' then
        thenCompare (dimensionsCompare _ _ dims dims' 1) <|
          if hlength : matrixLength dimensions dims = matrixLength dimensions' dims' then
            contentCompare i (dimensions ≠ 0)
              (compareEach _ fun k => builtinCompare (l k) (h ▸ r (k.cast hlength)))
          else .error .undefinedBehaviour
      else .ok (numberCompare dimensions dimensions')
    else .ok (numberCompare i.code j.code)
  | l, r => .ok (typesCompare l r)

/-- `SOPC_DataValue_Compare`. -/
def dataValueCompare : DataValue Obj → DataValue Obj → Except Status Ordering
  | .mk l status source server sourcePico serverPico,
    .mk r status' source' server' sourcePico' serverPico' =>
      thenCompare (.ok ((numberCompare status status').then <| (numberCompare server server').then <|
        (numberCompare serverPico serverPico').then <| (numberCompare source source').then <|
          numberCompare sourcePico sourcePico')) (variantCompare l r)

end

end S2opc.BuiltinTypes
