/-
What is read back compares equal to what was written.

The Compare functions look at more than the format carries: at the other
locales of a localized text, at booleans that are neither 0 nor 1, at the
namespace URI and the server index of the type of an extension object, at
negative lengths, indexes and timestamps.  `Kept` collects, by recursion on the
value, that there is nothing of this kind; then Compare gives 0.  It also asks
for what the Write functions ask for themselves: no missing Guid, no variant
directly in a variant, dimensions that multiply to a number of elements.
-/
import S2opc.BuiltinTypes.Compare
import S2opc.Encoder.RoundTrip

namespace S2opc.Encoder

open BuiltinTypes Lib.Bytes

/-! ## Numbers -/

@[simp]
theorem numberCompare_self {α : Type} [LT α] [DecidableLT α] [Std.Irrefl fun a b : α => a < b]
    (a : α) : numberCompare a a = .eq := by
  have h : ¬ a < a := Std.Irrefl.irrefl a
  rw [numberCompare, if_neg h, if_neg h]

theorem floatLess_self (e f a : Nat) : floatLess e f a a = false := by
  simp [floatLess]

/-- A NaN compares equal to every number. -/
theorem floatCompare_nan {e f a : Nat} (h : isNumber e f a = false) (b : Nat) :
    floatCompare e f a b = .eq := by
  simp [floatCompare, floatLess, h]

theorem floatCompare_normalizeFloat (v : UInt32) :
    floatCompare 8 23 (normalizeFloat v).toNat v.toNat = .eq := by
  unfold normalizeFloat
  simp only
  split_ifs with h
  · exact floatCompare_nan (by decide) _
  · simp [floatCompare, floatLess_self]

theorem floatCompare_normalizeDouble (v : UInt64) :
    floatCompare 11 52 (normalizeDouble v).toNat v.toNat = .eq := by
  unfold normalizeDouble
  simp only
  split_ifs with h
  · exact floatCompare_nan (by decide) _
  · simp [floatCompare, floatLess_self]

/-! ## Strings and names -/

theorem data_stringReadBack (s : SopcString) : (stringReadBack s).data = s.data := by
  unfold stringReadBack
  split_ifs with h
  · rfl
  · exact (not_not.1 (mt s.length_pos_iff.2 h)).symm

theorem stringCompare_readBack (s : SopcString) : stringCompare (stringReadBack s) s = .eq := by
  rw [stringCompare_eq, stringKey, stringKey, data_stringReadBack]
  simp

theorem byteStringCompare_readBack (s : SopcString) :
    byteStringCompare (stringReadBack s) s = .eq := by
  rw [byteStringCompare_eq, byteStringKey, byteStringKey, data_stringReadBack]
  simp

theorem stringCompare_null {s : SopcString} (h : s.length ≤ 0) : stringCompare .null s = .eq := by
  rw [stringCompare, if_pos ⟨by decide, h⟩]

/-- A NodeId that can be compared: its Guid is there. -/
def nodeIdKept (n : NodeId) : Prop := n.data ≠ .guid none

theorem nodeIdsCompare_readBack {n : NodeId} (h : nodeIdKept n) :
    nodeIdsCompare (nodeIdReadBack n) n = .ok .eq := by
  have hmissing : guidMissing (nodeIdReadBack n) n = false := by
    obtain ⟨ns, data⟩ := n
    match data with
    | .numeric m => simp [guidMissing, nodeIdReadBack]
    | .string s => simp [guidMissing, nodeIdReadBack]
    | .guid none => exact absurd rfl h
    | .guid (some g) => simp [guidMissing, nodeIdReadBack]
    | .byteString s => simp [guidMissing, nodeIdReadBack]
  have hkey : identifierKey (nodeIdReadBack n).data = identifierKey n.data := by
    obtain ⟨ns, data⟩ := n
    cases data with
    | numeric m => rfl
    | string s => simp only [nodeIdReadBack, identifierKey, stringKey, data_stringReadBack]
    | guid g => rfl
    | byteString s => simp only [nodeIdReadBack, identifierKey, byteStringKey, data_stringReadBack]
  have htype : identifierType (nodeIdReadBack n).data = identifierType n.data := by
    obtain ⟨ns, data⟩ := n
    cases data <;> rfl
  have hns : (nodeIdReadBack n).namespaceIndex = n.namespaceIndex := rfl
  unfold nodeIdsCompare
  rw [nodeIdCompare_eq _ (by decide)]
  simp [hmissing, orderCompare, compareLex, compareOn, hkey, htype, hns]

theorem expandedNodeIdCompare_readBack {e : ExpandedNodeId} (h : nodeIdKept e.nodeId) :
    expandedNodeIdCompare (expandedNodeIdReadBack e) e = .ok .eq := by
  unfold expandedNodeIdCompare
  rw [thenCompare_eq_iff]
  refine ⟨nodeIdsCompare_readBack h, ?_⟩
  simp [expandedNodeIdReadBack, stringCompare_readBack]

theorem qualifiedNameCompare_readBack (q : QualifiedName) :
    qualifiedNameCompare (qualifiedNameReadBack q) q = .eq := by
  simp [qualifiedNameCompare, qualifiedNameReadBack, stringCompare_readBack]

theorem guidCompare_self (g : Guid) : guidCompare g g = .eq := by
  simp [guidCompare, memcmp]

/-! ## Diagnostic informations -/

/-- An index that is there, or -1. -/
def diagnosticLevelKept (d : DiagnosticLevel) : Prop :=
  -1 ≤ d.symbolicId ∧ -1 ≤ d.namespaceUri ∧ -1 ≤ d.locale ∧ -1 ≤ d.localizedText

/-- No level of a diagnostic information has an index below -1. -/
def diagnosticInfoKept : DiagnosticInfo → Prop
  | .leaf d => diagnosticLevelKept d
  | .nest d inner => diagnosticLevelKept d ∧ diagnosticInfoKept inner

theorem indexReadBack_eq {index : Int32} (h : -1 ≤ index) : indexReadBack index = index := by
  unfold indexReadBack
  split_ifs with hlt
  · rfl
  · exact Int32.le_antisymm h (Int32.not_lt.1 hlt)

theorem diagnosticLevelCompare_readBack {d : DiagnosticLevel} (h : diagnosticLevelKept d) :
    diagnosticLevelCompare (diagnosticLevelReadBack d) d = .eq := by
  obtain ⟨hsymbolic, huri, hlocale, htext⟩ := h
  simp [diagnosticLevelCompare, diagnosticLevelReadBack, indexReadBack_eq hsymbolic,
    indexReadBack_eq huri, indexReadBack_eq hlocale, indexReadBack_eq htext, stringCompare_readBack]

theorem diagnosticInfoCompare_readBack {d : DiagnosticInfo} (h : diagnosticInfoKept d) :
    diagnosticInfoCompare (diagnosticInfoReadBack d) d = .ok .eq := by
  induction d with
  | leaf d => rw [diagnosticInfoReadBack, diagnosticInfoCompare, diagnosticLevelCompare_readBack h]
  | nest d inner ih =>
    rw [diagnosticInfoReadBack, diagnosticInfoCompare, diagnosticLevelCompare_readBack h.1]
    exact ih h.2

/-! ## Values without a variant -/

variable {id : BuiltinId}

section
variable {Obj : Type} {objs : ObjectCodec Obj} {slack : Nat} (spec : objs.Spec slack)
  (compareObj : Obj → Obj → Except Status Ordering) (objKept : Obj → Prop)

/-- Nothing of an extension object is lost: of its type id only the NodeId is there, which is
    the one of its object. -/
structure extensionObjectKept (objs : ObjectCodec Obj) (objKept : Obj → Prop)
    (e : ExtensionObject Obj) : Prop where
  typeId_eq : writtenTypeId objs e = e.typeId.nodeId
  nodeId : nodeIdKept e.typeId.nodeId
  namespaceUri : e.typeId.namespaceUri.length ≤ 0
  serverIndex : e.typeId.serverIndex = 0
  object : ∀ o, e.body = .object o → objKept o

theorem extensionObjectCompare_readBack
    (hobj : ∀ o, objKept o → compareObj (spec.readBack o) o = .ok .eq) {e : ExtensionObject Obj}
    (h : extensionObjectKept objs objKept e) :
    extensionObjectCompare compareObj (extensionObjectReadBack spec e) e = .ok .eq := by
  obtain ⟨htype, hnode, huri, hserver, hbody⟩ := h
  have hencoding : bodyEncoding (extObjectBodyReadBack spec e.body) = bodyEncoding e.body := by
    cases e.body <;> rfl
  unfold extensionObjectCompare expandedNodeIdCompare
  simp only [extensionObjectReadBack, hencoding, numberCompare_self, thenCompare_eq_iff, true_and,
    htype, nodeIdsCompare_readBack hnode, stringCompare_null huri, hserver]
  refine ⟨rfl, ?_⟩
  cases hb : e.body with
  | none => rfl
  | object o => exact hobj o (hbody o hb)
  | _ => simp [extObjectBodyReadBack, extObjectBodyCompare, byteStringCompare_readBack]

/-- Nothing Compare looks at is lost when the value is read back. -/
def flatKept (objs : ObjectCodec Obj) (objKept : Obj → Prop) {id : BuiltinId} :
    FlatValue Obj id → Prop
  | .boolean v => booleanValue v = v
  | .nodeId v => nodeIdKept v
  | .expandedNodeId v => nodeIdKept v.nodeId
  | .localizedText v => v.localizedTextList = []
  | .extensionObject v => extensionObjectKept objs objKept v
  | .diagnosticInfo v => diagnosticInfoKept v
  | _ => True

theorem flatCompare_readBack (hobj : ∀ o, objKept o → compareObj (spec.readBack o) o = .ok .eq)
    {v : FlatValue Obj id} (h : flatKept objs objKept v) :
    flatCompare compareObj (flatReadBack spec v) v = .ok .eq := by
  cases v with
  | boolean v =>
    have hv : booleanValue v = v := h
    simp [flatReadBack, flatCompare, hv]
  | float v => simp [flatReadBack, flatCompare, floatCompare_normalizeFloat]
  | double v => simp [flatReadBack, flatCompare, floatCompare_normalizeDouble]
  | string v => simp [flatReadBack, flatCompare, stringCompare_readBack]
  | guid v => simp [flatReadBack, flatCompare, guidCompare_self]
  | byteString v => simp [flatReadBack, flatCompare, byteStringCompare_readBack]
  | xmlElement v => simp [flatReadBack, flatCompare, byteStringCompare_readBack]
  | nodeId v => exact nodeIdsCompare_readBack h
  | expandedNodeId v => exact expandedNodeIdCompare_readBack h
  | qualifiedName v => simp [flatReadBack, flatCompare, qualifiedNameCompare_readBack]
  | localizedText v =>
    have hv : v.localizedTextList = [] := h
    simp only [flatReadBack, flatCompare, localizedTextCompare, localizedTextReadBack,
      stringCompare_readBack, hv]
    rfl
  | extensionObject v => exact extensionObjectCompare_readBack spec compareObj objKept hobj h
  | diagnosticInfo v => exact diagnosticInfoCompare_readBack h
  | _ => simp [flatReadBack, flatCompare]

/-- The values whose arrays are copied are compared as numbers. -/
theorem builtinCompare_of_isCopied (hid : @isCopied Obj id = true) (v : Builtin Obj id) :
    builtinCompare compareObj v v = .ok .eq := by
  cases v with
  | dataValue v => cases hid
  | variant v => cases hid
  | flat v =>
    rw [builtinCompare]
    cases v <;> first
      | (simp [flatCompare, floatCompare, floatLess_self]; done)
      | cases hid

/-! ## Variants and data values -/

mutual

/-- Nothing Compare looks at is lost when the value is read back. -/
def builtinKept (objs : ObjectCodec Obj) (objKept : Obj → Prop) {id : BuiltinId} :
    Builtin Obj id → Prop
  | .flat v => flatKept objs objKept v
  | .dataValue v => dataValueKept objs objKept v
  | .variant v => variantKept objs objKept v

/-- Nothing Compare looks at is lost when the variant is read back. -/
def variantKept (objs : ObjectCodec Obj) (objKept : Obj → Prop) : Variant Obj → Prop
  | .null => True
  | @Variant.single _ id v => id ≠ .variant ∧ builtinKept objs objKept v
  | .array id length content =>
    id ≠ .null ∧ 0 ≤ length ∧ ∀ i, builtinKept objs objKept (content i)
  | .matrix id dimensions arrayDimensions content =>
    id ≠ .null ∧ dimensions ≠ 0 ∧ (checkedMatrixLength dimensions arrayDimensions).isSome ∧
      ∀ i, builtinKept objs objKept (content i)

/-- Nothing Compare looks at is lost when the data value is read back. -/
def dataValueKept (objs : ObjectCodec Obj) (objKept : Obj → Prop) : DataValue Obj → Prop
  | .mk value _ sourceTimestamp serverTimestamp _ _ =>
    0 ≤ sourceTimestamp ∧ 0 ≤ serverTimestamp ∧ variantKept objs objKept value

end

/-- The loop on the dimensions finds no difference exactly where the dimensions are the same and
    multiply to a length. -/
theorem dimensionsCompare_eq_iff {n : Nat} {l r : Fin n → Int32} {length : Nat} :
    dimensionsCompare n n l r length = .ok .eq ↔ l = r ∧ (matrixLengthLoop n l length).isSome := by
  induction n generalizing length with
  | zero => exact ⟨fun _ => ⟨funext fun i => i.elim0, rfl⟩, fun _ => rfl⟩
  | succ n ih =>
    rw [dimensionsCompare, matrixLengthLoop]
    by_cases hc : 0 < l 0 ∧ length * (l 0).toInt.toNat ≤ 2147483647
    · rw [if_pos hc, if_pos hc]
      by_cases hsame : l 0 = r 0
      · have hirrefl : ¬r 0 < r 0 := Int32.lt_irrefl
        rw [hsame, if_neg hirrefl, if_neg hirrefl, ih, ← hsame]
        refine and_congr_left fun _ => ⟨fun h => ?_, fun h => funext fun i => congrFun h i.succ⟩
        exact funext (Fin.cases hsame fun i => congrFun h i)
      have hne : l ≠ r := fun h => hsame (congrFun h 0)
      split_ifs with hlt hgt
      · simp [hne]
      · simp [hne]
      · exact absurd (Int32.le_antisymm (Int32.not_lt.1 hgt) (Int32.not_lt.1 hlt)) hsame
    · rw [if_neg hc, if_neg hc]
      simp

theorem single_typed (v : Builtin Obj id) : id ≠ .null := by
  rintro rfl
  cases v with
  | flat v => cases v

theorem clampLength_of_nonneg {length : Int32} (h : 0 ≤ length) : clampLength length = length := by
  rw [clampLength, if_neg (Int32.not_lt.2 h)]

theorem timestamp_eq {date : Int64} (h : 0 ≤ date) : (if 0 < date then date else 0) = date := by
  split_ifs with hlt
  · rfl
  · exact Int64.le_antisymm h (Int64.not_lt.1 hlt)

theorem contentCompare_eq_iff {hasContent : Bool} {elements : Except Status Ordering} :
    contentCompare id hasContent elements = .ok .eq ↔
      id ≠ .null ∧ hasContent = true ∧ elements = .ok .eq := by
  unfold contentCompare
  split_ifs with hnull hcontent
  · simp [hnull]
  · simp [hnull, hcontent]
  · simp [hcontent]

/-- Two arrays of one length. -/
theorem variantCompare_array (hid : id ≠ .null) {n m : Int32} (hn : 0 ≤ n) (hnm : n = m)
    {l : Fin n.toInt.toNat → Builtin Obj id} {r : Fin m.toInt.toNat → Builtin Obj id} :
    variantCompare compareObj (.array id n l) (.array id m r) = .ok .eq ↔
      ∀ k, builtinCompare compareObj (l k) (r (k.cast (by rw [hnm]))) = .ok .eq := by
  subst hnm
  rw [variantCompare, dif_pos rfl, dif_pos rfl, contentCompare_eq_iff, compareEach_eq_iff]
  simp [hid, hn]

/-- Two matrices of the same dimensions. -/
theorem variantCompare_matrix (hid : id ≠ .null) {d : Int32} (hd : d ≠ 0)
    {dims : Fin d.toInt.toNat → Int32} (hdims : (checkedMatrixLength d dims).isSome)
    {l r : Fin (matrixLength d dims) → Builtin Obj id} :
    variantCompare compareObj (.matrix id d dims l) (.matrix id d dims r) = .ok .eq ↔
      ∀ k, builtinCompare compareObj (l k) (r k) = .ok .eq := by
  rw [checkedMatrixLength, if_neg hd] at hdims
  rw [variantCompare, dif_pos rfl, if_pos rfl, thenCompare_eq_iff, dimensionsCompare_eq_iff,
    dif_pos rfl, contentCompare_eq_iff, compareEach_eq_iff]
  simp [hid, hd, hdims]

/-- The null variant is the only one without a type that is compared. -/
theorem eq_null_of_variantKept {v : Variant Obj} (h : variantKept objs objKept v)
    (hnull : v.builtInTypeId = .null) : v = .null := by
  cases v with
  | null => rfl
  | single b => exact absurd hnull (single_typed b)
  | _ =>
    rw [variantKept] at h
    exact absurd hnull h.1

/-- An element of an array, copied or not. -/
theorem elementCompare_readBack {v : Builtin Obj id}
    (h : builtinCompare compareObj (builtinReadBack spec v) v = .ok .eq) :
    builtinCompare compareObj (if @isCopied Obj id then v else builtinReadBack spec v) v =
      .ok .eq := by
  split_ifs with hid
  · exact builtinCompare_of_isCopied compareObj hid v
  · exact h

mutual

theorem builtinCompare_readBack
    (hobj : ∀ o, objKept o → compareObj (spec.readBack o) o = .ok .eq) :
    {id : BuiltinId} → (v : Builtin Obj id) →
    builtinKept objs objKept v → builtinCompare compareObj (builtinReadBack spec v) v = .ok .eq
  | _, .flat v, h => by
    rw [builtinReadBack, builtinCompare]
    rw [builtinKept] at h
    exact flatCompare_readBack spec compareObj objKept hobj h
  | _, .dataValue v, h => by
    rw [builtinReadBack, builtinCompare]
    rw [builtinKept] at h
    exact dataValueCompare_readBack hobj v h
  | _, .variant v, h => by
    rw [builtinReadBack, builtinCompare]
    rw [builtinKept] at h
    exact variantCompare_readBack hobj v h

theorem variantCompare_readBack
    (hobj : ∀ o, objKept o → compareObj (spec.readBack o) o = .ok .eq) :
    (v : Variant Obj) → variantKept objs objKept v →
    variantCompare compareObj (variantReadBack spec v) v = .ok .eq
  | .null, _ => by rw [variantReadBack, variantCompare]
  | .single v, h => by
    rw [variantKept] at h
    rw [variantReadBack, variantCompare, dif_pos rfl, if_neg h.1]
    exact builtinCompare_readBack hobj v h.2
  | .array id length content, h => by
    rw [variantKept] at h
    obtain ⟨hid, hlength, helems⟩ := h
    rw [variantReadBack]
    have hclamp := clampLength_of_nonneg hlength
    refine (variantCompare_array compareObj hid (by rw [hclamp]; exact hlength) hclamp).2 fun k => ?_
    exact elementCompare_readBack spec compareObj (builtinCompare_readBack hobj (content _) (helems _))
  | .matrix id dimensions arrayDimensions content, h => by
    rw [variantKept] at h
    obtain ⟨hid, hd, hdims, helems⟩ := h
    rw [variantReadBack]
    refine (variantCompare_matrix compareObj hid hd hdims).2 fun k => ?_
    exact elementCompare_readBack spec compareObj (builtinCompare_readBack hobj (content k) (helems k))

theorem dataValueCompare_readBack
    (hobj : ∀ o, objKept o → compareObj (spec.readBack o) o = .ok .eq) :
    (v : DataValue Obj) → dataValueKept objs objKept v →
    dataValueCompare compareObj (dataValueReadBack spec v) v = .ok .eq
  | .mk value status source server sourcePico serverPico, h => by
    rw [dataValueKept] at h
    obtain ⟨hsource, hserver, hvalue⟩ := h
    rw [dataValueReadBack, dataValueCompare, timestamp_eq hsource, timestamp_eq hserver,
      thenCompare_eq_iff]
    refine ⟨by simp, ?_⟩
    split_ifs with hnull
    · rw [eq_null_of_variantKept objKept hvalue hnull, variantCompare]
    · exact variantCompare_readBack hobj value hvalue

end

end

end S2opc.Encoder
