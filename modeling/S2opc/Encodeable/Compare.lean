/-
What is decoded compares equal to what was encoded: objects of encodeable types.

`structKept` asks, field by field, that there is nothing in the object the
format has no place for: the fields that are not encoded have their initial
value, and nothing Compare looks at is lost in the others.  The objects in
extension objects are treated level by level, with `objectSpec` for their round
trip and `objectKept` for their comparison.
-/
import S2opc.Encodeable.RoundTrip
import S2opc.Encoder.Compare

namespace S2opc.Encodeable

open BuiltinTypes Encoder Lib.Bytes Lib.ByteCodec

variable {T Obj : Type} {types : T → EncodeableType T}

section
variable (objs : ObjectCodec Obj) {slack : Nat} (spec : objs.Spec slack)
  (initial : (ty : MemberType T) → MemberValue types Obj ty)
  (compareObj : Obj → Obj → Except Status Ordering) (objKept : Obj → Prop)

/-! ## Fields, members and objects -/

mutual

/-- Nothing Compare looks at is lost when the field is decoded. -/
def fieldKept : {ty : FieldType T} → FieldValue types Obj ty → Prop
  | _, .builtin v => builtinKept objs objKept v
  | _, .struct v => structKept v

/-- Nothing Compare looks at is lost when the member is decoded. -/
def memberKept : {ty : MemberType T} → MemberValue types Obj ty → Prop
  | _, .field v => fieldKept v
  | _, .array length content => 0 ≤ length ∧ ∀ i, fieldKept (content i)

/-- Nothing Compare looks at is lost when the members are decoded: those that are not encoded
    have their initial value. -/
def membersKept : {ms : List (Member T)} → MemberValues types Obj ms → Prop
  | _, .nil => True
  | m :: _, .required _ v rest =>
    (m.isToEncode = true → memberKept v) ∧
      (m.isToEncode = false → memberCompare compareObj (initial m.type) v = .ok .eq) ∧
      membersKept rest
  | _, .absent _ rest => membersKept rest
  | m :: _, .present _ v rest =>
    (m.isToEncode = true → memberKept v) ∧
      (m.isToEncode = false → memberCompare compareObj (initial m.type) v = .ok .eq) ∧
      membersKept rest

/-- Nothing Compare looks at is lost when the object is decoded. -/
def structKept : {e : EncodeableType T} → StructValue types Obj e → Prop
  | _, .classic vs => membersKept vs
  | _, .optFields vs => membersKept vs
  | _, .selected _ v => fieldKept v
  | _, .unselected switchField _ => switchField.toInt32 ≤ 0

end

/-- Two arrays of equal elements. -/
theorem memberCompare_array {ty : FieldType T} {n m : Int32} (hnm : n = m)
    {l : Fin n.toInt.toNat → FieldValue types Obj ty} {r : Fin m.toInt.toNat → FieldValue types Obj ty}
    (h : ∀ k, fieldCompare compareObj (l k) (r (k.cast (by rw [hnm]))) = .ok .eq) :
    memberCompare compareObj (.array n l) (.array m r) = .ok .eq := by
  subst hnm
  rw [memberCompare, dif_pos rfl, compareEach_eq_iff]
  exact h

mutual

theorem fieldCompare_readBack
    (hobj : ∀ o, objKept o → compareObj (spec.readBack o) o = .ok .eq) :
    {ty : FieldType T} → (v : FieldValue types Obj ty) →
    fieldKept objs initial compareObj objKept v →
    fieldCompare compareObj (fieldReadBack spec initial v) v = .ok .eq
  | _, .builtin v, h => by
    rw [fieldKept] at h
    rw [fieldReadBack, fieldCompare]
    exact builtinCompare_readBack spec compareObj objKept hobj v h
  | _, .struct v, h => by
    rw [fieldKept] at h
    rw [fieldReadBack, fieldCompare]
    exact structCompare_readBack hobj v h

theorem memberCompare_readBack
    (hobj : ∀ o, objKept o → compareObj (spec.readBack o) o = .ok .eq) :
    {ty : MemberType T} → (v : MemberValue types Obj ty) →
    memberKept objs initial compareObj objKept v →
    memberCompare compareObj (memberReadBack spec initial v) v = .ok .eq
  | _, .field v, h => by
    rw [memberKept] at h
    rw [memberReadBack, memberCompare]
    exact fieldCompare_readBack hobj v h
  | _, .array length content, h => by
    rw [memberKept] at h
    rw [memberReadBack]
    exact memberCompare_array compareObj (clampLength_of_nonneg h.1) fun k =>
      fieldCompare_readBack hobj (content _) (h.2 _)

theorem membersCompare_readBack
    (hobj : ∀ o, objKept o → compareObj (spec.readBack o) o = .ok .eq) :
    {ms : List (Member T)} → (vs : MemberValues types Obj ms) →
    membersKept objs initial compareObj objKept vs →
    membersCompare compareObj (membersReadBack spec initial vs) vs = .ok .eq
  | _, .nil, _ => by rw [membersReadBack, membersCompare]
  | m :: _, .required _ v rest, h => by
    rw [membersKept] at h
    obtain ⟨hencoded, hinitial, hrest⟩ := h
    rw [membersReadBack, membersCompare, thenCompare_eq_iff]
    refine ⟨?_, membersCompare_readBack hobj rest hrest⟩
    split_ifs with hm
    · exact memberCompare_readBack hobj v (hencoded hm)
    · exact hinitial (Bool.eq_false_of_not_eq_true hm)
  | _, .absent _ rest, h => by
    rw [membersKept] at h
    rw [membersReadBack, membersCompare]
    exact membersCompare_readBack hobj rest h
  | m :: _, .present _ v rest, h => by
    rw [membersKept] at h
    obtain ⟨hencoded, hinitial, hrest⟩ := h
    rw [membersReadBack, membersCompare, thenCompare_eq_iff]
    refine ⟨?_, membersCompare_readBack hobj rest hrest⟩
    split_ifs with hm
    · exact memberCompare_readBack hobj v (hencoded hm)
    · exact hinitial (Bool.eq_false_of_not_eq_true hm)

theorem structCompare_readBack
    (hobj : ∀ o, objKept o → compareObj (spec.readBack o) o = .ok .eq) :
    {e : EncodeableType T} → (v : StructValue types Obj e) →
    structKept objs initial compareObj objKept v →
    structCompare compareObj (structReadBack spec initial v) v = .ok .eq
  | _, .classic vs, h => by
    rw [structKept] at h
    rw [structReadBack, structCompare]
    exact membersCompare_readBack hobj vs h
  | _, .optFields vs, h => by
    rw [structKept] at h
    rw [structReadBack, structCompare]
    exact membersCompare_readBack hobj vs h
  | _, .selected i v, h => by
    rw [structKept] at h
    rw [structReadBack, structCompare, dif_pos rfl]
    exact fieldCompare_readBack hobj v h
  | _, @StructValue.unselected _ _ _ fields switchField _, h => by
    rw [structKept, Int32.le_iff_toInt_le] at h
    have hzero : (0 : Int32).toInt = 0 := rfl
    rw [structReadBack, structCompare, numberCompare_self, thenCompare_eq_iff, if_neg (by omega)]
    exact ⟨rfl, rfl⟩

end

end

/-! ## The Encode and Decode functions -/

section
variable (registry : Registry T) (cst : EncodingConstants)

/-- The objects in extension objects are decoded, those of a type that is found by its id. -/
def objectSpec (slack : Nat) : (k : Nat) → (objectCodec registry cst k).Spec slack
  | 0 =>
    { readBack := fun o => o
      Fits := fun _ => True
      faithful := fun o => o.elim }
  | k + 1 =>
    { readBack := fun o => ⟨o.1, structReadBack (objectSpec slack k) (registry.initialMember k) o.2⟩
      Fits := fun o =>
        registry.getEncodeableType (registry.typeId o.1).1 (registry.typeId o.1).2 = some o.1 ∧
          structFits cst (objectSpec slack k) o.2
      faithful := fun o hfits => by
        refine ⟨_, congrArg (Option.map _) hfits.1, fun room => ?_⟩
        exact (encodeAt_roundTrip cst (objectSpec slack k) (registry.initialMember k) room o.2
          hfits.2).last rfl }

section
variable [DecidableEq T]

/-- Nothing Compare looks at is lost in the objects in extension objects. -/
def objectKept : (k : Nat) → ObjAt registry k → Prop
  | 0, _ => True
  | k + 1, o => structKept (objectCodec registry cst k) (registry.initialMember k)
      (objectCompare registry k) (objectKept k) o.2

theorem objectCompare_readBack (slack k : Nat) (o : ObjAt registry k) (h : objectKept registry cst k o) :
    objectCompare registry k ((objectSpec registry cst slack k).readBack o) o = .ok .eq := by
  induction k with
  | zero => exact o.elim
  | succ k ih =>
    show (if _ : o.1 = o.1 then _ else _) = _
    rw [dif_pos rfl]
    exact structCompare_readBack _ (objectSpec registry cst slack k) (registry.initialMember k) _ _ ih
      o.2 h

end

/-- `SOPC_EncodeableObject_Encode`, for objects with at most `k` levels of objects in extension
    objects. -/
def encode (k : Nat) (nestedStructLevel : UInt32) {e : EncodeableType T}
    (value : StructValue registry.types (ObjAt registry k) e) : Writer :=
  encodeAt cst (objectCodec registry cst k) (roomAt cst nestedStructLevel) value

/-- `SOPC_EncodeableObject_Decode`. -/
def decode (k : Nat) (nestedStructLevel : UInt32) (e : EncodeableType T) :
    Reader (StructValue registry.types (ObjAt registry k) e) :=
  decodeAt cst (objectCodec registry cst k) (registry.initialMember k)
    (roomAt cst nestedStructLevel) e

variable [DecidableEq T]

/-- `SOPC_EncodeableObject_Compare`. -/
def compare (k : Nat) {e : EncodeableType T}
    (left right : StructValue registry.types (ObjAt registry k) e) : Except Status Ordering :=
  structCompare (objectCompare registry k) left right

/-- An object that can be decoded and whose parts are all in the format: decoding what is
    written for it gives an object that compares equal to it.  The bytes left in the buffer matter
    to an object that holds a union, which fits with 4 of them. -/
theorem encoded_object_is_decoded (spare k : Nat) (nestedStructLevel : UInt32)
    {e : EncodeableType T} (value : StructValue registry.types (ObjAt registry k) e)
    (hfits : structFits cst (objectSpec registry cst spare k) value)
    (hkept : structKept (objectCodec registry cst k) (registry.initialMember k)
      (objectCompare registry k) (objectKept registry cst k) value)
    (b b' : Buffer) (hencode : encode registry cst k nestedStructLevel value b = .ok ((), b'))
    (hfree : b'.position + spare ≤ b'.maximumSize.toNat) :
    ∃ start object, b'.seek b.position = some start ∧
      decode registry cst k nestedStructLevel e start = .ok (object, b') ∧
      compare registry k object value = .ok .eq := by
  obtain ⟨bytes, hbytes, haccepts⟩ := encodeAt_roundTrip cst (objectSpec registry cst spare k)
    (registry.initialMember k) (roomAt cst nestedStructLevel) value hfits b b' hencode hfree
  obtain ⟨start, hseek, hread⟩ := Buffer.read_of_write hbytes
  refine ⟨start, _, hseek, haccepts start b' hread, ?_⟩
  exact structCompare_readBack _ (objectSpec registry cst spare k) (registry.initialMember k) _ _
    (objectCompare_readBack registry cst spare k) value hkept

end

/-! ## An instance -/

/-- The types of the examples below. -/
inductive SampleType where
  | point
  | shape
  | figure
  | header
  deriving DecidableEq, Repr

/-- A field of a built-in type that is always there. -/
abbrev plainField {T : Type} (id : BuiltinId) (h : id ≠ .null) : Member T :=
  ⟨false, true, .field (.builtin id h)⟩

/-- A structure with an array, a union, a structure with optional fields and one with a field
    that is not to be encoded. -/
def sampleTypes : SampleType → EncodeableType SampleType
  | .point => .classic [plainField .int32 (by decide), ⟨false, true, .array (.builtin .uint16 (by decide))⟩]
  | .shape => .union [.builtin .string (by decide), .struct .point]
  | .figure => .optFields [⟨true, true, .field (.builtin .byte (by decide))⟩,
      ⟨true, true, .field (.builtin .boolean (by decide))⟩, ⟨false, true, .field (.struct .shape)⟩]
  | .header => .classic [⟨false, false, .field (.builtin .uint32 (by decide))⟩]

/-- The initial objects of these types. -/
def sampleInitial (Obj : Type) : (t : SampleType) → StructValue sampleTypes Obj (sampleTypes t)
  | .point => .classic (.required rfl (.field (.builtin (.flat (.int32 0))))
      (.required rfl (.array 0 fun i => i.elim0) .nil))
  | .shape => .unselected 0 (Or.inl (by decide))
  | .figure => .optFields (.absent rfl (.absent rfl
      (.required rfl (.field (.struct (.unselected 0 (Or.inl (by decide))))) .nil)))
  | .header => .classic (.required rfl (.field (.builtin (.flat (.uint32 0)))) .nil)

/-- The registry of these types, with their numbers as type ids. -/
def sampleRegistry : Registry SampleType where
  types := sampleTypes
  initial := sampleInitial
  initial_eq Obj t := by cases t <;> rfl
  typeId
    | .point => (1, 1)
    | .shape => (1, 2)
    | .figure => (1, 3)
    | .header => (1, 4)
  getEncodeableType ns n :=
    if ns = 1 then
      if n = 1 then some .point else if n = 2 then some .shape else if n = 3 then some .figure
      else if n = 4 then some .header else none
    else none
  address
    | .point => 0
    | .shape => 1
    | .figure => 2
    | .header => 3

/-- A figure with one of its two optional fields, and a point with two numbers. -/
def sampleFigure : StructValue sampleRegistry.types (ObjAt sampleRegistry 0) (sampleTypes .figure) :=
  .optFields (.absent rfl (.present rfl (.field (.builtin (.flat (.boolean 1))))
    (.required rfl (.field (.struct (.selected 1 (.struct (.classic
      (.required rfl (.field (.builtin (.flat (.int32 (-2)))))
        (.required rfl (.array 2 fun i => .builtin (.flat (.uint16 (7 + i.val.toUInt16)))) .nil))))))) .nil)))

/-- The buffer that figure is written to. -/
def sampleFigureBuffer : Buffer :=
  ⟨[2, 0, 0, 0, 1, 2, 0, 0, 0, 254, 255, 255, 255, 2, 0, 0, 0, 7, 0, 8, 0], 21, 64, by decide, by decide⟩

theorem sampleFigure_is_decoded :
    ∃ start object, sampleFigureBuffer.seek 0 = some start ∧
      decode sampleRegistry smallConstants 0 0 (sampleTypes .figure) start =
        .ok (object, sampleFigureBuffer) ∧
      compare sampleRegistry 0 object sampleFigure = .ok .eq := by
  refine encoded_object_is_decoded sampleRegistry smallConstants 4 0 0 sampleFigure ?_ ?_
    (Buffer.empty 64) sampleFigureBuffer (by decide +kernel) (by decide)
  · simp [sampleFigure, structFits, membersFits, memberFits, fieldFits, builtinFits, flatFits,
      numberOfOptionalField]
    decide
  · simp [sampleFigure, structKept, membersKept, memberKept, fieldKept, builtinKept, flatKept,
      booleanValue]

/-- The buffer a union without a value is written to. -/
def nullUnionBuffer : Buffer := ⟨[0, 0, 0, 0], 4, 64, by decide, by decide⟩

/-- A union without a value is encoded and not decoded, and a field that is not to be encoded
    is lost. -/
theorem null_union_and_unencoded_field_are_lost :
    (∃ start, encode sampleRegistry smallConstants 0 0
        (@StructValue.unselected _ sampleRegistry.types (ObjAt sampleRegistry 0)
          [.builtin .string (by decide), .struct .point] 0 (Or.inl (by decide)))
        (Buffer.empty 64) = .ok ((), nullUnionBuffer) ∧
      nullUnionBuffer.seek 0 = some start ∧
      decode sampleRegistry smallConstants 0 0 (sampleTypes .shape) start = .error .encodingError) ∧
    ∃ object, ∃ value : StructValue sampleRegistry.types (ObjAt sampleRegistry 0)
        (sampleTypes .header),
      encode sampleRegistry smallConstants 0 0 value (Buffer.empty 64) = .ok ((), Buffer.empty 64) ∧
      decode sampleRegistry smallConstants 0 0 (sampleTypes .header) (Buffer.empty 64) =
        .ok (object, Buffer.empty 64) ∧
      compare sampleRegistry 0 object value = .ok .lt := by
  refine ⟨⟨_, by decide +kernel, rfl, ?_⟩, sampleInitial _ .header,
    .classic (.required rfl (.field (.builtin (.flat (.uint32 5)))) .nil), by decide +kernel, ?_, ?_⟩
  · show decodeAt _ _ _ 10 _ _ = _
    rw [decodeAt]
    rfl
  · show decodeAt _ _ _ 10 _ _ = _
    rw [decodeAt]
    rfl
  · simp only [compare, sampleInitial, structCompare]
    rfl

end S2opc.Encodeable
