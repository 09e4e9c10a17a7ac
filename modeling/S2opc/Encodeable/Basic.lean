/-
Encodeable types and their objects (`sopc_encodeabletype.h`).

A type is a list of field descriptors.  Those of a length and of its array
always come together, the array right after its length and with the same
`isOptional` and `isToEncode`, so the two descriptors are one `Member` here.
The first descriptor of a union is its switch field, which is left implicit.
Types refer to each other by an index of an arbitrary type `T`, which stands
for the namespace and the index of `SOPC_EncodeableType_FieldDescriptor`.

Objects are indexed by their type: a field of another type, an array with
another number of elements than its length says, or a union whose value is not
of the selected field cannot be built.
-/
import S2opc.BuiltinTypes.Variant

namespace S2opc.Encodeable

open BuiltinTypes

/-! ## Types -/

/-- The type of a field: a built-in type other than Null, or another encodeable type. -/
inductive FieldType (T : Type) where
  | builtin (id : BuiltinId) (h : id ≠ .null)
  | struct (t : T)
  deriving DecidableEq, Repr

/-- What a member holds: a field, or an array with its length. -/
inductive MemberType (T : Type) where
  | field (type : FieldType T)
  | array (type : FieldType T)
  deriving DecidableEq, Repr

/-- The descriptor of a field, or the two of an array and its length. -/
structure Member (T : Type) where
  isOptional : Bool
  isToEncode : Bool
  type : MemberType T
  deriving DecidableEq, Repr

theorem required_of_not {T : Type} {m : Member T} (h : ¬m.isOptional = true) :
    m.isOptional = false := Bool.eq_false_of_not_eq_true h

/-- `SOPC_EncodeableType`, with its `SOPC_EncodeableType_StructureType`.  `fields` of a union
    are those after the switch field. -/
inductive EncodeableType (T : Type) where
  | classic (members : List (Member T))
  | optFields (members : List (Member T))
  | union (fields : List (FieldType T))
  deriving DecidableEq, Repr

/-- `EncodeableObject_RetrieveNumberOfOptionalField`. -/
def numberOfOptionalField {T : Type} (members : List (Member T)) : Nat :=
  members.countP Member.isOptional

/-! ## Objects -/

mutual

/-- The value of a field. -/
inductive FieldValue {T : Type} (types : T → EncodeableType T) (Obj : Type) : FieldType T → Type where
  | builtin {id : BuiltinId} {h : id ≠ .null} (v : Builtin Obj id) :
      FieldValue types Obj (.builtin id h)
  | struct {t : T} (v : StructValue types Obj (types t)) : FieldValue types Obj (.struct t)

/-- The value of a member. -/
inductive MemberValue {T : Type} (types : T → EncodeableType T) (Obj : Type) : MemberType T → Type where
  | field {ty : FieldType T} (v : FieldValue types Obj ty) : MemberValue types Obj (.field ty)
  | array {ty : FieldType T} (length : Int32)
      (content : Fin length.toInt.toNat → FieldValue types Obj ty) : MemberValue types Obj (.array ty)

/-- The values of the members of a structure.  An optional member is a pointer, which is NULL
    when the member is absent. -/
inductive MemberValues {T : Type} (types : T → EncodeableType T) (Obj : Type) :
    List (Member T) → Type where
  | nil : MemberValues types Obj []
  | required {m : Member T} {ms : List (Member T)} (h : m.isOptional = false)
      (v : MemberValue types Obj m.type) (rest : MemberValues types Obj ms) :
      MemberValues types Obj (m :: ms)
  | absent {m : Member T} {ms : List (Member T)} (h : m.isOptional = true)
      (rest : MemberValues types Obj ms) : MemberValues types Obj (m :: ms)
  | present {m : Member T} {ms : List (Member T)} (h : m.isOptional = true)
      (v : MemberValue types Obj m.type) (rest : MemberValues types Obj ms) :
      MemberValues types Obj (m :: ms)

/-- An object of a type.  A union has the value of the field its switch selects; a switch that
    selects none, among them 0, leaves it without a value. -/
inductive StructValue {T : Type} (types : T → EncodeableType T) (Obj : Type) :
    EncodeableType T → Type where
  | classic {ms : List (Member T)} (vs : MemberValues types Obj ms) :
      StructValue types Obj (.classic ms)
  | optFields {ms : List (Member T)} (vs : MemberValues types Obj ms) :
      StructValue types Obj (.optFields ms)
  | selected {fields : List (FieldType T)} (i : Fin fields.length)
      (v : FieldValue types Obj (fields.get i)) : StructValue types Obj (.union fields)
  | unselected {fields : List (FieldType T)} (switchField : UInt32)
      (h : switchField.toInt32 ≤ 0 ∨ (fields.length : Int) < switchField.toInt32.toInt) :
      StructValue types Obj (.union fields)

end

/-! ## Initial values -/

section
variable {T Obj : Type} {types : T → EncodeableType T}
  (init : (t : T) → StructValue types Obj (types t))

/-- `getPfnInitialize`, given the initial objects. -/
def initialField :
    (ty : FieldType T) → FieldValue types Obj ty
  | .builtin id h => .builtin (initialBuiltin Obj id h)
  | .struct t => .struct (init t)

/-- A member that is not NULL, once initialized: an array has no elements. -/
def initialMember :
    (ty : MemberType T) → MemberValue types Obj ty
  | .field ty => .field (initialField init ty)
  | .array _ => .array 0 fun i => i.elim0

/-- The loop in `SOPC_EncodeableObject_InternalInitialize`. -/
def initialMembers (init : (t : T) → StructValue types Obj (types t)) :
    (ms : List (Member T)) → MemberValues types Obj ms
  | [] => .nil
  | m :: ms =>
    if h : m.isOptional = true then .absent h (initialMembers init ms)
    else .required (required_of_not h) (initialMember init m.type)
      (initialMembers init ms)

/-- `SOPC_EncodeableObject_InternalInitialize`. -/
def initialStruct :
    (e : EncodeableType T) → StructValue types Obj e
  | .classic ms => .classic (initialMembers init ms)
  | .optFields ms => .optFields (initialMembers init ms)
  | .union _ => .unselected 0 (Or.inl (by decide))

end

/-- The types known to the decoder.  An object holds its fields by value, so that a type
    cannot hold itself in one: the recursive calls of the initialization reach an end, and
    `initial` is what they compute. -/
structure Registry (T : Type) where
  types : T → EncodeableType T
  initial : (Obj : Type) → (t : T) → StructValue types Obj (types t)
  initial_eq : ∀ Obj t, initial Obj t = initialStruct (initial Obj) (types t)
  typeId : T → UInt16 × UInt32
  getEncodeableType : UInt16 → UInt32 → Option T
  address : T → Nat

end S2opc.Encodeable
