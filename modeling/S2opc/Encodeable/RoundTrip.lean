/-
What is encoded is what is decoded: objects of encodeable types.

`structReadBack` is the object Decode gives for an encoded one, by recursion on
the object: the fields that are not to be encoded have their initial value, and
the others are what their own Write and Read functions make of them.
`structFits` collects what the decoder refuses, unions without a selected field
and 32 optional fields among it, and asks for 4 bytes left in the buffer where
there is a union: its switch field may be lost without them.
-/
import S2opc.Encodeable.Codec

namespace S2opc.Encodeable

open BuiltinTypes Encoder Lib.Bytes Lib.ByteCodec List

variable {T Obj : Type} {types : T → EncodeableType T}

/-! ## The mask of the optional fields -/

/-- Which of the optional members are present. -/
def presence : {ms : List (Member T)} → MemberValues types Obj ms → List Bool
  | _, .nil => []
  | _, .required _ _ rest => presence rest
  | _, .absent _ rest => false :: presence rest
  | _, .present _ _ rest => true :: presence rest

/-- The number whose bits are the given ones, the first being the lowest. -/
def ofBits (bits : List Bool) : Nat := bits.foldr Nat.bit 0

theorem testBit_ofBits (bits : List Bool) (i : Nat) : (ofBits bits).testBit i = bits.getD i false := by
  induction bits generalizing i with
  | nil => simp [ofBits]
  | cons b bits ih =>
    cases i with
    | zero => exact Nat.testBit_bit_zero b _
    | succ i => exact (Nat.testBit_bit_succ i b _).trans (ih i)

theorem ofBits_lt (bits : List Bool) : ofBits bits < 2 ^ bits.length := by
  induction bits with
  | nil => exact Nat.one_pos
  | cons b bits ih =>
    have hbit : ofBits (b :: bits) = 2 * ofBits bits + b.toNat := Nat.bit_val b _
    have hb := b.toNat_le
    rw [hbit, length_cons, Nat.pow_succ]
    omega

theorem length_presence : {ms : List (Member T)} → (vs : MemberValues types Obj ms) →
    (presence vs).length = numberOfOptionalField ms
  | _, .nil => rfl
  | m :: ms, .required h _ rest => by
    rw [presence, length_presence rest, numberOfOptionalField, numberOfOptionalField,
      countP_cons_of_neg (by rw [h]; decide)]
  | m :: ms, .absent h rest => by
    rw [presence, length_cons, length_presence rest, numberOfOptionalField,
      numberOfOptionalField, countP_cons_of_pos h]
  | m :: ms, .present h _ rest => by
    rw [presence, length_cons, length_presence rest, numberOfOptionalField,
      numberOfOptionalField, countP_cons_of_pos h]

/-- The loop adds the bits of the members it passes, one place after the other. -/
theorem encodingMaskLoop_eq : {ms : List (Member T)} → (vs : MemberValues types Obj ms) →
    (i mask : Nat) → i + (presence vs).length ≤ 32 →
    encodingMaskLoop vs i mask = some (mask + 2 ^ i * ofBits (presence vs))
  | _, .nil, i, mask, _ => by simp [encodingMaskLoop, presence, ofBits]
  | _, .required _ _ rest, i, mask, h => encodingMaskLoop_eq rest i mask h
  | _, .absent _ rest, i, mask, h => by
    rw [presence, length_cons] at h
    have hbits : ofBits (false :: presence rest) = 2 * ofBits (presence rest) := Nat.bit_val false _
    rw [encodingMaskLoop, encodingMaskLoop_eq rest (i + 1) mask (by omega), presence, hbits,
      Nat.pow_succ, Nat.mul_assoc]
  | _, .present _ _ rest, i, mask, h => by
    rw [presence, length_cons] at h
    have hbits : ofBits (true :: presence rest) = 2 * ofBits (presence rest) + 1 :=
      Nat.bit_val true _
    rw [encodingMaskLoop, if_pos (by omega),
      encodingMaskLoop_eq rest (i + 1) (mask + 2 ^ i) (by omega), presence, hbits, Nat.pow_succ,
      Nat.mul_add, Nat.mul_one, Nat.mul_assoc, Nat.add_assoc, Nat.add_comm (2 ^ i)]

variable {ms : List (Member T)}

/-- The mask that is written for the members of an object. -/
theorem encodingMaskLoop_zero (vs : MemberValues types Obj ms) (h : numberOfOptionalField ms < 32) :
    encodingMaskLoop vs 0 0 = some (ofBits (presence vs)) := by
  rw [encodingMaskLoop_eq vs 0 0 (by rw [length_presence]; omega), Nat.zero_add, Nat.pow_zero,
    Nat.one_mul]

theorem toNat_encodingMask (vs : MemberValues types Obj ms) (h : numberOfOptionalField ms < 32) :
    (UInt32.ofNat (ofBits (presence vs))).toNat = ofBits (presence vs) := by
  have hlt := ofBits_lt (presence vs)
  have hpow : 2 ^ (presence vs).length ≤ 2 ^ 32 :=
    Nat.pow_le_pow_right (by omega) (by rw [length_presence]; omega)
  exact UInt32.toNat_ofNat_of_lt' (by rw [UInt32.size]; omega)

variable {slack : Nat}

theorem encodingMask_roundTrip (room : Nat) (vs : MemberValues types Obj ms)
    (h : numberOfOptionalField ms < 32) :
    RoundTrip slack (uint32Write room (UInt32.ofNat (ofBits (presence vs))))
      (encodingMaskRead room ms) (ofBits (presence vs)) := by
  have hlt := ofBits_lt (presence vs)
  have hnat := toNat_encodingMask vs h
  refine (scalar_roundTrip .uint32 room _).thenPure ?_
  rw [if_pos h, hnat, if_neg]
  rw [length_presence] at hlt
  omega

/-! ## The switch field of a union -/

/-- With 4 bytes left, the write whose status is ignored does not fail. -/
theorem switch_roundTrip (hslack : 4 ≤ slack) (room : Nat) (s : UInt32) :
    RoundTrip slack (ignoreStatus (uint32Write (room + 1) s)) (switchRead (room + 1)) s := by
  intro b b' hw hfree
  have hread : ∀ {bytes}, Accepts (uint32Read (room + 1)) bytes s →
      Accepts (switchRead (room + 1)) bytes s := by
    intro bytes h x x' hx
    rw [switchRead, h x x' hx]
  cases hwrite : uint32Write (room + 1) s b with
  | ok r =>
    rw [ignoreStatus, hwrite] at hw
    cases hw
    obtain ⟨bytes, hbytes, ha⟩ := scalar_roundTrip .uint32 (room + 1) s b b' hwrite hfree
    exact ⟨bytes, hbytes, hread ha⟩
  | error e =>
    have hb : b' = b := by
      rw [ignoreStatus, hwrite] at hw
      cases e <;> cases hw <;> rfl
    -- There would have been enough space
    have hlen : (Scalar.uint32.bytes s).length = 4 := Scalar.uint32.length_bytes s
    have hmax := b.maximumSize.toNat_lt
    rw [hb] at hfree
    have hok : ∃ b₁, b.write (Scalar.uint32.bytes s) = some b₁ := ⟨_, dif_pos (by rw [hlen]; omega)⟩
    obtain ⟨b₁, hb₁⟩ := hok
    have hbuffer : bufferWrite (Scalar.uint32.bytes s) b = .ok ((), b₁) := by
      rw [bufferWrite, if_pos (by rw [hlen, Nat.mod_eq_of_lt (by omega)]; omega), hb₁]
    have hsuccess : uint32Write (room + 1) s b = .ok ((), b₁) := mapError_eq_ok.2 hbuffer
    rw [hsuccess] at hwrite
    cases hwrite

theorem selectedField_switchOf {fields : List (FieldType T)} (h : fields.length < 2 ^ 31)
    (i : Fin fields.length) : selectedField fields (switchOf i) = some i := by
  have hint : (switchOf i).toInt32.toInt = i.val + 1 := by
    have hofNat : (switchOf i).toInt32 = Int32.ofNat (i.val + 1) := rfl
    rw [hofNat, Int32.toInt_ofNat_of_lt (by omega)]
    rfl
  unfold selectedField
  rw [dif_pos (by rw [hint]; omega)]
  simp only [hint, Option.some.injEq]
  exact Fin.ext (by simp only; omega)

/-! ## What is read back -/

variable {ty : FieldType T}

section
variable (cst : EncodingConstants) {objs : ObjectCodec Obj} {slack : Nat} (spec : objs.Spec slack)
  (initial : (ty : MemberType T) → MemberValue types Obj ty)

mutual

/-- A field as it is decoded. -/
def fieldReadBack : {ty : FieldType T} → FieldValue types Obj ty → FieldValue types Obj ty
  | _, .builtin v => .builtin (builtinReadBack spec v)
  | _, .struct v => .struct (structReadBack v)

/-- A member as it is decoded. -/
def memberReadBack : {ty : MemberType T} → MemberValue types Obj ty → MemberValue types Obj ty
  | _, .field v => .field (fieldReadBack v)
  | _, .array length content => .array (clampLength length) fun i =>
    fieldReadBack (content (i.cast (toNat_clampLength length)))

/-- The members as they are decoded: those that are not encoded have their initial value. -/
def membersReadBack : {ms : List (Member T)} → MemberValues types Obj ms → MemberValues types Obj ms
  | _, .nil => .nil
  | m :: _, .required h v rest =>
    .required h (if m.isToEncode = true then memberReadBack v else initial m.type)
      (membersReadBack rest)
  | _, .absent h rest => .absent h (membersReadBack rest)
  | m :: _, .present h v rest =>
    .present h (if m.isToEncode = true then memberReadBack v else initial m.type)
      (membersReadBack rest)

/-- An object as it is decoded. -/
def structReadBack : {e : EncodeableType T} → StructValue types Obj e → StructValue types Obj e
  | _, .classic vs => .classic (membersReadBack vs)
  | _, .optFields vs => .optFields (membersReadBack vs)
  | _, .selected i v => .selected i (fieldReadBack v)
  | _, .unselected switchField h => .unselected switchField h

end

mutual

/-- A field can be decoded. -/
def fieldFits : {ty : FieldType T} → FieldValue types Obj ty → Prop
  | _, .builtin v => builtinFits cst spec v
  | _, .struct v => structFits v

/-- A member can be decoded. -/
def memberFits : {ty : MemberType T} → MemberValue types Obj ty → Prop
  | _, .field v => fieldFits v
  | _, .array length content => clampLength length ≤ cst.maxArrayLength ∧ ∀ i, fieldFits (content i)

/-- The members that are encoded can be decoded. -/
def membersFits : {ms : List (Member T)} → MemberValues types Obj ms → Prop
  | _, .nil => True
  | m :: _, .required _ v rest => (m.isToEncode = true → memberFits v) ∧ membersFits rest
  | _, .absent _ rest => membersFits rest
  | m :: _, .present _ v rest => (m.isToEncode = true → memberFits v) ∧ membersFits rest

/-- An object can be decoded: only types with optional fields have some, at most 31, every union
    has a value, and 4 bytes are left if there is one. -/
def structFits : {e : EncodeableType T} → StructValue types Obj e → Prop
  | _, @StructValue.classic _ _ _ ms vs => numberOfOptionalField ms = 0 ∧ membersFits vs
  | _, @StructValue.optFields _ _ _ ms vs => numberOfOptionalField ms < 32 ∧ membersFits vs
  | _, @StructValue.selected _ _ _ fields _ v =>
    fields.length < 2 ^ 31 ∧ 4 ≤ slack ∧ fieldFits v
  | _, .unselected _ _ => False

end

/-! ## Members -/

section
variable {memberW : {ty : MemberType T} → MemberValue types Obj ty → Writer}
  {memberR : (ty : MemberType T) → Reader (MemberValue types Obj ty)}
  (hmember : ∀ {ty : MemberType T} (v : MemberValue types Obj ty), memberFits cst spec v →
    RoundTrip slack (memberW v) (memberR ty) (memberReadBack spec initial v))

include hmember

/-- A member that is there, encoded or not. -/
theorem member_roundTrip {m : Member T} {v : MemberValue types Obj m.type} {p : Prop} [Decidable p]
    (hp : p ↔ m.isToEncode = true) (hfits : m.isToEncode = true → memberFits cst spec v) :
    RoundTrip slack (writeIf p (memberW v)) (readIf (m.isToEncode = true) (memberR m.type) (initial m.type))
      (if m.isToEncode = true then memberReadBack spec initial v else initial m.type) := by
  refine .optional hp.symm (fun h => ?_) fun h => ?_
  · rw [if_pos (hp.1 h)]
    exact hmember v (hfits (hp.1 h))
  · rw [if_neg (mt hp.2 h)]

/-- The loop on the members, the mask holding the presence of those that are left from its
    bit `i` on. -/
theorem members_roundTrip (encodingMask : Nat) : {ms : List (Member T)} →
    (vs : MemberValues types Obj ms) → (i : Nat) → membersFits cst spec vs →
    i + (presence vs).length ≤ 32 →
    (∀ j, encodingMask.testBit (i + j) = (presence vs).getD j false) →
    RoundTrip slack (membersWrite memberW encodingMask vs i)
      (membersRead memberR initial encodingMask ms i) (membersReadBack spec initial vs)
  | _, .nil, _, _, _, _ => by
    rw [membersReadBack]
    exact RoundTrip.pure rfl
  | m :: ms, .required h v rest, i, hfits, hi, hmask => by
    rw [membersFits] at hfits
    rw [membersWrite, membersRead, dif_neg (by rw [h]; decide), membersReadBack]
    refine (member_roundTrip cst spec initial hmember Iff.rfl hfits.1).bind ?_
    exact (members_roundTrip encodingMask rest i hfits.2 hi hmask).last rfl
  | m :: ms, .absent h rest, i, hfits, hi, hmask => by
    rw [membersFits] at hfits
    rw [presence, length_cons] at hi
    have hbit : encodingMask.testBit i = false := hmask 0
    have hskip : optionalWrite m.isToEncode encodingMask i (throw .undefinedBehaviour) = pure () := by
      rw [optionalWrite, if_pos (by omega), writeIf, if_neg (by rw [hbit]; simp)]
    rw [membersWrite, hskip, pure_bind, membersRead, dif_pos h, if_neg (by rw [hbit]; decide),
      membersReadBack]
    refine (members_roundTrip encodingMask rest (i + 1) hfits (by omega) fun j => ?_).last rfl
    rw [show i + 1 + j = i + (j + 1) by omega]
    exact hmask (j + 1)
  | m :: ms, .present h v rest, i, hfits, hi, hmask => by
    rw [membersFits] at hfits
    rw [presence, length_cons] at hi
    have hbit : encodingMask.testBit i = true := hmask 0
    rw [membersWrite, optionalWrite, if_pos (by omega), membersRead, dif_pos h, if_pos hbit,
      membersReadBack]
    refine (member_roundTrip cst spec initial hmember (and_iff_left hbit) hfits.1).bind ?_
    refine (members_roundTrip encodingMask rest (i + 1) hfits.2 (by omega) fun j => ?_).last rfl
    rw [show i + 1 + j = i + (j + 1) by omega]
    exact hmask (j + 1)

end

/-! ## Objects -/

/-- Without any level left, no field can be written. -/
theorem fieldWrite_zero {struct : {e : EncodeableType T} → StructValue types Obj e → Writer}
    (hstruct : ∀ {e : EncodeableType T} (v : StructValue types Obj e), struct v = throw
      .invalidState) (v : FieldValue types Obj ty) :
    fieldWrite cst objs 0 struct v = throw .invalidState := by
  cases v with
  | struct v => exact hstruct v
  | builtin v =>
    cases v with
    | flat v => cases v <;> rfl
    | dataValue v =>
      show dataValueWriteAt cst objs 0 v = _
      rw [dataValueWriteAt]
    | variant v =>
      show variantWriteAt cst objs 0 v = _
      rw [variantWriteAt]

variable {room : Nat}

theorem field_roundTrip {structW : {e : EncodeableType T} → StructValue types Obj e → Writer}
    {structR : (e : EncodeableType T) → Reader (StructValue types Obj e)}
    (hstruct : ∀ {e : EncodeableType T} (v : StructValue types Obj e), structFits cst spec v →
      RoundTrip slack (structW v) (structR e) (structReadBack spec initial v))
    {v : FieldValue types Obj ty} (hfits : fieldFits cst spec v) :
    RoundTrip slack (fieldWrite cst objs room structW v) (fieldRead cst objs room structR ty)
      (fieldReadBack spec initial v) := by
  rcases v with v | v
  · rw [fieldFits] at hfits
    rw [fieldReadBack]
    exact (element_roundTrip cst spec (roundTripsAt cst spec room) hfits).last rfl
  rw [fieldFits] at hfits
  rw [fieldReadBack]
  exact (hstruct v hfits).last rfl

theorem array_roundTrip {elemW : FieldValue types Obj ty → Writer}
    {elemR : Reader (FieldValue types Obj ty)} {length : Int32}
    {content : Fin length.toInt.toNat → FieldValue types Obj ty}
    (hmax : clampLength length ≤ cst.maxArrayLength)
    (helem : ∀ i, RoundTrip slack (elemW (content i)) elemR
      (fieldReadBack spec initial (content i))) :
    RoundTrip slack (int32Write room length >>= fun _ => writeEach _ fun i => elemW (content i))
      (arrayFieldRead cst room elemR) (memberReadBack spec initial (.array length content)) := by
  refine (scalar_roundTrip .int32 room length).bind ?_
  rw [if_neg (Int32.not_lt.2 hmax), memberReadBack]
  exact (RoundTrip.eachCast (toNat_clampLength length) fun i => helem _).last rfl

variable {e : EncodeableType T}

/-- The three kinds of types, given the round trips of their members and fields. -/
theorem struct_roundTrip (room : Nat)
    {memberW : {ty : MemberType T} → MemberValue types Obj ty → Writer}
    {memberR : (ty : MemberType T) → Reader (MemberValue types Obj ty)}
    {singleR : (ty : FieldType T) → Reader (FieldValue types Obj ty)}
    (hmember : ∀ {ty : MemberType T} (v : MemberValue types Obj ty), memberFits cst spec v →
      RoundTrip slack (memberW v) (memberR ty) (memberReadBack spec initial v))
    (hsingle : ∀ {ty : FieldType T} (v : FieldValue types Obj ty), fieldFits cst spec v →
      RoundTrip slack (memberW (.field v)) (singleR ty) (fieldReadBack spec initial v))
    (hzero : ∀ {ty : FieldType T} (v : FieldValue types Obj ty), room = 0 → memberW (.field v) =
      throw .invalidState) {v : StructValue types Obj e} (hfits : structFits cst spec v) :
    RoundTrip slack (structWrite room memberW v) (structRead room singleR memberR initial e)
      (structReadBack spec initial v) := by
  cases v with
  | @classic ms vs =>
    rw [structFits] at hfits
    have hnone : presence vs = [] := by
      rw [← length_eq_zero_iff, length_presence, hfits.1]
    rw [structReadBack]
    refine .last (members_roundTrip cst spec initial hmember 0 vs 0 hfits.2 ?_ ?_) rfl
    · rw [hnone]
      decide
    · intro j
      rw [hnone]
      simp
  | @optFields ms vs =>
    rw [structFits] at hfits
    rw [structWrite, encodingMaskLoop_zero vs hfits.1, structReadBack]
    refine (encodingMask_roundTrip room vs hfits.1).bind ?_
    refine .last
      (members_roundTrip cst spec initial hmember (ofBits (presence vs)) vs 0 hfits.2 ?_ ?_) rfl
    · rw [length_presence]
      omega
    · intro j
      rw [Nat.zero_add]
      exact testBit_ofBits (presence vs) j
  | selected i v =>
    rw [structFits] at hfits
    rw [structWrite, structReadBack]
    rcases room with _ | room
    · -- The switch is not written, and nothing else is either
      intro b b' hw
      obtain ⟨_, b₁, -, hw⟩ := bind_eq_ok hw
      rw [hzero v rfl] at hw
      cases hw
    obtain ⟨hfields, hslack, hv⟩ := hfits
    refine (switch_roundTrip hslack room (switchOf i)).bind ?_
    rw [selectedField_switchOf hfields]
    exact (hsingle v hv).last rfl
  | unselected s h =>
    rw [structFits] at hfits
    exact hfits.elim

/-- Objects of any nesting are decoded, by induction on the levels left: a field is one level
    below, the element of an array two. -/
theorem encodeAt_roundTrip (room : Nat) (v : StructValue types Obj e)
    (hfits : structFits cst spec v) :
    RoundTrip slack (encodeAt cst objs room v) (decodeAt cst objs initial room e)
      (structReadBack spec initial v) := by
  induction room using Nat.strong_induction_on generalizing e with
  | _ room ih =>
    rcases room with _ | room
    · rw [encodeAt]
      exact .fail _ _ _
    have hfield : ∀ room' ≤ room, ∀ {ty : FieldType T} (v : FieldValue types Obj ty),
        fieldFits cst spec v → RoundTrip slack
          (fieldWrite cst objs room' (fun v => encodeAt cst objs room' v) v)
          (fieldRead cst objs room' (fun e => decodeAt cst objs initial room' e) ty)
          (fieldReadBack spec initial v) :=
      fun room' hle _ v hv => field_roundTrip cst spec initial
        (fun v hv => ih room' (by omega) v hv) hv
    rw [encodeAt, decodeAt]
    refine struct_roundTrip cst spec initial room ?_ ?_ ?_ hfits
    · intro ty v hv
      rcases v with v | ⟨length, content⟩
      · rw [memberFits] at hv
        rw [memberReadBack]
        exact (hfield room (Nat.le_refl _) v hv).last rfl
      rw [memberFits] at hv
      rcases room with _ | room
      · exact .fail _ _ _
      exact array_roundTrip cst spec initial hv.1 fun i =>
        hfield room (by omega) (content i) (hv.2 i)
    · exact fun v hv => hfield room (Nat.le_refl _) v hv
    · intro ty v hroom
      subst hroom
      exact fieldWrite_zero cst (fun v => by rw [encodeAt]) v

end

end S2opc.Encodeable
