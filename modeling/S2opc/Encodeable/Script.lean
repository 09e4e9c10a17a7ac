/-
The writes `SOPC_EncodeableObject_Encode` does, as scripts.

The script of an object guards the scripts of its fields: after a failure the
position and the length of the buffer are put back.  The switch field of a union
is written with its status ignored, so that its bytes may be lost.
-/
import S2opc.Encodeable.Codec
import S2opc.Encoder.Script

namespace S2opc.Encodeable

open BuiltinTypes Encoder Lib.Bytes Lib.ByteCodec Lib.WriteScript

variable {T Obj : Type} {types : T → EncodeableType T}

/-! ## Scripts -/

theorem bytes_ne_nil (s : UInt32) : Scalar.uint32.bytes s ≠ [] := by
  rw [← List.length_pos_iff, Scalar.length_bytes]
  decide

/-- The switch field of a union: it is lost without a level left, or without room. -/
def switchScript (room : Nat) (switchField : UInt32) : Script :=
  match room with
  | 0 => .lose (Scalar.uint32.bytes switchField) (bytes_ne_nil switchField) .done
  | _ + 1 => .attempt (Scalar.uint32.bytes switchField) .done

/-- An optional member. -/
def optionalScript (isToEncode : Bool) (encodingMask indexOptional : Nat) (s : Script) : Script :=
  if indexOptional < 32 then .when (isToEncode = true ∧ encodingMask.testBit indexOptional = true) s
  else .undefined

/-- The loop of `SOPC_EncodeableObject_Encode`. -/
def membersScript (member : {ty : MemberType T} → MemberValue types Obj ty → Script)
    (encodingMask : Nat) : {ms : List (Member T)} → MemberValues types Obj ms → Nat → Script
  | _, .nil, _ => .done
  | m :: _, .required _ v rest, i =>
    (Script.when (m.isToEncode = true) (member v)).append (membersScript member encodingMask rest i)
  | m :: _, .absent _ rest, i =>
    (optionalScript m.isToEncode encodingMask i .undefined).append
      (membersScript member encodingMask rest (i + 1))
  | m :: _, .present _ v rest, i =>
    (optionalScript m.isToEncode encodingMask i (member v)).append
      (membersScript member encodingMask rest (i + 1))

/-- `SOPC_EncodeableObject_Encode` and `EncodeableObject_EncodeUnion` below the test of the
    nesting level. -/
def structScript (room : Nat) (member : {ty : MemberType T} → MemberValue types Obj ty → Script) :
    {e : EncodeableType T} → StructValue types Obj e → Script
  | _, .classic vs => membersScript member 0 vs 0
  | _, .optFields vs =>
    match encodingMaskLoop vs 0 0 with
    | none => .undefined
    | some encodingMask =>
      (scalarScript .uint32 room (UInt32.ofNat encodingMask)).append
        (membersScript member encodingMask vs 0)
  | _, .selected i v => (switchScript room (switchOf i)).append (member (.field v))
  | _, @StructValue.unselected _ _ _ fields switchField _ =>
    (switchScript room switchField).append
      (if (fields.length : Int) < switchField.toInt32.toInt then .fail else .done)

section
variable (cst : EncodingConstants) {objs : ObjectCodec Obj} (scripts : objs.Scripts)

/-- A field, given the objects of other types. -/
def fieldScript (room : Nat) (struct : {e : EncodeableType T} → StructValue types Obj e → Script) :
    {ty : FieldType T} → FieldValue types Obj ty → Script
  | _, .builtin v => builtinScriptAt cst scripts room v
  | _, .struct v => struct v

/-- `SOPC_EncodeableObject_Encode`, with `room` levels left. -/
def encodeScriptAt : Nat → {e : EncodeableType T} → StructValue types Obj e → Script
  | 0, _, _ => .fail
  | room + 1, _, v =>
    .guard (structScript room
      (fun
        | .field v => fieldScript cst scripts room (fun v => encodeScriptAt room v) v
        | .array length content =>
          match room with
          | 0 => .fail
          | room + 1 =>
            (scalarScript .int32 room length).append
              (.each _ fun i => fieldScript cst scripts room (fun v => encodeScriptAt room v)
                (content i)))
      v) .done

end

/-! ## Encode follows its script -/

theorem guard_follows {w : Writer} {s : Script} (h : Follows w s) : Follows w (.guard s .done) := by
  intro b
  rw [h b, Script.run]
  generalize s.run b = r
  obtain ⟨b', o⟩ := r
  cases o <;> rfl

theorem outcome_ignoreStatus (w : Writer) (b : Buffer) :
    outcome (ignoreStatus w b) =
      match outcome (w b) with
      | .done r => .done r
      | .failed => .done ((), b)
      | .undefined => .undefined := by
  unfold ignoreStatus
  cases w b with
  | ok r => rfl
  | error e => cases e <;> rfl

theorem switch_follows (room : Nat) (s : UInt32) :
    Follows (ignoreStatus (uint32Write room s)) (switchScript room s) := by
  rcases room with _ | room
  · exact fun b => rfl
  intro b
  have hwrite := (Follows.bufferWrite (Scalar.uint32.bytes s)).mapError b
  rw [outcome_ignoreStatus,
    show uint32Write (room + 1) s b =
      mapError writeStatus (bufferWrite (Scalar.uint32.bytes s)) b from rfl,
    hwrite, switchScript, Script.run, Script.run]
  rcases Script.putting_cases b (Scalar.uint32.bytes s) with ⟨b', -, heq⟩ | ⟨-, -, heq⟩ | ⟨-, -, heq⟩
  all_goals
    rw [heq]
    rfl

theorem optional_follows (isToEncode : Bool) (encodingMask i : Nat) {w : Writer} {s : Script}
    (h : Follows w s) :
    Follows (optionalWrite isToEncode encodingMask i w)
      (optionalScript isToEncode encodingMask i s) :=
  .ite h.writeIf .throw_undefined

theorem members_follow {memberW : {ty : MemberType T} → MemberValue types Obj ty → Writer}
    {memberS : {ty : MemberType T} → MemberValue types Obj ty → Script}
    (h : ∀ {ty : MemberType T} (v : MemberValue types Obj ty), Follows (memberW v) (memberS v))
    (encodingMask : Nat) : {ms : List (Member T)} → (vs : MemberValues types Obj ms) → (i : Nat) →
    Follows (membersWrite memberW encodingMask vs i) (membersScript memberS encodingMask vs i)
  | _, .nil, _ => Follows.pure
  | _ :: _, .required _ v rest, i => (h v).writeIf.bind (members_follow h encodingMask rest i)
  | m :: _, .absent _ rest, i =>
    (optional_follows m.isToEncode encodingMask i Follows.throw_undefined).bind
      (members_follow h encodingMask rest (i + 1))
  | m :: _, .present _ v rest, i =>
    (optional_follows m.isToEncode encodingMask i (h v)).bind
      (members_follow h encodingMask rest (i + 1))

theorem struct_follows (room : Nat)
    {memberW : {ty : MemberType T} → MemberValue types Obj ty → Writer}
    {memberS : {ty : MemberType T} → MemberValue types Obj ty → Script}
    (h : ∀ {ty : MemberType T} (v : MemberValue types Obj ty), Follows (memberW v) (memberS v))
    {e : EncodeableType T} (v : StructValue types Obj e) :
    Follows (structWrite room memberW v) (structScript room memberS v) := by
  cases v with
  | classic vs => exact members_follow h 0 vs 0
  | optFields vs =>
    simp only [structWrite, structScript]
    cases encodingMaskLoop vs 0 0 with
    | none => exact .throw_undefined
    | some encodingMask =>
      exact (scalar_follows .uint32 room _).bind (members_follow h encodingMask vs 0)
  | selected i v => exact (switch_follows room _).bind (h _)
  | unselected s hs =>
    exact (switch_follows room s).bind (.ite (.throw (by decide)) .pure)

section
variable (cst : EncodingConstants) {objs : ObjectCodec Obj} (scripts : objs.Scripts)

theorem field_follows (room : Nat)
    {structW : {e : EncodeableType T} → StructValue types Obj e → Writer}
    {structS : {e : EncodeableType T} → StructValue types Obj e → Script}
    (h : ∀ {e : EncodeableType T} (v : StructValue types Obj e), Follows (structW v) (structS v))
    {ty : FieldType T} (v : FieldValue types Obj ty) :
    Follows (fieldWrite cst objs room structW v) (fieldScript cst scripts room structS v) := by
  cases v with
  | builtin v =>
    have hvalues := values_follow cst scripts room
    exact element_follows cst scripts room hvalues.1 hvalues.2 v
  | struct v => exact h v

/-- An object is encoded as its script says, at every level. -/
theorem encode_follows (room : Nat) {e : EncodeableType T} (v : StructValue types Obj e) :
    Follows (encodeAt cst objs room v) (encodeScriptAt cst scripts room v) := by
  induction room using Nat.strong_induction_on generalizing e with
  | _ room ih =>
    rcases room with _ | room
    · exact .throw (by decide)
    rw [encodeAt, encodeScriptAt]
    refine guard_follows (struct_follows room ?_ v)
    intro ty v
    rcases v with v | ⟨length, content⟩
    · exact field_follows cst scripts room (fun v => ih room (Nat.lt_succ_self room) v) v
    rcases room with _ | room
    · exact .throw (by decide)
    exact (scalar_follows .int32 room length).bind (.each fun i =>
      field_follows cst scripts room (fun v => ih room (by omega) v) (content i))

end

/-- The scripts of the objects in extension objects. -/
def objectScripts (registry : Registry T) (cst : EncodingConstants) :
    (k : Nat) → (objectCodec registry cst k).Scripts
  | 0 =>
    { script := fun _ o => o.elim
      follows := fun _ o => o.elim }
  | k + 1 =>
    { script := fun room o => encodeScriptAt cst (objectScripts registry cst k) room o.2
      follows := fun room o => encode_follows cst (objectScripts registry cst k) room o.2 }

/-! ## What Encode leaves -/

section
variable (cst : EncodingConstants) {objs : ObjectCodec Obj} (scripts : objs.Scripts)

/-- `SOPC_EncodeableObject_Encode` is clean on an object and a buffer: if it fails, the
    position, the length and the bytes before the position are as before, and if it ends
    well, all bytes of the encoding are appended. -/
def EncodesCleanly (room : Nat) {e : EncodeableType T} (v : StructValue types Obj e) (b : Buffer) :
    Prop :=
  match encodeAt cst objs room v b with
  | .ok (_, b') =>
    ∃ encoding, (encodeScriptAt cst scripts room v).content = some encoding ∧
      b.write encoding = some b'
  | .error .undefinedBehaviour => False
  | .error _ =>
    let left := ((encodeScriptAt cst scripts room v).run b).1
    left.position = b.position ∧ left.data.length = b.data.length ∧
      left.data.take b.position = b.data.take b.position

/-- The script of an object restores the buffer after a failure. -/
theorem encodeScript_failed {room : Nat} {e : EncodeableType T} {v : StructValue types Obj e}
    {b left : Buffer} (h : (encodeScriptAt cst scripts room v).run b = (left, .failed)) :
    left.position = b.position ∧ left.data.length = b.data.length ∧
      left.data.take b.position = b.data.take b.position := by
  rcases room with _ | room
  · cases h
    exact ⟨rfl, rfl, rfl⟩
  rw [encodeScriptAt] at h
  exact Script.guard_failed h

theorem encodesCleanly_iff (room : Nat) {e : EncodeableType T} (v : StructValue types Obj e)
    (b : Buffer) :
    EncodesCleanly cst scripts room v b ↔
      Segment.Kept b.maximumSize.toNat (encodeScriptAt cst scripts room v).layout b.position := by
  have hfollows := encode_follows cst scripts room v b
  rw [← Script.complete_iff_kept, EncodesCleanly]
  have hfailed := fun left => @encodeScript_failed _ _ _ cst _ scripts room e v b left
  generalize (encodeScriptAt cst scripts room v).run b = r at hfollows hfailed ⊢
  obtain ⟨left, o⟩ := r
  cases hencode : encodeAt cst objs room v b with
  | ok p =>
    obtain ⟨⟨⟩, b'⟩ := p
    rw [hencode] at hfollows
    cases o with
    | done u =>
      cases hfollows
      exact ⟨fun h => ⟨fun h' => (nomatch h'), fun b'' hb'' => (Prod.mk.inj hb'').1 ▸ h⟩,
        fun h => h.2 left rfl⟩
    | failed => cases hfollows
    | undefined => cases hfollows
  | error status =>
    rw [hencode] at hfollows
    cases o with
    | done u => cases status <;> cases hfollows
    | undefined =>
      cases status <;> first
        | exact ⟨fun h => h.elim, fun h => absurd rfl h.1⟩
        | cases hfollows
    | failed =>
      have hleft := hfailed left rfl
      have hright : (.failed : Outcome Unit) ≠ .undefined ∧
          ∀ b', (left, (.failed : Outcome Unit)) = (b', .done ()) →
            ∃ encoding, (encodeScriptAt cst scripts room v).content = some encoding ∧
              b.write encoding = some b' :=
        ⟨nofun, fun b' hb' => (nomatch hb')⟩
      cases status <;> first
        | exact ⟨fun _ => hright, fun _ => hleft⟩
        | cases hfollows

end

/-- Encode is clean on an object and a buffer, exactly if no write of the object wraps around
    in the 32-bit arithmetic of the buffer, and wherever the switch field of a union finds no
    level or fewer than 4 bytes left, or the size of an array of numbers is cut to 32 bits,
    something after it is refused. -/
theorem encode_clean_iff (registry : Registry T) (cst : EncodingConstants) (k room : Nat)
    {e : EncodeableType T} (v : StructValue registry.types (ObjAt registry k) e) (b : Buffer) :
    EncodesCleanly cst (objectScripts registry cst k) room v b ↔
      Segment.Kept b.maximumSize.toNat
        (encodeScriptAt cst (objectScripts registry cst k) room v).layout b.position :=
  encodesCleanly_iff cst (objectScripts registry cst k) room v b

theorem byte_ne_null : BuiltinId.byte ≠ .null := by decide

/-- One union type, with a byte as its only field. -/
def byteUnion : Registry Unit where
  types _ := .union [.builtin .byte byte_ne_null]
  initial _ _ := .unselected 0 (.inl (by decide))
  initial_eq _ _ := rfl
  typeId _ := (1, 100)
  getEncodeableType _ _ := none
  address _ := 0

/-- A union that selects its byte 7. -/
def byteSeven : StructValue byteUnion.types (ObjAt byteUnion 0) (byteUnion.types ()) :=
  .selected ⟨0, by decide⟩ (.builtin (.flat (.byte 7)))

/-- The buffer with that byte alone. -/
def sevenBuffer : Buffer := ⟨[7], 1, 1, by decide, by decide⟩

/-- With one byte left, Encode ends well without having written the switch field. -/
theorem switch_field_is_lost :
    encodeAt smallConstants (objectCodec byteUnion smallConstants 0) 10 byteSeven
        (Buffer.empty 1) = .ok ((), sevenBuffer) ∧
      (encodeScriptAt smallConstants (objectScripts byteUnion smallConstants 0) 10
        byteSeven).content = some [1, 0, 0, 0, 7] ∧
      ¬ EncodesCleanly smallConstants (objectScripts byteUnion smallConstants 0) 10 byteSeven
        (Buffer.empty 1) := by
  have hencode : encodeAt smallConstants (objectCodec byteUnion smallConstants 0) 10 byteSeven
      (Buffer.empty 1) = .ok ((), sevenBuffer) := by decide +kernel
  have hcontent : (encodeScriptAt smallConstants (objectScripts byteUnion smallConstants 0) 10
      byteSeven).content = some [1, 0, 0, 0, 7] := by decide +kernel
  refine ⟨hencode, hcontent, fun h => ?_⟩
  rw [EncodesCleanly, hencode] at h
  obtain ⟨encoding, hencoding, hwrite⟩ := h
  rw [hcontent] at hencoding
  cases hencoding
  cases hwrite

end S2opc.Encodeable
