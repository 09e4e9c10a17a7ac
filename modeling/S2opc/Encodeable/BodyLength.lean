/-
Where the body of an extension object ends, in `SOPC_ExtensionObject_Read`.

A body in a byte string stands behind its length.  A body of an unknown type is
kept as bytes, as many as the length says.  Of a body of a known type the length
is read and dropped, and the object is decoded: the reader stops where the last
field of the type ends, whatever the length was.

Where that is follows from the descriptor of the type and the bytes of the body:
`objectSizes` adds up the sizes of the fields that are to be encoded, of those
that a mask has and of the one that a switch field selects.
-/
import S2opc.Encodeable.Compare
import S2opc.Encoder.Size

namespace S2opc.Encodeable

open BuiltinTypes Encoder Lib.Bytes Lib.ByteCodec Lib.EncodedSize

/-! ## The size of an object -/

section
variable {T : Type} (cst : EncodingConstants) (known : ObjectSizes) (types : T → EncodeableType T)

/-- The members that are to be encoded and, if they are optional, are in the mask. -/
def membersSizes (member : MemberType T → Size) (encodingMask : Nat) : List (Member T) → Nat → List Size
  | [], _ => []
  | m :: ms, i =>
    if m.isOptional = true then
      onlyIf (encodingMask.testBit i = true ∧ m.isToEncode = true) (member m.type) ::
        membersSizes member encodingMask ms (i + 1)
    else onlyIf (m.isToEncode = true) (member m.type) :: membersSizes member encodingMask ms i

/-- A union, by its switch field. -/
def unionSize (field : FieldType T → Size) (fields : List (FieldType T)) (l : List UInt8) : Nat :=
  match selectedField fields (numberAt .uint32 l) with
  | none => inOrder [fixed 4] l
  | some i => inOrder [fixed 4, field (fields.get i)] l

/-- An object of a type, given the sizes of its fields and members. -/
def structSize (field : FieldType T → Size) (member : MemberType T → Size) : EncodeableType T → Size
  | .classic ms => inOrder (membersSizes member 0 ms 0)
  | .optFields ms => fun l =>
    inOrder (fixed 4 :: membersSizes member (numberAt .uint32 l).toNat ms 0) l
  | .union fields => unionSize field fields

/-- A field, given the sizes of the objects of other types. -/
def fieldSize (room : Nat) (struct : EncodeableType T → Size) : FieldType T → Size
  | .builtin id _ =>
    elementSize cst known room (variantSizeAt cst known room) (dataValueSizeAt cst known room) id
  | .struct t => struct (types t)

/-- An object of a type, with so many nesting levels left. -/
def objectSizeAt : Nat → EncodeableType T → Size
  | 0, _ => fixed 0
  | room + 1, e =>
    structSize (fun ty => fieldSize cst known types room (fun e => objectSizeAt room e) ty)
      (fun
        | .field ty => fieldSize cst known types room (fun e => objectSizeAt room e) ty
        | .array ty =>
          match room with
          | 0 => fixed 0
          | room + 1 => arraySize (fieldSize cst known types room (fun e => objectSizeAt room e) ty))
      e

end

/-- The sizes of the objects of the known types, that hold objects with at most `k` levels. -/
def objectSizes {T : Type} (registry : Registry T) (cst : EncodingConstants) : (k : Nat) → ObjectSizes
  | 0 => fun id => (registry.getEncodeableType id.1 id.2).map fun _ _ => fixed 0
  | k + 1 => fun id => (registry.getEncodeableType id.1 id.2).map fun t room =>
    objectSizeAt cst (objectSizes registry cst k) registry.types room (registry.types t)

section
variable {T Obj : Type} {types : T → EncodeableType T} {objs : ObjectCodec Obj} {known : ObjectSizes}
  (cst : EncodingConstants) (initial : (ty : MemberType T) → MemberValue types Obj ty)

theorem passes_membersRead {member : (ty : MemberType T) → Reader (MemberValue types Obj ty)}
    {memberS : MemberType T → Size}
    (hmember : ∀ ty l, Passes (member ty) l (memberS ty l) fun _ => True) (encodingMask : Nat)
    (ms : List (Member T)) (i : Nat) (l : List UInt8) :
    Passes (membersRead member initial encodingMask ms i) l
      (inOrder (membersSizes memberS encodingMask ms i) l) fun _ => True := by
  induction ms generalizing i l with
  | nil => exact .pure trivial
  | cons m ms ih =>
    rw [membersRead, membersSizes]
    by_cases hoptional : m.isOptional = true
    · rw [dif_pos hoptional, if_pos hoptional]
      by_cases hbit : encodingMask.testBit i = true
      · have hsize : onlyIf (encodingMask.testBit i = true ∧ m.isToEncode = true) (memberS m.type) =
            onlyIf (m.isToEncode = true) (memberS m.type) := by
          unfold onlyIf
          simp only [hbit, true_and]
        rw [if_pos hbit, hsize]
        exact (hmember m.type l).readIf.first fun _ _ => (ih _ _).into
      · have hnot : ¬(encodingMask.testBit i = true ∧ m.isToEncode = true) := fun h => hbit h.1
        rw [if_neg hbit, onlyIf, if_neg hnot, inOrder, fixed, Nat.zero_add]
        exact (ih _ _).into
    · rw [dif_neg hoptional, if_neg hoptional]
      exact (hmember m.type l).readIf.first fun _ _ => (ih _ _).into

/-- A union is read as its switch field and the field it selects.  A switch field that cannot be
    read stays 0, which selects none. -/
theorem passes_unionRead {room : Nat} {fields : List (FieldType T)}
    {single : (ty : FieldType T) → Reader (FieldValue types Obj ty)} {fieldS : FieldType T → Size}
    (hsingle : ∀ ty l, Passes (single ty) l (fieldS ty l) fun _ => True) {β : Type}
    {f : (i : Fin fields.length) → FieldValue types Obj (fields.get i) → β} (l : List UInt8) :
    Passes (switchRead room >>= fun switchField =>
      match selectedField fields switchField with
      | none => throw .encodingError
      | some i => single (fields.get i) >>= fun v => pure (f i v)) l (unionSize fieldS fields l)
      fun _ => True := by
  have hread : Passes (uint32Read room >>= fun switchField =>
      match selectedField fields switchField with
      | none => throw .encodingError
      | some i => single (fields.get i) >>= fun v => pure (f i v)) l (unionSize fieldS fields l)
      fun _ => True := by
    unfold unionSize
    split
    · rename_i hnone
      refine (passes_scalarRead l .uint32).first ?_
      rintro switchField rfl
      rw [hnone]
      exact .throw
    · rename_i i hi
      refine (passes_scalarRead l .uint32).first ?_
      rintro switchField rfl
      rw [hi]
      exact (hsingle _ _).last fun _ _ => trivial
  intro b v b' hl h
  obtain ⟨switchField, b₁, hswitch, h⟩ := bind_eq_ok h
  unfold switchRead at hswitch
  split at hswitch
  · rename_i hnumber
    cases hswitch
    exact hread b v b' hl ((bind_ok hnumber).trans h)
  · cases hswitch
  · cases hswitch
    cases h

theorem passes_structRead {room : Nat} {single : (ty : FieldType T) → Reader (FieldValue types Obj ty)}
    {member : (ty : MemberType T) → Reader (MemberValue types Obj ty)} {fieldS : FieldType T → Size}
    {memberS : MemberType T → Size}
    (hsingle : ∀ ty l, Passes (single ty) l (fieldS ty l) fun _ => True)
    (hmember : ∀ ty l, Passes (member ty) l (memberS ty l) fun _ => True) (e : EncodeableType T)
    (l : List UInt8) :
    Passes (structRead room single member initial e) l (structSize fieldS memberS e l)
      fun _ => True := by
  cases e with
  | classic ms => exact (passes_membersRead initial hmember 0 ms 0 l).into
  | optFields ms =>
    have hmask : Passes (encodingMaskRead room ms) l 4 (· = (numberAt .uint32 l).toNat) := by
      show Passes _ l (4 + 0) _
      refine (passes_scalarRead l .uint32).bind ?_
      rintro encodingMask rfl
      exact .ite (fun _ => .ite (fun _ => .throw) fun _ => .pure rfl) fun _ => .throw
    refine hmask.first ?_
    rintro encodingMask rfl
    exact (passes_membersRead initial hmember _ ms 0 _).into
  | union fields => exact passes_unionRead hsingle l

variable (hobjs : objs.Sized known)

include hobjs

theorem passes_fieldRead (room : Nat) {struct : (e : EncodeableType T) → Reader (StructValue types Obj e)}
    {structS : EncodeableType T → Size}
    (hstruct : ∀ e l, Passes (struct e) l (structS e l) fun _ => True) (ty : FieldType T)
    (l : List UInt8) :
    Passes (fieldRead cst objs room struct ty) l (fieldSize cst known types room structS ty l)
      fun _ => True := by
  cases ty with
  | builtin id h =>
    obtain ⟨hvariant, hdataValue⟩ := passes_valuesAt cst hobjs room
    exact (passes_elementRead cst hobjs hvariant hdataValue room id l).into
  | struct t => exact (hstruct (types t) l).into

omit hobjs in
theorem passes_arrayFieldRead {room : Nat} {ty : FieldType T} {elem : Reader (FieldValue types Obj ty)}
    {s : Size} (helem : ∀ l, Passes elem l (s l) fun _ => True) (l : List UInt8) :
    Passes (arrayFieldRead cst room elem) l (arraySize s l) fun _ => True := by
  refine (passes_scalarRead l .int32).first ?_
  rintro read rfl
  refine .ite (fun _ => .throw) fun _ => ?_
  have hlength : times s (numberAt .int32 l).toInt.toNat =
      times s (clampLength (numberAt .int32 l)).toInt.toNat := by rw [toNat_clampLength]
  rw [hlength]
  exact (Passes.each helem _ _).last fun _ _ => trivial

/-- An object that is decoded passes the bytes of its size. -/
theorem passes_decodeAt (room : Nat) (e : EncodeableType T) (l : List UInt8) :
    Passes (decodeAt cst objs initial room e) l (objectSizeAt cst known types room e l)
      fun _ => True := by
  induction room using Nat.strong_induction_on generalizing e l with
  | _ room ih =>
    rcases room with _ | room
    · exact .throw
    have hfield := passes_fieldRead cst hobjs room (ih room (Nat.lt_succ_self room))
    rw [decodeAt, objectSizeAt]
    refine passes_structRead initial hfield (fun ty l => ?_) e l
    rcases ty with ty | ty
    · exact (hfield ty l).into
    rcases room with _ | room
    · exact .throw
    exact passes_arrayFieldRead cst (passes_fieldRead cst hobjs room (ih room (by omega)) ty) l

end

/-- The objects of the known types pass the bytes of their sizes, at every depth. -/
theorem objectCodec_sized {T : Type} (registry : Registry T) (cst : EncodingConstants) (k : Nat) :
    (objectCodec registry cst k).Sized (objectSizes registry cst k) := by
  induction k with
  | zero =>
    refine ⟨fun {ns n} h => ?_, fun {ns n decode} h => ?_⟩
    · exact Option.map_eq_none_iff.2 (Option.map_eq_none_iff.1 h)
    · obtain ⟨t, ht, rfl⟩ := Option.map_eq_some_iff.1 h
      exact ⟨_, Option.map_eq_some_iff.2 ⟨t, ht, rfl⟩, fun _ _ => .throw⟩
  | succ k ih =>
    refine ⟨fun {ns n} h => ?_, fun {ns n decode} h => ?_⟩
    · exact Option.map_eq_none_iff.2 (Option.map_eq_none_iff.1 h)
    · obtain ⟨t, ht, rfl⟩ := Option.map_eq_some_iff.1 h
      exact ⟨_, Option.map_eq_some_iff.2 ⟨t, ht, rfl⟩, fun room l =>
        (passes_decodeAt cst (registry.initialMember k) ih room (registry.types t) l).into⟩

/-! ## The end of a body -/

/-- A body in a byte string: the NodeId of its type, its length, and the buffer behind them. -/
def BodyStart (cst : EncodingConstants) (room : Nat) (b : Buffer) (nodeId : NodeId) (length : Int32)
    (start : Buffer) : Prop :=
  ∃ b₁ b₂, nodeIdRead cst room b = .ok (nodeId, b₁) ∧ byteRead room b₁ = .ok (0x01, b₂) ∧
    int32Read room b₂ = .ok (length, start)

/-- The buffer is where the body ends. -/
def EndsBody (length : Int32) (start b' : Buffer) : Prop :=
  b'.position = start.position + length.toInt.toNat

/-- An object of a known type has the size announced for it. -/
def HasLength (known : ObjectSizes) (room : Nat) (nodeId : NodeId) (length : Int32)
    (body : List UInt8) : Prop :=
  ∀ size ∈ (numericId nodeId).bind known, size room body = length.toInt.toNat

section
variable {Obj : Type} {cst : EncodingConstants} {objs : ObjectCodec Obj} {room : Nat}
  {b b' start : Buffer} {nodeId : NodeId} {length : Int32}

/-- A byte string is read to the end that its length says. -/
theorem byteStringRead_endsBody {s : SopcString} (hlength : int32Read room b = .ok (length, start))
    (h : byteStringRead cst room b = .ok (s, b')) : EndsBody length start b' := by
  rcases room with _ | _ | room
  · cases h
  · cases h
  obtain ⟨read, b₁, hread, h⟩ := bind_eq_ok h
  -- The levels left do not matter to the number itself
  obtain ⟨rfl, rfl⟩ := Prod.mk.inj (Except.ok.inj (hread.symm.trans hlength))
  by_cases hpos : 0 < read
  · rw [if_pos hpos] at h
    split_ifs at h
    · obtain ⟨bytes, b₂, hbytes, h⟩ := bind_eq_ok h
      cases h
      exact (Buffer.read_eq_some.1 (bufferRead_eq_ok (mapError_eq_ok.1 hbytes))).2.2.2.1
    · cases h
  rw [if_neg hpos] at h
  cases h
  have hle : read.toInt ≤ 0 := by
    rw [Int32.lt_iff_toInt_lt] at hpos
    exact not_lt.1 hpos
  rw [EndsBody, Int.toNat_of_nonpos hle, Nat.add_zero]

theorem extensionObjectRead_endsBody_iff {e : ExtensionObject Obj} {known : ObjectSizes}
    (hobjs : objs.Sized known) (hstart : BodyStart cst room b nodeId length start)
    (h : extensionObjectRead cst objs (room + 1) b = .ok (e, b')) :
    EndsBody length start b' ↔ HasLength known room nodeId length start.remaining := by
  obtain ⟨b₁, b₂, hid, hbyte, hlength⟩ := hstart
  rw [extensionObjectRead, nested_succ, bind_ok hid, bind_ok hbyte, extObjectBodyRead,
    if_neg (by decide), if_pos rfl] at h
  obtain ⟨body, b₃, hbody, h⟩ := bind_eq_ok h
  cases h
  unfold HasLength
  rcases objectDecoder_sized hobjs nodeId with ⟨hnone, hsize⟩ | ⟨decode, size, hdecode, hsize, hpasses⟩
  · rw [hnone] at hbody
    obtain ⟨s, b₄, hs, hbody⟩ := bind_eq_ok hbody
    cases hbody
    rw [hsize]
    refine iff_of_true (byteStringRead_endsBody hlength hs) ?_
    intro size hmem
    cases hmem
  · rw [hdecode] at hbody
    simp only [bind_ok hlength] at hbody
    obtain ⟨o, b₄, ho, hbody⟩ := bind_eq_ok hbody
    cases hbody
    -- the length has no part in where the object ends
    obtain ⟨-, hpos, -⟩ := hpasses room start.remaining start o b' rfl ho
    rw [hsize, EndsBody, hpos]
    constructor
    · intro hends size' hmem
      obtain rfl := Option.some.inj hmem
      omega
    · intro hall
      rw [hall size rfl]

end

variable {T T' : Type} (registry : Registry T) (registry' : Registry T') (cst : EncodingConstants)

/-- A body that is read ends where its length says exactly if it is not of a known type, or if its
    length is the size of the fields of that type.  Then what follows is read from the same place
    with other types. -/
theorem body_ends_at_length_iff (k k' room : Nat) {b b' start : Buffer} {nodeId : NodeId}
    {length : Int32} {e : ExtensionObject (ObjAt registry k)}
    (hstart : BodyStart cst room b nodeId length start)
    (h : extensionObjectRead cst (objectCodec registry cst k) (room + 1) b = .ok (e, b')) :
    (EndsBody length start b' ↔
      HasLength (objectSizes registry cst k) room nodeId length start.remaining) ∧
      (EndsBody length start b' →
        HasLength (objectSizes registry' cst k') room nodeId length start.remaining →
        ∀ e' b'', extensionObjectRead cst (objectCodec registry' cst k') (room + 1) b = .ok (e', b'') →
          b''.position = b'.position) := by
  refine ⟨extensionObjectRead_endsBody_iff (objectCodec_sized registry cst k) hstart h, ?_⟩
  intro hends hlength' e' b'' h'
  have hends' : EndsBody length start b'' :=
    (extensionObjectRead_endsBody_iff (objectCodec_sized registry' cst k') hstart h').2 hlength'
  rw [EndsBody] at hends hends'
  omega

/-- A figure as an extension object: a mask with its second member, and a shape that is a point
    with two numbers. -/
def figureBuffer (position : Fin 31) : Buffer :=
  ⟨[1, 1, 3, 0, 1, 21, 0, 0, 0, 2, 0, 0, 0, 1, 2, 0, 0, 0, 254, 255, 255, 255, 2, 0, 0, 0, 7, 0, 8, 0],
    position, 64, Nat.le_of_lt_succ position.isLt, show 30 ≤ 64 by decide⟩

/-- A header as an extension object, with two bytes behind its length.  No field of the type is
    encoded. -/
def headerBuffer (length : UInt8) (position : Fin 12) : Buffer :=
  ⟨[1, 1, 4, 0, 1, length, 0, 0, 0, 7, 8], position, 64, Nat.le_of_lt_succ position.isLt,
    show 11 ≤ 64 by decide⟩

theorem exists_of_buffer {α : Type} {x : Except Status (α × Buffer)} {b : Buffer}
    (h : x.toOption.map Prod.snd = some b) : ∃ a, x = .ok (a, b) := by
  rcases x with e | ⟨a, b'⟩
  · cases h
  obtain rfl : b' = b := Option.some.inj h
  exact ⟨a, rfl⟩

theorem figure_ends_at_length :
    objectSizes sampleRegistry smallConstants 1 (1, 3) ≠ none ∧
      HasLength (objectSizes sampleRegistry smallConstants 1) 9 ⟨1, .numeric 3⟩ 21
        (figureBuffer 9).remaining := by
  refine ⟨nofun, ?_⟩
  have hread : ((extensionObjectRead smallConstants (objectCodec sampleRegistry smallConstants 1) 10
      (figureBuffer 0)).toOption.map Prod.snd) = some (figureBuffer 30) := by decide +kernel
  obtain ⟨e, he⟩ := exists_of_buffer hread
  exact (body_ends_at_length_iff sampleRegistry sampleRegistry smallConstants 1 1 9
    ⟨figureBuffer 4, figureBuffer 5, rfl, rfl, rfl⟩ he).1.1 rfl

/-- The types of the sample, none of which is known. -/
def unknownRegistry : Registry SampleType :=
  { sampleRegistry with getEncodeableType := fun _ _ => none }

/-- A decoder that knows the type reads on behind the length, one that does not behind the
    body. -/
theorem known_type_ends_before_length :
    BodyStart smallConstants 9 (headerBuffer 2 0) ⟨1, .numeric 4⟩ 2 (headerBuffer 2 9) ∧
      (∃ e, extensionObjectRead smallConstants (objectCodec sampleRegistry smallConstants 1) 10
        (headerBuffer 2 0) = .ok (e, headerBuffer 2 9)) ∧
      ¬ EndsBody 2 (headerBuffer 2 9) (headerBuffer 2 9) ∧
      ∃ e, extensionObjectRead smallConstants (objectCodec unknownRegistry smallConstants 1) 10
        (headerBuffer 2 0) = .ok (e, headerBuffer 2 11) := by
  refine ⟨⟨headerBuffer 2 4, headerBuffer 2 5, rfl, rfl, rfl⟩, exists_of_buffer (by decide +kernel),
    ?_, exists_of_buffer (by decide +kernel)⟩
  rw [EndsBody]
  decide

end S2opc.Encodeable
