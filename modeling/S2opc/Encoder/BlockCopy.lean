/-
Arrays copied as a block, against arrays coded element by element.

`WriteVariantArrayBuiltInType` and `ReadVariantArrayBuiltInType` copy an array of
a built-in type of fixed size as it lies in memory; `SOPC_Write_Array` and
`SOPC_Read_Array` call the Write or Read function of the element in a loop.
Both ways agree on an array exactly if all its elements are in the form the
element functions give them, there are as many nesting levels left as those
functions need, and the 32-bit sums and products of the block copy do not wrap.
-/
import S2opc.Encoder.RoundTrip
import S2opc.Encoder.Script

namespace S2opc.Encoder

open BuiltinTypes Lib.Bytes Lib.ByteCodec Lib.WriteScript List Nat

/-! ## Transfers -/

section
variable {α : Type}

theorem outcome_mapError_read (c : Codec Status α) (b : Buffer) :
    outcome (mapError readStatus c b) = outcome (c b) := by
  unfold mapError
  cases c b with
  | ok r => rfl
  | error e => cases e <;> rfl

variable {bytes : List UInt8}

theorem outcome_bufferWrite (hlen : bytes.length < 2 ^ 32) (b : Buffer) :
    outcome (bufferWrite bytes b) =
      match b.write bytes with
      | some b' => .done ((), b')
      | none => .refusedAt (b.position + bytes.length) := by
  have hpos := b.position_le
  have hle := b.length_le
  have hmax := b.maximumSize.toNat_lt
  unfold bufferWrite
  cases hw : b.write bytes with
  | some b' =>
    have hfits := (Buffer.write_eq_some.1 hw).1
    rw [if_pos (by rw [mod_eq_of_lt (by omega)]; exact hfits)]
    rfl
  | none =>
    have hbeyond := Buffer.write_eq_none.1 hw
    by_cases hwrap : b.position + bytes.length < 2 ^ 32
    · rw [mod_eq_of_lt hwrap, if_neg (by omega), Outcome.refusedAt, if_pos hwrap]
      rfl
    -- The sum wraps around to something below the cursor
    have hmod : (b.position + bytes.length) % 2 ^ 32 ≤ b.maximumSize.toNat := by omega
    rw [if_pos hmod, Outcome.refusedAt, if_neg hwrap]
    rfl

variable {count : Nat} {b : Buffer}

theorem outcome_bufferRead_of_none (hcount : count < 2 ^ 32) (hr : b.read count = none) :
    outcome (bufferRead count b) = .refusedAt (b.position + count) := by
  have hpos := b.position_le
  have hbeyond := Buffer.read_eq_none.1 hr
  unfold bufferRead
  by_cases hwrap : b.position + count < 2 ^ 32
  · rw [mod_eq_of_lt hwrap, if_neg (by omega), Outcome.refusedAt, if_pos hwrap]
    rfl
  have hmod : (b.position + count) % 2 ^ 32 ≤ b.data.length := by omega
  rw [if_pos hmod, Outcome.refusedAt, if_neg hwrap]
  split
  · rename_i hr'
    rw [hr] at hr'
    cases hr'
  · rfl

theorem bufferRead_of_some {b' : Buffer} (hr : b.read count = some (bytes, b')) :
    bufferRead count b = .ok (⟨bytes, Buffer.read_length hr⟩, b') := by
  obtain rfl := Buffer.read_length hr
  exact bufferRead_of_read hr

end

/-! ## Chunks of one width -/

section
variable {α : Type} (s : Scalar α)

/-- Writing the chunks one by one is writing all of them, or stopping at the first that does
    not fit. -/
theorem outcome_writeEach_bytes (hwidth : 0 < s.width) (hsmall : s.width < 2 ^ 32) {n : Nat}
    (f : Fin n → α) (b : Buffer) :
    outcome (writeEach n (fun i => mapError writeStatus (bufferWrite (s.bytes (f i)))) b) =
      match b.write (s.rawBytes f) with
      | some b' => .done ((), b')
      | none => .refusedAt (firstBeyond b.position b.maximumSize.toNat s.width) := by
  induction n generalizing b with
  | zero =>
    rw [Scalar.rawBytes, Buffer.write_nil]
    rfl
  | succ n ih =>
    rw [writeEach, outcome_bind, outcome_mapError_write,
      outcome_bufferWrite (by rw [s.length_bytes]; exact hsmall), s.length_bytes, Scalar.rawBytes]
    rcases hhead : b.write (s.bytes (f 0)) with _ | b₁
    · have hlt := Buffer.write_eq_none.1 hhead
      rw [s.length_bytes] at hlt
      have hall : b.write (s.bytes (f 0) ++ s.rawBytes fun i => f i.succ) = none := by
        rw [Buffer.write_eq_none, length_append, s.length_bytes]
        omega
      rw [hall, firstBeyond_of_lt hlt (b.position_le.trans b.length_le)]
      exact Outcome.refusedAt_bind _ _
    obtain ⟨hle, -, hpos, hmax⟩ := Buffer.write_eq_some.1 hhead
    rw [s.length_bytes] at hle hpos
    show outcome (writeEach n _ b₁) = _
    rw [ih, hpos, hmax, firstBeyond_step hwidth hle]
    cases htail : b₁.write (s.rawBytes fun i => f i.succ) with
    | none =>
      have hlt := Buffer.write_eq_none.1 htail
      rw [hpos, hmax] at hlt
      have hall : b.write (s.bytes (f 0) ++ s.rawBytes fun i => f i.succ) = none := by
        rw [Buffer.write_eq_none, length_append, s.length_bytes]
        omega
      rw [hall]
    | some b₂ => rw [Buffer.write_append hhead htail]

/-- Reading the chunks one by one is reading all of them, or stopping at the first that is
    not there. -/
theorem outcome_readEach_bytes (hwidth : 0 < s.width) (hsmall : s.width < 2 ^ 32) (g : α → α)
    (n : Nat) (b : Buffer) :
    outcome (readEach n (mapError readStatus (bufferRead s.width) >>= fun bytes =>
        pure (g (s.ofBytes bytes.val))) b) =
      match b.read (n * s.width) with
      | some r => .done (fun i => g (s.ofRaw n r.1 i), r.2)
      | none => .refusedAt (firstBeyond b.position b.data.length s.width) := by
  induction n generalizing b with
  | zero =>
    rw [Nat.zero_mul, Buffer.read_zero]
    exact congrArg Outcome.done (Prod.ext (funext fun i => i.elim0) rfl)
  | succ n ih =>
    rw [readEach, outcome_bind, outcome_bind, outcome_mapError_read]
    rcases hx : b.read s.width with _ | r
    · have hlt := Buffer.read_eq_none.1 hx
      have hall : b.read ((n + 1) * s.width) = none := by
        rw [Buffer.read_eq_none, succ_mul]
        omega
      rw [outcome_bufferRead_of_none hsmall hx, hall, firstBeyond_of_lt hlt b.position_le]
      rw [Outcome.refusedAt_bind, Outcome.refusedAt_bind]
    obtain ⟨x, b₁⟩ := r
    obtain ⟨hle, -, hdata, hpos, -⟩ := Buffer.read_eq_some.1 hx
    rw [bufferRead_of_some hx]
    have hrest := outcome_bind
      (readEach n (mapError readStatus (bufferRead s.width) >>= fun bytes =>
        pure (g (s.ofBytes bytes.val))))
      (fun as => pure (Fin.cons (g (s.ofBytes x)) as : Fin (n + 1) → α)) b₁
    refine Eq.trans hrest ?_
    rw [ih, hpos, hdata, firstBeyond_step hwidth hle, succ_mul, Nat.add_comm (n * s.width)]
    rcases hy : b₁.read (n * s.width) with _ | r
    · have hlt := Buffer.read_eq_none.1 hy
      rw [hpos, hdata] at hlt
      have hall : b.read (s.width + n * s.width) = none := by
        rw [Buffer.read_eq_none]
        omega
      rw [hall]
      exact Outcome.refusedAt_bind _ _
    obtain ⟨y, b₂⟩ := r
    have htake : (x ++ y).take s.width = x := by
      rw [← Buffer.read_length hx, take_left]
    have hdrop : (x ++ y).drop s.width = y := by
      rw [← Buffer.read_length hx, drop_left]
    rw [Buffer.read_add hx hy]
    refine congrArg Outcome.done (Prod.ext (funext fun i => ?_) rfl)
    show _ = g (s.ofRaw (n + 1) (x ++ y) i)
    rw [Scalar.ofRaw, htake, hdrop]
    cases i using Fin.cases with
    | zero => rfl
    | succ i => rfl

end

/-! ## Elements of fixed size -/

section
variable {Obj : Type} (cst : EncodingConstants) (objs : ObjectCodec Obj)
  (variantW : Variant Obj → Writer) (dataValueW : DataValue Obj → Writer)
  (variantR : Reader (Variant Obj)) (dataValueR : Reader (DataValue Obj))

/-- The nesting levels the Write and Read functions of an element go through. -/
def elementLevels : BuiltinId → Nat
  | .boolean => 2
  | .dateTime => 2
  | _ => 1

/-- The form the Write and Read functions of an element give to it. -/
def elementValue {id : BuiltinId} : Builtin Obj id → Builtin Obj id
  | .flat (.boolean v) => .flat (.boolean (booleanValue v))
  | .flat (.float v) => .flat (.float (normalizeFloat v))
  | .flat (.double v) => .flat (.double (normalizeDouble v))
  | v => v

variable (room : Nat)

theorem booleanWrite_eq (v : UInt8) :
    booleanWrite room v = nested room fun room => byteWrite room (booleanValue v) := by
  unfold booleanWrite booleanValue
  by_cases h : v = 0 <;> simp [h]

variable {id : BuiltinId} {s : Scalar (Builtin Obj id)}

/-- The Write function of an element of fixed size. -/
theorem elementWrite_eq (hs : optimizableScalar id = some s) (room : Nat) (v : Builtin Obj id) :
    elementWrite cst objs room variantW dataValueW v =
      if elementLevels id ≤ room then mapError writeStatus (bufferWrite (s.bytes (elementValue v)))
      else throw .invalidState := by
  cases v with
  | dataValue v => cases hs
  | variant v => cases hs
  | flat v =>
    cases v <;> cases hs
    case flat.boolean.refl v =>
      show booleanWrite room v = _
      rw [booleanWrite_eq]
      rcases room with _ | _ | room <;> rfl
    case flat.dateTime.refl v => rcases room with _ | _ | room <;> rfl
    all_goals cases room <;> rfl

theorem scalarRead_bind_pure {α β : Type} (s : Scalar α) (wrap : α → β) (room : Nat) :
    (scalarRead s room >>= fun v => pure (wrap v)) =
      if 1 ≤ room then
        mapError readStatus (bufferRead s.width) >>= fun bytes => pure (wrap (s.ofBytes bytes.val))
      else throw .invalidState := by
  rcases room with _ | room
  · rfl
  rw [if_pos (by omega), scalarRead, nested_succ, bind_assoc]
  simp only [pure_bind]

section

variable (hs : optimizableScalar id = some s)
include hs

/-- The Read function of an element of fixed size. -/
theorem elementRead_eq (room : Nat) :
    elementRead cst objs room variantR dataValueR id =
      if elementLevels id ≤ room then
        mapError readStatus (bufferRead s.width) >>= fun bytes =>
          pure (elementValue (s.ofBytes bytes.val))
      else throw .invalidState := by
  cases id <;> cases hs
  case boolean.refl =>
    have hvalue : ∀ v : UInt8, (if v ≠ 0 then 1 else v) = booleanValue v := by
      intro v
      unfold booleanValue
      by_cases h : v = 0 <;> simp [h]
    rcases room with _ | _ | room
    · rfl
    · rfl
    · show ((byteRead (room + 1) >>= fun v => pure (if v ≠ 0 then 1 else v)) >>= fun v =>
        pure (Builtin.flat (FlatValue.boolean v))) = _
      simp only [hvalue, bind_assoc, pure_bind]
      exact scalarRead_bind_pure .uint8 _ (room + 1)
  case dateTime.refl =>
    rcases room with _ | _ | room
    · rfl
    · rfl
    · exact scalarRead_bind_pure .int64 _ (room + 1)
  case float.refl =>
    show ((scalarRead .uint32 room >>= fun v => pure (normalizeFloat v)) >>= fun v =>
      pure (Builtin.flat (FlatValue.float v))) = _
    simp only [bind_assoc, pure_bind]
    exact scalarRead_bind_pure .uint32 _ room
  case double.refl =>
    show ((scalarRead .uint64 room >>= fun v => pure (normalizeDouble v)) >>= fun v =>
      pure (Builtin.flat (FlatValue.double v))) = _
    simp only [bind_assoc, pure_bind]
    exact scalarRead_bind_pure .uint64 _ room
  all_goals exact scalarRead_bind_pure _ _ room

theorem width_lt :
    s.width < 2 ^ 32 := by
  cases id <;> cases hs <;> exact le_of_ble_eq_true rfl

theorem ne_null :
    id ≠ .null := by
  rintro rfl
  cases hs

end

/-! ## Writing an array -/

/-- `WriteVariantArrayBuiltInType`. -/
def writeVariantArrayBuiltInType {id : BuiltinId} (a : ArrayValue Obj id) : Writer :=
  nested room fun room =>
    variantArrayWrite room (elementWrite cst objs room variantW dataValueW) a

/-- `SOPC_Write_Array` with the Write function of the elements. -/
def writeArray {id : BuiltinId} (a : ArrayValue Obj id) : Writer :=
  nested room fun room => do
    int32Write room a.length
    writeEach _ fun i => elementWrite cst objs room variantW dataValueW (a.content i)

/-- An array is written alike both ways: the elements that all fit have their levels and
    are in the form they are written in, and those that do not fit are refused both ways,
    for which the 32-bit byte count and the end of the copy must be the real ones. -/
def WritesAlike {id : BuiltinId} (s : Scalar (Builtin Obj id)) (room : Nat) (a : ArrayValue Obj id)
    (b : Buffer) : Prop :=
  let count := a.length.toInt.toNat
  let start := b.position + 4
  let copyEnd := start + count * s.width % 2 ^ 32
  let limit := b.maximumSize.toNat
  room ≤ 1 ∨ limit < start ∨
    if start + count * s.width ≤ limit then
      (count = 0 ∨ elementLevels id < room) ∧ ∀ i, elementValue (a.content i) = a.content i
    else
      limit < copyEnd ∧ (2 ^ 32 ≤ copyEnd ↔
        elementLevels id < room ∧ 2 ^ 32 ≤ firstBeyond start limit s.width)

theorem outcome_int32Write (v : Int32) (b : Buffer) :
    outcome (int32Write (room + 1) v b) =
      match b.write (Scalar.int32.bytes v) with
      | some b' => .done ((), b')
      | none => .refusedAt (b.position + 4) := by
  have hlen : (Scalar.int32.bytes v).length = 4 := Scalar.int32.length_bytes v
  show outcome (mapError writeStatus (bufferWrite (Scalar.int32.bytes v)) b) = _
  rw [outcome_mapError_write, outcome_bufferWrite (by rw [hlen]; decide), hlen]

theorem outcome_writeElements (hs : optimizableScalar id = some s) (room : Nat) {n : Nat}
    (f : Fin n → Builtin Obj id) (b : Buffer) :
    outcome (writeEach n (fun i => elementWrite cst objs room variantW dataValueW (f i)) b) =
      if n = 0 ∨ elementLevels id ≤ room then
        match b.write (s.rawBytes fun i => elementValue (f i)) with
        | some b' => .done ((), b')
        | none => .refusedAt (firstBeyond b.position b.maximumSize.toNat s.width)
      else .failed := by
  simp only [elementWrite_eq cst objs variantW dataValueW hs]
  by_cases hlevels : elementLevels id ≤ room
  · simp only [hlevels, or_true, if_true]
    exact outcome_writeEach_bytes s (optimizableScalar_width_pos hs) (width_lt hs) _ b
  simp only [hlevels, or_false]
  rcases n with _ | n
  · rw [if_pos rfl, Scalar.rawBytes, Buffer.write_nil]
    rfl
  rw [if_neg (succ_ne_zero n)]
  rfl

variable {n : Nat} {f : Fin n → Builtin Obj id} {p : Prop} [Decidable p]

/-- What follows the length when the array is copied as a block. -/
theorem outcome_writeBlock (s : Scalar (Builtin Obj id)) (hp : p ↔ 0 < n) (b : Buffer) :
    outcome (writeIf p (bufferWrite ((s.rawBytes f).take (n * s.width % 2 ^ 32))) b) =
      match b.write ((s.rawBytes f).take (n * s.width % 2 ^ 32)) with
      | some b' => .done ((), b')
      | none => .refusedAt (b.position + n * s.width % 2 ^ 32) := by
  have hlen : ((s.rawBytes f).take (n * s.width % 2 ^ 32)).length = n * s.width % 2 ^ 32 := by
    rw [length_take, s.length_rawBytes]
    exact Nat.min_eq_left (mod_le _ _)
  unfold writeIf
  by_cases hpos : p
  · rw [if_pos hpos, outcome_bufferWrite (by rw [hlen]; exact mod_lt _ (by decide)), hlen]
  have hnil : (s.rawBytes f).take (n * s.width % 2 ^ 32) = [] := by
    rw [← length_eq_zero_iff, hlen, Nat.eq_zero_of_not_pos (mt hp.2 hpos), Nat.zero_mul,
      zero_mod]
  rw [if_neg hpos, hnil, Buffer.write_nil]
  rfl

section

variable (hs : optimizableScalar id = some s)
include hs

/-- The elements are written alike both ways after the length. -/
theorem writeContent_alike_iff (room : Nat) (hp : p ↔ 0 < n)
    (b : Buffer) :
    outcome (writeIf p (bufferWrite ((s.rawBytes f).take (n * s.width % 2 ^ 32))) b) =
      outcome (writeEach n (fun i => elementWrite cst objs room variantW dataValueW (f i)) b) ↔
    if b.position + n * s.width ≤ b.maximumSize.toNat then
      (n = 0 ∨ elementLevels id ≤ room) ∧
        ∀ i, elementValue (f i) = f i
    else
      b.maximumSize.toNat < b.position + n * s.width % 2 ^ 32 ∧
        (2 ^ 32 ≤ b.position + n * s.width % 2 ^ 32 ↔ elementLevels id ≤ room ∧
          2 ^ 32 ≤ firstBeyond b.position b.maximumSize.toNat s.width) := by
  rw [outcome_writeBlock s hp, outcome_writeElements cst objs variantW dataValueW hs]
  have hmax := b.maximumSize.toNat_lt
  have hlen : (s.rawBytes fun i => elementValue (f i)).length =
      n * s.width := s.length_rawBytes _
  by_cases hfits : b.position + n * s.width ≤ b.maximumSize.toNat
  · -- Everything fits: the bytes decide
    rw [if_pos hfits, length_take_rawBytes s f (by omega)]
    obtain ⟨x, hx⟩ : ∃ x, b.write (s.rawBytes f) = some x := by
      rw [← Option.ne_none_iff_exists', ne_eq, Buffer.write_eq_none, s.length_rawBytes]
      omega
    obtain ⟨y, hy⟩ : ∃ y, b.write (s.rawBytes fun i => elementValue (f i)) = some y := by
      rw [← Option.ne_none_iff_exists', ne_eq, Buffer.write_eq_none, hlen]
      omega
    rw [hx, hy]
    split_ifs with hlevels
    · constructor
      · intro h
        have hxy : x = y := (Prod.mk.inj (Outcome.done.inj h)).2
        subst hxy
        have hraw := Buffer.write_inj (hlen.trans (s.length_rawBytes _).symm) hy hx
        have hcontent := congrArg (s.ofRaw n) hraw
        rw [s.ofRaw_rawBytes, s.ofRaw_rawBytes] at hcontent
        exact ⟨hlevels, congrFun hcontent⟩
      · rintro ⟨-, h⟩
        rw [funext h] at hy
        rw [Option.some.inj (hx.symm.trans hy)]
    · exact ⟨nofun, fun h => absurd h.1 hlevels⟩
  · -- Not everything fits, and the loop stops at the first element beyond
    have hcount : n ≠ 0 := by
      intro hzero
      have := b.position_le.trans b.length_le
      rw [hzero, Nat.zero_mul] at hfits
      omega
    have hnone : b.write (s.rawBytes fun i => elementValue (f i)) = none := by
      rw [Buffer.write_eq_none, hlen]
      omega
    have htake := length_take_of_le
      (Nat.le_trans (mod_le (n * s.width) (2 ^ 32))
        (Nat.le_of_eq (s.length_rawBytes f).symm))
    rw [if_neg hfits, hnone]
    simp only [hcount, false_or]
    cases hcopy : b.write ((s.rawBytes f).take
        (n * s.width % 2 ^ 32)) with
    | some x =>
      have hle := (Buffer.write_eq_some.1 hcopy).1
      rw [htake] at hle
      exact ⟨fun h => absurd h.symm Outcome.ite_refusedAt_ne_done, fun h => by omega⟩
    | none =>
      have hlt := Buffer.write_eq_none.1 hcopy
      rw [htake] at hlt
      exact Outcome.refusedAt_eq_ite_iff.trans ⟨fun h => ⟨hlt, h⟩, fun h => h.2⟩

theorem writeVariantArrayBuiltInType_succ (room : Nat)
    (a : ArrayValue Obj id) :
    writeVariantArrayBuiltInType cst objs variantW dataValueW (room + 1) a =
      int32Write room a.length >>= fun _ => writeIf (0 < a.length) (bufferWrite
        ((s.rawBytes a.content).take (a.length.toInt.toNat * s.width % 2 ^ 32))) := by
  show variantArrayWrite room _ a = _
  unfold variantArrayWrite
  rw [if_neg (ne_null hs), hs]

/-- An array is written alike both ways exactly under that condition. -/
theorem write_alike_iff (room : Nat) (a : ArrayValue Obj id)
    (b : Buffer) :
    outcome (writeVariantArrayBuiltInType cst objs variantW dataValueW room a b) =
      outcome (writeArray cst objs variantW dataValueW room a b) ↔ WritesAlike s room a b := by
  unfold WritesAlike
  rcases room with _ | _ | room
  · exact ⟨fun _ => .inl (by omega), fun _ => rfl⟩
  · rw [writeVariantArrayBuiltInType_succ cst objs variantW dataValueW hs]
    exact ⟨fun _ => .inl (by omega), fun _ => rfl⟩
  · have hroom : ¬ room + 1 + 1 ≤ 1 := by omega
    rw [writeVariantArrayBuiltInType_succ cst objs variantW dataValueW hs,
      show writeArray cst objs variantW dataValueW (room + 1 + 1) a =
        int32Write (room + 1) a.length >>= fun _ => writeEach _ fun i =>
          elementWrite cst objs (room + 1) variantW dataValueW (a.content i) from rfl,
      outcome_bind, outcome_bind, outcome_int32Write]
    have hlen : (Scalar.int32.bytes a.length).length = 4 := Scalar.int32.length_bytes a.length
    rcases hb : b.write (Scalar.int32.bytes a.length) with _ | b₁
    · have hlt := Buffer.write_eq_none.1 hb
      rw [hlen] at hlt
      exact ⟨fun _ => .inr (.inl hlt), fun _ =>
        (Outcome.refusedAt_bind _ _).trans (Outcome.refusedAt_bind _ _).symm⟩
    obtain ⟨hle, -, hpos, hmax⟩ := Buffer.write_eq_some.1 hb
    rw [hlen] at hle hpos
    have hstart : ¬ b.maximumSize.toNat < b.position + 4 := by omega
    have hcount : 0 < a.length ↔ 0 < a.length.toInt.toNat := by
      rw [Int32.lt_iff_toInt_lt, show (0 : Int32).toInt = 0 from rfl]
      omega
    refine (writeContent_alike_iff cst objs variantW dataValueW hs (room + 1) hcount b₁).trans ?_
    rw [hpos, hmax]
    simp only [hroom, hstart, false_or, Nat.lt_succ_iff]

end

/-! ## Reading an array -/

/-- `ReadVariantArrayBuiltInType`. -/
def readVariantArrayBuiltInType (id : BuiltinId) : Reader (ArrayValue Obj id) :=
  nested room fun room =>
    variantArrayRead cst room (elementRead cst objs room variantR dataValueR id)

/-- `SOPC_Read_Array` with the Read function of the elements. -/
def readArray (id : BuiltinId) : Reader (ArrayValue Obj id) :=
  nested room fun room => int32Read room >>= fun read =>
    if cst.maxArrayLength < clampLength read then throw .outOfMemory
    else
      readEach _ (elementRead cst objs room variantR dataValueR id) >>= fun content =>
        pure ⟨clampLength read, content⟩

/-- An array is read alike both ways: the elements that are all there have their levels and
    are in the form they are read in, and those that are not there are refused both ways,
    for which the end of the copy must be the real one. -/
def ReadsAlike {id : BuiltinId} (s : Scalar (Builtin Obj id)) (room : Nat) (b : Buffer) : Prop :=
  let start := b.position + 4
  let length := clampLength (Scalar.int32.ofBytes ((b.data.drop b.position).take 4))
  let count := length.toInt.toNat
  let limit := b.data.length
  let content := s.ofRaw count ((b.data.drop start).take (count * s.width))
  room ≤ 1 ∨ limit < start ∨ cst.maxArrayLength < length ∨
    if start + count * s.width ≤ limit then
      (count = 0 ∨ elementLevels id < room) ∧ ∀ i, elementValue (content i) = content i
    else
      (count * s.width < 2 ^ 32 ∧ 2 ^ 32 ≤ start + count * s.width ↔
        elementLevels id < room ∧ 2 ^ 32 ≤ firstBeyond start limit s.width)

section

variable (hs : optimizableScalar id = some s)
include hs

/-- What follows the length when the array is copied as a block. -/
theorem outcome_readBlock (elem : Reader (Builtin Obj id))
    (length : Int32) (b : Buffer) :
    outcome (arrayContentRead elem length b) =
      if length.toInt.toNat * s.width < 2 ^ 32 then
        match b.read (length.toInt.toNat * s.width) with
        | some r => .done (⟨length, s.ofRaw _ r.1⟩, r.2)
        | none => .refusedAt (b.position + length.toInt.toNat * s.width)
      else .failed := by
  have hwidth := optimizableScalar_width_pos hs
  unfold arrayContentRead
  rw [hs]
  simp only
  by_cases hsize : length.toInt.toNat * s.width < 2 ^ 32
  · have hle : length.toInt.toNat ≤ (2 ^ 32 - 1) / s.width := by
      rw [Nat.le_div_iff_mul_le hwidth]
      omega
    rw [if_pos hle, if_pos hsize, outcome_bind, outcome_mapError_read]
    rcases hread : b.read (length.toInt.toNat * s.width) with _ | r
    · rw [outcome_bufferRead_of_none hsize hread]
      exact Outcome.refusedAt_bind _ _
    rw [bufferRead_of_some hread]
    rfl
  · have hgt : ¬ length.toInt.toNat ≤ (2 ^ 32 - 1) / s.width := by
      rw [Nat.le_div_iff_mul_le hwidth]
      omega
    rw [if_neg hgt, if_neg hsize]
    rfl

theorem outcome_readElements (room n : Nat) (b : Buffer) :
    outcome (readEach n (elementRead cst objs room variantR dataValueR id) b) =
      if n = 0 ∨ elementLevels id ≤ room then
        match b.read (n * s.width) with
        | some r => .done (fun i => elementValue (s.ofRaw n r.1 i), r.2)
        | none => .refusedAt (firstBeyond b.position b.data.length s.width)
      else .failed := by
  rw [elementRead_eq cst objs variantR dataValueR hs]
  by_cases hlevels : elementLevels id ≤ room
  · simp only [hlevels, or_true, if_true]
    exact outcome_readEach_bytes s (optimizableScalar_width_pos hs) (width_lt hs) elementValue n b
  simp only [hlevels, or_false]
  rcases n with _ | n
  · rw [if_pos rfl, Nat.zero_mul, Buffer.read_zero]
    exact congrArg Outcome.done (Prod.ext (funext fun i => i.elim0) rfl)
  rw [if_neg (succ_ne_zero n)]
  rfl

/-- The elements are read alike both ways after the length. -/
theorem readContent_alike_iff (room : Nat) (length : Int32)
    (b : Buffer) :
    outcome (arrayContentRead (elementRead cst objs room variantR dataValueR id) length b) =
      outcome ((readEach length.toInt.toNat (elementRead cst objs room variantR dataValueR id) >>=
        fun content => pure (⟨length, content⟩ : ArrayValue Obj id)) b) ↔
    if b.position + length.toInt.toNat * s.width ≤ b.data.length then
      (length.toInt.toNat = 0 ∨ elementLevels id ≤ room) ∧
        ∀ i, elementValue (s.ofRaw length.toInt.toNat
            ((b.data.drop b.position).take (length.toInt.toNat * s.width)) i) =
          s.ofRaw length.toInt.toNat
            ((b.data.drop b.position).take (length.toInt.toNat * s.width)) i
    else
      (length.toInt.toNat * s.width < 2 ^ 32 ∧
          2 ^ 32 ≤ b.position + length.toInt.toNat * s.width ↔
        elementLevels id ≤ room ∧ 2 ^ 32 ≤ firstBeyond b.position b.data.length s.width) := by
  rw [outcome_readBlock hs, outcome_bind, outcome_readElements cst objs variantR dataValueR hs]
  have hlen := b.length_le
  have hmax := b.maximumSize.toNat_lt
  by_cases hfits : b.position + length.toInt.toNat * s.width ≤ b.data.length
  · -- All elements are there: their values decide
    obtain ⟨⟨bytes, b'⟩, hread⟩ : ∃ r, b.read (length.toInt.toNat * s.width) = some r := by
      rw [← Option.ne_none_iff_exists', ne_eq, Buffer.read_eq_none]
      omega
    obtain ⟨-, rfl, -⟩ := Buffer.read_eq_some.1 hread
    rw [if_pos hfits, hread, if_pos (by omega)]
    split_ifs with hlevels
    · constructor
      · intro h
        have harray := (Prod.mk.inj (Outcome.done.inj h)).1
        have hcontent := eq_of_heq (ArrayValue.mk.inj harray).2
        exact ⟨hlevels, fun i => (congrFun hcontent i).symm⟩
      · rintro ⟨-, h⟩
        simp only [h]
        rfl
    · exact ⟨nofun, fun h => absurd h.1 hlevels⟩
  · -- Some are not, and the loop stops at the first of them
    have hcount : length.toInt.toNat ≠ 0 := by
      intro hzero
      have := b.position_le
      rw [hzero, Nat.zero_mul] at hfits
      omega
    have hnone : b.read (length.toInt.toNat * s.width) = none := by
      rw [Buffer.read_eq_none]
      omega
    rw [if_neg hfits, hnone]
    simp only [hcount, false_or]
    rw [Outcome.ite_refusedAt_bind]
    exact Outcome.ite_refusedAt_eq_iff

theorem readVariantArrayBuiltInType_succ (room : Nat) :
    readVariantArrayBuiltInType cst objs variantR dataValueR (room + 1) id =
      int32Read room >>= fun read =>
        if cst.maxArrayLength < clampLength read then throw .outOfMemory
        else arrayContentRead (elementRead cst objs room variantR dataValueR id)
          (clampLength read) := by
  show variantArrayRead cst room _ = _
  unfold variantArrayRead
  rw [if_neg (ne_null hs)]

end

variable {b : Buffer}

theorem outcome_int32Read_of_none (hb : b.read 4 = none) :
    outcome (int32Read (room + 1) b) = .refusedAt (b.position + 4) := by
  show outcome ((mapError readStatus (bufferRead 4) >>= fun bytes =>
    pure (Scalar.int32.ofBytes bytes.val)) b) = _
  rw [outcome_bind, outcome_mapError_read, outcome_bufferRead_of_none (by decide) hb]
  exact Outcome.refusedAt_bind _ _

theorem int32Read_of_some {b' : Buffer} {bytes : List UInt8} (hb : b.read 4 = some (bytes, b')) :
    int32Read (room + 1) b = .ok (Scalar.int32.ofBytes bytes, b') := by
  show (mapError readStatus (bufferRead 4) >>= fun bytes =>
    pure (Scalar.int32.ofBytes bytes.val)) b = _
  rw [bind_ok (mapError_eq_ok.2 (bufferRead_of_some hb))]
  rfl

/-- An array is read alike both ways exactly under that condition. -/
theorem read_alike_iff (hs : optimizableScalar id = some s) (room : Nat) (b : Buffer) :
    outcome (readVariantArrayBuiltInType cst objs variantR dataValueR room id b) =
      outcome (readArray cst objs variantR dataValueR room id b) ↔ ReadsAlike cst s room b := by
  unfold ReadsAlike
  rcases room with _ | _ | room
  · exact ⟨fun _ => .inl (by omega), fun _ => rfl⟩
  · rw [readVariantArrayBuiltInType_succ cst objs variantR dataValueR hs]
    exact ⟨fun _ => .inl (by omega), fun _ => rfl⟩
  · have hroom : ¬ room + 1 + 1 ≤ 1 := by omega
    rw [readVariantArrayBuiltInType_succ cst objs variantR dataValueR hs,
      show readArray cst objs variantR dataValueR (room + 1 + 1) id =
        int32Read (room + 1) >>= fun read =>
          if cst.maxArrayLength < clampLength read then throw .outOfMemory
          else
            readEach _ (elementRead cst objs (room + 1) variantR dataValueR id) >>= fun content =>
              pure ⟨clampLength read, content⟩ from rfl,
      outcome_bind, outcome_bind]
    rcases hb : b.read 4 with _ | r
    · rw [outcome_int32Read_of_none room hb]
      exact ⟨fun _ => .inr (.inl (Buffer.read_eq_none.1 hb)), fun _ =>
        (Outcome.refusedAt_bind _ _).trans (Outcome.refusedAt_bind _ _).symm⟩
    obtain ⟨bytes, b₁⟩ := r
    obtain ⟨hle, hbytes, hdata, hpos, -⟩ := Buffer.read_eq_some.1 hb
    have hstart : ¬ b.data.length < b.position + 4 := by omega
    rw [int32Read_of_some room hb, ← hbytes]
    simp only [outcome_ok, Outcome.done_bind, hroom, hstart, false_or, Nat.lt_succ_iff]
    by_cases hlength : cst.maxArrayLength < clampLength (Scalar.int32.ofBytes bytes)
    · rw [if_pos hlength, if_pos hlength]
      exact ⟨fun _ => .inl hlength, fun _ => rfl⟩
    rw [if_neg hlength, if_neg hlength]
    refine (readContent_alike_iff cst objs variantR dataValueR hs (room + 1) _ b₁).trans ?_
    rw [hpos, hdata]
    simp only [hlength, false_or]

/-- The block copy of an array of fixed-size elements does what the loop over them does,
    exactly under these two conditions, for each array to write and each buffer to read. -/
theorem block_copy_alike_iff {id : BuiltinId} {s : Scalar (Builtin Obj id)}
    (hs : optimizableScalar id = some s) :
    (∀ (room : Nat) (a : ArrayValue Obj id) (b : Buffer),
      outcome (writeVariantArrayBuiltInType cst objs variantW dataValueW room a b) =
        outcome (writeArray cst objs variantW dataValueW room a b) ↔ WritesAlike s room a b) ∧
    (∀ (room : Nat) (b : Buffer),
      outcome (readVariantArrayBuiltInType cst objs variantR dataValueR room id b) =
        outcome (readArray cst objs variantR dataValueR room id b) ↔ ReadsAlike cst s room b) :=
  ⟨fun room a b => write_alike_iff cst objs variantW dataValueW hs room a b,
    fun room b => read_alike_iff cst objs variantR dataValueR hs room b⟩

end

theorem block_copy_alike_iff_boolean : ∃ s : Scalar (Builtin Empty .boolean), s.width = 1 ∧
    (∀ (room : Nat) (a : ArrayValue Empty .boolean) (b : Buffer),
      outcome (writeVariantArrayBuiltInType smallConstants (opaqueObjects fun _ _ => false)
          (fun _ => throw .nok) (fun _ => throw .nok) room a b) =
        outcome (writeArray smallConstants (opaqueObjects fun _ _ => false)
          (fun _ => throw .nok) (fun _ => throw .nok) room a b) ↔
        WritesAlike s room a b) ∧
    (∀ (room : Nat) (b : Buffer),
      outcome (readVariantArrayBuiltInType smallConstants (opaqueObjects fun _ _ => false)
          (throw .nok) (throw .nok) room .boolean b) =
        outcome (readArray smallConstants (opaqueObjects fun _ _ => false)
          (throw .nok) (throw .nok) room .boolean b) ↔
        ReadsAlike smallConstants s room b) :=
  ⟨_, rfl, block_copy_alike_iff smallConstants (opaqueObjects fun _ _ => false) (fun _ => throw .nok)
    (fun _ => throw .nok) (throw .nok) (throw .nok) rfl⟩

/-- The array of the boolean 2, which stands for true. -/
def trueArray : ArrayValue Empty .boolean := ⟨1, fun _ => .flat (.boolean 2)⟩

/-- The bytes of that array, as they are copied. -/
def trueArrayBuffer : Buffer := ⟨[1, 0, 0, 0, 2], 0, 5, by decide, by decide⟩

/-- The block copy keeps the byte 2 in both directions, where the functions of an element
    give 1. -/
theorem boolean_two_is_copied :
    ∃ b b' : Buffer,
      writeVariantArrayBuiltInType smallConstants (opaqueObjects fun _ _ => false)
          (fun _ => throw .nok) (fun _ => throw .nok) 10 trueArray (Buffer.empty 5) =
        .ok ((), b) ∧ b.data = [1, 0, 0, 0, 2] ∧
      writeArray smallConstants (opaqueObjects fun _ _ => false)
          (fun _ => throw .nok) (fun _ => throw .nok) 10 trueArray (Buffer.empty 5) =
        .ok ((), b') ∧ b'.data = [1, 0, 0, 0, 1] ∧
      readVariantArrayBuiltInType smallConstants (opaqueObjects fun _ _ => false)
          (throw .nok) (throw .nok) 10 .boolean trueArrayBuffer =
        .ok (⟨1, fun _ => .flat (.boolean 2)⟩, b) ∧
      readArray smallConstants (opaqueObjects fun _ _ => false)
          (throw .nok) (throw .nok) 10 .boolean trueArrayBuffer =
        .ok (⟨1, fun _ => .flat (.boolean 1)⟩, b) := by
  have hone : ∀ (f g : Fin 1 → Builtin Empty .boolean) (b : Buffer), f 0 = g 0 →
      (Except.ok (⟨1, f⟩, b) : Except Status (ArrayValue Empty .boolean × Buffer)) =
        .ok (⟨1, g⟩, b) := by
    intro f g b h
    have hfg : f = g := funext fun i => by rw [Fin.fin_one_eq_zero i, h]
    rw [hfg]
  refine ⟨_, _, rfl, rfl, rfl, rfl, ?_, ?_⟩
  all_goals exact hone _ _ _ rfl

end S2opc.Encoder
