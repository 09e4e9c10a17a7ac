/-
The assertions of a subscriber.

None of the assertions in the decoder, in the callbacks and in the lookups can
fail but one: `Decode_SecurityHeader` asserts that the keys it was given are
those of the token of the message, and the token 0 is given the current keys,
whatever their token is.
-/
import S2opc.PubSub.Subscriber

namespace S2opc.PubSub

open BuiltinTypes Lib.Bytes Lib.ByteCodec Lib.Stateful Encoder List Int32
open Action

/-! ## Readers -/

/-- A reader that does not fail an assertion, and gives a value with `Q`. -/
abbrev Reads {α : Type} (r : Codec Stop α) (Q : α → Prop) : Prop := Ends r Q (· ≠ .assertion)

section
variable {Obj : Type} (cst : EncodingConstants) (objs : ObjectCodec Obj) {code : ErrorCode}

theorem reads_failWith {α : Type} {r : Reader α} :
    Reads (failWith (.error code) r) fun _ => True := (Ends.any r).failWith (by simp)

theorem reads_flags : Reads (flagsRead cst) fun _ => True := reads_failWith

theorem not_lt_and_fifteen (data : UInt8) : ¬ 15 < data &&& 0x0F := by
  rw [UInt8.lt_iff_toNat_lt, UInt8.toNat_and]
  have hle : data.toNat &&& (0x0F : UInt8).toNat ≤ 15 := Nat.and_le_right
  show ¬ 15 < data.toNat &&& (0x0F : UInt8).toNat
  omega

theorem reads_networkMessageHeader : Reads (networkMessageHeaderRead cst) fun _ => True := by
  refine (reads_flags cst).bind fun data _ => ?_
  rw [if_neg (not_lt_and_fifteen data)]
  refine ((reads_flags cst).readIf trivial).bind fun flags1 _ => ?_
  refine .refuse (by simp) fun _ => ?_
  refine ((reads_flags cst).readIf trivial).bind fun flags2 _ => ?_
  refine .refuse (by simp) fun _ => ?_
  refine (reads_failWith.readIf trivial).bind fun id _ => ?_
  exact .refuse (by simp) fun _ => .pure trivial

theorem reads_groupHeader (header : Header) : Reads (groupHeaderRead cst header) fun _ => True := by
  refine ((reads_flags cst).readIf trivial).bind fun data _ => ?_
  refine (reads_failWith.readIf trivial).bind fun groupId _ => ?_
  refine (reads_failWith.readIf trivial).bind fun groupVersion _ => ?_
  refine .refuse (by simp) fun _ => ?_
  exact .refuse (by simp) fun _ => .pure trivial

theorem reads_headers : Reads (headersRead cst) fun _ => True :=
  (reads_networkMessageHeader cst).bind fun header _ => reads_groupHeader cst header

theorem reads_securityFlags : Reads (securityFlagsRead cst) fun _ => True := by
  refine (reads_flags cst).bind fun data _ => ?_
  refine .refuse (by simp) fun _ => ?_
  exact reads_failWith.bind fun tokenId _ => .pure trivial

theorem reads_nonce : Reads (nonceRead cst) fun _ => True := by
  refine (reads_flags cst).bind fun length _ => ?_
  refine .refuse (by simp) fun _ => ?_
  exact reads_failWith.bind fun random _ => reads_failWith.bind fun number _ => .pure trivial

theorem reads_dsmFlags : Reads (dsmFlagsRead cst) fun _ => True := by
  refine (reads_flags cst).bind fun data _ => ?_
  refine .refuse (by simp) fun _ => ?_
  refine .refuse (by simp) fun _ => ?_
  refine ((reads_flags cst).readIf trivial).bind fun flags2 _ => ?_
  exact .refuse (by simp) fun _ => .pure trivial

theorem reads_dsmSizes (count : Nat) : Reads (dsmSizesRead cst count) fun _ => True := by
  unfold dsmSizesRead
  split_ifs
  · exact (reads_failWith.list).bind fun sizes _ => .pure trivial
  · exact .pure trivial

/-! ## The ranks of read values -/

/-- The rank of a scalar or of an array. -/
def Ranked (variant : Variant Obj) : Prop := -4 < valueRank variant

theorem ends_matrixRead (room : Nat) {id : BuiltinId} (array : ArrayValue Obj id) :
    Ends (matrixRead cst room array) Ranked fun _ => True := by
  refine .skip fun dimensions => ?_
  refine .refuse trivial fun hd => ?_
  refine .skip fun arrayDimensions => ?_
  split_ifs
  · -- A negative number of dimensions was refused.
    refine .pure ?_
    have hneg : ¬ dimensions.toInt < 0 := fun h => hd (.inl (lt_iff_toInt_lt.2 h))
    show -4 < dimensions
    rw [lt_iff_toInt_lt, show (-4 : Int32).toInt = -4 from rfl]
    omega
  · exact .throw trivial

theorem ends_variantReadAt (room : Nat) :
    Ends (variantReadAt cst objs room) Ranked fun _ => True := by
  rcases room with _ | room
  · exact .throw trivial
  rw [variantReadAt]
  have hscalar : (-4 : Int32) < -1 := by decide
  exact .skip <| variantValueRead_ends cst room (fun _ => .any _) (fun _ => .any _)
    hscalar (fun _ _ _ => hscalar) (fun _ _ => show (-4 : Int32) < 1 by decide)
    fun a _ => ends_matrixRead cst room a

/-- The fields of a message have the rank of a scalar or of an array. -/
def RankedFields (fields : DataSetFields Obj) : Prop := ∀ variant ∈ fields.toList, Ranked variant

theorem reads_dataSetFields :
    Reads (failWith (.error code) (dataSetFieldsRead cst objs)) RankedFields := by
  refine .failWith ?_ (by simp)
  refine .skip fun length => ?_
  refine (ends_variantReadAt cst objs _).each.bind fun content hcontent => .pure ?_
  intro variant hvariant
  obtain ⟨i, rfl⟩ := (mem_ofFn' _ _).1 hvariant
  exact hcontent i

theorem reads_dsmBody (conf : ContentMask) :
    Reads (dsmBodyRead cst objs conf) fun body => RankedFields body.2 := by
  refine (reads_failWith.readIf trivial).bind fun timestamp _ => ?_
  refine (reads_failWith.readIf trivial).bind fun picoSeconds _ => ?_
  refine (reads_failWith.readIf trivial).bind fun status _ => ?_
  refine (reads_failWith.readIf trivial).bind fun major _ => ?_
  refine (reads_failWith.readIf trivial).bind fun minor _ => ?_
  refine ((reads_dataSetFields cst objs).readIf ?_).bind fun fields hfields => .pure hfields
  intro variant hvariant
  obtain ⟨i, -⟩ := (mem_ofFn' _ _).1 hvariant
  exact i.elim0

end

/-! ## Actions -/

section
variable {σ α β : Type}

/-- An action that does not fail an assertion, and gives a value with `Q`. -/
def Survives (m : Action σ Stop α) (Q : α → Prop) : Prop :=
  Triple (fun _ => True) m (fun a _ => Q a) fun stop _ => stop ≠ .assertion

namespace Survives

variable {m : Action σ Stop α} {Q : α → Prop}

theorem pure {a : α} (h : Q a) : Survives (Pure.pure a : Action σ Stop α) Q :=
  Triple.pure fun _ _ => h

theorem error (code : ErrorCode) : Survives (throw (.error code) : Action σ Stop α) Q :=
  .throw fun _ _ => by simp

theorem step (f : σ → α × σ) : Survives (Action.step f) fun _ => True :=
  Triple.step fun _ _ => trivial

theorem update (f : σ → σ) : Survives (Action.update f) fun _ => True :=
  Triple.update fun _ _ => trivial

theorem query (f : σ → α) : Survives (Action.query f) fun _ => True :=
  Triple.query fun _ _ => trivial

theorem bind {f : α → Action σ Stop β} {R : β → Prop} (hm : Survives m Q)
    (hf : ∀ a, Q a → Survives (f a) R) : Survives (m >>= f) R :=
  Triple.bind hm fun a s ha => hf a ha s trivial

theorem ite {p : Prop} [Decidable p] {m' : Action σ Stop α} (hm : Survives m Q)
    (hm' : Survives m' Q) : Survives (if p then m else m') Q := by
  split_ifs with hp
  · exact hm
  · exact hm'

theorem ofExcept {x : Except Stop α} (hok : ∀ a, x = .ok a → Q a) (herror : x ≠ .error .assertion) :
    Survives (Action.ofExcept x : Action σ Stop α) Q :=
  Triple.ofExcept (fun a ha _ _ => hok a ha) fun _ he _ _ hstop => herror (hstop ▸ he)

theorem readFrom {r : Codec Stop α} (h : Reads r Q) (b : Buffer) :
    Survives (readFrom r b : Action σ Stop (α × Buffer)) fun read => Q read.1 := by
  refine .ofExcept (fun read hread => ?_) fun herror => ?_
  · have hb := h b
    rw [hread] at hb
    exact hb
  · have hb := h b
    rw [herror] at hb
    exact hb rfl

theorem ne_assertion (h : Survives m Q) (s : σ) : (exec m s).1 ≠ .error .assertion := by
  have hs := h s trivial
  revert hs
  obtain ⟨r, s'⟩ := exec m s
  cases r with
  | ok a => simp
  | error e => simp

end Survives

/-- A part that reads is not where an assertion fails. -/
theorem readFrom_bind_assertion_iff {r : Codec Stop α} {Q : α → Prop} (h : Reads r Q) {b : Buffer}
    {f : α × Buffer → Action σ Stop β} {s : σ} :
    (exec (readFrom r b >>= f) s).1 = .error .assertion ↔
      ∃ a rest, r b = .ok (a, rest) ∧ (exec (f (a, rest)) s).1 = .error .assertion := by
  rw [exec_bind_eq_error, or_iff_right ((Survives.readFrom h b).ne_assertion s)]
  constructor
  · rintro ⟨⟨a, rest⟩, s', hread, hf⟩
    obtain ⟨hok, rfl⟩ := Prod.mk.inj hread
    exact ⟨a, rest, hok, hf⟩
  · rintro ⟨a, rest, hread, hf⟩
    exact ⟨(a, rest), s, congrArg (·, s) hread, hf⟩

/-- What survives after a part does not count. -/
theorem bind_assertion_iff {m : Action σ Stop α} {f : α → Action σ Stop β} {Q : β → Prop} {s : σ}
    (hf : ∀ a, Survives (f a) Q) :
    (exec (m >>= f) s).1 = .error .assertion ↔ (exec m s).1 = .error .assertion := by
  rw [exec_bind_eq_error, or_iff_left]
  rintro ⟨a, s', -, h⟩
  exact (hf a).ne_assertion s' h

end

/-! ## Data set messages -/

section
variable {σ Group DataSetReader Target Obj : Type} (cst : EncodingConstants) (objs : ObjectCodec Obj)
  (rc : ReaderConfiguration σ Group DataSetReader Target Obj) (pubId : ConfPublisherId)
  (groupId : UInt16)

theorem survives_decodeSequenceNumber (writerId : UInt16) (conf : ContentMask) (payload : Buffer) :
    Survives (decodeSequenceNumber cst rc pubId groupId writerId conf payload) fun _ => True := by
  refine .ite ?_ (.pure trivial)
  refine (Survives.readFrom reads_failWith payload).bind fun read _ => ?_
  refine Survives.ite (Survives.pure trivial) ?_
  exact (Survives.step _).bind fun newer _ => Survives.pure trivial

theorem survives_decodeDataSetMessage (writerId dsmSize : UInt16) (payload : Buffer) :
    Survives (decodeDataSetMessage cst objs rc pubId groupId writerId dsmSize payload)
      fun decoded => RankedFields decoded.1.fields := by
  refine (Survives.readFrom (reads_dsmFlags cst) payload).bind fun flags _ => ?_
  refine (survives_decodeSequenceNumber cst rc pubId groupId writerId _ _).bind fun number _ => ?_
  refine (Survives.readFrom (reads_dsmBody cst objs _) _).bind fun body hbody => ?_
  exact .ite (.error _) (.pure hbody)

/-- The callback for a message survives the fields that the decoder gives it. -/
def SurvivingCallback : Prop :=
  ∀ dsm reader target, RankedFields dsm.fields → Survives (rc.setDsm dsm reader target) fun _ => True

variable {rc}

theorem survives_receiveDataSetMessage (hset : SurvivingCallback rc) (reader : DataSetReader)
    {dsm : DataSetMessage Obj} (hdsm : RankedFields dsm.fields) :
    Survives (receiveDataSetMessage rc pubId groupId reader dsm) fun _ => True := by
  refine (Survives.query _).bind fun target _ => Survives.ite (Survives.error _) ?_
  refine (hset dsm reader target hdsm).bind fun set _ => ?_
  exact Survives.ite (Survives.update _) (Survives.error _)

theorem survives_decodeDataSetMessages (hset : SurvivingCallback rc)
    (messages : List ((UInt16 × Option DataSetReader) × Option UInt16)) (payload : Buffer) :
    Survives (decodeDataSetMessages cst objs rc pubId groupId messages payload) fun _ => True := by
  induction messages generalizing payload with
  | nil => exact .pure trivial
  | cons message rest ih =>
    obtain ⟨⟨writerId, reader⟩, size⟩ := message
    rcases reader with _ | reader
    · cases size with
      | none => exact .error _
      | some size => exact (ih _).bind fun dsms _ => .pure trivial
    refine (survives_decodeDataSetMessage cst objs rc pubId groupId writerId _ payload).bind
      fun decoded hdecoded => ?_
    refine (survives_receiveDataSetMessage pubId groupId hset reader hdecoded).bind fun _ _ => ?_
    exact (ih _).bind fun dsms _ => .pure trivial

end

/-! ## The callback of the subscriber -/

section
variable {Obj : Type}

theorem isCompatibleVariant_ne_assertion (field : FieldMetaData) {variant : Variant Obj}
    (h : Ranked variant) : isCompatibleVariant field variant ≠ .error .assertion := by
  -- The rank of a field is -1 or positive.
  have hdest : ¬ field.arrayDimension.valueRank ≤ -4 := by
    rcases field.arrayDimension.valid with hr | hr
    · rw [hr]
      decide
    rw [le_iff_toInt_le, show (-4 : Int32).toInt = -4 from rfl]
    have hpos : 0 < field.arrayDimension.valueRank.toInt := lt_iff_toInt_lt.1 hr
    omega
  have hsrc : ¬ valueRank variant ≤ -4 := by
    have hlt : (-4 : Int32).toInt < (valueRank variant).toInt := lt_iff_toInt_lt.1 h
    rw [le_iff_toInt_le]
    omega
  have hrank : ∃ assignable, valueRankIsAssignableInto field.arrayDimension.valueRank
      (valueRank variant) = .ok assignable := by
    unfold valueRankIsAssignableInto
    rw [if_neg (not_or.2 ⟨hdest, hsrc⟩)]
    split_ifs
    all_goals exact ⟨_, rfl⟩
  obtain ⟨assignable, hassignable⟩ := hrank
  unfold isCompatibleVariant
  rw [hassignable]
  split_ifs
  all_goals simp

theorem allCompatible_ne_assertion {fields : List (FieldMetaData × Variant Obj)}
    (h : ∀ field ∈ fields, Ranked field.2) : allCompatible fields ≠ .error .assertion := by
  induction fields with
  | nil => simp [allCompatible]
  | cons field rest ih =>
    have hfield := isCompatibleVariant_ne_assertion field.1 (h field (mem_cons_self ..))
    have hrest := ih fun f hf => h f (mem_cons_of_mem _ hf)
    rw [allCompatible]
    split
    · rename_i stop hstop
      rw [hstop] at hfield
      simpa using hfield
    · exact hrest
    · simp

theorem setValues_ne_assertion (timestamp : UInt64)
    {values : List (WriteValue Obj × FieldMetaData × Variant Obj)}
    (h : ∀ value ∈ values, Ranked value.2.2) : setValues timestamp values ≠ .error .assertion := by
  induction values with
  | nil => simp [setValues]
  | cons value rest ih =>
    have hvalue := isCompatibleVariant_ne_assertion value.2.1 (h value (mem_cons_self ..))
    have hrest := ih fun v hv => h v (mem_cons_of_mem _ hv)
    have hmap {γ : Type} (f : List (WriteValue Obj) × Bool → γ) :
        (setValues timestamp rest).map f ≠ .error .assertion := by
      revert hrest
      cases setValues timestamp rest with
      | _ => simp [Except.map]
    rw [setValues]
    split
    · rename_i stop hstop
      rw [hstop] at hvalue
      simpa using hvalue
    · simp
    · exact hmap _
    · exact hmap _

theorem survives_setVariables (callback : Option (List (WriteValue Obj) → Bool))
    (target : Option TargetVariable) (reader : DataSetReader) {dsm : DataSetMessage Obj}
    (h : RankedFields dsm.fields) :
    Survives (setVariables callback target reader dsm) fun _ => True := by
  rcases target with _ | target
  · exact .pure trivial
  refine (Survives.query _).bind fun found _ => ?_
  rcases found with _ | ctx
  · exact Survives.pure trivial
  refine .ite (.pure trivial) ?_
  rcases callback with _ | callback
  · exact .pure trivial
  have hvalues : setValues dsm.timestamp
      (ctx.writeValues.zip (reader.fieldMetaData.zip dsm.fields.toList)) ≠ .error .assertion := by
    apply setValues_ne_assertion
    intro value hvalue
    exact h _ (of_mem_zip (of_mem_zip hvalue).2).2
  refine (Survives.ofExcept (fun _ _ => trivial) hvalues).bind fun values _ => ?_
  exact (Survives.update _).bind fun _ _ => Survives.pure trivial

theorem survivingCallback_subscriber (targetConfig : TargetVariableConfig Obj) (sks : KeyService)
    (connection : Connection) :
    SurvivingCallback (subscriberCallbacks targetConfig sks connection) := by
  intro dsm reader target h
  show Survives (receiveDsm targetConfig dsm reader target) _
  have hfilter : filterReaderFieldMetaData reader dsm ≠ .error .assertion := by
    unfold filterReaderFieldMetaData
    split_ifs
    · exact allCompatible_ne_assertion fun field hfield => h _ (of_mem_zip hfield).2
    · simp
  refine .ite (.pure trivial) ?_
  refine (Survives.ofExcept (fun _ _ => trivial) hfilter).bind fun compatible _ => ?_
  refine Survives.ite ?_ (Survives.pure trivial)
  cases targetConfig with
  | none => exact .pure trivial
  | some callback => exact survives_setVariables callback target reader h

end

/-! ## The assertion on the token -/

section
variable {σ Group DataSetReader Target Obj : Type} (cst : EncodingConstants)
  (objs : ObjectCodec Obj) (crypto : CryptoProvider)
  {rc : ReaderConfiguration σ Group DataSetReader Target Obj} {header : Header}
  {payloadPosition : Nat} {buffer : Buffer} {s : σ} {groupId : UInt16}

/-- The security header fails an assertion where the lookup of the security does. -/
theorem decodeSecurityHeader_assertion_iff :
    (exec (decodeSecurityHeader cst crypto rc header groupId payloadPosition buffer) s).1 =
        .error .assertion ↔
      groupId ≠ 0 ∧ header.flagsConfig.publisherIdFlag = true ∧
        ∃ flags rest, securityFlagsRead cst buffer = .ok (flags, rest) ∧
          (exec (receivedSecurity rc (convertPublisherId header.getPublisherId) groupId
            flags.1 flags.2.1 flags.2.2) s).1 = .error .assertion := by
  unfold decodeSecurityHeader
  split_ifs with hids
  · simp only [exec_throw, Except.error.injEq, reduceCtorEq, false_iff]
    rintro ⟨hgroup, hpub, -⟩
    rcases hids with h | h
    · exact hgroup h
    · rw [hpub] at h
      cases h
  obtain ⟨hgroup, hpub⟩ := not_or.1 hids
  rw [readFrom_bind_assertion_iff (reads_securityFlags cst)]
  simp only [ne_eq, hgroup, not_false_eq_true, true_and, show header.flagsConfig.publisherIdFlag = true
    by simpa using hpub]
  refine exists_congr fun flags => exists_congr fun rest => and_congr_right fun _ => ?_
  apply bind_assertion_iff (Q := fun _ => True)
  intro security
  refine .ite (.error _) ?_
  refine (Survives.readFrom (reads_nonce cst) _).bind fun nonce _ => ?_
  refine Survives.ite (Survives.error _) ((Survives.update _).bind fun _ _ => ?_)
  refine .ite ?_ (.pure trivial)
  split
  · exact .error _
  · exact .pure trivial

theorem survives_checkNoSecurity (header : Header) (groupId : UInt16) :
    Survives (checkNoSecurity rc header groupId) fun _ => True := by
  refine (Survives.step _).bind fun found _ => ?_
  split
  · exact Survives.pure trivial
  · exact .pure trivial
  · exact .error _
  · exact .ite (.pure trivial) (.error _)

theorem decodeSecurity_assertion_iff :
    (exec (decodeSecurity cst crypto rc header groupId payloadPosition buffer) s).1 =
        .error .assertion ↔
      header.flagsConfig.securityFlag = true ∧
        (exec (decodeSecurityHeader cst crypto rc header groupId payloadPosition buffer) s).1 =
          .error .assertion := by
  unfold decodeSecurity
  split_ifs with hflag
  · exact ⟨fun h => ⟨hflag, h⟩, And.right⟩
  · refine iff_of_false (Survives.ne_assertion (Q := fun _ => True) ?_ s) fun h => hflag h.1
    exact (survives_checkNoSecurity header groupId).bind fun _ _ => Survives.pure trivial

variable (rc) in
theorem reads_writers (group : Group) (n : Nat) (mustDecode : Bool) :
    Reads (writersRead cst rc group n mustDecode) fun _ => True := by
  induction n generalizing mustDecode with
  | zero => exact .ite (fun _ => .pure trivial) fun _ => .throw (by simp)
  | succ n ih =>
    exact reads_failWith.bind fun writerId _ => (ih _).bind fun writers _ => .pure trivial

variable (rc) in
theorem reads_payloadHeader (header : Header) (group : Group) :
    Reads (payloadHeaderRead cst rc header group) fun _ => True := by
  refine ((reads_flags cst).readIf trivial).bind fun msgCount _ => ?_
  exact .refuse (by simp) fun _ => reads_writers cst rc group _ _

theorem decodeMessageV1_assertion_iff (hset : SurvivingCallback rc) {group : Group} :
    (exec (decodeMessageV1 cst objs crypto rc header group payloadPosition buffer) s).1 =
        .error .assertion ↔
      ∃ writers rest, payloadHeaderRead cst rc header group buffer = .ok (writers, rest) ∧
        (exec (decodeSecurity cst crypto rc header (rc.groupId group) payloadPosition rest)
          s).1 = .error .assertion := by
  unfold decodeMessageV1
  rw [readFrom_bind_assertion_iff (reads_payloadHeader cst rc header group)]
  refine exists_congr fun writers => exists_congr fun rest => and_congr_right fun _ => ?_
  apply bind_assertion_iff
  intro payload
  exact (Survives.readFrom (reads_dsmSizes cst writers.length) payload).bind fun _ _ =>
    survives_decodeDataSetMessages cst objs _ _ hset _ _

/-- The decoder fails an assertion where the security of a message of a known group does. -/
theorem networkMessageDecode_assertion_iff :
    (exec (networkMessageDecode cst objs crypto rc buffer) s).1 = .error .assertion ↔
      ∃ header groupId groupVersion rest group,
        headersRead cst buffer = .ok ((header, groupId, groupVersion), rest) ∧
        rc.getGroup header.flagsConfig header.getPublisherId groupVersion groupId = some group ∧
        header.uadpVersion = 1 ∧
        (exec (decodeMessageV1 cst objs crypto rc header group buffer.position rest) s).1 =
          .error .assertion := by
  unfold networkMessageDecode
  rw [readFrom_bind_assertion_iff (reads_headers cst)]
  constructor
  · rintro ⟨⟨header, groupId, groupVersion⟩, rest, hread, h⟩
    dsimp only at h
    split at h
    · cases h
    rename_i group hgroup
    split_ifs at h with hversion
    · exact ⟨header, groupId, groupVersion, rest, group, hread, hgroup, hversion,
        (bind_assertion_iff (Q := fun _ => True) fun _ => .pure True.intro).1 h⟩
    · cases h
  · rintro ⟨header, groupId, groupVersion, rest, group, hread, hgroup, hversion, h⟩
    refine ⟨(header, groupId, groupVersion), rest, hread, ?_⟩
    dsimp only
    rw [hgroup]
    dsimp only
    rw [if_pos hversion]
    exact exec_bind_eq_error.2 (.inl h)

end

/-! ## The subscriber -/

section
variable {Obj : Type} {sks : KeyService} {tokenId : UInt32} {ctx : ReaderCtx}

/-- The keys that are given for a token are others only for the token 0, with keys that are there
    already. -/
theorem validSecurity_eq_ok {security : Security}
    (h : validSecurity sks tokenId ctx = .ok security) :
    security.mode = ctx.security.mode ∧
      (security.groupKeys.any (·.tokenId ≠ tokenId) = true ↔
        tokenId = 0 ∧ ctx.security.groupKeys.any (·.tokenId ≠ 0) = true) := by
  unfold validSecurity at h
  by_cases hold : ctx.security.groupKeys.all (·.tokenId < tokenId) = true
  · rw [if_pos hold] at h
    split at h
    · cases h
    rename_i keys hkeys
    split_ifs at h with htoken
    cases h
    refine ⟨rfl, iff_of_false (by simp [htoken]) ?_⟩
    rintro ⟨rfl, hany⟩
    -- No token is smaller than 0.
    cases hgroup : ctx.security.groupKeys with
    | none => simp [hgroup] at hany
    | some keys => simp [hgroup] at hold
  · rw [if_neg hold] at h
    split_ifs at h with hnew
    cases h
    refine ⟨rfl, ?_⟩
    cases hgroup : ctx.security.groupKeys with
    | none => simp
    | some keys =>
      grind

theorem validSecurity_zero (h : ctx.security.groupKeys.any (·.tokenId ≠ 0) = true) :
    validSecurity sks 0 ctx = .ok ctx.security := by
  unfold validSecurity
  cases hgroup : ctx.security.groupKeys with
  | none => simp [hgroup] at h
  | some keys => simp

variable {pubId : ConfPublisherId} {groupId : UInt16} {s : Subscriber Obj}

theorem receivedSecurity_assertion_iff {targetConfig : TargetVariableConfig Obj}
    {connection : Connection} {ssigned encrypted : Bool} :
    (exec (receivedSecurity (subscriberCallbacks targetConfig sks connection) pubId groupId
        ssigned encrypted tokenId) s).1 = .error .assertion ↔
      ∃ ctx, s.findReaderCtx pubId groupId = .ok ctx ∧ tokenId = 0 ∧
        ctx.security.groupKeys.any (·.tokenId ≠ 0) = true ∧
        checkReceivedSecurityMode ctx.security.mode ssigned encrypted = true := by
  unfold receivedSecurity
  rw [exec_bind_of_ok (exec_step _ s)]
  have hget : (subscriberCallbacks targetConfig sks connection).getSecurity tokenId pubId groupId s =
      getSecurityInfos sks tokenId pubId groupId s := rfl
  rw [hget]
  generalize hs' : (getSecurityInfos sks tokenId pubId groupId s).2 = s'
  unfold getSecurityInfos
  rcases hfind : s.findReaderCtx pubId groupId with status | ctx
  · simp
  simp only [Except.ok.injEq, exists_eq_left']
  rcases hvalid : validSecurity sks tokenId ctx with status | security
  · refine iff_of_false (by simp) ?_
    rintro ⟨rfl, hkeys, -⟩
    rw [validSecurity_zero hkeys] at hvalid
    cases hvalid
  obtain ⟨hmode, htoken⟩ := validSecurity_eq_ok hvalid
  simp only [hmode]
  rcases hcheck : checkReceivedSecurityMode ctx.security.mode ssigned encrypted with _ | _
  · simp
  by_cases hany : security.groupKeys.any (·.tokenId ≠ tokenId) = true
  · rw [if_neg (by simp), if_pos hany]
    obtain ⟨hzero, hkeys⟩ := htoken.1 hany
    exact iff_of_true rfl ⟨hzero, hkeys, rfl⟩
  · rw [if_neg (by simp), if_neg hany]
    exact iff_of_false (by simp) fun h => hany (htoken.2 ⟨h.1, h.2.1⟩)

variable (cst : EncodingConstants) (objs : ObjectCodec Obj) (crypto : CryptoProvider)
  (targetConfig : TargetVariableConfig Obj) (sks : KeyService) (connection : Connection)

/-- The security header of a message that has one and that a group of the connection is for: the
    publisher and the group of its security context, whether it is signed and encrypted, and the
    token. -/
def securityHeaderOf (buffer : Buffer) : Option (ConfPublisherId × UInt16 × Bool × Bool × UInt32) :=
  match headersRead cst buffer with
  | .error _ => none
  | .ok ((header, groupId, groupVersion), afterHeaders) =>
    match getReaderGroup connection header.flagsConfig header.getPublisherId groupVersion groupId with
    | none => none
    | some group =>
      match payloadHeaderRead cst (subscriberCallbacks targetConfig sks connection) header group
        afterHeaders with
      | .error _ => none
      | .ok (_, afterWriters) =>
        if header.uadpVersion = 1 ∧ header.flagsConfig.securityFlag = true ∧
            header.flagsConfig.publisherIdFlag = true ∧ group.groupId ≠ 0 then
          match securityFlagsRead cst afterWriters with
          | .error _ => none
          | .ok (flags, _) =>
            some (convertPublisherId header.getPublisherId, group.groupId, flags)
        else none

/-- A message has the token 0 and the flags of a security context whose keys, which are there,
    have another token. -/
def asksForCurrentKeys (buffer : Buffer) (s : Subscriber Obj) : Bool :=
  match securityHeaderOf cst targetConfig sks connection buffer with
  | none => false
  | some (pubId, groupId, ssigned, encrypted, tokenId) =>
    match s.findReaderCtx pubId groupId with
    | .error _ => false
    | .ok ctx =>
      tokenId = 0 && ctx.security.groupKeys.any (·.tokenId ≠ 0) &&
        checkReceivedSecurityMode ctx.security.mode ssigned encrypted

variable {buffer : Buffer}

theorem securityHeaderOf_eq_some {flags : Bool × Bool × UInt32} :
    securityHeaderOf cst targetConfig sks connection buffer = some (pubId, groupId, flags) ↔
      ∃ header receivedId groupVersion afterHeaders group writers afterWriters rest,
        headersRead cst buffer = .ok ((header, receivedId, groupVersion), afterHeaders) ∧
        getReaderGroup connection header.flagsConfig header.getPublisherId groupVersion receivedId =
          some group ∧
        payloadHeaderRead cst (subscriberCallbacks targetConfig sks connection) header group
          afterHeaders = .ok (writers, afterWriters) ∧
        (header.uadpVersion = 1 ∧ header.flagsConfig.securityFlag = true ∧
          header.flagsConfig.publisherIdFlag = true ∧ group.groupId ≠ 0) ∧
        securityFlagsRead cst afterWriters = .ok (flags, rest) ∧
        convertPublisherId header.getPublisherId = pubId ∧ group.groupId = groupId := by
  constructor
  · intro h
    unfold securityHeaderOf at h
    split at h
    · cases h
    rename_i header receivedId groupVersion afterHeaders hheaders
    split at h
    · cases h
    rename_i group hgroup
    split at h
    · cases h
    rename_i writers afterWriters hwriters
    split_ifs at h with hreach
    split at h
    · cases h
    rename_i flags' rest hflags
    obtain ⟨hpub, hid, rfl⟩ : convertPublisherId header.getPublisherId = pubId ∧
      group.groupId = groupId ∧ flags' = flags := by simpa using h
    exact ⟨header, receivedId, groupVersion, afterHeaders, group, writers, afterWriters, rest,
      hheaders, hgroup, hwriters, hreach, hflags, hpub, hid⟩
  · rintro ⟨header, receivedId, groupVersion, afterHeaders, group, writers, afterWriters, rest,
      hheaders, hgroup, hwriters, hreach, hflags, rfl, rfl⟩
    simp only [securityHeaderOf, hheaders, hgroup, hwriters, if_pos hreach, hflags]

theorem asksForCurrentKeys_iff :
    asksForCurrentKeys cst targetConfig sks connection buffer s = true ↔
      ∃ pubId groupId flags ctx,
        securityHeaderOf cst targetConfig sks connection buffer = some (pubId, groupId, flags) ∧
        s.findReaderCtx pubId groupId = .ok ctx ∧ flags.2.2 = 0 ∧
        ctx.security.groupKeys.any (·.tokenId ≠ 0) = true ∧
        checkReceivedSecurityMode ctx.security.mode flags.1 flags.2.1 = true := by
  unfold asksForCurrentKeys
  constructor
  · intro h
    split at h
    · cases h
    rename_i pubId groupId ssigned encrypted tokenId hheader
    split at h
    · cases h
    rename_i ctx hctx
    simp only [Bool.and_eq_true, decide_eq_true_eq] at h
    exact ⟨pubId, groupId, (ssigned, encrypted, tokenId), ctx, hheader, hctx, h.1.1, h.1.2, h.2⟩
  · rintro ⟨pubId, groupId, flags, ctx, hheader, hctx, htoken, hkeys, hmode⟩
    rw [hheader]
    show (match s.findReaderCtx pubId groupId with
      | .error _ => false
      | .ok ctx => _) = true
    rw [hctx]
    simp only [Bool.and_eq_true, decide_eq_true_eq]
    exact ⟨⟨htoken, hkeys⟩, hmode⟩

/-- The decoder of the subscriber fails an assertion exactly if the message asks for current
    keys. -/
theorem readUadp_assertion_iff (buffer : Buffer) (s : Subscriber Obj) :
    (exec (readUadp cst objs crypto targetConfig sks connection buffer) s).1 =
        .error .assertion ↔
      asksForCurrentKeys cst targetConfig sks connection buffer s = true := by
  have hset := survivingCallback_subscriber targetConfig sks connection
  unfold readUadp
  simp only [networkMessageDecode_assertion_iff, decodeMessageV1_assertion_iff cst objs crypto hset,
    decodeSecurity_assertion_iff, decodeSecurityHeader_assertion_iff, receivedSecurity_assertion_iff,
    asksForCurrentKeys_iff, securityHeaderOf_eq_some]
  constructor
  · rintro ⟨header, receivedId, groupVersion, afterHeaders, group, hheaders, hgroup, hversion,
      writers, afterWriters, hwriters, hsecurity, hid, hpub, flags, rest, hflags, ctx, hctx⟩
    exact ⟨_, _, flags, ctx, ⟨header, receivedId, groupVersion, afterHeaders, group, writers,
      afterWriters, rest, hheaders, hgroup, hwriters, ⟨hversion, hsecurity, hpub, hid⟩, hflags, rfl,
      rfl⟩, hctx⟩
  · rintro ⟨_, _, flags, ctx, ⟨header, receivedId, groupVersion, afterHeaders, group, writers,
      afterWriters, rest, hheaders, hgroup, hwriters, ⟨hversion, hsecurity, hpub, hid⟩, hflags, rfl,
      rfl⟩, hctx⟩
    exact ⟨header, receivedId, groupVersion, afterHeaders, group, hheaders, hgroup, hversion,
      writers, afterWriters, hwriters, hsecurity, hid, hpub, flags, rest, hflags, ctx, hctx⟩

/-- A received message fails an assertion exactly if the subscriber is operational and the message
    asks for current keys. -/
theorem onMessageReceived_survives_iff (buffer : Buffer) (s : Subscriber Obj) :
    (onMessageReceived cst objs crypto targetConfig sks connection buffer s).1 ≠ .assertionFailed ↔
      ¬ (s.state = .operational ∧
        asksForCurrentKeys cst targetConfig sks connection buffer s = true) := by
  rw [← readUadp_assertion_iff cst objs crypto, not_iff_not]
  unfold onMessageReceived
  split_ifs with hstate
  · obtain ⟨r, s'⟩ := exec (readUadp cst objs crypto targetConfig sks connection buffer) s
    split
    all_goals simp_all
  · simp [hstate]

end

/-- A message with the token 5, and the same with the token 0: the first one makes the subscriber
    load the keys 5, and the second one fails the assertion.  Neither is signed. -/
theorem onMessageReceived_token_zero :
    (onMessageReceived smallConstants (opaqueObjects fun _ _ => false) checksumCrypto none sampleKeys
      (sampleConnection .sign (some "group"))
      (Buffer.attach [0xF1, 0x10, 1, 0x01, 1, 0, 1, 1, 0, 0x01, 0, 0, 0, 0] (by decide))
      (onMessageReceived smallConstants (opaqueObjects fun _ _ => false) checksumCrypto none sampleKeys
        (sampleConnection .sign (some "group"))
        (Buffer.attach [0xF1, 0x10, 1, 0x01, 1, 0, 1, 1, 0, 0x01, 5, 0, 0, 0] (by decide))
        (start _ [sampleConnection .sign (some "group")])).2).1 = .assertionFailed := by
  decide +kernel

end S2opc.PubSub
