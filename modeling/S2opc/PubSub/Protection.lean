/-
What protects the messages that leave the publisher.

A message is signed when it ends with the signature of all that is before, under
the keys of its security context, and encrypted when its payload is the cipher of
the encoded data set messages.  The mode of the context decides, and this is the
mode of the first writer group with the same security group: a writer group that
asks for encryption after one that asks for signatures only sends its payload in
clear.  A message of a fixed size has its signature where it ended when it was
encoded last: it is signed as a whole as long as no longer value follows.
-/
import S2opc.PubSub.Publisher

namespace S2opc.PubSub

open BuiltinTypes Lib.Bytes Lib.ByteCodec Encoder List Option

variable {Obj : Type} (cst : EncodingConstants) (objs : ObjectCodec Obj) (crypto : CryptoProvider)

/-! ## Protected messages -/

variable (sent : Sent Obj)

/-- The message ends with the signature of what is before. -/
def Sent.Signed : Prop :=
  ∃ security keys body signature, sent.security = some security ∧ security.groupKeys = some keys ∧
    crypto.symmetricSign keys.signingKey body = some signature ∧ sent.bytes = body ++ signature.val

/-- The cipher of the payload stands before the signature, unless there is no payload. -/
def Sent.Encrypted : Prop :=
  ∃ security keys payload, sent.security = some security ∧ security.groupKeys = some keys ∧
    payloadBufferWrite cst objs (sent.message.sentMessages sent.now)
      (Buffer.empty pubSubBufferSize) = .ok ((), payload) ∧
    (payload.data ≠ [] → ∃ random header cipher signature, security.msgNonceRandom = some random ∧
      crypto.pubSubCrypt keys.encryptKey keys.keyNonce random security.sequenceNumber payload.data =
        some cipher ∧ signature.length = crypto.signatureSize ∧
      sent.bytes = header ++ cipher.val ++ signature)

/-- The message has the protection that its writer group asks for. -/
def Sent.Protected : Prop :=
  (sent.group.securityMode = .sign → sent.Signed crypto) ∧
    (sent.group.securityMode = .signAndEncrypt →
      sent.Signed crypto ∧ sent.Encrypted cst objs crypto)

section
variable {cst objs crypto} {security : Security}

theorem withKeys_some {keyed : Option (Security × GroupKeys)}
    (h : withKeys (some security) = .ok keyed) :
    ∃ keys, security.groupKeys = some keys ∧ keyed = some (security, keys) := by
  unfold withKeys at h
  rcases hkeys : security.groupKeys with _ | keys
  · simp only [hkeys] at h; cases h
  simp only [hkeys] at h
  exact ⟨keys, rfl, (Except.ok.inj h).symm⟩

/-- The payload that is sent with a security that encrypts. -/
theorem sentPayload_encrypted {keys : GroupKeys} {payload sent : List UInt8}
    (hkeys : security.groupKeys = some keys) (hmode : security.encryptedEnabled = true)
    (hpayload : payload ≠ []) (h : sentPayload crypto (some (security, keys)) payload = .ok sent) :
    ∃ random cipher, security.msgNonceRandom = some random ∧
      crypto.pubSubCrypt keys.encryptKey keys.keyNonce random security.sequenceNumber payload =
        some cipher ∧ sent = cipher.val := by
  simp only [sentPayload, hmode, hpayload, ne_eq, not_false_eq_true, and_self, if_true] at h
  unfold securityEncrypt at h
  rw [hkeys] at h
  rcases hrandom : security.msgNonceRandom with _ | random
  · simp only [hrandom] at h; cases h
  simp only [hrandom, if_neg hpayload] at h
  cases hcipher : crypto.pubSubCrypt keys.encryptKey keys.keyNonce random security.sequenceNumber
      payload with
  | none => simp only [hcipher] at h; cases h
  | some cipher =>
    simp only [hcipher] at h
    exact ⟨random, cipher, rfl, hcipher, (Except.ok.inj h).symm⟩

variable {message : NetworkMessage Obj}

/-- A message encoded with a security is protected as the mode of the security says. -/
theorem encodeMessage_protected {now : Nat → UInt64} {bytes : List UInt8} (group : WriterGroup)
    (hsigned : security.signedEnabled = true)
    (h : encodeMessage cst objs crypto message (some security) now = .ok (some bytes)) :
    (Sent.mk group message (some security) now bytes).Signed crypto ∧
      (security.encryptedEnabled = true →
        (Sent.mk group message (some security) now bytes).Encrypted cst objs crypto) := by
  unfold encodeMessage at h
  split at h
  case h_2 => cases h
  case h_3 => cases h
  rename_i buffer hencode
  obtain rfl := Option.some.inj (Except.ok.inj h)
  obtain ⟨⟨header, payload⟩, hbuffers, hbuild⟩ := except_bind_eq_ok hencode
  obtain ⟨_, -, hbuffers⟩ := except_bind_eq_ok hbuffers
  obtain ⟨⟨_, header'⟩, -, hbuffers⟩ := except_bind_eq_ok hbuffers
  obtain ⟨⟨_, payload'⟩, hpayload, hbuffers⟩ := except_bind_eq_ok hbuffers
  obtain ⟨rfl, rfl⟩ := Prod.mk.inj (Except.ok.inj hbuffers)
  obtain ⟨keyed, sent, flushed, signed, hkeyed, hsent, hflushed, hsign, hdata⟩ :=
    buildFinalMessage_ok hbuild
  obtain ⟨keys, hkeys, rfl⟩ := withKeys_some hkeyed
  obtain ⟨hflush, hpos⟩ := flushPayload_data hflushed
  rw [signatureWrite, writeIf, if_pos hsigned] at hsign
  obtain ⟨signature, hsignature, hfinal⟩ :=
    securitySign_data (by rw [hpos]; exact Nat.le_add_right _ _) hsign
  rw [hpos, take_length] at hsignature hfinal
  refine ⟨⟨security, keys, flushed.data, signature, rfl, hkeys, hsignature, ?_⟩, ?_⟩
  · show buffer.data = _
    rw [hdata, hfinal]
  · intro hencrypted
    refine ⟨security, keys, payload', rfl, hkeys, hpayload, fun hne => ?_⟩
    obtain ⟨random, cipher, hrandom, hcipher, hcipherSent⟩ :=
      sentPayload_encrypted hkeys hencrypted hne hsent
    refine ⟨random, header'.data, cipher, signature.val, hrandom, hcipher, signature.property, ?_⟩
    rw [hdata, hfinal, hflush, hcipherSent]

/-! ## The values of a message of a fixed size -/

theorem checkField_fieldValue {field : FieldMetaData} {value value' : Variant Obj} {status : UInt32}
    (hmatrix : value.arrayType ≠ .matrix)
    (h : checkField true field value status = .ok (value', true)) : FieldValue value' field := by
  unfold checkField at h
  rw [if_pos rfl] at h
  change (if isPreencodeCompatibleVariant field value = true ∧ status &&& 0x80000000 ≠ 0 then _
    else _) = _ at h
  by_cases hbad : isPreencodeCompatibleVariant field value = true ∧ status &&& 0x80000000 ≠ 0
  · rw [if_pos hbad] at h
    cases h
    by_cases hstatus : value.builtInTypeId = .statusCode
    · rw [if_pos hstatus]
      exact Or.inl ⟨hbad.1, hmatrix⟩
    · rw [if_neg hstatus]
      exact Or.inr ⟨status, rfl⟩
  · rw [if_neg hbad] at h
    obtain ⟨rfl, hok⟩ := Prod.mk.inj (Except.ok.inj h)
    exact Or.inl ⟨(Bool.and_eq_true_iff.1 hok).1, hmatrix⟩

variable {source : Nat → Variant Obj × UInt32} {i : Nat} {fields : List FieldMetaData}
  {values values' : List (Variant Obj)}

theorem checkFields_ok {isPreencoded ok : Bool}
    (h : checkFields isPreencoded source i fields values ok = .ok (values', true)) : ok = true := by
  cases ok with
  | true => rfl
  | false =>
    unfold checkFields at h
    cases (Prod.mk.inj (Except.ok.inj h)).2

/-- When all checks succeed, the values are those of a message of a fixed size. -/
theorem checkFields_fieldValue (hmatrix : ∀ j, (source j).1.arrayType ≠ .matrix)
    (h : checkFields true source i fields values true = .ok (values', true)) :
    Forall₂ FieldValue values' fields := by
  induction fields generalizing i values values' with
  | nil =>
    cases h
    exact .nil
  | cons field fields ih =>
    obtain ⟨⟨value, ok⟩, hvalue, h⟩ := except_bind_eq_ok h
    obtain ⟨⟨rest, ok'⟩, hrest, h⟩ := except_bind_eq_ok h
    cases h
    have hok : ok = true := checkFields_ok hrest
    subst hok
    exact .cons (checkField_fieldValue (hmatrix i) hvalue) (ih hrest)

theorem toList_ofList (h : values.length < 2 ^ 16) :
    (DataSetFields.ofList values).toList = values := by
  have hlength : (UInt16.ofNat values.length).toNat = values.length := by
    rw [UInt16.toNat_ofNat']
    exact Nat.mod_eq_of_lt h
  apply ext_getElem
  · rw [DataSetFields.toList, length_ofFn]
    exact hlength
  · intro i hi hi'
    simp only [DataSetFields.toList, List.getElem_ofFn]
    show values.getD i .null = values[i]
    rw [getD_eq_getElem?_getD, getElem?_eq_getElem hi', getD_some]

/-- The values of an enabled message are those of a message of a fixed size. -/
def FixedValues (writer : DataSetWriter) (dsm : DataSetMessage Obj) : Prop :=
  dsm.enableEmission = true → List.Forall₂ FieldValue dsm.fields.toList writer.fieldMetaData

variable {inputs : Inputs Obj} {st st' : Publication Obj}
  {rest : List (DataSetWriter × DataSetMessage Obj × DataSetMessageCtx)}

/-- The loop on the data set messages keeps which of them are enabled, and as long as none
    changes, it does not build the buffer again.  Without a buffer there is none to build. -/
theorem publishLoop_ok {security : Option Security}
    (h : publishLoop cst objs crypto security inputs message st rest = .ok st')
    (haligned : st.preencode.isSome = true →
      ∀ t ∈ rest, t.2.2.enableEmission = t.2.1.enableEmission) :
    ∃ done, st'.done = st.done ++ done ∧ st'.preencode = st.preencode ∧
      (st'.typeChecking = true → st.typeChecking = true) ∧
      (st.preencode.isSome = true →
        done.map (·.1.enableEmission) = rest.map (·.2.1.enableEmission) ∧
        done.map (·.2.enableEmission) = rest.map (·.2.2.enableEmission) ∧
        (st'.typeChecking = true →
          (∀ dsm field, (inputs.source dsm field).1.arrayType ≠ .matrix) →
          Forall₂ FixedValues (rest.map (·.1)) (done.map (·.1)))) := by
  induction rest generalizing st with
  | nil =>
    cases h
    exact ⟨[], (append_nil _).symm, rfl, id, fun _ => ⟨rfl, rfl, fun _ _ => .nil⟩⟩
  | cons t rest ih =>
    obtain ⟨writer, dsm, ctx⟩ := t
    have hsame (hsome : st.preencode.isSome = true) : ctx.enableEmission = dsm.enableEmission :=
      haligned hsome _ mem_cons_self
    have hrest := fun hsome t ht => haligned hsome t (mem_cons_of_mem _ ht)
    rw [publishLoop] at h
    obtain ⟨preencode, hpreencode, h⟩ := except_bind_eq_ok h
    obtain rfl : st.preencode = preencode := by
      unfold rebuildPreencode at hpreencode
      rcases hst : st.preencode with _ | old
      · rw [hst] at hpreencode; exact Except.ok.inj hpreencode
      rw [hst] at hpreencode hsame
      simp only [ne_eq, hsame rfl, not_true_eq_false, decide_false, Bool.false_eq_true, if_false]
        at hpreencode
      exact Except.ok.inj hpreencode
    split_ifs at h with henabled
    · obtain ⟨⟨values, ok⟩, hvalues, h⟩ := except_bind_eq_ok h
      obtain ⟨done, hdone, hpre, htyped, hchecks⟩ := ih h hrest
      refine ⟨_ :: done, hdone.trans (append_assoc _ _ _), hpre, fun hok => ?_, fun hsome => ?_⟩
      · obtain rfl := htyped hok
        exact checkFields_ok hvalues
      · obtain ⟨hdsms, hctxs, hfixed⟩ := hchecks hsome
        refine ⟨congrArg₂ List.cons (hsame hsome) hdsms, congrArg₂ List.cons rfl hctxs,
          fun hok hmatrix => .cons (fun _ => ?_) (hfixed hok hmatrix)⟩
        obtain rfl := htyped hok
        rw [hsome, checkFields_ok hvalues] at hvalues
        have hfields := checkFields_fieldValue (hmatrix _) hvalues
        rw [toList_ofList (by rw [hfields.length_eq]; exact writer.length_le)]
        exact hfields
    · obtain ⟨done, hdone, hpre, htyped, hchecks⟩ := ih h hrest
      refine ⟨_ :: done, hdone.trans (append_assoc _ _ _), hpre, htyped, fun hsome => ?_⟩
      obtain ⟨hdsms, hctxs, hfixed⟩ := hchecks hsome
      exact ⟨congrArg₂ List.cons (hsame hsome) hdsms, congrArg₂ List.cons rfl hctxs,
        fun hok hmatrix => .cons (fun h => absurd h henabled) (hfixed hok hmatrix)⟩

end

/-! ## The invariant of a context -/

/-- The fields of the enabled writers. -/
def enabledFields (writers : List DataSetWriter) (enabled : List Bool) : List (List FieldMetaData) :=
  ((writers.zip enabled).filter (·.2)).map (·.1.fieldMetaData)

/-- The messages of a group have a fixed size and are signed. -/
def WriterGroup.fixedSigned (group : WriterGroup) : Bool :=
  group.useFixedSizeBuffer && group.securityMode = .sign

/-- The preencoded buffer is the one of the enabled messages, and no longer than with its
    signature. -/
structure MessageCtx.Fixed (ctx : MessageCtx Obj) (preencode : PreencodeBuffer) : Prop where
  length : ctx.message.dataSetMessages.length = ctx.group.dataSetWriters.length
  aligned : ctx.dataSetMessageCtx.map (·.enableEmission) =
    ctx.message.dataSetMessages.map (·.enableEmission)
  fits : ∃ stop, preencode.Fits cst objs (enabledFields ctx.group.dataSetWriters
      (ctx.message.dataSetMessages.map (·.enableEmission))) stop ∧
    preencode.signPosition = some stop ∧
    preencode.buffer.data.length ≤ stop + crypto.signatureSize

/-- A secured group has a context with a mode that protects its messages, and a preencoded buffer
    only for signed messages. -/
structure MessageCtx.Inv (modes : String → Option SecurityMode) (ctx : MessageCtx Obj) : Prop where
  mode : ctx.group.secured = true → ∃ id mode, ctx.securityGroupId = some id ∧
    modes id = some mode ∧ (mode = .sign ∨ mode = .signAndEncrypt) ∧
    (ctx.group.securityMode = .signAndEncrypt → mode = .signAndEncrypt)
  fixed : ctx.group.secured = true → ∀ preencode ∈ ctx.preencode,
    ctx.group.fixedSigned = true ∧ ctx.Fixed cst objs crypto preencode

section
variable {cst objs crypto}

theorem enabledFields_forall₂ {writers : List DataSetWriter} {dsms : List (DataSetMessage Obj)}
    {R : DataSetMessage Obj → List FieldMetaData → Prop}
    (h : Forall₂ (fun writer dsm => dsm.enableEmission = true → R dsm writer.fieldMetaData)
      writers dsms) :
    Forall₂ R (dsms.filter (·.enableEmission))
      (enabledFields writers (dsms.map (·.enableEmission))) := by
  induction h with
  | nil => exact .nil
  | @cons writer dsm writers dsms hfirst _ ih =>
    unfold enabledFields at *
    rw [map_cons, zip_cons_cons]
    by_cases henabled : dsm.enableEmission = true
    · simp only [filter_cons, henabled, if_true, map_cons]
      exact .cons (hfirst henabled) ih
    · simp only [filter_cons, henabled]
      exact ih

variable {json : NetworkMessage Obj → Option (List UInt8)} {ctx : MessageCtx Obj}

/-- The bytes of the message of a group are protected. -/
theorem encodePublish_protected {security : Security} {now : Nat → UInt64}
    {result : Option PreencodeBuffer} {encoded : Option (List UInt8)}
    (hsize : 4 ≤ crypto.signatureSize) (hsigned : security.signedEnabled = true)
    (hmode : ctx.group.securityMode = .signAndEncrypt → security.encryptedEnabled = true)
    (hfixed : ∀ preencode ∈ ctx.preencode, ctx.group.fixedSigned = true ∧
      ctx.Fixed cst objs crypto preencode)
    (hvalues : ctx.preencode.isSome = true →
      Forall₂ FixedValues ctx.group.dataSetWriters ctx.message.dataSetMessages)
    (h : encodePublish cst objs crypto json ctx (some security) now = .ok (result, encoded)) :
    (∀ preencode ∈ result,
        ctx.group.fixedSigned = true ∧ ctx.Fixed cst objs crypto preencode) ∧
      ∀ bytes ∈ encoded, (Sent.mk ctx.group ctx.message (some security) now bytes).Protected
        cst objs crypto := by
  unfold encodePublish at h
  by_cases hjson : ctx.group.encoding = .json
  · rw [if_pos hjson] at h
    cases h
    exact ⟨hfixed, fun _ hb => by cases hb⟩
  rw [if_neg hjson] at h
  rcases hpre : ctx.preencode with _ | old
  · simp only [hpre] at h
    obtain ⟨encoded, hencoded, h⟩ := except_bind_eq_ok h
    cases h
    refine ⟨fun _ hp => (by cases hp), fun bytes hbytes => ?_⟩
    obtain rfl := mem_def.1 hbytes
    obtain ⟨hs, he⟩ := encodeMessage_protected ctx.group hsigned hencoded
    exact ⟨fun _ => hs, fun hm => ⟨hs, he (hmode hm)⟩⟩
  simp only [hpre] at h
  rw [hpre] at hvalues
  obtain ⟨hgroup, hlength, haligned, stop, hfits, hsign, hle⟩ := hfixed old hpre
  generalize hupdate : getUpdatedBuffer cst objs crypto old ctx.message (some security) now =
    updated at h
  obtain ⟨new, sent⟩ := updated
  cases h
  obtain ⟨hle', hsent⟩ := updatedBuffer_signed hsize hfits hsign hle
    (enabledFields_forall₂ (hvalues rfl)) hupdate
  have hsame : new.security = old.security ∧ new.payloadStart = old.payloadStart ∧
      new.dsms = old.dsms ∧ new.signPosition = old.signPosition := by
    cases hupdate
    exact ⟨rfl, rfl, rfl, rfl⟩
  constructor
  · intro preencode hp
    obtain rfl := mem_some_iff.1 hp
    refine ⟨hgroup, hlength, haligned, stop, ⟨?_, ?_⟩, hsame.2.2.2.trans hsign, hle'⟩
    · rw [hsame.1]
      exact hfits.security
    · rw [hsame.2.1, hsame.2.2.1]
      exact hfits.dsms
  · intro bytes hbytes
    rcases sent with _ | _
    · cases hbytes
    obtain rfl := mem_some_iff.1 hbytes
    obtain ⟨keys, body, signature, hkeys, hsignature, hdata⟩ := hsent rfl
    refine ⟨fun _ => ⟨security, keys, body, signature, rfl, hkeys, hsignature, hdata⟩, ?_⟩
    intro hm
    -- A group with encrypted messages has no fixed size
    have hsignMode := of_decide_eq_true (Bool.and_eq_true_iff.1 hgroup).2
    rw [show ctx.group.securityMode = _ from hm] at hsignMode
    cases hsignMode

/-! ## The sends keep the invariant -/

theorem map_fst_zip_zip {α β γ : Type} {as : List α} {bs : List β} {cs : List γ}
    (hbs : bs.length = as.length) (hcs : cs.length = bs.length) :
    (as.zip (bs.zip cs)).map (·.1) = as ∧ (as.zip (bs.zip cs)).map (·.2.1) = bs ∧
      (as.zip (bs.zip cs)).map (·.2.2) = cs := by
  have hzip : (bs.zip cs).length = as.length := by
    rw [length_zip]
    omega
  have hfst := map_fst_zip (le_of_eq hzip.symm)
  have hsnd := map_snd_zip (le_of_eq hzip)
  refine ⟨hfst, ?_, ?_⟩
  · rw [show (fun t : α × β × γ => t.2.1) = Prod.fst ∘ Prod.snd from rfl, ← List.map_map, hsnd]
    exact map_fst_zip (le_of_eq hcs.symm)
  · rw [show (fun t : α × β × γ => t.2.2) = Prod.snd ∘ Prod.snd from rfl, ← List.map_map, hsnd]
    exact map_snd_zip (le_of_eq hcs)

variable {security : Option Security} {inputs : Inputs Obj} {st : Publication Obj}

/-- The loop keeps the preencoded buffer with its messages, and gives them their values. -/
theorem published_fixed {preencode : PreencodeBuffer} (hfixed : ctx.Fixed cst objs crypto preencode)
    (hpre : ctx.preencode = some preencode)
    (hmatrix : ∀ dsm field, (inputs.source dsm field).1.arrayType ≠ .matrix)
    (h : publishLoop cst objs crypto security inputs ctx.message ⟨[], ctx.preencode, true⟩
      (ctx.group.dataSetWriters.zip (ctx.message.dataSetMessages.zip ctx.dataSetMessageCtx)) =
      .ok st) :
    (ctx.published st).preencode = some preencode ∧
      (ctx.published st).Fixed cst objs crypto preencode ∧
      (st.typeChecking = true → Forall₂ FixedValues ctx.group.dataSetWriters
        (ctx.published st).message.dataSetMessages) := by
  obtain ⟨hlength, haligned, stop, hfits, hsign, hle⟩ := hfixed
  have hctxs : ctx.dataSetMessageCtx.length = ctx.message.dataSetMessages.length := by
    have h := congrArg List.length haligned
    rwa [length_map, length_map] at h
  obtain ⟨hwriters, hdsms, hctxs'⟩ := map_fst_zip_zip hlength hctxs
  have hdsmFlags := congrArg (List.map (·.enableEmission)) hdsms
  have hctxFlags := congrArg (List.map (·.enableEmission)) hctxs'
  rw [List.map_map] at hdsmFlags hctxFlags
  -- The contexts and the messages agree on what is enabled
  have hagree := map_inj_left.1 (hctxFlags.trans (haligned.trans hdsmFlags.symm))
  obtain ⟨done, hdone, hpreencode, -, hchecks⟩ := publishLoop_ok h fun _ => hagree
  obtain ⟨hflags, hflags', hchecks⟩ := hchecks (by rw [hpre]; rfl)
  rw [nil_append] at hdone
  have henabled : (done.map (·.1)).map (·.enableEmission) =
      ctx.message.dataSetMessages.map (·.enableEmission) := by
    rw [List.map_map]
    exact hflags.trans hdsmFlags
  have henabled' : (done.map (·.2)).map (·.enableEmission) =
      ctx.dataSetMessageCtx.map (·.enableEmission) := by
    rw [List.map_map]
    exact hflags'.trans hctxFlags
  refine ⟨hpreencode.trans hpre, ⟨?_, ?_, stop, ?_, hsign, hle⟩, fun hok => ?_⟩
  · show (st.done.map (·.1)).length = ctx.group.dataSetWriters.length
    have h := congrArg List.length henabled
    rw [length_map, length_map, length_map, hlength] at h
    rw [hdone, length_map, h]
  · show (st.done.map (·.2)).map _ = (st.done.map (·.1)).map _
    rw [hdone, henabled, henabled', haligned]
  · show preencode.Fits cst objs (enabledFields ctx.group.dataSetWriters
      ((st.done.map (·.1)).map (·.enableEmission))) stop
    rw [hdone, henabled]
    exact hfits
  · have hvalues := hchecks hok hmatrix
    rw [hwriters] at hvalues
    show Forall₂ FixedValues ctx.group.dataSetWriters (st.done.map (·.1))
    rw [hdone]
    exact hvalues

theorem protected_of_not_secured {sent : Sent Obj} (h : ¬ sent.group.secured = true) :
    sent.Protected cst objs crypto := by
  unfold WriterGroup.secured at h
  constructor
  all_goals
    intro hmode
    rw [hmode] at h
    exact absurd rfl h

variable {securityGroups securityGroups' : List SecurityGroup}

/-- The security that a secured group is sent with, when its status is OK. -/
theorem updateSecurity_secured (hinv : ctx.Inv cst objs crypto (modeOf securityGroups))
    (hsecured : ctx.group.secured = true)
    (h : updateSecurity inputs ctx.securityGroupId securityGroups =
      (securityGroups', security, true)) :
    ∃ s, security = some s ∧ s.signedEnabled = true ∧
      (ctx.group.securityMode = .signAndEncrypt → s.encryptedEnabled = true) := by
  obtain ⟨id, mode, hid, hmode, hsigned, hencrypted⟩ := hinv.mode hsecured
  rw [hid] at h
  obtain ⟨hsame, -, hsome⟩ := updateSecurity_some h
  obtain ⟨s, rfl⟩ := isSome_iff_exists.1 (hsome rfl)
  rw [hmode] at hsame
  obtain rfl : s.mode = mode := Option.some.inj hsame
  refine ⟨s, rfl, ?_, fun h => ?_⟩
  · unfold Security.signedEnabled
    rcases hsigned with hs | hs
    · rw [hs]
      rfl
    · rw [hs]
      rfl
  · unfold Security.encryptedEnabled
    rw [hencrypted h]
    rfl

/-- The security contexts keep their modes over a send. -/
theorem sent_modeOf {securityGroupId : Option String} {ok : Bool}
    (h : updateSecurity inputs securityGroupId securityGroups = (securityGroups', security, ok)) :
    modeOf securityGroups' = modeOf securityGroups ∧
      modeOf (clearNonce securityGroupId security securityGroups') = modeOf securityGroups := by
  have hupdate := updateSecurity_modeOf inputs securityGroupId securityGroups
  rw [h] at hupdate
  refine ⟨hupdate, (clearNonce_modeOf fun id hid hsome => ?_).trans hupdate⟩
  rw [mem_def.1 hid] at h
  exact (updateSecurity_some h).2.1 hsome

variable (cst objs crypto) in
/-- The context of a group after a message keeps the invariant, and so do the security contexts;
    what is sent is protected. -/
structure SendingOk (securityGroups : List SecurityGroup) (ctx : MessageCtx Obj)
    (sending : Sending Obj) : Prop where
  group : sending.1.group = ctx.group
  inv : sending.1.Inv cst objs crypto (modeOf securityGroups)
  modes : modeOf sending.2.1 = modeOf securityGroups
  sent : ∀ sent ∈ sending.2.2, sent.Protected cst objs crypto

/-- The loop on the messages of a group keeps the invariant of its context. -/
theorem published_inv {modes : String → Option SecurityMode} (hinv : ctx.Inv cst objs crypto modes)
    (hcalm : ctx.group.fixedSigned = true → ∀ dsm field,
      (inputs.source dsm field).1.arrayType ≠ .matrix)
    (h : publishLoop cst objs crypto security inputs ctx.message ⟨[], ctx.preencode, true⟩
      (ctx.group.dataSetWriters.zip (ctx.message.dataSetMessages.zip ctx.dataSetMessageCtx)) =
      .ok st) :
    (ctx.published st).Inv cst objs crypto modes ∧
      (ctx.group.secured = true → st.typeChecking = true →
        (ctx.published st).preencode.isSome = true →
        Forall₂ FixedValues ctx.group.dataSetWriters
          (ctx.published st).message.dataSetMessages) := by
  rcases hpre : ctx.preencode with _ | preencode
  · rw [hpre] at h
    obtain ⟨-, -, hnone, -⟩ := publishLoop_ok h fun hsome => by cases hsome
    change (ctx.published st).preencode = none at hnone
    refine ⟨⟨hinv.mode, fun _ preencode hp => ?_⟩, fun _ _ hsome => ?_⟩
    · rw [hnone] at hp
      cases hp
    · rw [hnone] at hsome
      cases hsome
  refine ⟨⟨hinv.mode, fun hsecured new hnew => ?_⟩, fun hsecured hok _ => ?_⟩
  · obtain ⟨hgroup, hfixed⟩ := hinv.fixed hsecured preencode hpre
    obtain ⟨hsame, hfixed', -⟩ := published_fixed hfixed hpre (hcalm hgroup) h
    rw [hsame] at hnew
    obtain rfl := mem_some_iff.1 hnew
    exact ⟨hgroup, hfixed'⟩
  · obtain ⟨hgroup, hfixed⟩ := hinv.fixed hsecured preencode hpre
    exact (published_fixed hfixed hpre (hcalm hgroup) h).2.2 hok

variable {sending : Sending Obj}

theorem sendPublishMessage_ok (hsize : 4 ≤ crypto.signatureSize)
    (hinv : ctx.Inv cst objs crypto (modeOf securityGroups))
    (hcalm : ctx.group.fixedSigned = true → ∀ dsm field,
      (inputs.source dsm field).1.arrayType ≠ .matrix)
    (h : sendPublishMessage cst objs crypto json inputs securityGroups ctx = .ok sending) :
    SendingOk cst objs crypto securityGroups ctx sending := by
  obtain ⟨st, hloop, h⟩ := except_bind_eq_ok h
  obtain ⟨hpublished, hvalues⟩ := published_inv hinv hcalm hloop
  by_cases hchecks : st.typeChecking = true
  swap
  · rw [if_neg hchecks] at h
    cases h
    exact ⟨rfl, hpublished, rfl, fun _ hsent => by cases hsent⟩
  rw [if_pos hchecks, sendPublished] at h
  generalize hupdate : updateSecurity inputs (ctx.published st).securityGroupId securityGroups =
    updated at h
  obtain ⟨securityGroups', security, ok⟩ := updated
  obtain ⟨hmodes, hmodes'⟩ := sent_modeOf hupdate
  rcases ok with _ | _
  · cases h
    exact ⟨rfl, hpublished, hmodes, fun _ hsent => by cases hsent⟩
  obtain ⟨⟨preencode, bytes⟩, hencode, h⟩ := except_bind_eq_ok h
  cases h
  by_cases hsecured : ctx.group.secured = true
  · obtain ⟨s, rfl, hsigned, hencrypted⟩ := updateSecurity_secured hpublished hsecured hupdate
    obtain ⟨hfixed, hbytes⟩ := encodePublish_protected hsize hsigned hencrypted
      (hpublished.fixed hsecured) (hvalues hsecured hchecks) hencode
    refine ⟨rfl, ⟨hinv.mode, fun _ new hnew => ?_⟩, hmodes', fun sent hsent => ?_⟩
    · obtain ⟨hgroup, hlength, haligned, hfits⟩ := hfixed new hnew
      exact ⟨hgroup, hlength, haligned, hfits⟩
    · obtain ⟨bytes', hb, rfl⟩ := map_eq_some_iff.1 hsent
      exact hbytes bytes' hb
  · refine ⟨rfl, ⟨fun h => absurd h hsecured, fun h => absurd h hsecured⟩, hmodes',
      fun sent hsent => ?_⟩
    obtain ⟨bytes', -, rfl⟩ := map_eq_some_iff.1 hsent
    exact protected_of_not_secured hsecured

theorem sendKeepAliveMessage_ok (hinv : ctx.Inv cst objs crypto (modeOf securityGroups))
    (h : sendKeepAliveMessage cst objs crypto inputs securityGroups ctx = .ok sending) :
    SendingOk cst objs crypto securityGroups ctx sending := by
  unfold sendKeepAliveMessage at h
  rcases hmessage : ctx.messageKeepAlive with _ | message
  · simp only [hmessage] at h
    cases h
  simp only [hmessage] at h
  generalize hupdate : updateSecurity inputs ctx.securityGroupId securityGroups = updated at h
  obtain ⟨securityGroups', security, ok⟩ := updated
  obtain ⟨-, hmodes'⟩ := sent_modeOf hupdate
  obtain ⟨bytes, hbytes, h⟩ := except_bind_eq_ok h
  cases h
  refine ⟨rfl, ⟨hinv.mode, fun hsecured preencode hp => ?_⟩, hmodes', fun sent hsent => ?_⟩
  · -- The sequence numbers are not part of what is enabled
    obtain ⟨hgroup, hlength, haligned, hfits⟩ := hinv.fixed hsecured preencode hp
    refine ⟨hgroup, hlength, ?_, hfits⟩
    rw [List.map_map]
    exact haligned
  · obtain ⟨bytes', hb, rfl⟩ := map_eq_some_iff.1 hsent
    obtain rfl := mem_def.1 hb
    by_cases hsecured : ctx.group.secured = true
    · rcases ok with _ | _
      · cases hbytes
      obtain ⟨s, rfl, hsigned, hencrypted⟩ := updateSecurity_secured hinv hsecured hupdate
      obtain ⟨hs, he⟩ := encodeMessage_protected ctx.group hsigned hbytes
      exact ⟨fun _ => hs, fun hm => ⟨hs, he (hencrypted hm)⟩⟩
    · exact protected_of_not_secured hsecured

end

/-! ## Runs -/

/-- No writer group with encrypted messages comes after one with signed messages only in its
    security group. -/
def sharedModes (config : List PubConnection) : Bool :=
  (allWriterGroups config).all fun group =>
    group.securityMode ≠ .signAndEncrypt || group.securityGroupId.all fun id =>
      firstMode (allWriterGroups config) id = some .signAndEncrypt

/-- The event leaves the size of the signed messages of a fixed size as it is: their writers are not
    enabled or disabled, and no value of them is a matrix. -/
def PubEvent.Calm (config : List PubConnection) : PubEvent Obj → Prop
  | .timeout index inputs => ∀ group ∈ (allWriterGroups config)[index]?, group.fixedSigned = true →
      ∀ dsm field, (inputs.source dsm field).1.arrayType ≠ .matrix
  | .acyclicSend index inputs => ∀ group ∈ (allWriterGroups config)[index]?,
      group.fixedSigned = true → ∀ dsm field, (inputs.source dsm field).1.arrayType ≠ .matrix
  | .setEnableEmission index _ _ => ∀ group ∈ (allWriterGroups config)[index]?,
      group.fixedSigned = false

/-- The contexts are those of the writer groups, and what was sent is protected. -/
structure Publisher.Inv (config : List PubConnection) (publisher : Publisher Obj) : Prop where
  groups : publisher.messages.map (·.group) = allWriterGroups config
  contexts : ∀ ctx ∈ publisher.messages,
    ctx.Inv cst objs crypto (modeOf publisher.securityGroups)
  sent : ∀ sent ∈ publisher.sent, sent.Protected cst objs crypto

section
variable {cst objs crypto} {config : List PubConnection} {publisher : Publisher Obj} {index : Nat}
  {ctx : MessageCtx Obj}

theorem Publisher.Inv.group_eq (hinv : publisher.Inv cst objs crypto config)
    (h : publisher.messages[index]? = some ctx) : ctx.group ∈ (allWriterGroups config)[index]? := by
  rw [← hinv.groups, getElem?_map, h]
  rfl

theorem commit_inv {result : Except Stop (Sending Obj)}
    (hinv : publisher.Inv cst objs crypto config) (hctx : publisher.messages[index]? = some ctx)
    (h : ∀ sending, result = .ok sending →
      SendingOk cst objs crypto publisher.securityGroups ctx sending) :
    (publisher.commit index result).Inv cst objs crypto config := by
  rcases result with e | sending
  · exact hinv
  obtain ⟨hgroup, hinv', hmodes, hsent⟩ := h sending rfl
  obtain ⟨ctx', securityGroups, sent⟩ := sending
  refine ⟨?_, fun other hother => ?_, fun s hs => ?_⟩
  · -- The new context is one of the same group
    show (publisher.messages.set index ctx').map (·.group) = _
    rw [← hinv.groups, map_set]
    apply ext_getElem?
    intro i
    rw [getElem?_set, getElem?_map]
    by_cases hi : index = i
    · subst hi
      have hlt := (List.getElem?_eq_some_iff.1 hctx).1
      rw [if_pos rfl, length_map, if_pos hlt, hctx]
      exact congrArg some hgroup
    · rw [if_neg hi]
  · show other.Inv cst objs crypto (modeOf securityGroups)
    rw [hmodes]
    rcases mem_or_eq_of_mem_set hother with hmem | rfl
    · exact hinv.contexts other hmem
    · exact hinv'
  · rcases mem_append.1 hs with hold | hnew
    · exact hinv.sent s hold
    · exact hsent s (mem_toList.1 hnew)

theorem setEnableEmission_inv {modes : String → Option SecurityMode} {dsm : Nat}
    {enableEmission : Bool} (hinv : ctx.Inv cst objs crypto modes)
    (hgroup : ctx.group.fixedSigned = false) :
    (setEnableEmission dsm enableEmission ctx).Inv cst objs crypto modes ∧
      (setEnableEmission dsm enableEmission ctx).group = ctx.group := by
  unfold setEnableEmission
  rcases ctx.dataSetMessageCtx[dsm]? with _ | dsmCtx
  · exact ⟨hinv, rfl⟩
  refine ⟨⟨hinv.mode, fun hsecured preencode hp => ?_⟩, rfl⟩
  rw [(hinv.fixed hsecured preencode hp).1] at hgroup
  cases hgroup

variable {json : NetworkMessage Obj → Option (List UInt8)}

theorem step_inv {event : PubEvent Obj} (hsize : 4 ≤ crypto.signatureSize)
    (hinv : publisher.Inv cst objs crypto config) (hcalm : event.Calm config) :
    (publisher.step cst objs crypto json event).Inv cst objs crypto config := by
  cases event with
  | timeout index inputs =>
    rw [Publisher.step]
    rcases hctx : publisher.messages[index]? with _ | ctx
    · exact hinv
    have hctxInv := hinv.contexts ctx (mem_of_getElem? hctx)
    by_cases hactive : ctx.nbOfDsmActive = 0
    · simp only [hactive, if_true]
      exact hinv
    simp only [hactive, if_false]
    split_ifs with hacyclic
    · exact commit_inv hinv hctx fun _ h => sendKeepAliveMessage_ok hctxInv h
    · exact commit_inv hinv hctx fun _ h =>
        sendPublishMessage_ok hsize hctxInv (hcalm _ (hinv.group_eq hctx)) h
  | acyclicSend index inputs =>
    rw [Publisher.step]
    rcases hctx : publisher.messages[index]? with _ | ctx
    · exact hinv
    have hctxInv := hinv.contexts ctx (mem_of_getElem? hctx)
    by_cases hactive : ctx.nbOfDsmActive = 0
    · simp only [hactive, if_true]
      exact hinv
    simp only [hactive, if_false]
    exact commit_inv hinv hctx fun _ h =>
      sendPublishMessage_ok hsize hctxInv (hcalm _ (hinv.group_eq hctx)) h
  | setEnableEmission index dsm enableEmission =>
    rw [Publisher.step]
    rcases hctx : publisher.messages[index]? with _ | ctx
    · exact hinv
    obtain ⟨hctxInv, hgroup⟩ := @setEnableEmission_inv Obj cst objs crypto _ _ dsm
      enableEmission (hinv.contexts ctx (mem_of_getElem? hctx))
      (hcalm _ (hinv.group_eq hctx))
    have hcommit := @commit_inv Obj cst objs crypto config publisher index ctx
      (.ok (setEnableEmission dsm enableEmission ctx, publisher.securityGroups, none)) hinv hctx
      fun sending h => by
        cases h
        exact ⟨hgroup, hctxInv, rfl, fun _ hs => by cases hs⟩
    rw [Publisher.commit, toList_none, append_nil] at hcommit
    exact hcommit

theorem run_inv {events : List (PubEvent Obj)} (hsize : 4 ≤ crypto.signatureSize)
    (hinv : publisher.Inv cst objs crypto config) (hcalm : ∀ event ∈ events, event.Calm config) :
    (publisher.run cst objs crypto json events).Inv cst objs crypto config := by
  induction events generalizing publisher with
  | nil => exact hinv
  | cons event events ih =>
    exact ih (step_inv hsize hinv (hcalm event mem_cons_self))
      fun e he => hcalm e (mem_cons_of_mem _ he)

/-! ## The start -/

theorem mapM_eq_some {α β : Type} {f : α → Option β} {as : List α} {bs : List β}
    (h : as.mapM f = some bs) : Forall₂ (fun a b => f a = some b) as bs := by
  induction as generalizing bs with
  | nil =>
    cases h
    exact .nil
  | cons a as ih =>
    rw [mapM_cons] at h
    obtain ⟨b, hb, h⟩ := bind_eq_some_iff.1 h
    obtain ⟨rest, hrest, h⟩ := bind_eq_some_iff.1 h
    cases h
    exact .cons hb (ih hrest)

variable {dsms : List (DataSetMessage Obj)}

/-- The timestamps are not part of the initial values. -/
theorem initialValues_stamp {fieldss : List (List FieldMetaData)}
    (h : Forall₂ InitialValues dsms fieldss) (now : Nat → UInt64) :
    Forall₂ InitialValues (dsms.mapIdx fun i dsm => dsm.stamp (now i)) fieldss := by
  induction h generalizing now with
  | nil => exact .nil
  | @cons dsm fields dsms fieldss hfirst _ ih =>
    rw [mapIdx_cons]
    refine .cons ?_ (ih fun i => now (i + 1))
    unfold DataSetMessage.stamp
    split_ifs <;> exact hfirst

theorem initializeFields_ok {writer : DataSetWriter} {dsm dsm' : DataSetMessage Obj}
    (hconf : dsm.conf.dataSetMessageType ≠ .keepAlive) (h : initializeFields writer dsm = some dsm') :
    dsm'.enableEmission = dsm.enableEmission ∧ InitialValues dsm' writer.fieldMetaData := by
  obtain ⟨values, hvalues, h⟩ := bind_eq_some_iff.1 h
  cases h
  have hall := mapM_eq_some hvalues
  refine ⟨rfl, hconf, ?_⟩
  rw [toList_ofList (by rw [← hall.length_eq]; exact writer.length_le)]
  exact hall.flip

theorem contentMask_ne_keepAlive (writer : DataSetWriter) :
    (writer.contentMask false).dataSetMessageType ≠ .keepAlive := by
  show (if writer.sourceType = .publishedDataItems then DataSetMessageType.keyFrame
    else if false = true then .keepAlive else .event) ≠ .keepAlive
  by_cases hitems : writer.sourceType = .publishedDataItems
  · rw [if_pos hitems]
    decide
  · rw [if_neg hitems, if_neg Bool.false_ne_true]
    decide

theorem initializeDataSetFields_ok {writers : List DataSetWriter}
    (h : initializeDataSetFields writers (writers.map (·.message false)) = some dsms) :
    Forall₂ (fun writer dsm => dsm.enableEmission = !writer.disableEmission ∧
      InitialValues dsm writer.fieldMetaData) writers dsms := by
  rw [initializeDataSetFields, ← map_prod_left_eq_zip] at h
  exact (forall₂_map_left_iff.1 (mapM_eq_some h)).imp fun writer _ hdsm =>
    initializeFields_ok (contentMask_ne_keepAlive writer) hdsm

variable {group : WriterGroup} {now : Nat → UInt64} {message : NetworkMessage Obj}

/-- The preencoded buffer that a group starts with fits its messages. -/
theorem preencodeInit_ok {security : Option Security} {message' : NetworkMessage Obj}
    {result : Option PreencodeBuffer}
    (hmessage : message.dataSetMessages = group.dataSetWriters.map (·.message false))
    (hsecurity : security.isSome = true)
    (h : preencodeInit cst objs crypto group security now message = .ok (message', result)) :
    message'.dataSetMessages.map (·.enableEmission) =
        group.dataSetWriters.map (!·.disableEmission) ∧
      ∀ preencode ∈ result, group.useFixedSizeBuffer = true ∧
        group.securityMode ≠ .signAndEncrypt ∧
        ∃ stop, preencode.Fits cst objs (enabledFields group.dataSetWriters
            (message'.dataSetMessages.map (·.enableEmission))) stop ∧
          preencode.signPosition = some stop ∧ preencode.buffer.data.length = stop := by
  unfold preencodeInit at h
  by_cases hfixed : group.useFixedSizeBuffer = true
  swap
  · rw [if_neg hfixed] at h
    cases h
    refine ⟨?_, fun _ hp => by cases hp⟩
    rw [hmessage, List.map_map]
    rfl
  rw [if_pos hfixed] at h
  by_cases hmode : group.securityMode = .signAndEncrypt
  · rw [if_pos hmode] at h
    cases h
  rw [if_neg hmode, hmessage] at h
  cases hinit : initializeDataSetFields group.dataSetWriters
      (group.dataSetWriters.map (DataSetWriter.message · false)) with
  | none =>
    rw [hinit] at h
    cases h
  | some dsms =>
    rw [hinit] at h
    obtain ⟨created, hcreated, h⟩ := except_bind_eq_ok h
    cases h
    have hall := initializeDataSetFields_ok hinit
    refine ⟨?_, fun preencode hp => ?_⟩
    · show dsms.map (·.enableEmission) = group.dataSetWriters.map (!·.disableEmission)
      rw [← forall₂_eq_eq_eq, forall₂_map_left_iff, forall₂_map_right_iff]
      exact hall.flip.imp fun _ _ h => h.1
    · obtain rfl := mem_some_iff.1 hp
      have hvalues := enabledFields_forall₂ (hall.imp fun _ _ h _ => h.2)
      obtain ⟨hfits, hsign⟩ := createPreencodeBuffer_ok (initialValues_stamp hvalues now) hcreated
      rw [if_pos hsecurity] at hsign
      exact ⟨hfixed, hmode, _, hfits, hsign, rfl⟩

/-- The mode of the context of a secured group. -/
theorem firstMode_secured {groups : List WriterGroup} {id : String} (hmem : group ∈ groups)
    (hsecured : group.secured = true) (hid : group.securityGroupId = some id) :
    ∃ mode, firstMode groups id = some mode ∧ (mode = .sign ∨ mode = .signAndEncrypt) := by
  unfold firstMode
  cases hfind : groups.find? fun group => group.secured && group.securityGroupId = some id with
  | none =>
    have hnone := find?_eq_none.1 hfind group hmem
    simp [hsecured, hid] at hnone
  | some first =>
    refine ⟨first.securityMode, rfl, ?_⟩
    have hfound := find?_some hfind
    have hfirst := (Bool.and_eq_true_iff.1 hfound).1
    rcases Bool.or_eq_true_iff.1 hfirst with h | h
    · exact Or.inl (of_decide_eq_true h)
    · exact Or.inr (of_decide_eq_true h)

theorem messageCtxInit_inv {securityGroups : List SecurityGroup} {connection : PubConnection}
    (hgroups : securityGroupsInitialize config = some securityGroups)
    (hmem : group ∈ allWriterGroups config) (hshared : sharedModes config = true)
    (h : messageCtxInit cst objs crypto securityGroups now connection group = .ok ctx) :
    ctx.group = group ∧ ctx.Inv cst objs crypto (modeOf securityGroups) := by
  unfold messageCtxInit at h
  by_cases hwriters : group.dataSetWriters = []
  · rw [if_pos hwriters] at h
    cases h
  rw [if_neg hwriters] at h
  obtain ⟨message, hmessage, h⟩ := except_bind_eq_ok h
  obtain ⟨messageKeepAlive, -, h⟩ := except_bind_eq_ok h
  obtain ⟨⟨message', preencode⟩, hpreencode, h⟩ := except_bind_eq_ok h
  cases h
  refine ⟨rfl, fun hsecured => ?_, fun hsecured preencode' hp => ?_⟩
  all_goals
    change group.secured = true at hsecured
    obtain ⟨id, hid⟩ := isSome_iff_exists.1
      (foldlM_addSecurityGroup_secured hgroups group hmem hsecured)
    obtain ⟨mode, hmode, hsigned⟩ := firstMode_secured hmem hsecured hid
    rw [← securityGroupsInitialize_modeOf hgroups] at hmode
  · refine ⟨id, mode, ?_, hmode, hsigned, fun hencrypt => ?_⟩
    · show (if group.secured = true then group.securityGroupId else none) = some id
      rw [if_pos hsecured, hid]
    · have hall := List.all_eq_true.1 hshared group hmem
      rw [show group.securityMode = _ from hencrypt, hid] at hall
      rw [securityGroupsInitialize_modeOf hgroups, of_decide_eq_true hall] at hmode
      exact (Option.some.inj hmode).symm
  · -- The security of the group was found at the start
    have hsecurity : (findWithId securityGroups id).isSome = true := by
      obtain ⟨security, hsecurity, -⟩ := map_eq_some_iff.1 hmode
      rw [hsecurity]
      rfl
    rw [if_pos hsecured, hid] at hpreencode
    have hdsms : message.dataSetMessages = group.dataSetWriters.map (·.message false) := by
      rw [networkMessageFrom, if_neg (by simp)] at hmessage
      cases hmessage
      rfl
    obtain ⟨hflags, hfixed⟩ := preencodeInit_ok hdsms hsecurity hpreencode
    obtain ⟨huse, hne, stop, hfits, hsign, hlength⟩ := hfixed preencode' hp
    have hmodeSign : group.securityMode = .sign := by
      rcases Bool.or_eq_true_iff.1 hsecured with h | h
      · exact of_decide_eq_true h
      · exact absurd (of_decide_eq_true h) hne
    refine ⟨Bool.and_eq_true_iff.2 ⟨huse, decide_eq_true hmodeSign⟩, ?_, ?_, stop, hfits, hsign, ?_⟩
    · have h := congrArg List.length hflags
      rwa [length_map, length_map] at h
    · show (group.dataSetWriters.map _).map _ = message'.dataSetMessages.map _
      rw [hflags, List.map_map]
      rfl
    · omega

theorem startPublisher_inv {accepted : PubConnection → Bool} (hshared : sharedModes config = true)
    (h : startPublisher cst objs crypto accepted now config = .ok publisher) :
    publisher.Inv cst objs crypto config := by
  unfold startPublisher at h
  rcases hgroups : securityGroupsInitialize config with _ | securityGroups
  · rw [hgroups] at h
    cases h
  simp only [hgroups] at h
  by_cases hrefused : config = [] ∨ config.any (fun c => c.writerGroups = [] || !accepted c) = true
  · rw [if_pos hrefused] at h
    cases h
  rw [if_neg hrefused] at h
  obtain ⟨messages, hmessages, h⟩ := except_bind_eq_ok h
  cases h
  have hpairs : (config.flatMap fun connection => connection.writerGroups.map
      (connection, ·)).map (·.2) = allWriterGroups config := by
    rw [map_flatMap, allWriterGroups]
    congr 1
    funext connection
    rw [List.map_map]
    exact List.map_id _
  have hctxs : Forall₂ (fun group ctx => ctx.group = group ∧
      ctx.Inv cst objs crypto (modeOf securityGroups)) (allWriterGroups config) messages := by
    rw [← hpairs, forall₂_map_left_iff]
    have hmem : ∀ pair ∈ config.flatMap fun connection => connection.writerGroups.map
        (connection, ·), pair.2 ∈ allWriterGroups config := by
      intro pair hpair
      rw [← hpairs]
      exact List.mem_map_of_mem hpair
    exact ((forall₂_and_left _ _).2 ⟨hmem, mapM_eq_ok hmessages⟩).imp fun pair ctx h =>
      messageCtxInit_inv hgroups h.1 hshared h.2
  refine ⟨?_, fun ctx hctx => ?_, fun _ hsent => by cases hsent⟩
  · rw [← forall₂_eq_eq_eq, forall₂_map_left_iff]
    exact hctxs.flip.imp fun _ _ h => h.1
  · have hinvs := hctxs.flip.imp fun ctx group h => And.intro h.2 h.1
    exact ((forall₂_and_left _ _).1 hinvs).1 ctx hctx

end

/-! ## Samples -/

/-- The bytes of a key and a message added up, as a signature of 32 bytes. -/
def wideSignature (key data : List UInt8) : List UInt8 :=
  (key ++ data).foldl (· + ·) 0 :: List.replicate 31 0

/-- A provider for examples with signatures of 32 bytes. -/
def wideCrypto : CryptoProvider where
  signatureSize := 32
  symmetricSign := fun key data => some ⟨wideSignature key data, rfl⟩
  symmetricVerify := fun key data signature => signature = wideSignature key data
  pubSubCrypt := fun key _ _ _ input => some ⟨input.map (· ^^^ key.headD 0), length_masked key input⟩

/-- A field with a byte. -/
def byteField : FieldMetaData :=
  ⟨.byte, ⟨-1, fun i => i.elim0, valid_scalar⟩, ⟨0, .numeric 1⟩, 13, .null⟩

/-- A field with an array of 48 bytes. -/
def bytesField : FieldMetaData :=
  ⟨.byte, ⟨1, fun _ => 48, Or.inr (by decide)⟩, ⟨0, .numeric 2⟩, 13, .null⟩

/-- A writer with one field. -/
def sampleWriter (id : UInt16) (field : FieldMetaData) : DataSetWriter :=
  ⟨id, true, true, false, .publishedDataItems, [field], show 1 < 2 ^ 16 by decide⟩

/-- A writer group with the security group `group`. -/
def sampleWriterGroup (id : UInt16) (mode : SecurityMode) (useFixedSizeBuffer : Bool)
    (writers : List DataSetWriter) : WriterGroup :=
  ⟨id, 1, .uadp, mode, some "group", useFixedSizeBuffer, writers⟩

/-- What a send takes, with one set of keys. -/
def sampleInputs {Obj : Type} (source : (dsm field : Nat) → Variant Obj × UInt32) : Inputs Obj :=
  ⟨source, fun _ _ => (true, some ⟨1, [1], [2], [3]⟩), some (Vector.replicate 4 0), fun _ => 0⟩

/-- The byte 42 for each field. -/
def byteSource {Obj : Type} (_dsm _field : Nat) : Variant Obj × UInt32 :=
  (.single (.flat (.byte 42)), 0)

/-- What a publisher with the connection of some writer groups sends over some events. -/
def sampleSent (groups : List WriterGroup) (events : List (PubEvent Empty)) : List (Sent Empty) :=
  match startPublisher smallConstants (opaqueObjects fun _ _ => false) wideCrypto (fun _ => true)
      (fun _ => 0) [⟨.uInteger 1, false, groups⟩] with
  | .ok publisher => (publisher.run smallConstants (opaqueObjects fun _ _ => false) wideCrypto
      (fun _ => none) events).sent
  | .error _ => []

/-- The bytes after the last signature size are those of the signature. -/
def Sent.showsSignature : Bool :=
  let body := sent.bytes.take (sent.bytes.length - crypto.signatureSize)
  match sent.security.bind (·.groupKeys) with
  | none => false
  | some keys =>
    match crypto.symmetricSign keys.signingKey body with
    | none => false
    | some signature => sent.bytes = body ++ signature.val

/-- The bytes before the signature are those of the cipher of the payload. -/
def Sent.showsCipher (payload : List UInt8) : Bool :=
  match sent.security.bind (·.groupKeys), sent.security.bind (·.msgNonceRandom) with
  | some keys, some random =>
    match crypto.pubSubCrypt keys.encryptKey keys.keyNonce random
        ((sent.security.map (·.sequenceNumber)).getD 0) payload with
    | none => false
    | some cipher =>
      ((sent.bytes.take (sent.bytes.length - crypto.signatureSize)).drop
        (sent.bytes.length - crypto.signatureSize - payload.length)) = cipher.val
  | _, _ => false

/-- There is a payload, and it is not sent as its cipher. -/
def Sent.showsClear : Bool :=
  match payloadBufferWrite cst objs (sent.message.sentMessages sent.now)
      (Buffer.empty pubSubBufferSize) with
  | .error _ => false
  | .ok (_, payload) => payload.data ≠ [] && !sent.showsCipher crypto payload.data

section
variable {cst objs crypto} {sent : Sent Obj}

theorem signed_showsSignature (h : sent.Signed crypto) :
    sent.showsSignature crypto = true := by
  obtain ⟨security, keys, body, signature, hsecurity, hkeys, hsign, hbytes⟩ := h
  have hbody : sent.bytes.take (sent.bytes.length - crypto.signatureSize) = body := by
    rw [hbytes, length_append, signature.property, Nat.add_sub_cancel, take_left]
  unfold Sent.showsSignature
  rw [hbody, hsecurity, bind_some, hkeys]
  simp only [hsign, decide_eq_true_eq]
  exact hbytes

theorem not_encrypted_of_showsClear (h : sent.showsClear cst objs crypto = true) :
    ¬ sent.Encrypted cst objs crypto := by
  rintro ⟨security, keys, payload, hsecurity, hkeys, hpayload, hencrypted⟩
  unfold Sent.showsClear at h
  simp only [hpayload] at h
  obtain ⟨hne, hclear⟩ := Bool.and_eq_true_iff.1 h
  obtain ⟨random, header, cipher, signature, hrandom, hcipher, hlength, hbytes⟩ :=
    hencrypted (of_decide_eq_true hne)
  have hshows : sent.showsCipher crypto payload.data = true := by
    unfold Sent.showsCipher
    rw [hsecurity, bind_some, bind_some, hkeys, hrandom]
    simp only [map_some, getD_some, hcipher, decide_eq_true_eq]
    rw [hbytes, length_append, hlength, Nat.add_sub_cancel, take_left, length_append,
      cipher.property, Nat.add_sub_cancel, drop_left]
  rw [hshows] at hclear
  cases hclear

theorem exists_of_any {sents : List (Sent Obj)} {mode : SecurityMode} {P : Sent Obj → Prop}
    (shows : Sent Obj → Bool) (hshows : ∀ {sent}, shows sent = true → P sent)
    (h : (sents.any fun sent => decide (sent.group.securityMode = mode) && shows sent) = true) :
    ∃ sent ∈ sents, sent.group.securityMode = mode ∧ P sent := by
  obtain ⟨sent, hmem, hsent⟩ := List.any_eq_true.1 h
  obtain ⟨hmode, hshown⟩ := Bool.and_eq_true_iff.1 hsent
  exact ⟨sent, hmem, of_decide_eq_true hmode, hshows hshown⟩

end

/-! ## The messages that leave the publisher -/

section
variable {cst objs crypto}

/-- Every message that leaves a publisher is protected as its writer group asks for, if no writer
    group with encrypted messages shares its security group with an earlier one that is only
    signed, and nothing changes the size of the signed messages of a fixed size. -/
theorem publisher_sent_protected (json : NetworkMessage Obj → Option (List UInt8))
    (accepted : PubConnection → Bool) (now : Nat → UInt64) (config : List PubConnection)
    (publisher : Publisher Obj) (events : List (PubEvent Obj)) (hsize : 4 ≤ crypto.signatureSize)
    (hstart : startPublisher cst objs crypto accepted now config = .ok publisher)
    (hshared : sharedModes config = true) (hcalm : ∀ event ∈ events, event.Calm config) :
    ∀ sent ∈ (publisher.run cst objs crypto json events).sent, sent.Protected cst objs crypto :=
  (run_inv hsize (startPublisher_inv hshared hstart) hcalm).sent

end

/-- A group with encrypted messages, and one with signed messages of a fixed size that shares its
    security group. -/
def sampleGroups : List WriterGroup :=
  [sampleWriterGroup 1 .signAndEncrypt false [sampleWriter 1 byteField],
    sampleWriterGroup 2 .sign true [sampleWriter 1 byteField]]

/-- A message of each of the two groups. -/
def sampleTimeouts : List (PubEvent Empty) :=
  [.timeout 0 (sampleInputs byteSource), .timeout 1 (sampleInputs byteSource)]

/-- The messages of the two groups are sent, signed and encrypted. -/
theorem sampleGroups_sent_protected :
    (sampleSent sampleGroups sampleTimeouts).map (·.group.securityMode) = [.signAndEncrypt, .sign] ∧
      ∀ sent ∈ sampleSent sampleGroups sampleTimeouts,
        sent.Protected smallConstants (opaqueObjects fun _ _ => false) wideCrypto := by
  refine ⟨by decide +kernel, ?_⟩
  unfold sampleSent
  cases hstart : startPublisher smallConstants (opaqueObjects fun _ _ => false) wideCrypto
      (fun _ => true) (fun _ => 0) [⟨.uInteger 1, false, sampleGroups⟩] with
  | error e => exact fun _ hsent => by cases hsent
  | ok publisher =>
    apply publisher_sent_protected _ _ _ _ _ _ (by decide) hstart (by decide)
    intro event hevent
    rcases List.mem_cons.1 hevent with rfl | hevent
    · exact fun _ _ _ _ _ => by simp [sampleInputs, byteSource, Variant.arrayType]
    · obtain rfl := List.mem_singleton.1 hevent
      exact fun _ _ _ _ _ => by simp [sampleInputs, byteSource, Variant.arrayType]

/-- A byte for the first writer, and 48 bytes for the second. -/
def bytesSource (status : UInt32) (dsm _field : Nat) : Variant Empty × UInt32 :=
  (if dsm = 0 then .single (.flat (.byte 42)) else .array .byte 48 fun _ => .flat (.byte 7), status)

/-- After a group with signed messages, the payload of a group with encrypted messages is sent in
    clear.  After a value of bad status, a message of a fixed size that is built again when a writer
    is disabled outgrows the place of its signature. -/
theorem publisher_sent_unprotected :
    (∃ sent ∈ sampleSent [sampleWriterGroup 1 .sign false [sampleWriter 1 byteField],
        sampleWriterGroup 2 .signAndEncrypt false [sampleWriter 1 byteField]]
        [.timeout 1 (sampleInputs byteSource)],
      sent.group.securityMode = .signAndEncrypt ∧
        ¬ sent.Encrypted smallConstants (opaqueObjects fun _ _ => false) wideCrypto) ∧
    ∃ sent ∈ sampleSent [sampleWriterGroup 1 .sign true
        [sampleWriter 1 byteField, sampleWriter 2 bytesField]]
        [.timeout 0 (sampleInputs (bytesSource 0x80000000)), .setEnableEmission 0 0 false,
          .timeout 0 (sampleInputs (bytesSource 0))],
      sent.group.securityMode = .sign ∧ ¬ sent.Signed wideCrypto := by
  constructor
  · exact exists_of_any (Sent.showsClear smallConstants (opaqueObjects fun _ _ => false) wideCrypto)
      not_encrypted_of_showsClear (by decide +kernel)
  · refine exists_of_any (fun sent => !sent.showsSignature wideCrypto)
      (fun hunsigned hsigned => ?_) (by decide +kernel)
    rw [signed_showsSignature hsigned] at hunsigned
    cases hunsigned

end S2opc.PubSub
