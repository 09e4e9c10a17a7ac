/-
What a subscriber writes for a secured group.

A message selects a group by its headers, a security context by its publisher
and the identifier of that group, and target variables by these and its writer.
Without a security context no security is expected; so the writes for a secured
group come from verified messages if its security context was made, for which
the group needs a security group.

The contexts are looked up by identifiers of publishers, up to the comparison of
these, which is the equality of a key.
-/
import S2opc.PubSub.Subscriber

namespace S2opc.PubSub

open List Option

open BuiltinTypes Lib.Bytes Lib.ByteCodec Lib.Stateful Lib.FirstMatch
  S2opc.Encoder
open Action

/-! ## Publisher ids -/

/-- What the comparison of publisher ids looks at. -/
def publisherIdKey : ConfPublisherId → Option (UInt64 ⊕ Nat × List UInt8)
  | .null => none
  | .uInteger id => some (.inl id)
  | .string id => some (.inr (stringKey id))

theorem publisherIdCompare_iff (left right : ConfPublisherId) :
    publisherIdCompare left right = true ↔ publisherIdKey left = publisherIdKey right := by
  cases left with
  | null =>
    cases right with
    | null => exact iff_of_true rfl rfl
    | _ => exact iff_of_false Bool.false_ne_true nofun
  | uInteger id =>
    cases right with
    | uInteger id' =>
      show decide (id = id') = true ↔ some (Sum.inl id) = some (Sum.inl id')
      rw [decide_eq_true_iff, Option.some.injEq, Sum.inl.injEq]
    | _ => exact iff_of_false Bool.false_ne_true nofun
  | string id =>
    cases right with
    | string id' =>
      show stringEqual id id' = true ↔ some (Sum.inr (stringKey id)) = some (Sum.inr (stringKey id'))
      rw [stringEqual_iff, Option.some.injEq, Sum.inr.injEq]
    | _ => exact iff_of_false Bool.false_ne_true nofun

/-! ## The lookup of a security context -/

/-- The security context of a publisher and a group in a list of contexts. -/
def lookupReaderCtx (securityCtx : List PubCtx) (pubId : ConfPublisherId) (groupId : UInt16) :
    Option ReaderCtx :=
  (securityCtx.find? (isPubCtx pubId)).bind (·.readers.find? (isReaderCtx groupId))

section
variable {Obj : Type} {s : Subscriber Obj} {pubId pubId' : ConfPublisherId} {groupId groupId' : UInt16}

theorem findReaderCtx_eq_ok {ctx : ReaderCtx} :
    s.findReaderCtx pubId groupId = .ok ctx ↔ lookupReaderCtx s.securityCtx pubId groupId = some ctx := by
  unfold Subscriber.findReaderCtx lookupReaderCtx
  rcases s.securityCtx.find? (isPubCtx pubId) with _ | pubCtx
  · simp
  simp only [bind_some]
  cases pubCtx.readers.find? (isReaderCtx groupId) with
  | none => simp
  | some ctx' => simp

theorem isPubCtx_congr (h : publisherIdKey pubId = publisherIdKey pubId') :
    isPubCtx pubId = isPubCtx pubId' := by
  funext ctx
  rw [Bool.eq_iff_iff]
  unfold isPubCtx
  rw [publisherIdCompare_iff, publisherIdCompare_iff, h]

theorem isPubCtx_disjoint (h : publisherIdKey pubId ≠ publisherIdKey pubId') (ctx : PubCtx)
    (hctx : isPubCtx pubId ctx = true) : isPubCtx pubId' ctx = false := by
  rw [isPubCtx, publisherIdCompare_iff] at hctx
  rw [Bool.eq_false_iff]
  intro hctx'
  rw [isPubCtx, publisherIdCompare_iff] at hctx'
  exact h (hctx.symm.trans hctx')

/-- A change of the security of a publisher and a group is seen there and nowhere else. -/
theorem lookupReaderCtx_updateSecurity (f : Security → Security) :
    lookupReaderCtx (s.updateSecurity pubId groupId f).securityCtx pubId' groupId' =
      (lookupReaderCtx s.securityCtx pubId' groupId').map fun ctx =>
        if publisherIdKey pubId = publisherIdKey pubId' ∧ groupId = groupId' then
          { ctx with security := f ctx.security }
        else ctx := by
  unfold lookupReaderCtx Subscriber.updateSecurity
  by_cases hkey : publisherIdKey pubId = publisherIdKey pubId'
  · rw [isPubCtx_congr hkey, find?_updateFirst (by intro; rfl)]
    rcases s.securityCtx.find? (isPubCtx pubId') with _ | pubCtx
    · rfl
    simp only [map_some, bind_some, hkey, true_and]
    by_cases hgroup : groupId = groupId'
    · subst hgroup
      rw [find?_updateFirst (by intro; rfl)]
      simp only [if_true]
    rw [find?_updateFirst_of_disjoint (by intro; rfl) fun ctx hctx => by
      simp only [isReaderCtx, decide_eq_true_eq] at hctx
      simp [isReaderCtx, hctx, hgroup]]
    simp only [hgroup, if_false, Option.map_id']
  · rw [find?_updateFirst_of_disjoint (by intro; rfl) (isPubCtx_disjoint hkey)]
    simp only [hkey, false_and, if_false, Option.map_id']

end

/-! ## The security of a group -/

section
variable {Obj : Type} (answered : String → GroupKeys → Prop) (pubId : ConfPublisherId)
  (groupId : UInt16) (securityGroupId : String) (mode : SecurityMode)

/-- A security of a mode whose keys, once it has some, were answered for a security group. -/
def KeysOf (security : Security) : Prop :=
  security.mode = mode ∧ ∀ keys, security.groupKeys = some keys → answered securityGroupId keys

/-- There is a security context for a publisher and a group, of a security group and a mode, with
    keys that were answered for the security group. -/
def HasSecurity (s : Subscriber Obj) : Prop :=
  ∃ ctx, lookupReaderCtx s.securityCtx pubId groupId = some ctx ∧
    ctx.securityGroupId = securityGroupId ∧ KeysOf answered securityGroupId mode ctx.security

/-- The publisher and the group of a security context. -/
def SameGroup (pubId' : ConfPublisherId) (groupId' : UInt16) : Prop :=
  publisherIdKey pubId' = publisherIdKey pubId ∧ groupId' = groupId

end

/-- A publisher and a group that are secured, with the security group and the mode they have. -/
structure SecuredGroup where
  answered : String → GroupKeys → Prop
  pubId : ConfPublisherId
  groupId : UInt16
  securityGroupId : String
  mode : SecurityMode
  secured : mode = .sign ∨ mode = .signAndEncrypt

namespace SecuredGroup

variable (g : SecuredGroup)

abbrev Keys (security : Security) : Prop := KeysOf g.answered g.securityGroupId g.mode security

abbrev Has {Obj : Type} (s : Subscriber Obj) : Prop :=
  HasSecurity g.answered g.pubId g.groupId g.securityGroupId g.mode s

abbrev Same (pubId : ConfPublisherId) (groupId : UInt16) : Prop :=
  SameGroup g.pubId g.groupId pubId groupId

end SecuredGroup

variable {sks : KeyService} {security : Security}

section
variable {Obj : Type} {g : SecuredGroup} {pubId' : ConfPublisherId} {groupId' : UInt16}
  {s : Subscriber Obj}

theorem HasSecurity.of_securityCtx_eq {s' : Subscriber Obj} (h : s'.securityCtx = s.securityCtx)
    (hs : g.Has s) : g.Has s' := by
  obtain ⟨ctx, hctx, hsecurity⟩ := hs
  exact ⟨ctx, by rw [h, hctx], hsecurity⟩

/-- A security may be changed to another one with the keys of the security group. -/
theorem HasSecurity.updateSecurity {f : Security → Security} (hs : g.Has s)
    (hf : g.Same pubId' groupId' → ∀ security, g.Keys security → g.Keys (f security)) :
    g.Has (s.updateSecurity pubId' groupId' f) := by
  obtain ⟨ctx, hctx, hid, hkeys⟩ := hs
  refine ⟨_, by rw [lookupReaderCtx_updateSecurity, hctx]; rfl, ?_⟩
  split_ifs with hsame
  · exact ⟨hid, hf hsame _ hkeys⟩
  · exact ⟨hid, hkeys⟩

theorem validSecurity_keysOf {tokenId : UInt32} {ctx : ReaderCtx}
    (hsks : ∀ tokenId keys, sks ctx.securityGroupId tokenId = some keys →
      g.answered g.securityGroupId keys)
    (hctx : g.Keys ctx.security) (h : validSecurity sks tokenId ctx = .ok security) :
    g.Keys security := by
  unfold validSecurity at h
  by_cases hold : ctx.security.groupKeys.all (·.tokenId < tokenId) = true
  · rw [if_pos hold] at h
    split at h
    · cases h
    rename_i keys hkeys
    split_ifs at h
    cases h
    refine ⟨hctx.1, fun keys' hkeys' => ?_⟩
    cases hkeys'
    exact hsks tokenId keys hkeys
  · rw [if_neg hold] at h
    split_ifs at h
    cases h
    exact hctx

/-- The key service answers only what is recorded. -/
def Records (answered : String → GroupKeys → Prop) (sks : KeyService) : Prop :=
  ∀ securityGroupId tokenId keys, sks securityGroupId tokenId = some keys → answered securityGroupId keys

theorem HasSecurity.getSecurityInfos (hsks : Records g.answered sks) (tokenId : UInt32)
    (pubId' : ConfPublisherId) (groupId' : UInt16) (hs : g.Has s) :
    g.Has (getSecurityInfos sks tokenId pubId' groupId' s).2 ∧
      (g.Same pubId' groupId' → ∀ security,
        (getSecurityInfos sks tokenId pubId' groupId' s).1 = .ok security → g.Keys security) ∧
      (g.Same pubId' groupId' → ∀ status,
        (getSecurityInfos sks tokenId pubId' groupId' s).1 = .error status →
          status ≠ .noContextPublisher ∧ status ≠ .noContextWriterGroup) := by
  -- With the publisher and the group of the context, it is the one that is found.
  have hfind : g.Same pubId' groupId' → ∃ ctx, s.findReaderCtx pubId' groupId' = .ok ctx ∧
      ctx.securityGroupId = g.securityGroupId ∧ g.Keys ctx.security := by
    rintro ⟨hpub, rfl⟩
    obtain ⟨ctx, hctx, hid, hkeys⟩ := hs
    rw [lookupReaderCtx, ← isPubCtx_congr hpub] at hctx
    exact ⟨ctx, findReaderCtx_eq_ok.2 hctx, hid, hkeys⟩
  have hstatus {ctx : ReaderCtx} {status : SecurityStatus}
      (h : validSecurity sks tokenId ctx = .error status) :
      status ≠ .noContextPublisher ∧ status ≠ .noContextWriterGroup := by
    unfold validSecurity at h
    split_ifs at h
    · split at h
      · obtain rfl := Except.error.inj h
        simp
      split_ifs at h
      all_goals
        obtain rfl := Except.error.inj h
        simp
    · obtain rfl := Except.error.inj h
      simp
  unfold PubSub.getSecurityInfos
  rcases hfound : s.findReaderCtx pubId' groupId' with status | ctx
  · refine ⟨hs, fun hsame => ?_, fun hsame => ?_⟩
    all_goals
      obtain ⟨ctx, hctx, -⟩ := hfind hsame
      rw [hfound] at hctx
      cases hctx
  have hctx (hsame : g.Same pubId' groupId') :
      ctx.securityGroupId = g.securityGroupId ∧ g.Keys ctx.security := by
    obtain ⟨ctx', hctx', h⟩ := hfind hsame
    rw [hfound] at hctx'
    cases hctx'
    exact h
  dsimp only
  rcases hvalid : validSecurity sks tokenId ctx with status | security
  · refine ⟨hs, fun _ security h => (by cases h), fun _ status' h => ?_⟩
    obtain rfl := Except.error.inj h
    exact hstatus hvalid
  have hkeys (hsame : g.Same pubId' groupId') : g.Keys security := by
    obtain ⟨hgroup, hold⟩ := hctx hsame
    exact validSecurity_keysOf (fun tokenId keys h => hgroup ▸ hsks _ tokenId keys h) hold hvalid
  refine ⟨hs.updateSecurity fun hsame _ _ => hkeys hsame, fun hsame security' h => ?_,
    fun _ status h => (by cases h)⟩
  cases h
  exact hkeys hsame

end

/-! ## Verified messages -/

/-- A payload of a message whose signature is verified with keys that were answered for a security
    group, and that is decrypted with them if the mode asks for it.  What follows the security
    header of the message is `rest`. -/
def Authenticated (crypto : CryptoProvider) (answered : String → GroupKeys → Prop)
    (securityGroupId : String) (mode : SecurityMode) (message payload : Buffer) : Prop :=
  ∃ security keys rest, security.groupKeys = some keys ∧ answered securityGroupId keys ∧
    securityVerify crypto security message message.position = true ∧ rest.data = message.data ∧
    (mode = .sign → payload = rest) ∧
    (mode = .signAndEncrypt → decryptPayload crypto security rest = some payload)

variable {src : Buffer}

theorem securityVerify_keys {crypto : CryptoProvider} {position : Nat}
    (h : securityVerify crypto security src position = true) :
    ∃ keys, security.groupKeys = some keys := by
  unfold securityVerify at h
  cases hkeys : security.groupKeys with
  | none => simp [hkeys] at h
  | some keys => exact ⟨keys, rfl⟩

section
variable {σ Group DataSetReader Target Obj : Type} (cst : EncodingConstants)
  (rc : ReaderConfiguration σ Group DataSetReader Target Obj)

theorem readOnly_flags : ReadOnly (flagsRead cst) := (readOnly_scalarRead _ _).failWith

theorem readOnly_publisherId (type : UInt8) : ReadOnly (publisherIdRead cst type) := by
  refine .ite ((readOnly_scalarRead _ _).bind fun _ => .pure _) ?_
  refine .ite ((readOnly_scalarRead _ _).bind fun _ => .pure _) ?_
  refine .ite ((readOnly_scalarRead _ _).bind fun _ => .pure _) ?_
  refine .ite ((readOnly_scalarRead _ _).bind fun _ => .pure _) ?_
  exact .ite ((readOnly_stringRead cst _).bind fun _ => .pure _) (.throw _)

theorem readOnly_headers : ReadOnly (headersRead cst) := by
  refine .bind ?_ fun header => ?_
  · refine (readOnly_flags cst).bind fun data => .ite (.throw _) ?_
    refine (readOnly_flags cst).readIf.bind fun flags1 => .ite (.throw _) ?_
    refine (readOnly_flags cst).readIf.bind fun flags2 => .ite (.throw _) ?_
    refine (readOnly_publisherId cst _).failWith.readIf.bind fun id => ?_
    exact .ite (.throw _) (.pure _)
  · refine (readOnly_flags cst).readIf.bind fun data => ?_
    refine (readOnly_scalarRead _ _).failWith.readIf.bind fun groupId => ?_
    refine (readOnly_scalarRead _ _).failWith.readIf.bind fun groupVersion => ?_
    exact .ite (.throw _) (.ite (.throw _) (.pure _))

theorem readOnly_writers (group : Group) (n : Nat) (mustDecode : Bool) :
    ReadOnly (writersRead cst rc group n mustDecode) := by
  induction n generalizing mustDecode with
  | zero => exact .ite (.pure _) (.throw _)
  | succ n ih =>
    exact (readOnly_scalarRead _ _).failWith.bind fun writerId => (ih _).bind fun _ => .pure _

theorem readOnly_payloadHeader (header : Header) (group : Group) :
    ReadOnly (payloadHeaderRead cst rc header group) :=
  (readOnly_flags cst).readIf.bind fun _ =>
    .ite (.throw _) (readOnly_writers cst rc group _ _)

theorem readOnly_securityFlags : ReadOnly (securityFlagsRead cst) :=
  (readOnly_flags cst).bind fun _ => .ite (.throw _)
    ((readOnly_scalarRead _ _).failWith.bind fun _ => .pure _)

theorem readOnly_nonce : ReadOnly (nonceRead cst) :=
  (readOnly_flags cst).bind fun _ => .ite (.throw _)
    ((readOnly_bufferRead _).failWith.bind fun _ =>
      (readOnly_scalarRead _ _).failWith.bind fun _ => .pure _)

/-- What is read leaves the state, and the bytes of the buffer. -/
theorem triple_readFrom {α : Type} {r : Codec Stop α} (hr : ReadOnly r) (buffer : Buffer)
    (P : σ → Prop) :
    Triple P (readFrom r buffer) (fun read s => P s ∧ read.2.data = buffer.data) fun _ => P :=
  .ofExcept (fun _ hread _ hs => ⟨hs, hr _ _ _ hread⟩) fun _ _ _ hs => hs

end

section
variable {Obj : Type} (cst : EncodingConstants) (crypto : CryptoProvider)
  (targetConfig : TargetVariableConfig Obj) {sks : KeyService} (connection : Connection)
  {g : SecuredGroup}

theorem triple_receivedSecurity (hsks : Records g.answered sks) (pubId' : ConfPublisherId)
    (groupId' : UInt16) (ssigned encrypted : Bool) (tokenId : UInt32) :
    Triple g.Has
      (receivedSecurity (subscriberCallbacks targetConfig sks connection) pubId' groupId' ssigned
        encrypted tokenId)
      (fun security s => g.Has s ∧
        (g.Same pubId' groupId' → g.Keys security ∧
          checkReceivedSecurityMode g.mode ssigned encrypted = true))
      fun _ => g.Has := by
  refine .bind (Q := fun found s => g.Has s ∧
    (g.Same pubId' groupId' → ∀ security, found = .ok security → g.Keys security))
    ?_ fun found => ?_
  · refine .step fun s hs => ?_
    obtain ⟨hkept, hkeys, -⟩ := hs.getSecurityInfos hsks tokenId pubId' groupId'
    exact ⟨hkept, hkeys⟩
  · rcases found with status | security
    · exact .throw fun s hs => hs.1
    dsimp only
    split_ifs with hcheck
    · exact .throw fun s hs => hs.1
    · exact .throw fun s hs => hs.1
    · refine .pure fun s hs => ⟨hs.1, fun hsame => ?_⟩
      have hkeys := hs.2 hsame security rfl
      rw [hkeys.1] at hcheck
      exact ⟨hkeys, by simpa using hcheck⟩

/-- Without a security header, there is no security context for the message. -/
theorem triple_checkNoSecurity (hsks : Records g.answered sks) (header : Header)
    (groupId' : UInt16) :
    Triple g.Has
      (checkNoSecurity (subscriberCallbacks targetConfig sks connection) header groupId')
      (fun _ s => g.Has s ∧ ¬ g.Same (convertPublisherId header.getPublisherId) groupId')
      fun _ => g.Has := by
  refine .bind (Q := fun found s => g.Has s ∧
      (g.Same (convertPublisherId header.getPublisherId) groupId' →
        ∀ security, found = .ok security → g.Keys security) ∧
      (g.Same (convertPublisherId header.getPublisherId) groupId' →
        ∀ status, found = .error status →
          status ≠ .noContextPublisher ∧ status ≠ .noContextWriterGroup)) ?_ fun found => ?_
  · exact .step fun s hs => hs.getSecurityInfos hsks 0 _ _
  · split
    · exact .pure fun s hs => ⟨hs.1, fun hsame => (hs.2.2 hsame _ rfl).1 rfl⟩
    · exact .pure fun s hs => ⟨hs.1, fun hsame => (hs.2.2 hsame _ rfl).2 rfl⟩
    · exact .throw fun s hs => hs.1
    · rename_i security
      split_ifs with hcheck
      · refine .pure fun s hs => ⟨hs.1, fun hsame => ?_⟩
        rw [(hs.2.1 hsame security rfl).1] at hcheck
        rcases g.secured with hm | hm
        all_goals
          rw [hm] at hcheck
          cases hcheck
      · exact .throw fun s hs => hs.1

variable {message buffer : Buffer}

/-- A message with a security header is verified, and decrypted, with the security context it
    finds. -/
theorem triple_decodeSecurityHeader (hsks : Records g.answered sks) (header : Header)
    (groupId' : UInt16) (hdata : buffer.data = message.data) :
    Triple g.Has
      (decodeSecurityHeader cst crypto (subscriberCallbacks targetConfig sks connection) header
        groupId' message.position buffer)
      (fun payload s => g.Has s ∧
        (g.Same (convertPublisherId header.getPublisherId) groupId' →
          Authenticated crypto g.answered g.securityGroupId g.mode message payload))
      fun _ => g.Has := by
  unfold decodeSecurityHeader
  by_cases hids : groupId' = 0 ∨ header.flagsConfig.publisherIdFlag = false
  · rw [if_pos hids]
    exact .throw fun s hs => hs
  rw [if_neg hids]
  refine .bind (triple_readFrom (readOnly_securityFlags cst) buffer _) ?_
  rintro ⟨⟨ssigned, encrypted, tokenId⟩, afterFlags⟩
  refine .assume fun hflags => ?_
  refine .bind (triple_receivedSecurity targetConfig connection hsks _ _ _ _ _) ?_
  intro security
  refine .assume fun hsecurity => ?_
  by_cases hverify : ssigned = true ∧
      securityVerify crypto security afterFlags message.position = false
  · rw [if_pos hverify]
    exact .throw fun s hs => hs
  rw [if_neg hverify]
  refine .bind (triple_readFrom (readOnly_nonce cst) afterFlags _) ?_
  rintro ⟨⟨random, sequenceNumber⟩, afterNonce⟩
  refine .assume fun hnonce => ?_
  dsimp only
  by_cases hnewer : security.sequenceNumberSet = true ∧
      isUInt32SequenceNumberNewer sequenceNumber security.sequenceNumber = false
  · rw [if_pos hnewer]
    exact .throw fun s hs => hs
  rw [if_neg hnewer]
  refine .bind (Q := fun _ => g.Has)
    (.update fun s hs => hs.updateSecurity fun hsame _ _ => (hsecurity hsame).1) fun _ => ?_
  -- The flags are those of the mode.
  have hauth (hsame : g.Same (convertPublisherId header.getPublisherId) groupId')
      {payload : Buffer} (hsign : g.mode = .sign → payload = afterNonce)
      (hcrypt : g.mode = .signAndEncrypt → decryptPayload crypto
        { security with
          sequenceNumber := sequenceNumber, sequenceNumberSet := true, msgNonceRandom := some random }
        afterNonce = some payload) :
      Authenticated crypto g.answered g.securityGroupId g.mode message payload := by
    obtain ⟨hkeys, hcheck⟩ := hsecurity hsame
    have hsigned : ssigned = true := by
      rcases g.secured with hm | hm
      all_goals
        simp [checkReceivedSecurityMode, hm] at hcheck
        exact hcheck.1
    have hok : securityVerify crypto security afterFlags message.position = true := by
      simpa using fun h => hverify ⟨hsigned, h⟩
    obtain ⟨keys, hsome⟩ := securityVerify_keys hok
    refine ⟨{ security with
        sequenceNumber := sequenceNumber, sequenceNumberSet := true, msgNonceRandom := some random },
      keys, afterNonce, hsome, hkeys.2 keys hsome, ?_, hnonce.trans (hflags.trans hdata), hsign, hcrypt⟩
    rw [← hok]
    unfold securityVerify
    rw [hflags.trans hdata]
  have hencrypted (hsame : g.Same (convertPublisherId header.getPublisherId) groupId') :
      (g.mode = .signAndEncrypt ↔ encrypted = true) := by
    have hcheck := (hsecurity hsame).2
    rcases g.secured with hm | hm
    all_goals
      simp [checkReceivedSecurityMode, hm] at hcheck
      simp [hm, hcheck.2]
  split_ifs with henc
  · split
    · exact .throw fun s hs => hs
    rename_i payload hpayload
    refine .pure fun s hs => ⟨hs, fun hsame => hauth hsame (fun hsign => ?_) fun _ => hpayload⟩
    have hmode' := (hencrypted hsame).2 henc
    rw [hsign] at hmode'
    cases hmode'
  · refine .pure fun s hs => ⟨hs, fun hsame => hauth hsame (fun _ => rfl) fun hcrypt => ?_⟩
    exact absurd ((hencrypted hsame).1 hcrypt) henc

/-- A message that goes on to its payload with the security context of a secured group is
    authenticated. -/
theorem triple_decodeSecurity (hsks : Records g.answered sks) (header : Header)
    (groupId' : UInt16) (hdata : buffer.data = message.data) :
    Triple g.Has
      (decodeSecurity cst crypto (subscriberCallbacks targetConfig sks connection) header groupId'
        message.position buffer)
      (fun payload s => g.Has s ∧
        (g.Same (convertPublisherId header.getPublisherId) groupId' →
          Authenticated crypto g.answered g.securityGroupId g.mode message payload))
      fun _ => g.Has := by
  unfold decodeSecurity
  split_ifs
  · exact triple_decodeSecurityHeader cst crypto targetConfig connection hsks header groupId' hdata
  · refine .bind (triple_checkNoSecurity targetConfig connection hsks header groupId') ?_
    exact fun _ => .pure fun s hs => ⟨hs.1, fun hsame => absurd hsame hs.2⟩

end

/-! ## Invariants of the decoder -/

section
variable {σ Group DataSetReader Target Obj : Type} (cst : EncodingConstants) (objs : ObjectCodec Obj)
  (crypto : CryptoProvider) {rc : ReaderConfiguration σ Group DataSetReader Target Obj} {I : σ → Prop}
  {pubId : ConfPublisherId} {groupId : UInt16}

theorem keeps_decodeSecurity
    (hget : ∀ tokenId pubId groupId s, I s → I (rc.getSecurity tokenId pubId groupId s).2)
    (hset : ∀ pubId groupId security s, I s → I (rc.setSecurity pubId groupId security s))
    (header : Header) (position : Nat) (buffer : Buffer) :
    Keeps I (decodeSecurity cst crypto rc header groupId position buffer) := by
  refine .ite (.ite (.throw _) ?_) ?_
  · refine (Keeps.ofExcept _).bind fun flags => Keeps.bind ?_ fun security => ?_
    · refine (Keeps.step fun s => hget _ _ _ s).bind fun found => ?_
      rcases found with status | security
      · exact .throw _
      exact .ite (.throw _) (.ite (.throw _) (.pure _))
    · refine Keeps.ite (Keeps.throw _) ((Keeps.ofExcept _).bind fun nonce => ?_)
      refine Keeps.ite (Keeps.throw _) ?_
      refine (Keeps.update fun s => hset _ _ _ s).bind fun _ => ?_
      refine Keeps.ite ?_ (Keeps.pure _)
      split
      · exact .throw _
      · exact .pure _
  · refine .bind ?_ fun _ => .pure _
    refine (Keeps.step fun s => hget _ _ _ s).bind fun found => ?_
    split
    · exact Keeps.pure _
    · exact .pure _
    · exact .throw _
    · exact .ite (.pure _) (.throw _)

/-- What the callbacks for the payload of a publisher and a group keep.  A message is handed over
    with a target that was found for them. -/
structure PayloadInvariant (rc : ReaderConfiguration σ Group DataSetReader Target Obj)
    (pubId : ConfPublisherId) (groupId : UInt16) (I : σ → Prop) : Prop where
  checkDataSetMessageSN : ∀ writerId sn s, I s →
    I (rc.checkDataSetMessageSN pubId groupId writerId sn s).2
  updateTimeout : ∀ writerId s, I s → I (rc.updateTimeout pubId groupId writerId s)
  setDsm : ∀ dsm reader target,
    (∀ t, target = some t → ∃ s, rc.targetVariable pubId groupId dsm.writerId s = some t) →
      Keeps I (rc.setDsm dsm reader target)

namespace PayloadInvariant

section

variable (h : PayloadInvariant rc pubId groupId I)
include h

theorem decodeDataSetMessage (writerId dsmSize : UInt16)
    (payload : Buffer) :
    Keeps I (decodeDataSetMessage cst objs rc pubId groupId writerId dsmSize payload) := by
  refine (Keeps.ofExcept _).bind fun flags => Keeps.bind ?_ fun number => ?_
  · refine Keeps.ite ((Keeps.ofExcept _).bind fun read => ?_) (Keeps.pure _)
    refine .ite (.pure _) ?_
    exact (Keeps.step fun s => h.checkDataSetMessageSN _ _ s).bind fun _ => Keeps.pure _
  · refine (Keeps.ofExcept _).bind fun body => ?_
    exact Keeps.ite (Keeps.throw _) (Keeps.pure _)

theorem receiveDataSetMessage (reader : DataSetReader)
    (dsm : DataSetMessage Obj) :
    Keeps I (receiveDataSetMessage rc pubId groupId reader dsm) := by
  refine Triple.bind (Q := fun target s => I s ∧
    ∀ t, target = some t → ∃ s, rc.targetVariable pubId groupId dsm.writerId s = some t)
    (Triple.query fun s hs => ⟨hs, fun t ht => ?_⟩) fun target =>
      .assume fun htarget => ?_
  · split_ifs at ht
    exact ⟨s, ht⟩
  · refine Keeps.ite (Keeps.throw _) ?_
    refine (h.setDsm dsm reader target htarget).bind fun set => ?_
    exact Keeps.ite (Keeps.update fun s => h.updateTimeout _ s) (Keeps.throw _)

theorem decodeDataSetMessages
    (messages : List ((UInt16 × Option DataSetReader) × Option UInt16)) (payload : Buffer) :
    Keeps I (decodeDataSetMessages cst objs rc pubId groupId messages payload) := by
  induction messages generalizing payload with
  | nil => exact .pure _
  | cons message rest ih =>
    obtain ⟨⟨writerId, reader⟩, size⟩ := message
    rcases reader with _ | reader
    · cases size with
      | none => exact .throw _
      | some size => exact (ih _).bind fun _ => .pure _
    refine (h.decodeDataSetMessage cst objs writerId _ payload).bind fun decoded => ?_
    refine (h.receiveDataSetMessage reader decoded.1).bind fun _ => ?_
    exact (ih _).bind fun _ => .pure _

end

end PayloadInvariant

theorem keeps_decodePayload {header : Header} {group : Group}
    (h : PayloadInvariant rc (convertPublisherId header.getPublisherId) (rc.groupId group) I)
    (writers : List (UInt16 × Option DataSetReader)) (payload : Buffer) :
    Keeps I (decodePayload cst objs rc header group writers payload) :=
  (Keeps.ofExcept _).bind fun _ => h.decodeDataSetMessages cst objs _ _

/-- A message that is decoded changes the state in its security and then, if this goes well, in
    its payload. -/
theorem networkMessageDecode_state (rc : ReaderConfiguration σ Group DataSetReader Target Obj)
    (buffer : Buffer) (s : σ) :
    (exec (networkMessageDecode cst objs crypto rc buffer) s).2 = s ∨
      ∃ header group writers rest,
        rest.data = buffer.data ∧
        ((∃ stop, exec (decodeSecurity cst crypto rc header (rc.groupId group) buffer.position
            rest) s =
            (.error stop, (exec (networkMessageDecode cst objs crypto rc buffer) s).2)) ∨
          ∃ payload t,
            exec (decodeSecurity cst crypto rc header (rc.groupId group) buffer.position rest) s =
              (.ok payload, t) ∧
            (exec (networkMessageDecode cst objs crypto rc buffer) s).2 =
              (exec (decodePayload cst objs rc header group writers payload) t).2) := by
  unfold networkMessageDecode
  rw [exec_bind]
  rcases hheaders : headersRead cst buffer with stop | read
  · left
    rw [readFrom, hheaders]
    rfl
  obtain ⟨⟨header, groupId, groupVersion⟩, afterHeaders⟩ := read
  rw [readFrom, hheaders, exec_ofExcept]
  dsimp only
  rcases rc.getGroup header.flagsConfig header.getPublisherId groupVersion groupId with _ | group
  · exact .inl rfl
  split_ifs
  swap
  · exact .inl rfl
  unfold decodeMessageV1
  rcases hwriters : payloadHeaderRead cst rc header group afterHeaders with stop | read
  · left
    simp only [exec_bind, readFrom, hwriters, exec_ofExcept]
  obtain ⟨writers, rest⟩ := read
  right
  refine ⟨header, group, writers, rest, ?_, ?_⟩
  · rw [readOnly_payloadHeader cst rc header group _ _ _ hwriters,
      readOnly_headers cst _ _ _ hheaders]
  simp only [exec_bind, readFrom, hwriters, exec_ofExcept]
  cases hsecurity : exec
      (decodeSecurity cst crypto rc header (rc.groupId group) buffer.position rest) s with
  | mk result t =>
    rcases result with stop | payload
    · exact .inl ⟨stop, rfl⟩
    refine .inr ⟨payload, t, rfl, ?_⟩
    dsimp only
    cases exec (decodePayload cst objs rc header group writers payload) t with
    | mk result t' =>
      cases result with
      | _ => rfl

end

/-! ## The contexts at the start -/

variable {securityGroupId : String}

section
variable {pubId : ConfPublisherId} {groupId : UInt16}

/-- The security context that a group makes for a publisher and a group. -/
def contextFor (pubId : ConfPublisherId) (groupId : UInt16) (group : ReaderGroup) : Option ReaderCtx :=
  if group.secured = true ∧ publisherIdKey group.publisherId = publisherIdKey pubId ∧
      group.groupId = groupId then readerCtxCreate group
  else none

theorem find?_addReader (group : ReaderGroup) (pubCtx : PubCtx) :
    (pubCtx.addReader group).readers.find? (isReaderCtx groupId) =
      (pubCtx.readers.find? (isReaderCtx groupId)).or
        (if group.groupId = groupId then readerCtxCreate group else none) := by
  -- The new context has the identifier of the group.
  have hnew : (readerCtxCreate group).toList.find? (isReaderCtx groupId) =
      if group.groupId = groupId then readerCtxCreate group else none := by
    unfold readerCtxCreate
    cases group.securityGroupId with
    | none => simp
    | some id =>
      by_cases h : group.groupId = groupId <;> simp [isReaderCtx, h]
  unfold PubCtx.addReader
  by_cases hany : pubCtx.readers.any (isReaderCtx group.groupId) = true
  · rw [if_pos hany]
    by_cases h : group.groupId = groupId
    · subst h
      obtain ⟨ctx, hctx⟩ := isSome_iff_exists.1 (find?_isSome.2 (List.any_eq_true.1 hany))
      rw [hctx]
      rfl
    · rw [if_neg h, or_none]
  · rw [if_neg hany, find?_append, hnew]

/-- A group adds its context where there is none yet. -/
theorem lookupReaderCtx_addSecurityCtx (securityCtx : List PubCtx) (group : ReaderGroup) :
    lookupReaderCtx (addSecurityCtx securityCtx group) pubId groupId =
      (lookupReaderCtx securityCtx pubId groupId).or (contextFor pubId groupId group) := by
  unfold addSecurityCtx contextFor
  by_cases hsecured : group.secured = true
  swap
  · rw [if_neg hsecured, if_neg fun h => hsecured h.1, or_none]
  rw [if_pos hsecured]
  -- A publisher context without readers changes no lookup.
  generalize hctxs : (if securityCtx.any (isPubCtx group.publisherId) then securityCtx
    else securityCtx ++ [⟨group.publisherId, []⟩]) = ctxs
  have hlookup : lookupReaderCtx ctxs pubId groupId = lookupReaderCtx securityCtx pubId groupId := by
    rw [← hctxs]
    split_ifs
    · rfl
    unfold lookupReaderCtx
    rw [find?_append]
    cases securityCtx.find? (isPubCtx pubId) with
    | some pubCtx => rfl
    | none =>
      rw [none_or, find?_singleton]
      split_ifs <;> rfl
  have hsome : ∃ pubCtx, ctxs.find? (isPubCtx group.publisherId) = some pubCtx := by
    rw [← isSome_iff_exists, find?_isSome, ← hctxs]
    split_ifs with hany
    · exact List.any_eq_true.1 hany
    · refine ⟨⟨group.publisherId, []⟩, mem_append_right _ (mem_singleton_self _), ?_⟩
      exact (publisherIdCompare_iff _ _).2 rfl
  rw [← hlookup]
  unfold lookupReaderCtx
  have hframe (pubCtx : PubCtx) (pubId : ConfPublisherId) :
      isPubCtx pubId (pubCtx.addReader group) = isPubCtx pubId pubCtx := by
    unfold PubCtx.addReader
    split_ifs <;> rfl
  by_cases hkey : publisherIdKey group.publisherId = publisherIdKey pubId
  · rw [← isPubCtx_congr hkey, find?_updateFirst fun _ => hframe _ _]
    obtain ⟨pubCtx, hpubCtx⟩ := hsome
    rw [hpubCtx, map_some, bind_some, bind_some, find?_addReader]
    simp only [hsecured, hkey, true_and]
  · rw [find?_updateFirst_of_disjoint (fun _ => hframe _ _) (isPubCtx_disjoint hkey),
      if_neg fun h => hkey h.2.1, or_none]

theorem lookupReaderCtx_foldl (groups : List ReaderGroup) (securityCtx : List PubCtx) :
    lookupReaderCtx (groups.foldl addSecurityCtx securityCtx) pubId groupId =
      (lookupReaderCtx securityCtx pubId groupId).or (groups.findSome? (contextFor pubId groupId)) := by
  induction groups generalizing securityCtx with
  | nil => exact (or_none).symm
  | cons group groups ih =>
    rw [foldl_cons, ih, lookupReaderCtx_addSecurityCtx, Option.or_assoc, findSome?_cons]
    cases contextFor pubId groupId group with
    | none => rfl
    | some ctx => rfl

variable {Obj : Type}

theorem securityCtx_foldl_initGroup (groups : List ReaderGroup) (s : Subscriber Obj) :
    (groups.foldl initGroup s).securityCtx = groups.foldl addSecurityCtx s.securityCtx := by
  induction groups generalizing s with
  | nil => rfl
  | cons group groups ih => exact ih (initGroup s group)

/-- Groups with one publisher id and one group id share their security mode and their security
    group. -/
def SharedSecurity (connections : List Connection) : Prop :=
  ∀ g ∈ allGroups connections, ∀ h ∈ allGroups connections,
    publisherIdCompare g.publisherId h.publisherId = true → g.groupId = h.groupId →
      g.securityMode = h.securityMode ∧ g.securityGroupId = h.securityGroupId

/-- A secured group has a security context when the subscriber starts, if it has a security
    group. -/
theorem hasSecurity_start {connections : List Connection} (hshared : SharedSecurity connections)
    {group : ReaderGroup} (hgroup : group ∈ allGroups connections) (hsecured : group.secured = true)
    (hid : group.securityGroupId = some securityGroupId) (answered : String → GroupKeys → Prop) :
    HasSecurity answered group.publisherId group.groupId securityGroupId group.securityMode
      (start Obj connections) := by
  have hlookup : lookupReaderCtx (start Obj connections).securityCtx group.publisherId group.groupId =
      (allGroups connections).findSome? (contextFor group.publisherId group.groupId) := by
    rw [start, securityCtx_foldl_initGroup, lookupReaderCtx_foldl]
    rfl
  -- The group itself would make a context.
  have hown : contextFor group.publisherId group.groupId group =
      some ⟨group.groupId, securityGroupId, ⟨group.securityMode, none, none, 0, false⟩⟩ := by
    rw [contextFor, if_pos ⟨hsecured, rfl, rfl⟩, readerCtxCreate, hid]
    rfl
  have hsome : (contextFor group.publisherId group.groupId group).isSome = true := by
    rw [hown]
    rfl
  obtain ⟨ctx, hctx⟩ := isSome_iff_exists.1 (findSome?_isSome_iff.2 ⟨group, hgroup, hsome⟩)
  obtain ⟨first, hfirst, hmade⟩ := exists_of_findSome?_eq_some hctx
  refine ⟨ctx, hlookup.trans hctx, ?_⟩
  rw [contextFor] at hmade
  split_ifs at hmade with hsame
  obtain ⟨hmode, hsame'⟩ := hshared first hfirst group hgroup
    ((publisherIdCompare_iff _ _).2 hsame.2.1) hsame.2.2
  rw [readerCtxCreate, hsame', hid, map_some] at hmade
  cases hmade
  exact ⟨rfl, hmode, fun keys hkeys => (by cases hkeys)⟩

end

/-! ## What the payload of a message writes -/

section
variable {Obj : Type} {targetConfig : TargetVariableConfig Obj} {sks : KeyService}
  {connection : Connection} {pubId : ConfPublisherId} {groupId : UInt16} {I : Subscriber Obj → Prop}

/-- The target variables that are found are those of the publisher and the group. -/
theorem targetVariable_sameGroup {writerId : UInt16} {s : Subscriber Obj} {target : TargetVariable}
    (h : (subscriberCallbacks targetConfig sks connection).targetVariable pubId groupId writerId s =
      some target) : SameGroup pubId groupId target.pubId target.groupId := by
  obtain ⟨ctx, hctx, rfl⟩ := map_eq_some_iff.1 h
  have hfound := find?_some hctx
  simp only [isWriterCtx, Bool.and_eq_true, decide_eq_true_eq] at hfound
  exact ⟨(publisherIdCompare_iff _ _).1 hfound.2, hfound.1.2⟩

theorem keeps_receiveDsm {target : Option TargetVariable}
    (hwrite : ∀ t, target = some t → ∀ values set s, I s → I (s.write t values set))
    (dsm : DataSetMessage Obj) (reader : DataSetReader) :
    Keeps I (receiveDsm targetConfig dsm reader target) := by
  refine .ite (.pure _) ?_
  refine (Keeps.ofExcept _).bind fun compatible => Keeps.ite ?_ (Keeps.pure _)
  rcases targetConfig with _ | callback
  · exact Keeps.pure _
  rcases target with _ | target
  · exact .pure _
  refine (Keeps.query _).bind fun found => ?_
  rcases found with _ | ctx
  · exact Keeps.pure _
  refine .ite (.pure _) ?_
  rcases callback with _ | callback
  · exact .pure _
  refine (Keeps.ofExcept _).bind fun values => ?_
  exact (Keeps.update fun s => hwrite target rfl _ _ s).bind fun _ => Keeps.pure _

/-- A payload changes the writer contexts, and writes for its publisher and its group. -/
theorem payloadInvariant_subscriber
    (hframe : ∀ s s' : Subscriber Obj, s'.securityCtx = s.securityCtx → s'.written = s.written →
      I s → I s')
    (hwrite : ∀ (s : Subscriber Obj) w, SameGroup pubId groupId w.pubId w.groupId → I s →
      I { s with written := s.written ++ [w] }) :
    PayloadInvariant (subscriberCallbacks targetConfig sks connection) pubId groupId I where
  checkDataSetMessageSN := by
    intro writerId sn s hs
    show I (isWriterSNNewer pubId groupId writerId sn s).2
    unfold isWriterSNNewer
    split
    · exact hs
    split_ifs
    · exact hs
    · exact hframe s _ rfl rfl hs
  updateTimeout := fun writerId s hs => hframe s _ rfl rfl hs
  setDsm := by
    intro dsm reader target htarget
    refine keeps_receiveDsm (fun t ht values set s hs => ?_) dsm reader
    obtain ⟨s', hs'⟩ := htarget t ht
    have hsame := targetVariable_sameGroup hs'
    unfold Subscriber.write
    cases set with
    | false => exact hframe s _ rfl rfl hs
    | true => exact hwrite _ _ hsame (hframe s _ rfl rfl hs)

/-- The calls of the callback since some were made are for a publisher and a group. -/
def WritesFor (written : List (Write Obj)) (pubId : ConfPublisherId) (groupId : UInt16)
    (s : Subscriber Obj) : Prop :=
  ∃ new, s.written = written ++ new ∧ ∀ w ∈ new, SameGroup pubId groupId w.pubId w.groupId

theorem payloadInvariant_writesFor (written : List (Write Obj)) :
    PayloadInvariant (subscriberCallbacks targetConfig sks connection) pubId groupId
      (WritesFor written pubId groupId) := by
  refine payloadInvariant_subscriber ?_ ?_
  · rintro s s' - hwritten ⟨new, hnew, hall⟩
    exact ⟨new, hwritten.trans hnew, hall⟩
  · rintro s w hw ⟨new, hnew, hall⟩
    refine ⟨new ++ [w], by rw [hnew, append_assoc], ?_⟩
    intro w' hw'
    rcases mem_append.1 hw' with h | h
    · exact hall w' h
    · rw [mem_singleton.1 h]
      exact hw

variable {g : SecuredGroup}

/-- What a change of the writer contexts and a lookup of the security keep, and the reset of the
    sequence number of a security. -/
structure StateInvariant (sks : KeyService) (I : Subscriber Obj → Prop) : Prop where
  frame : ∀ s s' : Subscriber Obj, s'.securityCtx = s.securityCtx → s'.written = s.written →
    I s → I s'
  getSecurityInfos : ∀ tokenId pubId groupId s, I s → I (getSecurityInfos sks tokenId pubId groupId s).2
  reset : ∀ pubId groupId s, I s → I (s.updateSecurity pubId groupId fun security =>
    { security with sequenceNumber := 0, sequenceNumberSet := false })

namespace StateInvariant

section

variable (h : StateInvariant sks I)
include h

theorem updateDsmStateError {s : Subscriber Obj} (hs : I s) (index : Nat) :
    I (updateDsmStateError sks s index) := by
  unfold PubSub.updateDsmStateError
  split
  · exact hs
  rename_i ctx hctx
  split_ifs
  · exact hs
  dsimp only
  split
  all_goals
    rename_i found s' heq
    have hs' : I s' := by
      rw [show s' = (PubSub.getSecurityInfos sks 0 ctx.pubId ctx.groupId _).2 from
        (congrArg Prod.snd heq).symm]
      exact h.getSecurityInfos 0 _ _ _ (h.frame s _ rfl rfl hs)
  · exact hs'
  · exact h.reset _ _ _ hs'

theorem setNewStateError {s : Subscriber Obj} (hs : I s) :
    I (setNewStateError sks s) := by
  unfold PubSub.setNewStateError
  split_ifs
  · exact hs
  have hfold (indices : List Nat) : ∀ s, I s → I (indices.foldl (PubSub.updateDsmStateError sks) s) := by
    induction indices with
    | nil => exact fun s hs => hs
    | cons index indices ih => exact fun s hs => ih _ (h.updateDsmStateError hs index)
  exact hfold _ _ (h.frame s _ rfl rfl hs)

theorem timeoutCheck {s : Subscriber Obj} (hs : I s) (index : Nat) :
    I (timeoutCheck sks index s) := by
  unfold PubSub.timeoutCheck
  split
  · exact hs
  split_ifs
  · exact h.updateDsmStateError hs index
  · exact hs

/-- A received message keeps what its decoding keeps. -/
theorem onMessageReceived {cst : EncodingConstants} {objs : ObjectCodec Obj}
    {crypto : CryptoProvider} {buffer : Buffer} {s : Subscriber Obj} (hs : I s)
    (hread : I (exec (readUadp cst objs crypto targetConfig sks connection buffer) s).2) :
    I (onMessageReceived cst objs crypto targetConfig sks connection buffer s).2 := by
  unfold PubSub.onMessageReceived
  split_ifs
  · split
    all_goals
      rename_i heq
      obtain ⟨-, rfl⟩ := Prod.mk.inj heq
    · exact hread
    · exact hread
    · exact h.setNewStateError hread
    · exact hread
  · exact hs

end

end StateInvariant

theorem stateInvariant_written (written : List (Write Obj)) :
    StateInvariant sks fun s : Subscriber Obj => s.written = written where
  frame := fun _ _ _ hwritten hs => hwritten.trans hs
  getSecurityInfos := fun tokenId _ _ s hs => by
    unfold getSecurityInfos
    split
    · exact hs
    · split <;> exact hs
  reset := fun _ _ _ hs => hs

theorem stateInvariant_hasSecurity (hsks : Records g.answered sks) :
    StateInvariant sks fun s : Subscriber Obj =>
      g.Has s where
  frame := fun _ _ hctx _ hs => hs.of_securityCtx_eq hctx
  getSecurityInfos := fun tokenId pubId' groupId' _ hs =>
    (hs.getSecurityInfos hsks tokenId pubId' groupId').1
  reset := fun _ _ _ hs => hs.updateSecurity fun _ _ hkeys => hkeys

end

/-! ## Runs -/

section
variable {Obj : Type} (cst : EncodingConstants) (objs : ObjectCodec Obj) (crypto : CryptoProvider)
  (targetConfig : TargetVariableConfig Obj) {g : SecuredGroup} {s : Subscriber Obj}

/-- The key service during an event. -/
def Event.keyService : Event → KeyService
  | .received sks _ _ => sks
  | .timeout sks _ => sks
  | .resetSequenceNumber _ _ _ => fun _ _ => none

/-- Keys that the key service had for a security group during one of some events. -/
def Answered (events : List Event) (securityGroupId : String) (keys : GroupKeys) : Prop :=
  ∃ event ∈ events, ∃ tokenId, event.keyService securityGroupId tokenId = some keys

theorem HasSecurity.readUadp (hsks : Records g.answered sks)
    (connection : Connection) (buffer : Buffer) (hs : g.Has s) :
    g.Has (exec (readUadp cst objs crypto targetConfig sks connection buffer) s).2 := by
  rcases networkMessageDecode_state cst objs crypto (subscriberCallbacks targetConfig sks connection)
    buffer s with h | ⟨header, group, writers, rest, hdata, hend⟩
  · rw [PubSub.readUadp, h]
    exact hs
  have hsecurity := triple_decodeSecurity cst crypto targetConfig connection hsks header
    ((subscriberCallbacks targetConfig sks connection).groupId group) hdata s hs
  rcases hend with ⟨stop, hstop⟩ | ⟨payload, t, hpayload, hwritten⟩
  · rw [hstop] at hsecurity
    exact hsecurity
  rw [hpayload] at hsecurity
  rw [PubSub.readUadp, hwritten]
  exact (keeps_decodePayload cst objs (payloadInvariant_subscriber
    (fun _ _ hctx _ hs => hs.of_securityCtx_eq hctx) fun _ _ _ hs => hs) writers payload).state hsecurity.1

theorem HasSecurity.step (event : Event) (hsks : Records g.answered event.keyService)
    (hs : g.Has s) : g.Has (s.step cst objs crypto targetConfig event) := by
  cases event with
  | received sks connection buffer =>
    exact (stateInvariant_hasSecurity hsks).onMessageReceived hs
      (hs.readUadp cst objs crypto targetConfig hsks connection buffer)
  | timeout sks index => exact (stateInvariant_hasSecurity hsks).timeoutCheck hs index
  | resetSequenceNumber pubId' groupId' writerId => exact hs.of_securityCtx_eq rfl

theorem HasSecurity.run (events : List Event)
    (hsks : ∀ event ∈ events, Records g.answered event.keyService) (hs : g.Has s) :
    g.Has (events.foldl (Subscriber.step cst objs crypto targetConfig) s) := by
  induction events generalizing s with
  | nil => exact hs
  | cons event events ih =>
    refine ih (fun e he => hsks e (mem_cons_of_mem _ he)) ?_
    exact hs.step cst objs crypto targetConfig event (hsks event (mem_cons_self ..))

/-- The calls of the callback in an event are those of a payload that is authenticated for a
    group, by the keys that were answered until then. -/
def WritesAuthenticated (before : List Event) (s : Subscriber Obj) (event : Event)
    (group : ReaderGroup) : Prop :=
  ∃ sks connection buffer payload securityGroupId header selected writers t,
    event = .received sks connection buffer ∧ group.securityGroupId = some securityGroupId ∧
    Authenticated crypto (Answered (before ++ [event])) securityGroupId group.securityMode buffer
      payload ∧
    t.written = s.written ∧
    (s.step cst objs crypto targetConfig event).written =
      (exec (decodePayload cst objs (subscriberCallbacks targetConfig sks connection) header
        selected writers payload) t).2.written

theorem onMessageReceived_written (sks : KeyService) (connection : Connection) (buffer : Buffer)
    (s : Subscriber Obj) :
    (onMessageReceived cst objs crypto targetConfig sks connection buffer s).2.written = s.written ∨
      (onMessageReceived cst objs crypto targetConfig sks connection buffer s).2.written =
        (exec (readUadp cst objs crypto targetConfig sks connection buffer) s).2.written := by
  unfold onMessageReceived
  split_ifs
  · right
    split
    all_goals
      rename_i heq
      obtain ⟨-, rfl⟩ := Prod.mk.inj heq
    · rfl
    · rfl
    · exact (stateInvariant_written _).setNewStateError rfl
    · rfl
  · exact .inl rfl

theorem decodeSecurity_written (sks : KeyService) (connection : Connection) (header : Header)
    (groupId : UInt16) (position : Nat) (buffer : Buffer) (s : Subscriber Obj) :
    (exec (decodeSecurity cst crypto (subscriberCallbacks targetConfig sks connection) header
      groupId position buffer) s).2.written = s.written := by
  have hinv : StateInvariant sks fun t : Subscriber Obj => t.written = s.written :=
    stateInvariant_written s.written
  have hkept : Keeps (fun t : Subscriber Obj => t.written = s.written)
      (decodeSecurity cst crypto (subscriberCallbacks targetConfig sks connection) header groupId
        position buffer) :=
    keeps_decodeSecurity cst crypto hinv.getSecurityInfos (fun _ _ _ _ ht => ht) header position buffer
  exact hkept.state rfl

/-- An event that writes is a message whose payload is reached. -/
theorem step_written {event : Event} {w : Write Obj}
    (hw : w ∈ (s.step cst objs crypto targetConfig event).written.drop s.written.length) :
    ∃ sks connection buffer header group writers rest payload t,
      event = .received sks connection buffer ∧ rest.data = buffer.data ∧
      exec (decodeSecurity cst crypto (subscriberCallbacks targetConfig sks connection) header
        group.groupId buffer.position rest) s = (.ok payload, t) ∧ t.written = s.written ∧
      (s.step cst objs crypto targetConfig event).written =
        (exec (decodePayload cst objs (subscriberCallbacks targetConfig sks connection) header
          group writers payload) t).2.written ∧
      SameGroup (convertPublisherId header.getPublisherId) group.groupId w.pubId w.groupId := by
  have hnew : (s.step cst objs crypto targetConfig event).written ≠ s.written := by
    intro h
    rw [h, drop_length] at hw
    cases hw
  cases event with
  | timeout sks index => exact absurd ((stateInvariant_written s.written).timeoutCheck rfl index) hnew
  | resetSequenceNumber pubId' groupId' writerId => exact absurd rfl hnew
  | received sks connection buffer =>
    have hstep : (s.step cst objs crypto targetConfig (.received sks connection buffer)).written =
        (exec (readUadp cst objs crypto targetConfig sks connection buffer) s).2.written :=
      (onMessageReceived_written cst objs crypto targetConfig sks connection buffer s).resolve_left hnew
    rcases networkMessageDecode_state cst objs crypto (subscriberCallbacks targetConfig sks connection)
      buffer s with h | ⟨header, group, writers, rest, hdata, hend⟩
    · refine absurd (hstep.trans ?_) hnew
      rw [readUadp, h]
    rcases hend with ⟨stop, hstop⟩ | ⟨payload, t, hpayload, hwritten⟩
    · refine absurd (hstep.trans ?_) hnew
      rw [readUadp, ← decodeSecurity_written cst crypto targetConfig sks connection header
        group.groupId buffer.position rest s]
      exact congrArg (·.2.written) hstop.symm
    have ht : t.written = s.written := by
      rw [← decodeSecurity_written cst crypto targetConfig sks connection header group.groupId
        buffer.position rest s]
      exact congrArg (·.2.written) hpayload.symm
    have hstep' : (s.step cst objs crypto targetConfig (.received sks connection buffer)).written =
        (exec (decodePayload cst objs (subscriberCallbacks targetConfig sks connection) header
          group writers payload) t).2.written := by
      rw [hstep, readUadp, hwritten]
    have hfor : WritesFor s.written (convertPublisherId header.getPublisherId) group.groupId
        (exec (decodePayload cst objs (subscriberCallbacks targetConfig sks connection) header
          group writers payload) t).2 := by
      refine (keeps_decodePayload cst objs (payloadInvariant_writesFor s.written) writers payload).state ?_
      exact ⟨[], by rw [ht, append_nil], fun w hw => (by cases hw)⟩
    refine ⟨sks, connection, buffer, header, group, writers, rest, payload, t, rfl, hdata, hpayload, ht,
      hstep', ?_⟩
    obtain ⟨new, hall, hsame⟩ := hfor
    rw [hstep', hall, drop_left] at hw
    exact hsame w hw

/-- In each step of a run, what is written for a secured group comes from a message that was
    verified with the keys of its security group, and decrypted if its mode asks for it, when the
    secured groups have a security group. -/
theorem secured_writes_authenticated {connections : List Connection}
    (hshared : SharedSecurity connections)
    (hids : ∀ g ∈ allGroups connections, g.secured = true → g.securityGroupId.isSome = true)
    (before : List Event) (event : Event) (w : Write Obj)
    (hw : w ∈ ((before.foldl (Subscriber.step cst objs crypto targetConfig)
        (start Obj connections)).step cst objs crypto targetConfig event).written.drop
      (before.foldl (Subscriber.step cst objs crypto targetConfig)
        (start Obj connections)).written.length)
    (group : ReaderGroup) (hgroup : group ∈ allGroups connections) (hsecured : group.secured = true)
    (hpub : publisherIdCompare w.pubId group.publisherId = true) (hid : w.groupId = group.groupId) :
    WritesAuthenticated cst objs crypto targetConfig before
      (before.foldl (Subscriber.step cst objs crypto targetConfig) (start Obj connections)) event
      group := by
  have hmode : group.securityMode = .sign ∨ group.securityMode = .signAndEncrypt := by
    simpa [ReaderGroup.secured] using hsecured
  obtain ⟨securityGroupId, hsecurityGroup⟩ := Option.isSome_iff_exists.1 (hids group hgroup hsecured)
  -- The context of the group is there from the start on, with keys of its security group.
  have hrecords : ∀ e ∈ before ++ [event], Records (Answered (before ++ [event])) e.keyService :=
    fun e he _ tokenId _ hkeys => ⟨e, he, tokenId, hkeys⟩
  have hstart : SecuredGroup.Has ⟨Answered (before ++ [event]), group.publisherId, group.groupId,
      securityGroupId, group.securityMode, hmode⟩ (start Obj connections) :=
    hasSecurity_start hshared hgroup hsecured hsecurityGroup _
  have hhas := hstart.run cst objs crypto targetConfig before
    fun e he => hrecords e (List.mem_append_left _ he)
  obtain ⟨sks, connection, buffer, header, selected, writers, rest, payload, t, rfl, hdata, hpayload,
    ht, hwritten, hsame⟩ := step_written cst objs crypto targetConfig hw
  have hsks : Records (Answered (before ++ [.received sks connection buffer])) sks :=
    hrecords _ (List.mem_append_right _ (List.mem_singleton_self _))
  have hauth := triple_decodeSecurity cst crypto targetConfig connection hsks header
    selected.groupId hdata _ hhas
  rw [hpayload] at hauth
  refine ⟨sks, connection, buffer, payload, securityGroupId, header, selected, writers, t, rfl,
    hsecurityGroup, hauth.2 ⟨?_, ?_⟩, ht, hwritten⟩
  · rw [← hsame.1]
    exact (publisherIdCompare_iff _ _).1 hpub
  · rw [← hsame.2]
    exact hid

end

/-- There is one group in the sample connection. -/
theorem sharedSecurity_sample (mode : SecurityMode) (securityGroupId : Option String) :
    SharedSecurity [sampleConnection mode securityGroupId] := by
  have hone {g : ReaderGroup} (hg : g ∈ allGroups [sampleConnection mode securityGroupId]) :
      g.securityMode = mode ∧ g.securityGroupId = securityGroupId := by
    simp only [allGroups, sampleConnection, flatMap_cons, flatMap_nil, append_nil,
      mem_singleton] at hg
    rw [hg]
    exact ⟨rfl, rfl⟩
  intro g hg h hh _ _
  exact ⟨(hone hg).1.trans (hone hh).1.symm, (hone hg).2.trans (hone hh).2.symm⟩

/-- The writes of the sample subscriber after an event. -/
def sampleWrites (crypto : CryptoProvider) (securityGroupId : Option String) (event : Event) :
    List (Write Empty) :=
  ((start _ [sampleConnection .sign securityGroupId]).step smallConstants
    (opaqueObjects fun _ _ => false) crypto (some (some fun _ => true)) event).written

/-- A message with the byte 42 that is signed. -/
def signedMessage : Event :=
  .received sampleKeys (sampleConnection .sign (some "group")) (Buffer.attach
    [0xF1, 0x10, 1, 0x01, 1, 0, 1, 1, 0, 0x01, 5, 0, 0, 0, 8, 0, 0, 0, 0, 1, 0, 0, 0, 0x01, 1, 0, 3, 42,
      69] (by decide))

theorem signedMessage_authenticated :
    ∃ w ∈ sampleWrites checksumCrypto (some "group") signedMessage,
      ∃ group ∈ allGroups [sampleConnection .sign (some "group")],
        WritesAuthenticated smallConstants (opaqueObjects fun _ _ => false) checksumCrypto
          (some (some fun _ => true)) [] (start _ [sampleConnection .sign (some "group")])
          signedMessage group := by
  have hlength : 0 < (sampleWrites checksumCrypto (some "group") signedMessage).length := by
    decide +kernel
  have hone : 0 < (allGroups [sampleConnection .sign (some "group")]).length := by decide
  have hsecured : ∀ group ∈ allGroups [sampleConnection .sign (some "group")],
      group.secured = true := by decide
  have hsame : ∀ w ∈ sampleWrites checksumCrypto (some "group") signedMessage,
      ∀ group ∈ allGroups [sampleConnection .sign (some "group")],
        publisherIdCompare w.pubId group.publisherId = true ∧ w.groupId = group.groupId := by
    decide +kernel
  have hw := List.getElem_mem hlength
  have hgroup := List.getElem_mem hone
  refine ⟨_, hw, _, hgroup, ?_⟩
  exact secured_writes_authenticated smallConstants _ checksumCrypto _ (sharedSecurity_sample _ _)
    (by decide) [] signedMessage _ hw _ hgroup (hsecured _ hgroup) (hsame _ hw _ hgroup).1
    (hsame _ hw _ hgroup).2

/-- A provider that verifies no signature. -/
def unverifyingCrypto : CryptoProvider := { checksumCrypto with symmetricVerify := fun _ _ _ => false }

/-- A message with the byte 42 without security. -/
def unsignedMessage : Event :=
  .received sampleKeys (sampleConnection .sign none) (Buffer.attach
    [0x71, 1, 0x01, 1, 0, 1, 1, 0, 0x01, 1, 0, 3, 42] (by decide))

/-- A group with the mode `Sign` and without a security group: the message without security is
    written, although no signature can be verified. -/
theorem unsignedMessage_written :
    SharedSecurity [sampleConnection .sign none] ∧
      (∀ group ∈ allGroups [sampleConnection .sign none], group.secured = true) ∧
      (sampleWrites unverifyingCrypto none unsignedMessage).map (fun w => (w.pubId, w.groupId, w.writerId)) =
        [(.uInteger 1, 1, 1)] ∧
      ∀ security message position,
        securityVerify unverifyingCrypto security message position = false := by
  refine ⟨sharedSecurity_sample _ _, by decide, by decide +kernel, fun security message position => ?_⟩
  unfold securityVerify
  split
  · rfl
  · split_ifs <;> rfl

end S2opc.PubSub
