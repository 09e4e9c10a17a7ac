/-
The lists of a PKI stay consistent.

Creation and update make the lists of both sides from those of the two sides.
A removal keeps them so exactly if it is sound: the other side holds no
certificate with the thumbprint, and no CRL of an authority that is removed.
Then no assertion of the removal fails either, and the other side loses nothing.
-/
import S2opc.Lib.Run
import S2opc.Pki.Removal

namespace S2opc.Pki

open Lib.Run List Option
open Lib.Stateful
open Lib.Stateful.Action

variable {Cert Crl Thumb : Type} {km : KeyManager Cert Crl Thumb} [DecidableEq Thumb] {t : Thumb}
  {p : PkiProvider Cert Crl} {isTrusted : Bool}

/-! ## Runs -/

/-- A call of the interface of a PKI provider. -/
inductive Op (Cert Crl : Type) where
  | permissiveCreate
  | createFromList (lists : TrustList Cert Crl)
  | setUpdateCb
  | updateFromList (lists : TrustList Cert Crl) (includeExistingList : Bool)
  | removeCertificate (pThumbprint : String) (isTrusted : Bool)

/-- `SOPC_PKIProvider_SetUpdateCb`: the callback that is set first is kept. -/
def setUpdateCb (p : PkiProvider Cert Crl) : PkiProvider Cert Crl := { p with updateCb := true }

variable (km) in
/-- The provider after a call, if there is one.  A creation that fails gives none. -/
def step (maxNbCertAndCrl : Nat) (s : Option (PkiProvider Cert Crl)) :
    Op Cert Crl → Option (PkiProvider Cert Crl)
  | .permissiveCreate => some permissiveCreate
  | .createFromList lists => (createFromList km maxNbCertAndCrl lists).toOption
  | .setUpdateCb => s.map setUpdateCb
  | .updateFromList lists includeExistingList =>
    s.map fun p =>
      ((updateFromList km maxNbCertAndCrl p lists includeExistingList).toOption).getD p
  | .removeCertificate pThumbprint isTrusted =>
    s.map fun p => (exec (removeCertificate km pThumbprint isTrusted) p).2

variable (km) in
/-- What is asked of a call: the lists of both sides are those of the two sides after it; and a
    removal ends without an assertion that fails, and leaves what the other side holds in the
    lists of both sides. -/
structure Obeys (maxNbCertAndCrl : Nat) (s : Option (PkiProvider Cert Crl)) (op : Op Cert Crl) :
    Prop where
  consistent : ∀ p, step km maxNbCertAndCrl s op = some p → Consistent p
  noAssertion : ∀ p pThumbprint isTrusted, s = some p →
    op = .removeCertificate pThumbprint isTrusted →
    (exec (removeCertificate km pThumbprint isTrusted) p).1 ≠ .error .assertion
  others : ∀ p p' pThumbprint isTrusted, s = some p →
    op = .removeCertificate pThumbprint isTrusted → step km maxNbCertAndCrl s op = some p' →
    (rootsOf (!isTrusted) p).Subperm p'.allRoots ∧ (certsOf (!isTrusted) p).Subperm p'.allCerts ∧
      (crlOf (!isTrusted) p).Subperm p'.allCrl

variable (km) in
/-- The condition on a call. -/
def Sound (s : Option (PkiProvider Cert Crl)) (op : Op Cert Crl) : Prop :=
  ∀ p pThumbprint isTrusted, s = some p → op = .removeCertificate pThumbprint isTrusted →
    RemovalSound km p pThumbprint isTrusted

omit [DecidableEq Thumb] in
theorem splitRootFromCertList_perm (certs : List Cert) :
    certs.Perm ((splitRootFromCertList km certs).1 ++ (splitRootFromCertList km certs).2) := by
  rw [splitRootFromCertList, partition_eq_filter_filter]
  exact (filter_append_perm km.isRoot certs).symm

omit [DecidableEq Thumb] in
theorem splitRootFromCertList_roots (certs : List Cert) :
    ∀ c ∈ (splitRootFromCertList km certs).1, km.isCA c = true := by
  intro c hc
  rw [splitRootFromCertList, partition_eq_filter_filter] at hc
  have hroot : (km.isCA c && km.selfSigned c) = true := (mem_filter.1 hc).2
  exact (Bool.and_eq_true _ _ ▸ hroot).1

omit [DecidableEq Thumb] in
theorem splitRootFromCertList_certs {certs : List Cert} :
    ∀ c ∈ (splitRootFromCertList km certs).2, c ∈ certs := by
  intro c hc
  rw [splitRootFromCertList, partition_eq_filter_filter] at hc
  exact mem_of_mem_filter hc

variable {lists : TrustList Cert Crl}

omit [DecidableEq Thumb] in
theorem checkLists_issuer (h : checkLists km lists = .ok ()) :
    ∀ c ∈ lists.issuerCerts, km.isCA c = true := by
  unfold checkLists at h
  by_cases hempty : lists.trustedCerts.isEmpty = true
  · rw [if_pos hempty] at h
    cases h
  rw [if_neg hempty] at h
  by_cases hcount : lists.issuerCerts.countP km.isCA = lists.issuerCerts.length
  · exact countP_eq_length.1 hcount
  · rw [if_pos hcount] at h
    cases h

variable {maxNbCertAndCrl : Nat}

omit [DecidableEq Thumb] in
theorem createFromList_inv (h : createFromList km maxNbCertAndCrl lists = .ok p) : Inv km p := by
  unfold createFromList at h
  rcases hlength : getListLength lists with e | listLength
  · rw [hlength] at h
    cases h
  rw [hlength] at h
  change (if maxNbCertAndCrl < listLength then _ else _) = _ at h
  by_cases hmax : maxNbCertAndCrl < listLength
  · rw [if_pos hmax] at h
    cases h
  rw [if_neg hmax] at h
  rcases hcheck : checkLists km lists with e | u
  · rw [hcheck] at h
    cases h
  rw [hcheck] at h
  cases h
  have hissuer := checkLists_issuer hcheck
  exact ⟨⟨perm_append_comm, perm_append_comm, splitRootFromCertList_perm _,
    perm_append_comm⟩, splitRootFromCertList_roots _, splitRootFromCertList_roots _,
    fun c hc => hissuer c (splitRootFromCertList_certs c hc)⟩

omit [DecidableEq Thumb] in
theorem updateFromList_inv {p' : PkiProvider Cert Crl} {includeExistingList : Bool}
    (h : updateFromList km maxNbCertAndCrl p lists includeExistingList = .ok p') : Inv km p' := by
  unfold updateFromList at h
  by_cases hcb : (!p.updateCb) = true
  · rw [if_pos hcb] at h
    cases h
  rw [if_neg hcb] at h
  rcases hlength : checkListLength p lists includeExistingList with e | u
  · rw [hlength] at h
    cases h
  rw [hlength] at h
  cases hcreate : createFromList km maxNbCertAndCrl
      (if includeExistingList && !p.isPermissive then p.merged lists else lists) with
  | error e =>
    rw [hcreate] at h
    cases h
  | ok created =>
    rw [hcreate] at h
    cases h
    have hinv := createFromList_inv hcreate
    exact ⟨⟨hinv.consistent.allRoots, hinv.consistent.allCerts, hinv.consistent.allTrusted,
      hinv.consistent.allCrl⟩, hinv.trustedRoots, hinv.issuerRoots, hinv.issuerCerts⟩

/-- What each side holds is in the lists of both sides. -/
theorem Consistent.subperm (h : Consistent p) (isTrusted : Bool) :
    (rootsOf isTrusted p).Subperm p.allRoots ∧ (certsOf isTrusted p).Subperm p.allCerts ∧
      (crlOf isTrusted p).Subperm p.allCrl := by
  obtain ⟨hroots, hcerts, -, hcrl⟩ := (consistent_side isTrusted).1 h
  exact ⟨(sublist_append_left _ _).subperm.trans hroots.symm.subperm,
    (sublist_append_left _ _).subperm.trans hcerts.symm.subperm,
    (sublist_append_left _ _).subperm.trans hcrl.symm.subperm⟩

theorem inv_lost (hinv : Inv km p) (h : Separate km t isTrusted p) :
    Inv km (lostByAll km t (lost km t isTrusted p)) := by
  refine ⟨(consistent_lostByAll_iff hinv).2 h, ?_, ?_, ?_⟩
  · cases isTrusted with
    | true => exact without_all hinv.trustedRoots
    | false => exact hinv.trustedRoots
  · cases isTrusted with
    | true => exact hinv.issuerRoots
    | false => exact without_all hinv.issuerRoots
  · cases isTrusted with
    | true => exact hinv.issuerCerts
    | false => exact without_all hinv.issuerCerts

/-- The lists of a provider, if there is one, are as they should be. -/
def StateInv (km : KeyManager Cert Crl Thumb) (s : Option (PkiProvider Cert Crl)) : Prop :=
  ∀ p, s = some p → Inv km p

variable {s : Option (PkiProvider Cert Crl)} {op : Op Cert Crl}

/-- A call that is not a removal keeps the invariant. -/
theorem inv_step_of_not_removal {n : Nat} (hinv : StateInv km s)
    (hop : ∀ pThumbprint isTrusted, op ≠ .removeCertificate pThumbprint isTrusted) :
    StateInv km (step km n s op) := by
  intro p hp
  cases op with
  | permissiveCreate =>
    cases hp
    exact ⟨⟨.refl _, .refl _, .refl _, .refl _⟩, by simp [permissiveCreate],
      by simp [permissiveCreate], by simp [permissiveCreate]⟩
  | createFromList lists =>
    rcases hcreate : createFromList km n lists with e | created
    · rw [step, hcreate] at hp
      cases hp
    rw [step, hcreate] at hp
    cases hp
    exact createFromList_inv hcreate
  | setUpdateCb =>
    obtain ⟨p₀, hp₀, rfl⟩ := map_eq_some_iff.1 hp
    have h := hinv p₀ hp₀
    exact ⟨⟨h.consistent.allRoots, h.consistent.allCerts, h.consistent.allTrusted,
      h.consistent.allCrl⟩, h.trustedRoots, h.issuerRoots, h.issuerCerts⟩
  | updateFromList lists includeExistingList =>
    obtain ⟨p₀, hp₀, rfl⟩ := map_eq_some_iff.1 hp
    cases hupdate : updateFromList km n p₀ lists includeExistingList with
    | error e => exact hinv p₀ hp₀
    | ok p' => exact updateFromList_inv hupdate
  | removeCertificate pThumbprint isTrusted => exact absurd rfl (hop pThumbprint isTrusted)

theorem obeys_removal_iff (hinv : Inv km p) (pThumbprint : String) (isTrusted : Bool) :
    Obeys km maxNbCertAndCrl (some p) (.removeCertificate pThumbprint isTrusted) ↔
      RemovalSound km p pThumbprint isTrusted := by
  have hout := removeCertificate_outcome hinv pThumbprint isTrusted
  generalize hexec : exec (removeCertificate km pThumbprint isTrusted) p = result at hout
  obtain ⟨r, p'⟩ := result
  have hstep : step km maxNbCertAndCrl (some p) (.removeCertificate pThumbprint isTrusted) =
      some p' := by
    rw [step, map_some, hexec]
  -- it is enough that the lists are consistent, the other side is as it was and no assertion fails
  have hobeys : Consistent p' → r ≠ .error .assertion →
      (rootsOf (!isTrusted) p' = rootsOf (!isTrusted) p ∧
        certsOf (!isTrusted) p' = certsOf (!isTrusted) p ∧
        crlOf (!isTrusted) p' = crlOf (!isTrusted) p) →
      Obeys km maxNbCertAndCrl (some p) (.removeCertificate pThumbprint isTrusted) := by
    rintro hconsistent hr ⟨hroots, hcerts, hcrl⟩
    refine ⟨?_, ?_, ?_⟩
    · intro q hq
      obtain rfl := Option.some.inj (hstep.symm.trans hq)
      exact hconsistent
    · rintro q _ _ hq heq
      cases hq
      cases heq
      rw [hexec]
      exact hr
    · rintro q q' _ _ hq heq hq'
      cases hq
      cases heq
      obtain rfl := Option.some.inj (hstep.symm.trans hq')
      rw [← hroots, ← hcerts, ← hcrl]
      exact hconsistent.subperm (!isTrusted)
  rcases hout with ⟨hr, hsound⟩ | ⟨t, hsound, hr⟩
  · exact ⟨fun _ => hsound, fun _ => hobeys hinv.consistent hr ⟨rfl, rfl, rfl⟩⟩
  rw [hsound]
  constructor
  · intro h
    exact (consistent_lostByAll_iff hinv).1 (h.consistent _ hstep)
  · intro h
    obtain ⟨hcerts, hroots, hcrl⟩ := lost_others km t p isTrusted
    exact hobeys ((consistent_lostByAll_iff hinv).2 h) (hr h) ⟨hroots, hcerts, hcrl⟩

/-- A call that is not a removal obeys, and is sound. -/
theorem obeys_of_not_removal (hinv : StateInv km s)
    (hop : ∀ pThumbprint isTrusted, op ≠ .removeCertificate pThumbprint isTrusted) :
    Obeys km maxNbCertAndCrl s op ↔ Sound km s op := by
  have hstep := inv_step_of_not_removal (n := maxNbCertAndCrl) hinv hop
  constructor
  · intro _ p pThumbprint isTrusted _ heq
    exact absurd heq (hop pThumbprint isTrusted)
  · intro _
    refine ⟨fun p hp => (hstep p hp).consistent, ?_, ?_⟩
    · intro p pThumbprint isTrusted _ heq
      exact absurd heq (hop pThumbprint isTrusted)
    · intro p p' pThumbprint isTrusted _ heq
      exact absurd heq (hop pThumbprint isTrusted)

theorem obeys_iff_sound (hinv : StateInv km s) : Obeys km maxNbCertAndCrl s op ↔ Sound km s op := by
  cases op with
  | removeCertificate pThumbprint isTrusted =>
    rcases s with _ | p
    · exact ⟨fun _ p _ _ h => (by cases h), fun _ => ⟨fun p h => (by cases h),
        fun p _ _ h => (by cases h), fun p p' _ _ h => (by cases h)⟩⟩
    rw [obeys_removal_iff (hinv p rfl)]
    constructor
    · intro h q _ _ hq heq
      cases hq
      cases heq
      exact h
    · intro h
      exact h p pThumbprint isTrusted rfl rfl
  | _ => exact obeys_of_not_removal hinv (by simp)

theorem inv_step (hinv : StateInv km s) (hobeys : Obeys km maxNbCertAndCrl s op) :
    StateInv km (step km maxNbCertAndCrl s op) := by
  cases op with
  | removeCertificate pThumbprint isTrusted =>
    intro p' hp'
    obtain ⟨p, rfl, rfl⟩ := map_eq_some_iff.1 hp'
    have hp := hinv p rfl
    have hout := removeCertificate_outcome hp pThumbprint isTrusted
    have hconsistent := hobeys.consistent _ hp'
    generalize exec (removeCertificate km pThumbprint isTrusted) p = result at hout hconsistent ⊢
    obtain ⟨r, p'⟩ := result
    cases hout with
    | nothing hr hsound => exact hp
    | removed t hsound hr =>
      exact inv_lost hp ((consistent_lostByAll_iff hp).1 hconsistent)
  | _ => exact inv_step_of_not_removal hinv (by simp)

/-- The lists of both sides are those of the two sides all along a run, no assertion fails and
    nothing of the other side is lost, if and only if each removal is sound. -/
theorem pkiLists_consistent_iff (km : KeyManager Cert Crl Thumb) (maxNbCertAndCrl : Nat)
    (ops : List (Op Cert Crl)) :
    EveryStep (step km maxNbCertAndCrl) (Obeys km maxNbCertAndCrl) none ops ↔
      EveryStep (step km maxNbCertAndCrl) (Sound km) none ops :=
  everyStep_iff_everyStep (fun _ _ hinv hobeys => inv_step hinv hobeys)
    (fun _ _ hinv => obeys_iff_sound hinv) (fun _ h => (by cases h))

/-- Certificates that are intermediate authorities, with a number as thumbprint. -/
def numberedCerts : KeyManager Nat Nat Nat where
  isCA _ := true
  selfSigned _ := false
  thumbprint c := c
  crlMatch ca x := ca == x
  decodeHex _ := some 7

/-- A text of the length of a thumbprint. -/
def fortyDigits : String := "0000000000000000000000000000000000000007"

/-- The authority 7 is on both sides with its CRL, and is removed from one side and then from the
    other one. -/
def removedTwice : List (Op Nat Nat) :=
  [.createFromList ⟨[7], [7], [7], [7]⟩, .setUpdateCb, .removeCertificate fortyDigits true,
    .removeCertificate fortyDigits false]

/-- The issuer list still holds the authority and its CRL after the first removal, the lists of both
    sides do not; an assertion fails in the second removal. -/
theorem certificate_on_both_sides_lost :
    (((removedTwice.take 3).foldl (step numberedCerts 10) none).map fun p =>
        (p.issuerCerts, p.issuerCrl, p.allCerts, p.allCrl)) = some ([7], [7], [], []) ∧
      (((removedTwice.take 3).foldl (step numberedCerts 10) none).map fun p =>
        (exec (removeCertificate numberedCerts fortyDigits false) p).1) =
          some (.error .assertion) ∧
      ¬EveryStep (step numberedCerts 10) (Obeys numberedCerts 10) none removedTwice := by
  refine ⟨by decide +kernel, by decide +kernel, ?_⟩
  rintro ⟨-, -, -, hobeys, -⟩
  have hstate : ((removedTwice.take 3).foldl (step numberedCerts 10) none).map (fun p =>
      (exec (removeCertificate numberedCerts fortyDigits false) p).1) =
        some (.error .assertion) := by
    decide +kernel
  obtain ⟨p, hp, hr⟩ := Option.map_eq_some_iff.1 hstate
  exact hobeys.noAssertion p fortyDigits false hp rfl hr

end S2opc.Pki
