/-
The lists of a PKI.

`SOPC_PKIProvider` keeps the trusted and the issuer certificates, each with the
roots apart, their CRLs, and the lists that put both sides together, which the
validation of a certificate uses.  A provider is created from lists, updated
from lists, with the existing ones or without, and a certificate is removed
from one of its two sides by its thumbprint; a certificate authority goes with
its CRLs.  The functions are those of `sopc_pki_stack.c`, and the removal from
one list is that of `key_manager_mbedtls.c`.

What is known of a certificate is given by a `KeyManager`: whether it is a
certificate authority, whether it is signed by itself, its thumbprint, and which
CRLs it has issued.  A linked list that is null is the empty list.
-/
import S2opc.Lib.FirstMatch
import S2opc.Lib.Stateful

namespace S2opc.Pki

open Lib.Stateful
open Lib.Stateful.Action

/-- `SOPC_ReturnStatus`, as far as these functions return it. -/
inductive Status where
  | ok
  | nok
  | invalidParameters
  | invalidState
  deriving DecidableEq, Repr

/-- How the removal ends without a result. -/
inductive Stop where
  | status (s : Status)
  | assertion
  deriving DecidableEq, Repr

/-- What the cryptographic library says of certificates and CRLs. -/
structure KeyManager (Cert Crl Thumb : Type) where
  /-- `ca_istrue`. -/
  isCA : Cert → Bool
  /-- `cert_is_self_signed`. -/
  selfSigned : Cert → Bool
  /-- The SHA-1 of a certificate. -/
  thumbprint : Cert → Thumb
  /-- `sopc_key_manager_check_crl_ca_match`. -/
  crlMatch : Cert → Crl → Bool
  /-- `SOPC_HelperDecode_Hex`. -/
  decodeHex : String → Option Thumb

/-- The lists of `SOPC_PKIProvider`, and whether there is an update callback. -/
structure PkiProvider (Cert Crl : Type) where
  trustedRoots : List Cert
  trustedCerts : List Cert
  trustedCrl : List Crl
  issuerRoots : List Cert
  issuerCerts : List Cert
  issuerCrl : List Crl
  allCerts : List Cert
  allRoots : List Cert
  allTrusted : List Cert
  allCrl : List Crl
  updateCb : Bool
  isPermissive : Bool
  deriving DecidableEq, Repr

/-- The lists a provider is created or updated from. -/
structure TrustList (Cert Crl : Type) where
  trustedCerts : List Cert
  trustedCrl : List Crl
  issuerCerts : List Cert
  issuerCrl : List Crl
  deriving DecidableEq, Repr

variable {Cert Crl Thumb : Type} (km : KeyManager Cert Crl Thumb)

/-! ## Creation and update -/

/-- `sopc_pki_get_list_length`. -/
def getListLength (lists : TrustList Cert Crl) : Except Status Nat :=
  let lenTot := lists.trustedCerts.length + lists.trustedCrl.length + lists.issuerCerts.length +
    lists.issuerCrl.length
  if 4294967295 < lenTot then .error .invalidState else .ok lenTot

/-- `sopc_pki_check_lists`, without its warnings. -/
def checkLists (lists : TrustList Cert Crl) : Except Status Unit :=
  if lists.trustedCerts.isEmpty then .error .invalidParameters
  else if lists.issuerCerts.countP km.isCA ≠ lists.issuerCerts.length then
    .error .invalidParameters
  else .ok ()

/-- A root is a certificate authority that has signed itself. -/
def KeyManager.isRoot (c : Cert) : Bool := km.isCA c && km.selfSigned c

/-- `SOPC_PKIProviderInternal_SplitRootFromCertList`: the roots, and the others. -/
def splitRootFromCertList (certs : List Cert) : List Cert × List Cert := certs.partition km.isRoot

/-- `SOPC_PKIProvider_CreateFromList`, with `SOPC_PKI_MAX_NB_CERT_AND_CRL`. -/
def createFromList (maxNbCertAndCrl : Nat) (lists : TrustList Cert Crl) :
    Except Status (PkiProvider Cert Crl) := do
  let listLength ← getListLength lists
  if maxNbCertAndCrl < listLength then .error .invalidParameters
  else do
    checkLists km lists
    let trusted := splitRootFromCertList km lists.trustedCerts
    let issuer := splitRootFromCertList km lists.issuerCerts
    pure
      { trustedRoots := trusted.1
        trustedCerts := trusted.2
        trustedCrl := lists.trustedCrl
        issuerRoots := issuer.1
        issuerCerts := issuer.2
        issuerCrl := lists.issuerCrl
        allCerts := issuer.2 ++ trusted.2
        allRoots := issuer.1 ++ trusted.1
        allTrusted := lists.trustedCerts
        allCrl := lists.issuerCrl ++ lists.trustedCrl
        updateCb := false
        isPermissive := false }

/-- `SOPC_PKIPermissive_Create`. -/
def permissiveCreate : PkiProvider Cert Crl where
  trustedRoots := []
  trustedCerts := []
  trustedCrl := []
  issuerRoots := []
  issuerCerts := []
  issuerCrl := []
  allCerts := []
  allRoots := []
  allTrusted := []
  allCrl := []
  updateCb := false
  isPermissive := true

variable (pki : PkiProvider Cert Crl)

/-- The certificates without the roots, and the CRLs. -/
def PkiProvider.existing : TrustList Cert Crl where
  trustedCerts := pki.trustedCerts
  trustedCrl := pki.trustedCrl
  issuerCerts := pki.issuerCerts
  issuerCrl := pki.issuerCrl

/-- `sopc_pki_check_list_length`: too many certificates are only logged here. -/
def checkListLength (lists : TrustList Cert Crl)
    (includeExistingList : Bool) : Except Status Unit := do
  let _ ← if includeExistingList then getListLength pki.existing else pure 0
  let _ ← getListLength lists
  pure ()

/-- The existing lists with those of the update. -/
def PkiProvider.merged (lists : TrustList Cert Crl) :
    TrustList Cert Crl where
  trustedCerts := pki.trustedRoots ++ (pki.trustedCerts ++ lists.trustedCerts)
  trustedCrl := pki.trustedCrl ++ lists.trustedCrl
  issuerCerts := pki.issuerRoots ++ (pki.issuerCerts ++ lists.issuerCerts)
  issuerCrl := pki.issuerCrl ++ lists.issuerCrl

/-- `SOPC_PKIProvider_UpdateFromList`: the provider that takes the place of the existing one. -/
def updateFromList (maxNbCertAndCrl : Nat) (pki : PkiProvider Cert Crl) (lists : TrustList Cert Crl)
    (includeExistingList : Bool) : Except Status (PkiProvider Cert Crl) :=
  if !pki.updateCb then .error .invalidState
  else do
    checkListLength pki lists includeExistingList
    let created ← createFromList km maxNbCertAndCrl
      (if includeExistingList && !pki.isPermissive then pki.merged lists else lists)
    pure { created with updateCb := true }

/-! ## Removal -/

/-- Whether a certificate was removed, and was a certificate authority. -/
structure Removal where
  removed : Bool
  issuer : Bool
  deriving DecidableEq, Repr

/-- `sopc_key_manager_crl_list_remove_crl_from_ca`. -/
def crlListRemoveCrlFromCa (ca : Cert) (crls : List Crl) : List Crl :=
  crls.filter fun x => !km.crlMatch ca x

variable [DecidableEq Thumb]

/-- A certificate has a thumbprint. -/
def KeyManager.hasThumb (t : Thumb) (c : Cert) : Bool := km.thumbprint c == t

/-- `SOPC_KeyManager_CertificateList_RemoveCertFromSHA1`: the first certificate with the
    thumbprint is removed, and its CRLs if it is a certificate authority. -/
def removeCertFromSHA1 (t : Thumb) (certs : List Cert) (crls : List Crl) :
    Removal × List Cert × List Crl :=
  match certs.find? (km.hasThumb t) with
  | none => (⟨false, false⟩, certs, crls)
  | some c =>
    (⟨true, km.isCA c⟩, certs.eraseP (km.hasThumb t),
      if km.isCA c then crlListRemoveCrlFromCa km c crls else crls)

/-- The loop that removes a certificate as long as there is one, `fuel` times at most. -/
def removeLoop (t : Thumb) : Nat → Removal → List Cert → List Crl → Removal × List Cert × List Crl
  | 0, r, certs, crls => (r, certs, crls)
  | fuel + 1, r, certs, crls =>
    match removeCertFromSHA1 km t certs crls with
    | (r', certs', crls') =>
      if r'.removed then removeLoop t fuel ⟨true, r.issuer || r'.issuer⟩ certs' crls'
      else (r, certs', crls')

/-- `sopc_pki_remove_cert_by_thumbprint` on a list that is not empty. -/
def removeCertByThumbprint (t : Thumb) (certs : List Cert) (crls : List Crl) :
    Removal × List Cert × List Crl :=
  removeLoop km t (certs.length + 1) ⟨false, false⟩ certs crls

/-- A list of certificates of a provider, with the CRLs that go with it. -/
structure Slot (Cert Crl : Type) where
  certs : PkiProvider Cert Crl → List Cert
  crls : PkiProvider Cert Crl → List Crl
  set : List Cert → List Crl → PkiProvider Cert Crl → PkiProvider Cert Crl

def trustedCertsSlot : Slot Cert Crl where
  certs := PkiProvider.trustedCerts
  crls := PkiProvider.trustedCrl
  set c x p := { p with trustedCerts := c, trustedCrl := x }

def trustedRootsSlot : Slot Cert Crl where
  certs := PkiProvider.trustedRoots
  crls := PkiProvider.trustedCrl
  set c x p := { p with trustedRoots := c, trustedCrl := x }

def allTrustedSlot : Slot Cert Crl where
  certs := PkiProvider.allTrusted
  crls := PkiProvider.trustedCrl
  set c x p := { p with allTrusted := c, trustedCrl := x }

def issuerCertsSlot : Slot Cert Crl where
  certs := PkiProvider.issuerCerts
  crls := PkiProvider.issuerCrl
  set c x p := { p with issuerCerts := c, issuerCrl := x }

def issuerRootsSlot : Slot Cert Crl where
  certs := PkiProvider.issuerRoots
  crls := PkiProvider.issuerCrl
  set c x p := { p with issuerRoots := c, issuerCrl := x }

def allCertsSlot : Slot Cert Crl where
  certs := PkiProvider.allCerts
  crls := PkiProvider.allCrl
  set c x p := { p with allCerts := c, allCrl := x }

def allRootsSlot : Slot Cert Crl where
  certs := PkiProvider.allRoots
  crls := PkiProvider.allCrl
  set c x p := { p with allRoots := c, allCrl := x }

/-- The certificates with a thumbprint removed from a list of the provider, which is left alone
    when it is empty; a thumbprint that is not hexadecimal is an error otherwise. -/
def removeFrom (slot : Slot Cert Crl) (thumb : Option Thumb) :
    Action (PkiProvider Cert Crl) Stop Removal := do
  let pki ← query id
  if (slot.certs pki).isEmpty then pure ⟨false, false⟩
  else
    match thumb with
    | none => throw (.status .nok)
    | some t => do
        let result := removeCertByThumbprint km t (slot.certs pki) (slot.crls pki)
        update (slot.set result.2.1 result.2.2)
        pure result.1

/-- `SOPC_ASSERT`. -/
def assert (b : Bool) : Action (PkiProvider Cert Crl) Stop Unit :=
  if b then pure () else throw .assertion

variable (thumb : Option Thumb)

/-- The removal from the trusted lists: from the certificates, and from the roots. -/
def removeTrusted :
    Action (PkiProvider Cert Crl) Stop (Removal × Removal) := do
  let cert ← removeFrom km trustedCertsSlot thumb
  let root ← removeFrom km trustedRootsSlot thumb
  assert (root.issuer == root.removed)
  let before ← query PkiProvider.allTrusted
  let all ← removeFrom km allTrustedSlot thumb
  assert (before.isEmpty || (all.removed == (root.removed || cert.removed) &&
    all.issuer == (cert.issuer || root.issuer)))
  pure (cert, root)

/-- The removal from the issuer lists. -/
def removeIssuer :
    Action (PkiProvider Cert Crl) Stop (Removal × Removal) := do
  let cert ← removeFrom km issuerCertsSlot thumb
  assert (cert.issuer == cert.removed)
  let root ← removeFrom km issuerRootsSlot thumb
  assert (root.issuer == root.removed)
  pure (cert, root)

/-- The removal from the lists of both sides, compared with the one it follows. -/
def removeAll (cert root : Removal) :
    Action (PkiProvider Cert Crl) Stop Unit := do
  let allCert ← removeFrom km allCertsSlot thumb
  let allRoot ← removeFrom km allRootsSlot thumb
  assert (allRoot.issuer == allRoot.removed)
  assert (cert.removed == allCert.removed && cert.issuer == allCert.issuer)
  assert (root.removed == allRoot.removed && root.issuer == allRoot.issuer)

/-- The side a certificate is removed from. -/
def removeSide (isTrusted : Bool) (thumb : Option Thumb) :
    Action (PkiProvider Cert Crl) Stop (Removal × Removal) :=
  if isTrusted then removeTrusted km thumb else removeIssuer km thumb

/-- `SOPC_PKIProvider_RemoveCertificate`: whether a certificate is removed, and is an issuer. -/
def removeCertificate (pThumbprint : String) (isTrusted : Bool) :
    Action (PkiProvider Cert Crl) Stop (Bool × Bool) := do
  let pki ← query id
  if !pki.updateCb then throw (.status .invalidState)
  else if pThumbprint.utf8ByteSize ≠ 40 then throw (.status .invalidParameters)
  else do
    let side ← removeSide km isTrusted (km.decodeHex pThumbprint)
    if side.1.removed || side.2.removed then do
      removeAll km (km.decodeHex pThumbprint) side.1 side.2
      pure (true, side.1.issuer || side.2.issuer)
    else pure (false, false)

end S2opc.Pki
