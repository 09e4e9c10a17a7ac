/-
The rejected certificates of a PKI (`pki_mbedtls.c`).

A certificate that is not valid is kept in a linked list, the oldest one at its
head, until it is accepted or until the list is full and it is the oldest one.
The list is a bounded queue without repetitions, and an update of the trust list
copies it.
-/
import S2opc.Pki.Lists

namespace S2opc.Pki

open List

/-! ## Certificates and their list -/

/-- A certificate as it was loaded: `certificate_check_length` bounds its DER form. -/
@[ext]
structure Certificate where
  raw : List UInt8
  raw_ne_nil : raw ≠ []
  length_raw_le : raw.length ≤ 4294967295

instance : DecidableEq Certificate := fun a b =>
  decidable_of_iff (a.raw = b.raw) Certificate.ext_iff.symm

/-- `SOPC_PKI_MAX_NB_CERT_REJECTED`. -/
def maxNbCertRejected : Nat := 10

variable (list rejected : List Certificate) (cert : Certificate)

/-- `SOPC_KeyManager_CertificateList_FindCertInList`. -/
def findCertInList : Bool :=
  list.any fun haystack => haystack.raw == cert.raw

/-- `SOPC_KeyManager_Certificate_CreateOrAddFromDER`, for what was parsed before. -/
def createOrAddFromDER : List Certificate := list ++ [cert]

/-- `SOPC_KeyManager_Certificate_Copy`. -/
def certificateCopy : List Certificate := list.foldl createOrAddFromDER []

/-- `sopc_remove_cert_from_list`, with the certificates before the current one, the nearest first,
    and those after it. -/
def removeCertFromList : List Certificate → List Certificate → List Certificate
  | [], [] => []
  -- The next certificate is copied into the head
  | [], next :: rest => next :: rest
  | prev :: before, next => (prev :: before).reverse ++ next

-- The subject that the library finds in a certificate
variable (subjectRaw : Certificate → List UInt8)

/-- The loop of `sopc_pki_remove_rejected_cert`. -/
def removeRejectedLoop (before : List Certificate) : List Certificate → List Certificate
  | [] => before.reverse
  | cur :: next =>
    if subjectRaw cert = subjectRaw cur ∧ cert.raw = cur.raw then removeCertFromList before next
    else removeRejectedLoop (cur :: before) next

/-- `sopc_pki_remove_rejected_cert`. -/
def removeRejectedCert : List Certificate := removeRejectedLoop cert subjectRaw [] rejected

/-- `SOPC_PKIProvider_AddCertToRejectedList`, whose status is only logged. -/
def addCertToRejectedList : List Certificate :=
  if 4294967295 < cert.raw.length then rejected
  else if findCertInList rejected cert then rejected
  else createOrAddFromDER
    (if rejected.length = maxNbCertRejected then rejected.tail else rejected) cert

/-! ## Validations and updates -/

/-- A call of `SOPC_PKIProviderInternal_ValidateProfileAndCertificate`, with what is read of the
    certificate and of the profile, and the errors of the checks. -/
structure Validation where
  toValidate : List Certificate
  /-- `cert_is_self_signed`, unless it fails. -/
  selfSigned : Option Bool
  isCA : Bool
  maxPathlen : Nat
  backwardInteroperability : Bool
  applyLeafProfile : Bool
  /-- `SOPC_PKIProvider_CheckLeafCertificate`. -/
  leafError : Option UInt32
  /-- `sopc_validate_certificate`. -/
  chainError : Option UInt32

/-- What a validation says of a certificate, if it comes to say something. -/
inductive Verdict where
  | none
  | accepted (cert : Certificate)
  | rejected (cert : Certificate) (error : UInt32)

/-- The checks of `SOPC_PKIProviderInternal_ValidateProfileAndCertificate`, the first error being
    kept. -/
def Validation.verdict (v : Validation) : Verdict :=
  match v.toValidate, v.selfSigned with
  | [cert], some selfSigned =>
    let constraints := !v.isCA || selfSigned && v.backwardInteroperability && v.maxPathlen == 1
    -- SOPC_CertificateValidationError_UseNotAllowed
    let useError := if constraints then Option.none else some 0x80180000
    let leafError := if v.applyLeafProfile then v.leafError else Option.none
    match (useError.or leafError).or v.chainError with
    | some error => .rejected cert error
    | Option.none => .accepted cert
  | _, _ => .none

/-- What a verdict does to the rejected list. -/
def afterVerdict : Verdict → List Certificate
  | .none => rejected
  | .accepted cert => removeRejectedCert rejected cert subjectRaw
  | .rejected cert _ => addCertToRejectedList rejected cert

/-- A provider with its rejected list. -/
structure Provider (Crl : Type) where
  lists : PkiProvider Certificate Crl
  rejected : List Certificate

/-- What happens to a provider. -/
inductive ProviderEvent (Crl : Type) where
  | validate (v : Validation)
  | update (lists : TrustList Certificate Crl) (includeExistingList : Bool)

variable {Crl Thumb : Type} (km : KeyManager Certificate Crl Thumb) (maxNbCertAndCrl : Nat)

/-- A validation, or `SOPC_PKIProvider_UpdateFromList`. -/
def Provider.step (p : Provider Crl) : ProviderEvent Crl → Provider Crl
  | .validate v => { p with rejected := afterVerdict p.rejected subjectRaw v.verdict }
  | .update lists includeExistingList =>
    match updateFromList km maxNbCertAndCrl p.lists lists includeExistingList with
    | .error _ => p
    | .ok updated => ⟨updated, certificateCopy p.rejected⟩

/-! ## The bounded queue -/

/-- A certificate enters a queue that has at most so many certificates, unless it is there. -/
def enter (queue : List Certificate) (cert : Certificate) : List Certificate :=
  if cert ∈ queue then queue
  else if queue.length < maxNbCertRejected then queue ++ [cert]
  else queue.tail ++ [cert]

/-- What happens to the queue. -/
def queueStep (queue : List Certificate) : ProviderEvent Crl → List Certificate
  | .validate v =>
    match v.verdict with
    | .none => queue
    | .accepted cert => queue.filter (· ≠ cert)
    | .rejected cert _ => enter queue cert
  | .update _ _ => queue

variable {rejected cert}

/-- No certificate is there twice, and there are not too many. -/
structure Bounded (queue : List Certificate) : Prop where
  nodup : queue.Nodup
  length_le : queue.length ≤ maxNbCertRejected

/-- A certificate that enters a full queue takes the room of the oldest one. -/
theorem Bounded.enter (h : Bounded rejected) (cert : Certificate) :
    Bounded (enter rejected cert) := by
  have hpos : 0 < maxNbCertRejected := by decide
  have hle := h.length_le
  unfold Pki.enter
  split_ifs with hmem hlt
  · exact h
  · rw [← concat_eq_append]
    exact ⟨h.nodup.concat hmem, by rw [length_concat]; exact hlt⟩
  · rw [← concat_eq_append]
    refine ⟨h.nodup.tail.concat fun hin => hmem (mem_of_mem_tail hin), ?_⟩
    rw [length_concat, length_tail]
    omega

theorem Bounded.queueStep (h : Bounded rejected) (event : ProviderEvent Crl) :
    Bounded (queueStep rejected event) := by
  cases event with
  | update lists includeExistingList => exact h
  | validate v =>
    unfold Pki.queueStep
    dsimp only
    cases v.verdict with
    | none => exact h
    | accepted cert => exact ⟨h.nodup.filter _, (length_filter_le _ _).trans h.length_le⟩
    | rejected cert error => exact h.enter cert

end S2opc.Pki
