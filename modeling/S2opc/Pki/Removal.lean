/-
The removal of a certificate from the lists of a PKI.

A removal takes every certificate with the thumbprint out of the lists of one
side and then out of the lists of both sides, with every CRL their authorities
have issued.  `removeCertificate_outcome` says what it leaves; the lists of both
sides are still, up to the order, what the two sides hold (`Consistent`) exactly
if the other side has nothing of what is removed (`Separate`).
-/
import S2opc.Pki.Lists

namespace S2opc.Pki

open Lib.FirstMatch List
open Lib.Stateful
open Lib.Stateful.Action

variable {Cert Crl Thumb : Type} {km : KeyManager Cert Crl Thumb}

/-! ## What a removal takes out of a list -/

section Removal

variable [DecidableEq Thumb] {t : Thumb} {certs certs' : List Cert} {crls crls' : List Crl}

variable (km t certs) in
/-- There is a certificate with the thumbprint. -/
def found : Bool := certs.any (km.hasThumb t)

variable (km t certs) in
/-- There is a certificate authority with the thumbprint. -/
def foundCA : Bool := certs.any fun c => km.hasThumb t c && km.isCA c

variable (km t certs) in
/-- The certificates without the thumbprint. -/
def without : List Cert := certs.filter fun c => !km.hasThumb t c

variable (km t certs) in
/-- A CRL is of a certificate authority with the thumbprint. -/
def revokedBy (x : Crl) : Bool :=
  certs.any fun c => km.hasThumb t c && km.isCA c && km.crlMatch c x

variable (km t certs crls) in
/-- The CRLs that no certificate authority with the thumbprint has issued. -/
def crlsWithout : List Crl := crls.filter fun x => !revokedBy km t certs x

theorem any_perm {p : Cert → Bool} (h : certs.Perm certs') : certs.any p = certs'.any p := by
  rw [Bool.eq_iff_iff, any_eq_true, any_eq_true]
  constructor
  · rintro ⟨c, hc, hp⟩
    exact ⟨c, h.mem_iff.1 hc, hp⟩
  · rintro ⟨c, hc, hp⟩
    exact ⟨c, h.mem_iff.2 hc, hp⟩

theorem crlsWithout_perm (h : certs.Perm certs') :
    crlsWithout km t certs crls = crlsWithout km t certs' crls := by
  unfold crlsWithout revokedBy
  congr 1
  funext x
  rw [any_perm h]

theorem crlsWithout_nil : crlsWithout km t [] crls = crls := by
  simp [crlsWithout, revokedBy]

theorem crlsWithout_append :
    crlsWithout km t (certs ++ certs') crls =
      crlsWithout km t certs' (crlsWithout km t certs crls) := by
  unfold crlsWithout revokedBy
  rw [filter_filter]
  congr 1
  funext x
  rw [any_append, Bool.not_or, Bool.and_comm]

/-- The CRLs of one certificate, and then those of the others. -/
theorem crlsWithout_cons {c : Cert} (h : km.hasThumb t c = true) :
    crlsWithout km t (c :: certs) crls =
      crlsWithout km t certs
        (if km.isCA c then crlListRemoveCrlFromCa km c crls else crls) := by
  rw [show c :: certs = [c] ++ certs from rfl, crlsWithout_append]
  congr 1
  cases hca : km.isCA c with
  | false => simp [crlsWithout, revokedBy, h, hca]
  | true => simp [crlsWithout, revokedBy, h, hca, crlListRemoveCrlFromCa]

theorem without_eraseP : without km t (certs.eraseP (km.hasThumb t)) = without km t certs := by
  unfold without
  induction certs with
  | nil => rfl
  | cons c certs ih =>
    by_cases hc : km.hasThumb t c = true
    · rw [eraseP_cons_of_pos hc, filter_cons_of_neg (by simp [hc])]
    · rw [eraseP_cons_of_neg hc, filter_cons_of_pos (by simp [hc]),
        filter_cons_of_pos (by simp [hc]), ih]

theorem without_of_not_found (h : found km t certs = false) :
    without km t certs = certs := by
  refine filter_eq_self.2 fun c hc => ?_
  rw [found, any_eq_false] at h
  simpa using h c hc

theorem crlsWithout_of_not_found (h : found km t certs = false) :
    crlsWithout km t certs crls = crls := by
  refine filter_eq_self.2 fun x _ => ?_
  rw [found, any_eq_false] at h
  rw [Bool.not_eq_true', revokedBy, any_eq_false]
  intro c hc
  simp [h c hc]

theorem foundCA_of_not_found (h : found km t certs = false) :
    foundCA km t certs = false := by
  rw [found, any_eq_false] at h
  rw [foundCA, any_eq_false]
  intro c hc
  simp [h c hc]

/-- The loop has removed, with enough fuel, all that there was to remove. -/
theorem removeLoop_eq (fuel : Nat) (r : Removal) (hfuel : certs.length < fuel) :
    removeLoop km t fuel r certs crls =
      (⟨r.removed || found km t certs, r.issuer || foundCA km t certs⟩, without km t certs,
        crlsWithout km t certs crls) := by
  induction fuel generalizing r certs crls with
  | zero => exact absurd hfuel (Nat.not_lt_zero _)
  | succ fuel ih =>
    unfold removeLoop removeCertFromSHA1
    cases hfind : certs.find? (km.hasThumb t) with
    | none =>
      have hfound : found km t certs = false := any_eq_false.2 (find?_eq_none.1 hfind)
      rw [without_of_not_found hfound, crlsWithout_of_not_found hfound, hfound,
        foundCA_of_not_found hfound, Bool.or_false, Bool.or_false]
      rfl
    | some c =>
      have hperm := perm_cons_eraseP hfind
      have hc : km.hasThumb t c = true := find?_some hfind
      have hmem : c ∈ certs := mem_of_find?_eq_some hfind
      have hlen : (certs.eraseP (km.hasThumb t)).length < fuel := by
        have := hperm.length_eq
        rw [length_cons] at this
        omega
      show removeLoop km t fuel ⟨true, r.issuer || km.isCA c⟩ _ _ = _
      have hfound : found km t certs = true := any_eq_true.2 ⟨c, hmem, hc⟩
      have hfoundCA : foundCA km t certs =
          (km.isCA c || foundCA km t (certs.eraseP (km.hasThumb t))) := by
        rw [foundCA, any_perm hperm, any_cons, hc, Bool.true_and, ← foundCA]
      rw [ih _ hlen, without_eraseP, crlsWithout_perm hperm, crlsWithout_cons hc, hfound,
        hfoundCA, Bool.true_or, Bool.or_true, Bool.or_assoc]

end Removal

/-! ## Consistent lists -/

/-- The lists of both sides are what the two sides hold. -/
structure Consistent (p : PkiProvider Cert Crl) : Prop where
  allRoots : p.allRoots.Perm (p.trustedRoots ++ p.issuerRoots)
  allCerts : p.allCerts.Perm (p.trustedCerts ++ p.issuerCerts)
  allTrusted : p.allTrusted.Perm (p.trustedRoots ++ p.trustedCerts)
  allCrl : p.allCrl.Perm (p.trustedCrl ++ p.issuerCrl)

variable (km) in
/-- The lists are consistent, and hold authorities where nothing else belongs. -/
structure Inv (p : PkiProvider Cert Crl) : Prop where
  consistent : Consistent p
  trustedRoots : ∀ c ∈ p.trustedRoots, km.isCA c = true
  issuerRoots : ∀ c ∈ p.issuerRoots, km.isCA c = true
  issuerCerts : ∀ c ∈ p.issuerCerts, km.isCA c = true

/-- The certificates of a side that are not roots. -/
def certsOf (isTrusted : Bool) (p : PkiProvider Cert Crl) : List Cert :=
  if isTrusted then p.trustedCerts else p.issuerCerts

/-- The roots of a side. -/
def rootsOf (isTrusted : Bool) (p : PkiProvider Cert Crl) : List Cert :=
  if isTrusted then p.trustedRoots else p.issuerRoots

/-- The CRLs of a side. -/
def crlOf (isTrusted : Bool) (p : PkiProvider Cert Crl) : List Crl :=
  if isTrusted then p.trustedCrl else p.issuerCrl

/-- Consistency, said of one side and the other one. -/
theorem consistent_side {p : PkiProvider Cert Crl} (isTrusted : Bool) :
    Consistent p ↔
      p.allRoots.Perm (rootsOf isTrusted p ++ rootsOf (!isTrusted) p) ∧
      p.allCerts.Perm (certsOf isTrusted p ++ certsOf (!isTrusted) p) ∧
      p.allTrusted.Perm (p.trustedRoots ++ p.trustedCerts) ∧
      p.allCrl.Perm (crlOf isTrusted p ++ crlOf (!isTrusted) p) := by
  cases isTrusted with
  | true => exact ⟨fun h => ⟨h.1, h.2, h.3, h.4⟩, fun h => ⟨h.1, h.2.1, h.2.2.1, h.2.2.2⟩⟩
  | false =>
    constructor
    · intro h
      exact ⟨h.1.trans perm_append_comm, h.2.trans perm_append_comm, h.3,
        h.4.trans perm_append_comm⟩
    · intro h
      exact ⟨h.1.trans perm_append_comm, h.2.1.trans perm_append_comm, h.2.2.1,
        h.2.2.2.trans perm_append_comm⟩

variable [DecidableEq Thumb] {t : Thumb} {p : PkiProvider Cert Crl} {isTrusted : Bool}
  {certs : List Cert}

theorem foundCA_eq_found (h : ∀ c ∈ certs, km.isCA c = true) :
    foundCA km t certs = found km t certs := by
  unfold foundCA found
  rw [Bool.eq_iff_iff, any_eq_true, any_eq_true]
  constructor
  · rintro ⟨c, hc, hp⟩
    exact ⟨c, hc, (Bool.and_eq_true _ _ ▸ hp).1⟩
  · rintro ⟨c, hc, hp⟩
    exact ⟨c, hc, by rw [hp, h c hc]; rfl⟩

theorem without_all {q : Cert → Prop} (h : ∀ c ∈ certs, q c) :
    ∀ c ∈ without km t certs, q c :=
  fun c hc => h c (mem_of_mem_filter hc)

theorem exec_assert (b : Bool) :
    exec (assert b) p = if b then (.ok (), p) else (.error .assertion, p) := by
  cases b with
  | false => rfl
  | true => rfl

theorem exec_removeFrom {slot : Slot Cert Crl}
    (hset : slot.set (slot.certs p) (slot.crls p) p = p) :
    exec (removeFrom km slot (some t)) p =
      (.ok ⟨found km t (slot.certs p), foundCA km t (slot.certs p)⟩,
        slot.set (without km t (slot.certs p))
          (crlsWithout km t (slot.certs p) (slot.crls p)) p) := by
  unfold removeFrom
  rw [exec_bind, exec_query]
  rcases hcerts : slot.certs p with _ | ⟨c, certs⟩
  · rw [crlsWithout_nil, show without km t [] = slot.certs p from hcerts.symm, hset]
    simp [hcerts, found, foundCA]
  simp only [id_eq, hcerts, isEmpty_cons, Bool.false_eq_true, if_false]
  unfold removeCertByThumbprint
  rw [removeLoop_eq _ _ (Nat.lt_succ_self _), Bool.false_or, Bool.false_or]
  rfl

variable (km) in
/-- A thumbprint that is not hexadecimal changes nothing, and only stops what follows. -/
theorem exec_removeFrom_none {α : Type} (slot : Slot Cert Crl)
    (f : Removal → Action (PkiProvider Cert Crl) Stop α) :
    exec (removeFrom km slot none >>= f) p = exec (f ⟨false, false⟩) p ∨
      exec (removeFrom km slot none >>= f) p = (.error (.status .nok), p) := by
  unfold removeFrom
  rw [exec_bind, exec_bind, exec_query]
  by_cases hempty : (slot.certs p).isEmpty = true <;> simp [hempty]

variable (km t) in
/-- The provider once a side has lost the certificates with a thumbprint. -/
def lost (isTrusted : Bool) (p : PkiProvider Cert Crl) : PkiProvider Cert Crl :=
  if isTrusted then
    { p with
      trustedCerts := without km t p.trustedCerts
      trustedRoots := without km t p.trustedRoots
      allTrusted := without km t p.allTrusted
      trustedCrl := crlsWithout km t (p.trustedCerts ++ p.trustedRoots) p.trustedCrl }
  else
    { p with
      issuerCerts := without km t p.issuerCerts
      issuerRoots := without km t p.issuerRoots
      issuerCrl := crlsWithout km t (p.issuerCerts ++ p.issuerRoots) p.issuerCrl }

variable {certs' : List Cert} {crls : List Crl}

theorem exec_removeTrusted (hinv : Inv km p) :
    exec (removeTrusted km (some t)) p =
      (.ok (⟨found km t p.trustedCerts, foundCA km t p.trustedCerts⟩,
        ⟨found km t p.trustedRoots, foundCA km t p.trustedRoots⟩), lost km t true p) := by
  have hall := hinv.consistent.allTrusted
  have hfound : found km t p.allTrusted =
      (found km t p.trustedRoots || found km t p.trustedCerts) := by
    rw [found, any_perm hall, any_append]
    rfl
  have hfoundCA : foundCA km t p.allTrusted =
      (foundCA km t p.trustedCerts || foundCA km t p.trustedRoots) := by
    rw [foundCA, any_perm hall, any_append, Bool.or_comm]
    rfl
  have hcrl : crlsWithout km t p.allTrusted (crlsWithout km t p.trustedRoots
      (crlsWithout km t p.trustedCerts p.trustedCrl)) =
      crlsWithout km t (p.trustedCerts ++ p.trustedRoots) p.trustedCrl := by
    rw [show crlsWithout km t p.trustedRoots (crlsWithout km t p.trustedCerts p.trustedCrl) =
      crlsWithout km t (p.trustedCerts ++ p.trustedRoots) p.trustedCrl from crlsWithout_append.symm]
    rw [crlsWithout_perm (hall.trans perm_append_comm)]
    unfold crlsWithout
    simp only [filter_filter, Bool.and_self]
  unfold removeTrusted lost
  rw [exec_bind_of_ok (exec_removeFrom rfl), exec_bind_of_ok (exec_removeFrom rfl)]
  simp only [trustedCertsSlot, trustedRootsSlot, exec_bind, exec_assert, exec_query,
    foundCA_eq_found hinv.trustedRoots, beq_self_eq_true, if_true]
  rw [exec_removeFrom rfl]
  simp only [allTrustedSlot, hfound, hfoundCA, hcrl, foundCA_eq_found hinv.trustedRoots,
    beq_self_eq_true, Bool.and_self, Bool.or_true, if_true, exec_pure]

theorem exec_removeIssuer (hinv : Inv km p) :
    exec (removeIssuer km (some t)) p =
      (.ok (⟨found km t p.issuerCerts, foundCA km t p.issuerCerts⟩,
        ⟨found km t p.issuerRoots, foundCA km t p.issuerRoots⟩), lost km t false p) := by
  unfold removeIssuer lost
  rw [exec_bind_of_ok (exec_removeFrom rfl)]
  simp only [exec_bind, exec_assert, issuerCertsSlot, foundCA_eq_found hinv.issuerCerts,
    beq_self_eq_true, if_true]
  rw [exec_removeFrom rfl]
  simp only [issuerRootsSlot, exec_pure, foundCA_eq_found hinv.issuerRoots,
    beq_self_eq_true, if_true, Bool.false_eq_true, if_false, crlsWithout_append]

theorem exec_removeSide (hinv : Inv km p) (isTrusted : Bool) :
    exec (removeSide km isTrusted (some t)) p =
      (.ok (⟨found km t (certsOf isTrusted p), foundCA km t (certsOf isTrusted p)⟩,
        ⟨found km t (rootsOf isTrusted p), foundCA km t (rootsOf isTrusted p)⟩),
        lost km t isTrusted p) := by
  cases isTrusted with
  | true => exact exec_removeTrusted hinv
  | false => exact exec_removeIssuer hinv

variable (km t) in
/-- The provider once the lists of both sides have lost the certificates with a thumbprint. -/
def lostByAll (p : PkiProvider Cert Crl) : PkiProvider Cert Crl :=
  { p with
    allCerts := without km t p.allCerts
    allRoots := without km t p.allRoots
    allCrl := crlsWithout km t (p.allCerts ++ p.allRoots) p.allCrl }

variable (km t p) in
/-- The assertions on the removal from the lists of both sides. -/
def removeAllAgrees (cert root : Removal) : Bool :=
  foundCA km t p.allRoots == found km t p.allRoots &&
    ((cert.removed == found km t p.allCerts && cert.issuer == foundCA km t p.allCerts) &&
      (root.removed == found km t p.allRoots && root.issuer == foundCA km t p.allRoots))

theorem exec_removeAll (cert root : Removal) :
    exec (removeAll km (some t) cert root) p =
      (if removeAllAgrees km t p cert root then .ok () else .error .assertion,
        lostByAll km t p) := by
  unfold removeAll removeAllAgrees lostByAll
  rw [exec_bind_of_ok (exec_removeFrom rfl), exec_bind_of_ok (exec_removeFrom rfl)]
  simp only [allCertsSlot, allRootsSlot, exec_bind, exec_assert, ← crlsWithout_append]
  rcases foundCA km t p.allRoots == found km t p.allRoots with _ | _
  · rfl
  rcases cert.removed == found km t p.allCerts && cert.issuer == foundCA km t p.allCerts with _ | _
  · rfl
  cases root.removed == found km t p.allRoots && root.issuer == foundCA km t p.allRoots with
  | false => rfl
  | true => rfl

theorem found_append :
    found km t (certs ++ certs') = (found km t certs || found km t certs') := any_append

theorem lost_of_not_found (hinv : Inv km p)
    (h : found km t (certsOf isTrusted p ++ rootsOf isTrusted p) = false) :
    lost km t isTrusted p = p := by
  rcases isTrusted with _ | _
  · have hcrl : crlsWithout km t (p.issuerCerts ++ p.issuerRoots) p.issuerCrl = p.issuerCrl :=
      crlsWithout_of_not_found h
    rw [found_append, Bool.or_eq_false_iff] at h
    have hcerts : without km t p.issuerCerts = p.issuerCerts := without_of_not_found h.1
    have hroots : without km t p.issuerRoots = p.issuerRoots := without_of_not_found h.2
    simp only [lost, Bool.false_eq_true, if_false, hcerts, hroots, hcrl]
  have hcrl : crlsWithout km t (p.trustedCerts ++ p.trustedRoots) p.trustedCrl = p.trustedCrl :=
    crlsWithout_of_not_found h
  rw [found_append, Bool.or_eq_false_iff] at h
  have hcerts : without km t p.trustedCerts = p.trustedCerts := without_of_not_found h.1
  have hroots : without km t p.trustedRoots = p.trustedRoots := without_of_not_found h.2
  have hall : found km t p.allTrusted = false := by
    rw [found, any_perm hinv.consistent.allTrusted, any_append]
    exact Bool.or_eq_false_iff.2 ⟨h.2, h.1⟩
  simp only [lost, if_true, hcerts, hroots, hcrl, without_of_not_found hall]

/-! ## The condition on a removal -/

variable (km t) in
/-- The other side holds no certificate with the thumbprint, and no CRL of a certificate authority
    that is removed. -/
structure Separate (isTrusted : Bool) (p : PkiProvider Cert Crl) : Prop where
  certs : found km t (certsOf (!isTrusted) p) = false
  roots : found km t (rootsOf (!isTrusted) p) = false
  crls : ∀ x ∈ crlOf (!isTrusted) p,
    revokedBy km t (certsOf isTrusted p ++ rootsOf isTrusted p) x = false

theorem lost_certsOf :
    certsOf isTrusted (lost km t isTrusted p) = without km t (certsOf isTrusted p) := by
  cases isTrusted with
  | true => rfl
  | false => rfl

theorem lost_rootsOf :
    rootsOf isTrusted (lost km t isTrusted p) = without km t (rootsOf isTrusted p) := by
  cases isTrusted with
  | true => rfl
  | false => rfl

theorem lost_crlOf : crlOf isTrusted (lost km t isTrusted p) =
    crlsWithout km t (certsOf isTrusted p ++ rootsOf isTrusted p) (crlOf isTrusted p) := by
  cases isTrusted with
  | true => rfl
  | false => rfl

variable (km t isTrusted p) in
theorem lost_others : certsOf (!isTrusted) (lost km t isTrusted p) = certsOf (!isTrusted) p ∧
    rootsOf (!isTrusted) (lost km t isTrusted p) = rootsOf (!isTrusted) p ∧
    crlOf (!isTrusted) (lost km t isTrusted p) = crlOf (!isTrusted) p := by
  cases isTrusted with
  | _ => exact ⟨rfl, rfl, rfl⟩

variable (km t isTrusted p) in
theorem lost_all : (lost km t isTrusted p).allCerts = p.allCerts ∧
    (lost km t isTrusted p).allRoots = p.allRoots ∧ (lost km t isTrusted p).allCrl = p.allCrl := by
  cases isTrusted with
  | _ => exact ⟨rfl, rfl, rfl⟩

/-- The trusted certificates stay those of the two trusted lists. -/
theorem lost_allTrusted (hinv : Inv km p) :
    (lost km t isTrusted p).allTrusted.Perm
      ((lost km t isTrusted p).trustedRoots ++ (lost km t isTrusted p).trustedCerts) := by
  cases isTrusted with
  | true =>
    have h := hinv.consistent.allTrusted.filter fun c => !km.hasThumb t c
    rw [filter_append] at h
    exact h
  | false => exact hinv.consistent.allTrusted

/-- A list of both sides loses what one side has lost exactly if the other has nothing of it. -/
theorem filter_perm_iff {α : Type} {q : α → Bool} {all l l' : List α} (hall : all.Perm (l ++ l')) :
    (all.filter q).Perm (l.filter q ++ l') ↔ ∀ x ∈ l', q x = true := by
  have hfilter := hall.filter q
  rw [filter_append] at hfilter
  rw [← filter_eq_self]
  constructor
  · intro h
    have hperm := (perm_append_left_iff _).1 (hfilter.symm.trans h)
    exact List.filter_sublist.eq_of_length hperm.length_eq
  · intro h
    rwa [h] at hfilter

theorem without_perm_iff {all : List Cert} (hall : all.Perm (certs ++ certs')) :
    (without km t all).Perm (without km t certs ++ certs') ↔ found km t certs' = false :=
  (filter_perm_iff hall).trans (by simp [found])

theorem crlsWithout_perm_iff {all crls' : List Crl} (hall : all.Perm (crls ++ crls')) :
    (crlsWithout km t certs all).Perm (crlsWithout km t certs crls ++ crls') ↔
      ∀ x ∈ crls', revokedBy km t certs x = false :=
  (filter_perm_iff hall).trans (by simp)

/-- The CRLs of both sides go with the certificates of one side, if the other has none. -/
theorem crlsWithout_all {isTrusted : Bool} (hinv : Inv km p)
    (hcerts : found km t (certsOf (!isTrusted) p) = false)
    (hroots : found km t (rootsOf (!isTrusted) p) = false) :
    crlsWithout km t (p.allCerts ++ p.allRoots) crls =
      crlsWithout km t (certsOf isTrusted p ++ rootsOf isTrusted p) crls := by
  obtain ⟨hr, hc, -, -⟩ := (consistent_side isTrusted).1 hinv.consistent
  rw [crlsWithout_append, crlsWithout_perm hr, crlsWithout_append, crlsWithout_of_not_found hroots,
    crlsWithout_perm hc, crlsWithout_append, crlsWithout_of_not_found hcerts, crlsWithout_append]

theorem consistent_lostByAll_iff (hinv : Inv km p) :
    Consistent (lostByAll km t (lost km t isTrusted p)) ↔ Separate km t isTrusted p := by
  obtain ⟨hroots, hcerts, -, hcrl⟩ := (consistent_side isTrusted).1 hinv.consistent
  obtain ⟨hcerts', hroots', hcrl'⟩ := lost_others km t p isTrusted
  obtain ⟨hac, har, hax⟩ := lost_all km t p isTrusted
  have hiff : Consistent (lostByAll km t (lost km t isTrusted p)) ↔
      (without km t p.allRoots).Perm
        (without km t (rootsOf isTrusted p) ++ rootsOf (!isTrusted) p) ∧
      (without km t p.allCerts).Perm
        (without km t (certsOf isTrusted p) ++ certsOf (!isTrusted) p) ∧
      (lost km t isTrusted p).allTrusted.Perm
        ((lost km t isTrusted p).trustedRoots ++ (lost km t isTrusted p).trustedCerts) ∧
      (crlsWithout km t (p.allCerts ++ p.allRoots) p.allCrl).Perm
        (crlsWithout km t (certsOf isTrusted p ++ rootsOf isTrusted p) (crlOf isTrusted p) ++
          crlOf (!isTrusted) p) := by
    rw [consistent_side isTrusted, ← lost_rootsOf, ← lost_certsOf, ← lost_crlOf, ← hcerts',
      ← hroots', ← hcrl', ← hac, ← har, ← hax]
    rfl
  rw [hiff, without_perm_iff hroots, without_perm_iff hcerts]
  constructor
  · rintro ⟨hfr, hfc, -, hx⟩
    rw [crlsWithout_all hinv hfc hfr] at hx
    exact ⟨hfc, hfr, (crlsWithout_perm_iff hcrl).1 hx⟩
  · rintro ⟨hfc, hfr, hx⟩
    refine ⟨hfr, hfc, lost_allTrusted hinv, ?_⟩
    rw [crlsWithout_all hinv hfc hfr]
    exact (crlsWithout_perm_iff hcrl).2 hx

/-- The assertions hold if the other side holds none of the certificates. -/
theorem removeAllAgrees_of_separate (hinv : Inv km p) (h : Separate km t isTrusted p) :
    removeAllAgrees km t (lost km t isTrusted p)
      ⟨found km t (certsOf isTrusted p), foundCA km t (certsOf isTrusted p)⟩
      ⟨found km t (rootsOf isTrusted p), foundCA km t (rootsOf isTrusted p)⟩ = true := by
  obtain ⟨hroots, hcerts, -, -⟩ := (consistent_side isTrusted).1 hinv.consistent
  obtain ⟨hac, har, -⟩ := lost_all km t p isTrusted
  have hc : found km t p.allCerts = found km t (certsOf isTrusted p) := by
    rw [found, any_perm hcerts, ← found, found_append, h.certs, Bool.or_false]
  have hr : found km t p.allRoots = found km t (rootsOf isTrusted p) := by
    rw [found, any_perm hroots, ← found, found_append, h.roots, Bool.or_false]
  have hcCA : foundCA km t p.allCerts = foundCA km t (certsOf isTrusted p) := by
    rw [foundCA, any_perm hcerts, any_append, ← foundCA, ← foundCA,
      foundCA_of_not_found h.certs, Bool.or_false]
  have hrCA : foundCA km t p.allRoots = foundCA km t (rootsOf isTrusted p) := by
    rw [foundCA, any_perm hroots, any_append, ← foundCA, ← foundCA,
      foundCA_of_not_found h.roots, Bool.or_false]
  have hisCA : ∀ c ∈ rootsOf isTrusted p, km.isCA c = true := by
    cases isTrusted
    exacts [hinv.issuerRoots, hinv.trustedRoots]
  unfold removeAllAgrees
  rw [hac, har, hc, hr, hcCA, hrCA, foundCA_eq_found hisCA]
  simp

/-! ## Removal -/

variable (km) in
/-- The condition on a removal: a thumbprint that a side holds is of no certificate of the other
    side, and its authorities have issued no CRL of the other side. -/
def RemovalSound (p : PkiProvider Cert Crl) (pThumbprint : String) (isTrusted : Bool) : Prop :=
  p.updateCb → pThumbprint.utf8ByteSize = 40 → ∀ t, km.decodeHex pThumbprint = some t →
    found km t (certsOf isTrusted p ++ rootsOf isTrusted p) → Separate km t isTrusted p

/-- What a removal can do: nothing, or to take the certificates out of one side and of the lists
    of both sides. -/
inductive RemovalOutcome (km : KeyManager Cert Crl Thumb) (p : PkiProvider Cert Crl)
    (pThumbprint : String) (isTrusted : Bool) :
    Except Stop (Bool × Bool) → PkiProvider Cert Crl → Prop where
  | nothing {r : Except Stop (Bool × Bool)} (hr : r ≠ .error .assertion)
      (hsound : RemovalSound km p pThumbprint isTrusted) :
      RemovalOutcome km p pThumbprint isTrusted r p
  | removed {r : Except Stop (Bool × Bool)} (t : Thumb)
      (hsound : RemovalSound km p pThumbprint isTrusted ↔ Separate km t isTrusted p)
      (hr : Separate km t isTrusted p → r ≠ .error .assertion) :
      RemovalOutcome km p pThumbprint isTrusted r (lostByAll km t (lost km t isTrusted p))

variable (km p) in
/-- A thumbprint that is not hexadecimal is found nowhere. -/
theorem exec_removeSide_none (isTrusted : Bool) :
    exec (removeSide km isTrusted none) p = (.ok (⟨false, false⟩, ⟨false, false⟩), p) ∨
      exec (removeSide km isTrusted none) p = (.error (.status .nok), p) := by
  cases isTrusted with
  | true =>
    show exec (removeTrusted km none) p = _ ∨ exec (removeTrusted km none) p = _
    unfold removeTrusted
    rcases exec_removeFrom_none km trustedCertsSlot _ with h | h
    · rw [h]
      rcases exec_removeFrom_none km trustedRootsSlot _ with h | h
      · rw [h]
        rcases exec_removeFrom_none km allTrustedSlot _ with h | h
        · refine Or.inl (Eq.trans h ?_)
          simp only [beq_self_eq_true, Bool.or_self, Bool.and_self, Bool.or_true]
          rfl
        · exact Or.inr h
      · exact Or.inr h
    · exact Or.inr h
  | false =>
    show exec (removeIssuer km none) p = _ ∨ exec (removeIssuer km none) p = _
    unfold removeIssuer
    rcases exec_removeFrom_none km issuerCertsSlot _ with h | h
    · rw [h]
      exact exec_removeFrom_none km issuerRootsSlot _
    · exact Or.inr h

theorem removeCertificate_outcome (hinv : Inv km p) (pThumbprint : String) (isTrusted : Bool) :
    RemovalOutcome km p pThumbprint isTrusted
      (exec (removeCertificate km pThumbprint isTrusted) p).1
      (exec (removeCertificate km pThumbprint isTrusted) p).2 := by
  unfold removeCertificate
  rw [exec_bind, exec_query]
  simp only [id_eq]
  by_cases hcb : p.updateCb = true
  swap
  · rw [if_pos (by simpa using hcb)]
    exact .nothing (by simp) fun h => absurd h hcb
  rw [if_neg (by simpa using hcb)]
  by_cases hsize : pThumbprint.utf8ByteSize = 40
  swap
  · rw [if_pos hsize]
    exact .nothing (by simp) fun _ h => absurd h hsize
  rw [if_neg (not_not.2 hsize)]
  cases hdecode : km.decodeHex pThumbprint with
  | none =>
    have hsound : RemovalSound km p pThumbprint isTrusted := by
      intro _ _ t ht
      rw [hdecode] at ht
      cases ht
    rcases exec_removeSide_none km p isTrusted with h | h
    · rw [exec_bind_of_ok h]
      exact .nothing (by simp) hsound
    · rw [exec_bind_of_error h]
      exact .nothing (by simp) hsound
  | some t =>
    have hsound : RemovalSound km p pThumbprint isTrusted ↔
        (found km t (certsOf isTrusted p ++ rootsOf isTrusted p) = true →
          Separate km t isTrusted p) := by
      constructor
      · intro h hfound
        exact h hcb hsize t hdecode hfound
      · intro h _ _ t' ht' hfound
        obtain rfl : t = t' := Option.some.inj (hdecode.symm.trans ht')
        exact h hfound
    rw [exec_bind_of_ok (exec_removeSide hinv isTrusted)]
    show RemovalOutcome km p pThumbprint isTrusted
      (exec (if found km t (certsOf isTrusted p) || found km t (rootsOf isTrusted p) then _
        else _) _).1
      (exec (if found km t (certsOf isTrusted p) || found km t (rootsOf isTrusted p) then _
        else _) _).2
    rw [← found_append]
    rcases hfound : found km t (certsOf isTrusted p ++ rootsOf isTrusted p) with _ | _
    · rw [if_neg (by decide), lost_of_not_found hinv hfound]
      refine .nothing (by simp) (hsound.2 fun h => ?_)
      rw [hfound] at h
      cases h
    rw [hfound] at hsound
    rw [if_pos rfl, exec_bind, exec_removeAll]
    cases hagrees : removeAllAgrees km t (lost km t isTrusted p)
        ⟨found km t (certsOf isTrusted p), foundCA km t (certsOf isTrusted p)⟩
        ⟨found km t (rootsOf isTrusted p), foundCA km t (rootsOf isTrusted p)⟩ with
    | true =>
      exact .removed t (hsound.trans ⟨fun h => h rfl, fun h _ => h⟩) fun _ => by simp
    | false =>
      refine .removed t (hsound.trans ⟨fun h => h rfl, fun h _ => h⟩) fun h => ?_
      rw [removeAllAgrees_of_separate hinv h] at hagrees
      cases hagrees

end S2opc.Pki
