/-
The permissions of a session on a node.

Permissions are sets of bits, and merging them is a union: an operation is
authorized by what was merged if it is by one of the permissions.  The two
accumulators are reset before they are used, so what they hold from an earlier
role, node or user never counts.  `permissionsExact_iff` says when the
permissions that are computed are those the roles of the session carry.
-/
import S2opc.Authorization.Permissions

namespace S2opc.Authorization

open AddressSpace List Option
open Lib.Stateful
open Lib.Stateful.Action

variable {Id : Type} [DecidableEq Id]

/-! ## Permissions as bits -/

/-- The number of the bit of an operation. -/
def Operation.bit : Operation → Nat
  | .read => 5
  | .write => 6
  | .executable => 12
  | .addNode => 16
  | .receiveEvents => 11
  | .deleteNode => 15
  | .historyRead => 7

theorem permission_eq_twoPow (op : Operation) :
    op.permission.toBitVec = BitVec.twoPow 32 op.bit := by
  cases op <;> decide

theorem isOperationAuthorized_eq (permissions : UInt32) (op : Operation) :
    isOperationAuthorized permissions op = permissions.toBitVec.getLsbD op.bit := by
  have hne : BitVec.twoPow 32 op.bit ≠ 0 := by
    cases op <;> decide
  rw [isOperationAuthorized, Bool.eq_iff_iff, decide_eq_true_iff, ← UInt32.toBitVec_inj,
    UInt32.toBitVec_and, permission_eq_twoPow, BitVec.and_twoPow]
  split_ifs with hbit
  · exact ⟨fun _ => hbit, fun _ => rfl⟩
  · exact ⟨fun h => absurd h.symm hne, fun h => absurd h hbit⟩

theorem isOperationAuthorized_or (a b : UInt32) (op : Operation) :
    isOperationAuthorized (a ||| b) op =
      (isOperationAuthorized a op || isOperationAuthorized b op) := by
  rw [isOperationAuthorized_eq, isOperationAuthorized_eq, isOperationAuthorized_eq,
    UInt32.toBitVec_or, BitVec.getLsbD_or]

theorem isOperationAuthorized_zero (op : Operation) : isOperationAuthorized 0 op = false := by
  cases op <;> decide

/-! ## The accumulators -/

/-- Permissions give a role the permission of an operation. -/
def carries (permissions : List (RolePermission Id)) (op : Operation) (role : Id) : Bool :=
  permissions.any fun r => decide (role = r.roleId) && isOperationAuthorized r.permissions op

theorem exec_addPermissionsOfRole (role : Id) (permissions : List (RolePermission Id))
    (st : Statics Id) :
    ∃ merged, exec (addPermissionsOfRole role (permissions.map some)) st =
        (.ok (), { st with rolePermissions := merged }) ∧
      ∀ op, isOperationAuthorized merged op =
        (isOperationAuthorized st.rolePermissions op || carries permissions op role) := by
  induction permissions generalizing st with
  | nil => exact ⟨st.rolePermissions, rfl, fun op => (Bool.or_false _).symm⟩
  | cons r rest ih =>
    rw [map_cons, addPermissionsOfRole, exec_bind, exec_update]
    by_cases hrole : role = r.roleId
    · obtain ⟨merged, hexec, hmerged⟩ :=
        ih { st with rolePermissions := st.rolePermissions ||| r.permissions }
      refine ⟨merged, ?_, ?_⟩
      · simp only [if_pos hrole]
        exact hexec
      · intro op
        rw [hmerged op, isOperationAuthorized_or, Bool.or_assoc, carries, carries, any_cons,
          decide_eq_true hrole, Bool.true_and]
    · obtain ⟨merged, hexec, hmerged⟩ := ih st
      refine ⟨merged, ?_, ?_⟩
      · simp only [if_neg hrole]
        exact hexec
      · intro op
        rw [hmerged op, carries, carries, any_cons, decide_eq_false hrole, Bool.false_and,
          Bool.false_or]

/-- The permissions of a role depend on nothing that was computed before, and leave nothing. -/
theorem exec_getPermissionsOfRole (role : Id) (permissions : List (RolePermission Id))
    (st : Statics Id) :
    ∃ merged, exec (getPermissionsOfRole role (permissions.map some)) st =
        (.ok merged, { st with rolePermissions := 0 }) ∧
      ∀ op, isOperationAuthorized merged op = carries permissions op role := by
  obtain ⟨merged, hexec, hmerged⟩ :=
    exec_addPermissionsOfRole role permissions { st with rolePermissions := 0 }
  refine ⟨merged, ?_, ?_⟩
  · rw [getPermissionsOfRole, exec_bind, exec_update]
    show exec (addPermissionsOfRole role (permissions.map some) >>= _) _ = _
    rw [exec_bind_of_ok hexec]
    rfl
  · intro op
    rw [hmerged op]
    show (isOperationAuthorized 0 op || _) = _
    rw [isOperationAuthorized_zero, Bool.false_or]

/-- The permissions of the roles are merged into those of the user. -/
theorem exec_addUserPermissions (permissions : List (RolePermission Id)) (roles : List Id)
    (st : Statics Id) :
    ∃ merged p, exec (addUserPermissions (permissions.map some) roles) st =
        (.ok (), { st with userPermissions := merged, rolePermissions := p }) ∧
      ∀ op, isOperationAuthorized merged op =
        (isOperationAuthorized st.userPermissions op || roles.any (carries permissions op)) := by
  induction roles generalizing st with
  | nil => exact ⟨st.userPermissions, st.rolePermissions, rfl, fun op => (Bool.or_false _).symm⟩
  | cons role roles ih =>
    obtain ⟨ofRole, hrole, hcarries⟩ := exec_getPermissionsOfRole role permissions st
    obtain ⟨merged, p, hexec, hmerged⟩ :=
      ih { st with rolePermissions := 0, userPermissions := st.userPermissions ||| ofRole }
    refine ⟨merged, p, ?_, ?_⟩
    · rw [addUserPermissions, exec_bind_of_ok hrole, exec_bind, exec_update]
      exact hexec
    · intro op
      rw [hmerged op, isOperationAuthorized_or, hcarries, any_cons, Bool.or_assoc]

variable {permissions : List (Option (RolePermission Id))}

theorem addPermissionsOfRole_stops (role : Id) (h : none ∈ permissions) (st : Statics Id) :
    ∃ e st', exec (addPermissionsOfRole role permissions) st = (.error e, st') := by
  induction permissions generalizing st with
  | nil => cases h
  | cons r rest ih =>
    rcases r with _ | r
    · exact ⟨.nullPointer, st, rfl⟩
    rcases mem_cons.1 h with h | h
    · cases h
    · rw [addPermissionsOfRole, exec_bind, exec_update]
      exact ih h _

/-- A permission that is missing in the copy stops the server as soon as there is a role. -/
theorem addUserPermissions_stops (h : none ∈ permissions) {roles : List Id} (hroles : roles ≠ [])
    (st : Statics Id) :
    ∃ e st', exec (addUserPermissions permissions roles) st = (.error e, st') := by
  rcases roles with _ | ⟨role, roles⟩
  · exact absurd rfl hroles
  obtain ⟨e, st', hstop⟩ := addPermissionsOfRole_stops role h { st with rolePermissions := 0 }
  refine ⟨e, st', ?_⟩
  rw [addUserPermissions]
  apply exec_bind_of_error
  rw [getPermissionsOfRole, exec_bind, exec_update]
  exact exec_bind_of_error hstop

/-! ## The permissions of a user on a node -/

variable {permissions : List (RolePermission Id)} {st : Statics Id}

section

variable (k : Constants Id) (space : Space Id)

omit [DecidableEq Id] in
theorem fillVariantFromRolePermissions_eq_some {copying : Copying}
    {copy : List (Option (RolePermission Id))}
    (h : fillVariantFromRolePermissions copying permissions = some copy) (hall : none ∉ copy) :
    copy = permissions.map some := by
  unfold fillVariantFromRolePermissions at h
  split at h
  · cases h
    apply ext_getElem
    · simp
    · intro i hi hi'
      have hmem := getElem_mem hi
      rw [getElem_mapIdx] at hmem ⊢
      rw [getElem_map]
      by_cases helement : copying.element i = true
      · rw [if_pos helement]
      · rw [if_neg helement] at hmem
        exact absurd hmem hall
  · cases h

/-- The copy of the permissions of a node serves the decision as they would: it has them all if
    there is a role, or the defaults that replace it decide the same. -/
def CopySound (request : OperationRequest Id) (defaults : List (RolePermission Id))
    (roles : List Id) : Prop :=
  match ownRolePermissions space request.nodeId with
  | some own =>
    match fillVariantFromRolePermissions request.copying own with
    | some copy => roles = [] ∨ none ∉ copy
    | none => roles.any (carries defaults request.operation) =
        roles.any (carries own request.operation)
  | none => True

variable {request : OperationRequest Id}

theorem exec_readAddressSpaceUserRolePermissions (roles : List Id) (h : exec
      (readRolePermissionsOrDefault k space request.copying request.nodeId) { st with
      userPermissions := 0 } = (.ok (permissions.map some), { st with userPermissions := 0 })) :
    ∃ merged p, exec (readAddressSpaceUserRolePermissions k space request.copying request.nodeId
        (some roles)) st =
          (.ok merged, { st with userPermissions := 0, rolePermissions := p }) ∧
      isOperationAuthorized merged request.operation =
        roles.any (carries permissions request.operation) := by
  obtain ⟨merged, p, hexec, hmerged⟩ :=
    exec_addUserPermissions permissions roles { st with userPermissions := 0 }
  refine ⟨merged, p, ?_, ?_⟩
  · rw [readAddressSpaceUserRolePermissions, exec_bind, exec_update]
    show exec (readRolePermissionsOrDefault k space request.copying request.nodeId >>= _) _ = _
    rw [exec_bind_of_ok h]
    show exec (addUserPermissions (permissions.map some) roles >>= _) _ = _
    rw [exec_bind_of_ok hexec]
    rfl
  · rw [hmerged]
    show (isOperationAuthorized 0 _ || _) = _
    rw [isOperationAuthorized_zero, Bool.false_or]

variable {t : List (Option (List (RolePermission Id)))} {defaults : List (RolePermission Id)}

/-- The permissions that are read for a node. -/
def effectivePermissions (request : OperationRequest Id) (defaults : List (RolePermission Id)) :
    List (Option (RolePermission Id)) :=
  ((ownRolePermissions space request.nodeId).bind
    (fillVariantFromRolePermissions request.copying)).getD (defaults.map some)

omit [DecidableEq Id] in
theorem exec_readRolePermissionsOrDefault (ht : st.defaultRolePermissions = some t)
    (hdefaults : t[k.namespaceIndex request.nodeId]? = some (some defaults)) :
    exec (readRolePermissionsOrDefault k space request.copying request.nodeId) st =
      (.ok (effectivePermissions space request defaults), st) := by
  unfold readRolePermissionsOrDefault effectivePermissions
  cases (ownRolePermissions space request.nodeId).bind
      (fillVariantFromRolePermissions request.copying) with
  | some copy => rfl
  | none =>
    show exec (getDefaultRolePermissionsAtIdx _ >>= _) st = _
    rw [getDefaultRolePermissionsAtIdx, exec_bind, exec_bind, exec_query]
    simp only [ht, hdefaults]
    rfl

/-- The permissions computed for a session authorize an operation exactly when a role of the
    session carries its permission. -/
def PermissionsExact (request : OperationRequest Id) (defaults : List (RolePermission Id))
    (roles : Option (List Id)) (st : Statics Id) : Prop :=
  ∃ merged, (exec (readAddressSpaceUserRolePermissions k space request.copying request.nodeId
      roles) st).1 = .ok merged ∧
    isOperationAuthorized merged request.operation = (roles.getD []).any
      (carries ((ownRolePermissions space request.nodeId).getD defaults) request.operation)

section

variable {request : OperationRequest Id} {st : Statics Id}
  {t : List (Option (List (RolePermission Id)))} {defaults : List (RolePermission Id)}
  (ht : st.defaultRolePermissions = some t)
  (hdefaults : t[k.namespaceIndex request.nodeId]? = some (some defaults))

include ht hdefaults

omit [DecidableEq Id] in
theorem exec_readRolePermissions_start :
    exec (readRolePermissionsOrDefault k space request.copying request.nodeId)
        { st with userPermissions := 0 } =
      (.ok (effectivePermissions space request defaults), { st with userPermissions := 0 }) :=
  exec_readRolePermissionsOrDefault k space ht hdefaults

/-- Without a list of roles, the server stops. -/
theorem not_permissionsExact_none : ¬ PermissionsExact k space request defaults none st := by
  rintro ⟨merged, h, -⟩
  have hstop : exec (readAddressSpaceUserRolePermissions k space request.copying request.nodeId
      none) st = (.error .assertionFailed, { st with userPermissions := 0 }) := by
    rw [readAddressSpaceUserRolePermissions, exec_bind, exec_update]
    exact exec_bind_of_ok (exec_readRolePermissions_start k space ht hdefaults)
  rw [hstop] at h
  cases h

/-- Permissions that were all read decide as they say. -/
theorem permissionsExact_iff_of_read (roles : List Id)
    (h : effectivePermissions space request defaults = permissions.map some) :
    PermissionsExact k space request defaults (some roles) st ↔
      roles.any (carries permissions request.operation) = roles.any
        (carries ((ownRolePermissions space request.nodeId).getD defaults) request.operation) := by
  have hread := exec_readRolePermissions_start k space ht hdefaults
  rw [h] at hread
  obtain ⟨merged, p, hexec, hmerged⟩ := exec_readAddressSpaceUserRolePermissions k space roles hread
  unfold PermissionsExact
  rw [hexec]
  constructor
  · rintro ⟨merged', heq, hauthorized⟩
    cases heq
    exact hmerged.symm.trans hauthorized
  · intro heq
    exact ⟨merged, rfl, hmerged.trans heq⟩

/-- With a permission that is missing, only a session without a role goes through. -/
theorem permissionsExact_iff_of_missing (roles : List Id)
    (h : none ∈ effectivePermissions space request defaults) :
    PermissionsExact k space request defaults (some roles) st ↔ roles = [] := by
  have hread := exec_readRolePermissions_start k space ht hdefaults
  have hexec : exec (readAddressSpaceUserRolePermissions k space request.copying request.nodeId
      (some roles)) st = exec (addUserPermissions (effectivePermissions space request defaults)
        roles >>= fun _ => step fun st => (st.userPermissions, { st with userPermissions := 0 }))
        { st with userPermissions := 0 } := by
    rw [readAddressSpaceUserRolePermissions, exec_bind, exec_update]
    exact exec_bind_of_ok hread
  unfold PermissionsExact
  rw [hexec]
  constructor
  · rintro ⟨merged, heq, -⟩
    by_contra hroles
    obtain ⟨e, st', hstop⟩ := addUserPermissions_stops h hroles { st with userPermissions := 0 }
    rw [exec_bind_of_error hstop] at heq
    cases heq
  · rintro rfl
    exact ⟨0, rfl, isOperationAuthorized_zero request.operation⟩

/-- The permissions of a session on a node are exact if and only if there is a list of roles, and
    the copy of the permissions of the node is sound. -/
theorem permissionsExact_iff (roles : Option (List Id)) :
    PermissionsExact k space request defaults roles st ↔
      ∃ rs, roles = some rs ∧ CopySound space request defaults rs := by
  rcases roles with _ | rs
  · constructor
    · intro h
      exact absurd h (not_permissionsExact_none k space ht hdefaults)
    · rintro ⟨rs, h, -⟩
      cases h
  rw [show (∃ rs', some rs = some rs' ∧ CopySound space request defaults rs') ↔
    CopySound space request defaults rs by simp]
  unfold CopySound
  rcases hown : ownRolePermissions space request.nodeId with _ | own
  · have heffective : effectivePermissions space request defaults = defaults.map some := by
      rw [effectivePermissions, hown]
      rfl
    rw [permissionsExact_iff_of_read k space ht hdefaults rs heffective, hown]
    exact iff_of_true rfl trivial
  rcases hfill : fillVariantFromRolePermissions request.copying own with _ | copy
  · have heffective : effectivePermissions space request defaults =
        defaults.map some := by
      rw [effectivePermissions, hown, bind_some, hfill]
      rfl
    rw [permissionsExact_iff_of_read k space ht hdefaults rs heffective, hown]
    simp only [hfill, getD_some]
  have heffective : effectivePermissions space request defaults = copy := by
    rw [effectivePermissions, hown, bind_some, hfill]
    rfl
  by_cases hall : none ∈ copy
  · rw [permissionsExact_iff_of_missing k space ht hdefaults rs
      (by rw [heffective]; exact hall)]
    simp only [hfill, hall, not_true_eq_false, or_false]
  rw [fillVariantFromRolePermissions_eq_some hfill hall] at heffective
  rw [permissionsExact_iff_of_read k space ht hdefaults rs heffective, hown]
  simp only [hfill, hall, not_false_eq_true, or_true, getD_some]

end

end

end S2opc.Authorization
