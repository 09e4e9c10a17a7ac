/-
The authorization of an operation (`address_space_authorization_i.imp`,
`address_space_user_permissions_i.imp`, `role_permissions_value_eval_i.imp`,
`address_space_namespaces_metadata_i.imp`).

The application callback is asked first.  If the namespace of the node has
default role permissions, the permissions of the node, or else these defaults,
are merged over the roles of the session, and the operation needs its permission
among them.

What the machines keep between two calls is a `Statics`: the table of the default
permissions, which is computed once, the accumulator of the permissions of a
user, that of the permissions of a role, and the roles of the user whose request
is treated.
-/
import S2opc.Lib.Stateful
import S2opc.Authorization.Roles

namespace S2opc.Authorization

open AddressSpace
open BuiltinTypes
open Lib.Scan
open Lib.Stateful
open Lib.Stateful.Action

variable {Id : Type} [DecidableEq Id]

/-! ## Operations and permissions -/

/-- `t_operation_type`. -/
inductive Operation where
  | read
  | write
  | executable
  | addNode
  | receiveEvents
  | deleteNode
  | historyRead
  deriving DecidableEq, Repr

/-- The bit of `OpcUa_PermissionType` for an operation. -/
def Operation.permission : Operation → UInt32
  | .read => 32
  | .write => 64
  | .executable => 4096
  | .addNode => 65536
  | .receiveEvents => 2048
  | .deleteNode => 32768
  | .historyRead => 128

/-- `is_operation_authorized`. -/
def isOperationAuthorized (permissions : UInt32) (operation : Operation) : Bool :=
  permissions &&& operation.permission = operation.permission

/-- `SOPC_UserWithAuthorization`: the user behind a pointer. -/
structure User where
  pointer : Nat
  identity : UserIdentity
  deriving DecidableEq, Repr

/-- What is kept between calls: `a_defaultRolePermissions` with `isInit`, the two
    `mergedPermissions`, `a_set_user_i` and `a_set_roles_i`.  A table is `none` before it is
    allocated. -/
structure Statics (Id : Type) where
  isInit : Bool
  defaultRolePermissions : Option (List (Option (List (RolePermission Id))))
  userPermissions : UInt32
  rolePermissions : UInt32
  setUser : Option Nat
  setRoles : Option (List Id)
  deriving DecidableEq, Repr

/-- The values at the start of the server. -/
def Statics.initial : Statics Id := ⟨false, none, 0, 0, none, none⟩

/-- An evaluation on the static variables. -/
abbrev Eval (Id : Type) := Action (Statics Id) Stop

section

variable (k : Constants Id) (space : Space Id)

/-! ## The default permissions of a namespace -/

/-- `get_conv_Variant_RolePermissionTypes`: an array of role permissions only. -/
def convVariantRolePermissionTypes : Value Id → Option (List (RolePermission Id))
  | .extObjects l => l.mapM fun o =>
    match o with
    | .rolePermission r => some r
    | _ => none
  | _ => none

variable (uri : SopcString)

/-- `compare_namespaceUri_and_value_uri`. -/
def compareNamespaceUriAndValueUri : Value Id → Bool
  | .string s => stringEqual s uri
  | _ => false

/-- `ref_maybe_get_DefaultRolePermissions`. -/
def refMaybeGetDefaultRolePermissions (ref : ReferenceNode Id) :
    Option (List (RolePermission Id)) :=
  (refMaybeGetProperty k space k.defaultRolePermissionsName ref).bind fun node =>
    convVariantRolePermissionTypes node.attributes.value

/-- The loop of `namespacemetadata_and_uri_match`: the first default permissions of a namespace
    that can be read, and the comparison with the last URI it has. -/
def namespaceMetadataAndUriMatch (uri : SopcString) :
    List (ReferenceNode Id) → Bool → Option (List (RolePermission Id)) →
      Bool × Option (List (RolePermission Id))
  | [], bres, permissions => (bres, if bres then permissions else none)
  | ref :: refs, bres, permissions =>
    let permissions := permissions.or (refMaybeGetDefaultRolePermissions k space ref)
    match refMaybeGetProperty k space k.namespaceUriName ref with
    | some node =>
      namespaceMetadataAndUriMatch uri refs
        (compareNamespaceUriAndValueUri uri node.attributes.value) permissions
    | none => namespaceMetadataAndUriMatch uri refs bres permissions

/-- One round of the loop of `get_DefaultRolePermissions`: the default permissions of a namespace
    that has the URI. -/
def matchingNamespace (ref : ReferenceNode Id) :
    Except Stop (Option (Option (List (RolePermission Id)))) := do
  match ← isRefToObject k space k.hasComponentType k.namespaceMetadataType ref with
  | some (_, node) =>
    let (bres, permissions) := namespaceMetadataAndUriMatch k space uri node.references false none
    .ok (if bres then some permissions else none)
  | none => .ok none

/-- `get_DefaultRolePermissions`: of several namespaces with the URI, the last one. -/
def getDefaultRolePermissions :
    Except Stop (Option (List (RolePermission Id))) :=
  match space k.serverNamespaces with
  | some node => do
      let found ← keepLast (matchingNamespace k space uri) node.references none
      .ok found.join
  | none => .ok none

/-! ## The table of the defaults -/

/-- `add_DefaultRolePermissions_at_idx`, the index counted from 0. -/
def addDefaultRolePermissionsAtIdx (idx : Nat) (permissions : Option (List (RolePermission Id)))
    (st : Statics Id) : Statics Id :=
  match permissions with
  | some _ => { st with
      defaultRolePermissions := st.defaultRolePermissions.map (·.set idx permissions) }
  | none => st

/-- The loop of `l_fill_default_role_permissions`. -/
def fillEach : List SopcString → Nat → Eval Id Unit
  | [], _ => pure ()
  | uri :: uris, idx => do
      let permissions ← Action.ofExcept (getDefaultRolePermissions k space uri)
      update (addDefaultRolePermissionsAtIdx idx permissions)
      fillEach uris (idx + 1)

/-- `k_n_NamespaceIndex_max`. -/
def namespaceIndexMax : Nat := 65535

/-- `l_fill_default_role_permissions`.  No table is allocated for no namespace, and the table
    stays empty for too many of them. -/
def fillDefaultRolePermissions (uris : List SopcString) : Eval Id Unit :=
  if uris.length = 0 then
    pure ()
  else do
    update fun st => { st with defaultRolePermissions := some (List.replicate uris.length none) }
    if uris.length < namespaceIndexMax then fillEach k space uris 0 else pure ()

/-- The strings of an array: `read_variant_nb_namespaceUris`, `read_variant_namespaceUri`. -/
def Value.namespaceUris : Value Id → List SopcString
  | .strings l => l
  | _ => []

/-- `may_initialize_default_role_permissions`. -/
def mayInitializeDefaultRolePermissions : Eval Id Unit := do
  if ← query (·.isInit) then
    pure ()
  else
    match space k.serverNamespaceArray with
    | some node =>
      if node.nodeClass = .variableNode ∨ node.nodeClass = .variableTypeNode then
        fillDefaultRolePermissions k space node.attributes.value.namespaceUris
      else
        throw .assertionFailed
    | none => pure ()

/-- `has_DefaultRolePermissions_at_idx`. -/
def hasDefaultRolePermissionsAtIdx (idx : Nat) : Eval Id Bool := do
  match ← query (·.defaultRolePermissions) with
  | some table =>
    update fun st => { st with isInit := true }
    pure table[idx]?.join.isSome
  | none => throw .assertionFailed

/-- `get_DefaultRolePermissions_at_idx`, read as `read_variant_rolePermissions` reads it: the null
    variant is not an array. -/
def getDefaultRolePermissionsAtIdx (idx : Nat) : Eval Id (List (RolePermission Id)) := do
  match ← query (·.defaultRolePermissions) with
  | some table =>
    match table[idx]? with
    | some (some permissions) => pure permissions
    | some none => throw .assertionFailed
    | none => throw .misread
  | none => throw .assertionFailed

/-- `has_AddressSpace_RolePermissions`, with `has_Namespace_DefaultRolePermissions`. -/
def hasAddressSpaceRolePermissions (nodeId : Id) : Eval Id Bool := do
  mayInitializeDefaultRolePermissions k space
  hasDefaultRolePermissionsAtIdx (k.namespaceIndex nodeId)

/-! ## The permissions of a user on a node -/

/-- The allocations made to copy the permissions of a node into a variant: its array, and each
    element. -/
structure Copying where
  array : Bool
  element : Nat → Bool

variable (copying : Copying)

/-- `fill_variant_from_RolePermissions`.  The status is that of the last element alone: another
    one may be missing in what is returned. -/
def fillVariantFromRolePermissions (permissions : List (RolePermission Id)) :
    Option (List (Option (RolePermission Id))) :=
  if copying.array ∧ copying.element (permissions.length - 1) then
    some (permissions.mapIdx fun i r => if copying.element i then some r else none)
  else
    none

/-- The RolePermissions attribute of a node, if it has one. -/
def ownRolePermissions (nodeId : Id) : Option (List (RolePermission Id)) :=
  (space nodeId).bind fun node =>
    if node.attributes.rolePermissions = [] then none else some node.attributes.rolePermissions

/-- `l_read_AddressSpace_RolePermissionsOrDefault`.  The defaults also serve when the permissions
    of the node could not be copied. -/
def readRolePermissionsOrDefault (nodeId : Id) :
    Eval Id (List (Option (RolePermission Id))) :=
  match (ownRolePermissions space nodeId).bind (fillVariantFromRolePermissions copying) with
  | some permissions => pure permissions
  | none => do
      let permissions ← getDefaultRolePermissionsAtIdx (k.namespaceIndex nodeId)
      pure (permissions.map some)

/-- The loop of `get_permissions_of_role`. -/
def addPermissionsOfRole (role : Id) : List (Option (RolePermission Id)) → Eval Id Unit
  | [] => pure ()
  | none :: _ => throw .nullPointer
  | some r :: rest => do
      update fun st =>
        if role = r.roleId then
          { st with rolePermissions := st.rolePermissions ||| r.permissions }
        else
          st
      addPermissionsOfRole role rest

/-- `get_permissions_of_role`. -/
def getPermissionsOfRole (role : Id) (permissions : List (Option (RolePermission Id))) :
    Eval Id UInt32 := do
  update fun st => { st with rolePermissions := 0 }
  addPermissionsOfRole role permissions
  step fun st => (st.rolePermissions, { st with rolePermissions := 0 })

/-- The loop of `read_AddressSpace_UserRolePermissions` on the roles. -/
def addUserPermissions (permissions : List (Option (RolePermission Id))) : List Id → Eval Id Unit
  | [] => pure ()
  | role :: roles => do
      let rolePermissions ← getPermissionsOfRole role permissions
      update fun st => { st with userPermissions := st.userPermissions ||| rolePermissions }
      addUserPermissions permissions roles

/-- `read_AddressSpace_UserRolePermissions`.  `init_iter_roles` asserts that there are roles. -/
def readAddressSpaceUserRolePermissions (nodeId : Id)
    (roles : Option (List Id)) : Eval Id UInt32 := do
  update fun st => { st with userPermissions := 0 }
  let permissions ← readRolePermissionsOrDefault k space copying nodeId
  match roles with
  | some roles =>
    addUserPermissions permissions roles
    step fun st => (st.userPermissions, { st with userPermissions := 0 })
  | none => throw .assertionFailed

/-! ## The decision -/

/-- The authorization callback of the application, with `none` for a status that is not OK. -/
abbrev Callback (Id : Type) := Operation → Id → Nat → User → Option Bool

/-- An operation on a node, and the allocations made to treat it. -/
structure OperationRequest (Id : Type) where
  operation : Operation
  nodeId : Id
  attributeId : Nat
  copying : Copying

variable (callback : Callback Id)

/-- `get_user_authorization_bs`. -/
def getUserAuthorizationBs (request : OperationRequest Id) (user : User) : Bool :=
  (callback request.operation request.nodeId request.attributeId user).getD false

/-- `get_user_authorization`. -/
def getUserAuthorization (localServiceTreatment : Bool) (request : OperationRequest Id)
    (user : User) (roles : Option (List Id)) : Eval Id Bool :=
  if localServiceTreatment then
    pure true
  else do
    let authorized := getUserAuthorizationBs callback request user
    let hasPermissions ← hasAddressSpaceRolePermissions k space request.nodeId
    if authorized && hasPermissions then do
      let permissions ←
        readAddressSpaceUserRolePermissions k space request.copying request.nodeId roles
      pure (isOperationAuthorized permissions request.operation)
    else
      pure authorized

/-- `set_user_roles`. -/
def setUserRoles (user : User) (roles : Option (List Id)) (st : Statics Id) : Statics Id :=
  { st with setUser := some user.pointer, setRoles := roles }

/-- `get_user_roles`. -/
def getUserRoles (user : User) (st : Statics Id) : Option (List Id) :=
  if st.setUser = some user.pointer then st.setRoles else none

/-- `clear_user_roles`. -/
def clearUserRoles (st : Statics Id) : Statics Id := { st with setUser := none, setRoles := none }

/-- The operations of a request, each with the roles found for the user. -/
def treatOperations (user : User) : List (OperationRequest Id) → Eval Id (List Bool)
  | [] => pure []
  | request :: requests => do
      let roles ← query (getUserRoles user)
      let authorized ← getUserAuthorization k space callback false request user roles
      let rest ← treatOperations user requests
      pure (authorized :: rest)

/-- `treat_session_service_req`, for a session with its user and its roles. -/
def treatSessionServiceReq (user : User) (roles : Option (List Id))
    (requests : List (OperationRequest Id)) : Eval Id (List Bool) := do
  update (setUserRoles user roles)
  let authorized ← treatOperations k space callback user requests
  update clearUserRoles
  pure authorized

end

end S2opc.Authorization
