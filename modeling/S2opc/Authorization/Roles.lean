/-
The roles granted to a session (`session_roles_i.imp`, `session_role_eval_i.imp`).

When a session is activated, the references of the RoleSet object are gone
through.  Each one that leads to a role is evaluated: the Identities property of
the role holds identity mapping rules, and the role is granted if the user meets
one of them.

`computeUserRoles` is the loop as it is written, with the three ways it stops the
server: an object without a type definition, whose null pointer is followed, an
extension object that is not an identity mapping rule, which fails an assertion,
and a matrix, which is read as if it were an array.  `Granted` is what it is for.
-/
import S2opc.AddressSpace.Nodes
import S2opc.Lib.Scan

namespace S2opc.Authorization

open AddressSpace
open BuiltinTypes
open Lib.Scan

variable {Id : Type} [DecidableEq Id]

/-- The ways a server stops without an answer. -/
inductive Stop where
  | assertionFailed
  | nullPointer
  | misread
  deriving DecidableEq, Repr

/-! ## Attributes -/

/-- `OpcUa_RolePermissionType`. -/
structure RolePermission (Id : Type) where
  roleId : Id
  permissions : UInt32
  deriving DecidableEq, Repr

/-- `OpcUa_IdentityCriteriaType`, with the numbers that are none of its values. -/
inductive CriteriaType where
  | userName
  | thumbprint
  | role
  | groupId
  | anonymous
  | authenticatedUser
  | application
  | other (n : Int32)
  deriving DecidableEq, Repr

/-- `OpcUa_IdentityMappingRuleType`. -/
structure IdentityMappingRule where
  criteriaType : CriteriaType
  criteria : SopcString
  deriving DecidableEq, Repr

/-- A `SOPC_ExtensionObject`, by the type of the object it holds. -/
inductive ExtObject (Id : Type) where
  | rolePermission (r : RolePermission Id)
  | identityMappingRule (r : IdentityMappingRule)
  | other
  deriving DecidableEq, Repr

/-- The value of a variable, in the shapes the evaluation of permissions tells apart. -/
inductive Value (Id : Type) where
  | string (s : SopcString)
  | strings (l : List SopcString)
  | extObject (o : ExtObject Id)
  | extObjects (l : List (ExtObject Id))
  | extObjectMatrix
  | other
  deriving DecidableEq, Repr

/-- The value and the RolePermissions attributes of a node. -/
structure Attributes (Id : Type) where
  value : Value Id
  rolePermissions : List (RolePermission Id)
  deriving DecidableEq, Repr

/-- The NodeIds and browse names the evaluation knows, and what it reads of a NodeId.
    `SOPC_AddressSpaceUtil_IsTypeDefinition` looks at the numeric identifier only, in any
    namespace. -/
structure Constants (Id : Type) where
  namespaceIndex : Id → Nat
  isTypeDefinition : Id → Bool
  hasComponentType : Id
  hasPropertyType : Id
  namespaceMetadataType : Id
  roleType : Id
  serverNamespaceArray : Id
  serverNamespaces : Id
  roleSet : Id
  defaultRolePermissionsName : QualifiedName
  namespaceUriName : QualifiedName
  identitiesName : QualifiedName

/-- An address space with the attributes that permissions depend on. -/
abbrev Space (Id : Type) := Nodes Id (Attributes Id)

/-! ## Users -/

/-- `SOPC_User`. -/
inductive UserIdentity where
  | anonymous
  | username (name : SopcString)
  | certificate (thumbprint : SopcString)
  | internal
  deriving DecidableEq, Repr

/-- `OpcUa_MessageSecurityMode`. -/
inductive SecurityMode where
  | none
  | sign
  | signAndEncrypt
  deriving DecidableEq, Repr

/-- What the call context says of the client of a session. -/
structure ClientContext where
  securityMode : SecurityMode
  applicationUri : SopcString
  deriving DecidableEq, Repr

/-- `are_application_uri_equal`. -/
def areApplicationUriEqual (client : ClientContext) (criteria : SopcString) : Bool :=
  match client.securityMode with
  | .none => false
  | .sign => stringEqual client.applicationUri criteria
  | .signAndEncrypt => stringEqual client.applicationUri criteria

/-- `user_and_identity_match`. -/
def userAndIdentityMatch (client : ClientContext) (user : UserIdentity)
    (identity : IdentityMappingRule) : Bool :=
  if identity.criteriaType = .anonymous then
    true
  else if user ≠ .anonymous then
    match identity.criteriaType, user with
    | .userName, .username name => stringEqual name identity.criteria
    | .thumbprint, .certificate thumbprint => stringEqual thumbprint identity.criteria
    | .authenticatedUser, _ => true
    | _, _ => false
  else if identity.criteriaType = .application then
    areApplicationUriEqual client identity.criteria
  else
    false

section

variable (k : Constants Id) (space : Space Id)

/-! ## References and nodes -/

/-- A forward reference of a type: `l_check_ref_isForward_and_RefTypeComponent`,
    `l_check_ref_isForward_and_RefTypeProperty`, `check_reference_isForward_and_RefType`. -/
def isForwardOfType (type : Id) (ref : ReferenceNode Id) : Bool :=
  !ref.isInverse && decide (ref.referenceTypeId = type)

/-- `SOPC_AddressSpaceUtil_GetTypeDefinition`. -/
def getTypeDefinition (node : Node Id (Attributes Id)) : Option (TargetId Id) :=
  (node.references.find? fun ref =>
    !ref.isInverse && k.isTypeDefinition ref.referenceTypeId).map (·.targetId)

/-- `l_check_node_NodeClass_and_TypeDef`, `l_node_check_NodeClass_and_TypeDef`: an object of a
    type.  The definition of its type is read without a test that it has one. -/
def checkNodeClassAndTypeDef (type : Id) (node : Node Id (Attributes Id)) : Except Stop Bool :=
  if node.nodeClass = .objectNode then
    match getTypeDefinition k node with
    | some typeDefinition => .ok (decide (typeDefinition.localNodeId? = some type))
    | none => .error .nullPointer
  else
    .ok false

/-- A forward reference of a type to an object of a type, with its NodeId: `is_ref_role`, and the
    same test in `get_DefaultRolePermissions`. -/
def isRefToObject (refType objectType : Id) (ref : ReferenceNode Id) :
    Except Stop (Option (Id × Node Id (Attributes Id))) :=
  if isForwardOfType refType ref then
    match getReferenceNode space ref with
    | some (id, node) => do
        let ofType ← checkNodeClassAndTypeDef k objectType node
        .ok (if ofType then some (id, node) else none)
    | none => .ok none
  else
    .ok none

/-- The variable with a browse name that a forward HasProperty reference leads to:
    `ref_maybe_get_Identity`, and the same tests for the properties of a namespace. -/
def refMaybeGetProperty (name : QualifiedName) (ref : ReferenceNode Id) :
    Option (Node Id (Attributes Id)) :=
  if isForwardOfType k.hasPropertyType ref then
    match getReferenceNode space ref with
    | some (_, node) =>
      if node.nodeClass = .variableNode ∧ qualifiedNamesEqual node.browseName name then
        some node
      else
        none
    | none => none
  else
    none

/-! ## Roles -/

/-- `is_ref_role`. -/
def isRefRole (ref : ReferenceNode Id) : Except Stop (Option (Id × Node Id (Attributes Id))) :=
  isRefToObject k space k.hasComponentType k.roleType ref

/-- `l_get_role_identities_node`: of several Identities properties, the last one. -/
def getRoleIdentitiesNode : List (ReferenceNode Id) → Option (Node Id (Attributes Id)) →
    Option (Node Id (Attributes Id))
  | [], found => found
  | ref :: refs, found =>
    getRoleIdentitiesNode refs ((refMaybeGetProperty k space k.identitiesName ref).or found)

/-- `read_variant_identity`. -/
def readVariantIdentity : ExtObject Id → Except Stop IdentityMappingRule
  | .identityMappingRule rule => .ok rule
  | _ => .error .assertionFailed

/-- The loop of `role_eval_user` on the identities.  It goes on after a match. -/
def evalIdentities (client : ClientContext) (user : UserIdentity) :
    List (ExtObject Id) → Bool → Except Stop Bool
  | [], res => .ok res
  | o :: rest, res => do
      let identity ← readVariantIdentity o
      evalIdentities client user rest (userAndIdentityMatch client user identity || res)

/-- The identities a value holds, as `read_variant_nb_identities` counts them.  It takes the number
    of dimensions of a matrix for a length: a matrix without dimensions is one of the other values,
    with no identity. -/
def identitiesOfValue : Value Id → Except Stop (List (ExtObject Id))
  | .extObject o => .ok [o]
  | .extObjects l => .ok l
  | .extObjectMatrix => .error .misread
  | _ => .ok []

variable (client : ClientContext)

variable (user : UserIdentity)

/-- `role_eval_user`. -/
def roleEvalUser (role : Node Id (Attributes Id)) : Except Stop Bool :=
  match getRoleIdentitiesNode k space role.references none with
  | some node => do
      let identities ← identitiesOfValue node.attributes.value
      evalIdentities client user identities false
  | none => .ok false

/-- One round of the loop of `compute_user_roles`: the role to add to the session, if any. -/
def roleToAdd (ref : ReferenceNode Id) :
    Except Stop (Option Id) := do
  match ← isRefRole k space ref with
  | some (id, role) =>
    let granted ← roleEvalUser k space client user role
    .ok (if granted then some id else none)
  | none => .ok none

/-- `compute_user_roles`.  The result is `none` for the null pointer, when there is no RoleSet. -/
def computeUserRoles :
    Except Stop (Option (List Id)) :=
  match space k.roleSet with
  | some roleSet => do
      let roles ← gather (roleToAdd k space client user) roleSet.references
      .ok (some roles)
  | none => .ok none

end

end S2opc.Authorization
