/-
Role-based authorization.

`Authorized` says when an operation of a remote client is authorized: the
callback of the application grants it and, if the namespace of the node publishes
default role permissions, a role of the session carries the permission of the
operation.  Along a run of activations and of requests, the roles computed are
those granted and each operation is decided this way, if and only if each event
is `Sound`.  The address space is the same along the run.

What makes an event not sound is in the address space, or in memory.  A session
that was activated without a RoleSet has no list of roles, and its first
operation on a node with permissions fails an assertion.
-/
import S2opc.Lib.Run
import S2opc.Authorization.Defaults
import S2opc.Authorization.NodePermissions

namespace S2opc.Authorization

open AddressSpace Option
open BuiltinTypes
open Lib.Run
open Lib.Stateful
open Lib.Stateful.Action

variable {Id : Type} [DecidableEq Id] {request : OperationRequest Id} {user : User}
  {st : Statics Id} {roles : Option (List Id)} {st' : Statics Id}

section

variable (k : Constants Id) (space : Space Id) (callback : Callback Id)

/-! ## One operation -/

/-- An operation of a remote client is authorized for a user and a set of roles. -/
def Authorized (user : User) (roles : List Id) (request : OperationRequest Id) : Prop :=
  callback request.operation request.nodeId request.attributeId user = some true ∧
    ∀ defaults, published k space (k.namespaceIndex request.nodeId) = some defaults →
      ∃ role ∈ roles, ∃ r ∈ (ownRolePermissions space request.nodeId).getD defaults,
        r.roleId = role ∧ isOperationAuthorized r.permissions request.operation = true

omit [DecidableEq Id] in
theorem getUserAuthorizationBs_iff :
    getUserAuthorizationBs callback request user = true ↔
      callback request.operation request.nodeId request.attributeId user = some true := by
  unfold getUserAuthorizationBs
  cases callback request.operation request.nodeId request.attributeId user with
  | none => simp
  | some b => simp

theorem any_carries_iff {roles : List Id} {permissions : List (RolePermission Id)}
    {op : Operation} :
    roles.any (carries permissions op) = true ↔
      ∃ role ∈ roles, ∃ r ∈ permissions,
        r.roleId = role ∧ isOperationAuthorized r.permissions op = true := by
  simp only [List.any_eq_true, carries, Bool.and_eq_true, decide_eq_true_eq]
  simp only [eq_comm]

/-- The condition under which an operation is decided as it should: the table of the defaults can
    be computed; and if the decision is up to the roles, the session has a list of them and the
    permissions of the node can be copied.  If there are too many namespaces for the table, the
    operation is authorized whatever the roles. -/
structure RequestSound (user : User) (roles : Option (List Id)) (request : OperationRequest Id) :
    Prop where
  table : TableReadable k space
  permissions : callback request.operation request.nodeId request.attributeId user = some true →
    ∀ defaults, published k space (k.namespaceIndex request.nodeId) = some defaults →
      if (namespaceUris k space).length < namespaceIndexMax then
        ∃ rs, roles = some rs ∧ CopySound space request defaults rs
      else
        (roles.getD []).any (carries
          ((ownRolePermissions space request.nodeId).getD defaults) request.operation) = true

theorem table_getElem? (idx : Nat) :
    (table k space)[idx]?.join =
      if (namespaceUris k space).length < namespaceIndexMax then published k space idx else none := by
  unfold table published
  by_cases hmax : (namespaceUris k space).length < namespaceIndexMax
  · rw [if_pos hmax, if_pos hmax, List.getElem?_map]
    cases (namespaceUris k space)[idx]? with
    | none => rfl
    | some uri => rfl
  · rw [if_neg hmax, if_neg hmax, List.getElem?_replicate]
    split_ifs with hidx <;> rfl

/-! ## What an operation leaves -/

/-- The table of the defaults, the user and the roles are as they were. -/
structure Frame (st₀ st : Statics Id) : Prop where
  isInit : st.isInit = st₀.isInit
  defaultRolePermissions : st.defaultRolePermissions = st₀.defaultRolePermissions
  setUser : st.setUser = st₀.setUser
  setRoles : st.setRoles = st₀.setRoles

variable (st₀ : Statics Id)

omit [DecidableEq Id] in
variable {st₀} in
theorem Frame.withPermissions {st : Statics Id} (h : Frame st₀ st) (user role) :
    Frame st₀ { st with userPermissions := user, rolePermissions := role } :=
  ⟨h.isInit, h.defaultRolePermissions, h.setUser, h.setRoles⟩

theorem keeps_addPermissionsOfRole (role : Id)
    (permissions : List (Option (RolePermission Id))) :
    Keeps (Frame st₀) (addPermissionsOfRole role permissions) := by
  induction permissions with
  | nil => exact .pure ()
  | cons r rest ih =>
    rcases r with _ | r
    · exact .throw Stop.nullPointer
    apply Keeps.bind (Keeps.update _) fun _ => ih
    intro st hst
    split_ifs with hrole
    · exact hst.withPermissions _ _
    · exact hst

theorem keeps_addUserPermissions
    (permissions : List (Option (RolePermission Id))) (roles : List Id) :
    Keeps (Frame st₀) (addUserPermissions permissions roles) := by
  induction roles with
  | nil => exact .pure ()
  | cons role roles ih =>
    apply Keeps.bind
    · apply Keeps.bind
      · exact .update fun st hst => hst.withPermissions _ _
      · intro _
        exact .bind (keeps_addPermissionsOfRole st₀ role permissions) fun _ =>
          .step fun st hst => hst.withPermissions _ _
    · intro _
      exact .bind (.update fun st hst => hst.withPermissions _ _) fun _ => ih

omit [DecidableEq Id] in
theorem keeps_getDefaultRolePermissionsAtIdx (idx : Nat) :
    Keeps (Frame st₀) (getDefaultRolePermissionsAtIdx idx) := by
  apply Keeps.bind (Keeps.query _)
  intro t
  rcases t with _ | t
  · exact .throw Stop.assertionFailed
  dsimp only
  rcases t[idx]? with _ | _ | permissions
  · exact .throw Stop.misread
  · exact .throw Stop.assertionFailed
  · exact .pure permissions

theorem keeps_readAddressSpaceUserRolePermissions (copying : Copying)
    (nodeId : Id) (roles : Option (List Id)) :
    Keeps (Frame st₀) (readAddressSpaceUserRolePermissions k space copying nodeId roles) := by
  apply Keeps.bind (Keeps.update fun st hst => hst.withPermissions _ _)
  intro _
  apply Keeps.bind
  · unfold readRolePermissionsOrDefault
    cases (ownRolePermissions space nodeId).bind (fillVariantFromRolePermissions copying) with
    | some permissions => exact .pure permissions
    | none =>
      exact .bind (keeps_getDefaultRolePermissionsAtIdx st₀ (k.namespaceIndex nodeId))
        fun permissions => .pure _
  · intro permissions
    rcases roles with _ | roles
    · exact .throw Stop.assertionFailed
    exact .bind (keeps_addUserPermissions st₀ permissions roles) fun _ =>
      .step fun st hst => hst.withPermissions _ _

/-- An operation on a server whose table can be computed. -/
theorem exec_getUserAuthorization (h : TableReadable k space) (hst : Coherent k space st)
    (request : OperationRequest Id) (user : User) (roles : Option (List Id)) :
    exec (getUserAuthorization k space callback false request user roles) st =
      if getUserAuthorizationBs callback request user &&
          (table k space)[k.namespaceIndex request.nodeId]?.join.isSome then
        exec (readAddressSpaceUserRolePermissions k space request.copying request.nodeId roles >>=
          fun permissions => pure (isOperationAuthorized permissions request.operation))
          (st.ready k space)
      else
        (.ok (getUserAuthorizationBs callback request user), st.ready k space) := by
  have hhas := exec_hasAddressSpaceRolePermissions k space h hst request.nodeId
  rw [getUserAuthorization, if_neg Bool.false_ne_true, exec_bind_of_ok hhas]
  split
  · rfl
  · rfl

/-- An operation leaves the table coherent, and the user and the roles as they were. -/
theorem getUserAuthorization_leaves (hst : Coherent k space st) {b : Bool} (h : exec
      (getUserAuthorization k space callback false request user roles) st = (.ok b, st')) :
    Coherent k space st' ∧ st'.setUser = st.setUser ∧ st'.setRoles = st.setRoles := by
  by_cases htable : TableReadable k space
  · rw [exec_getUserAuthorization k space callback htable hst] at h
    have hframe : Frame (st.ready k space) st' := by
      split at h
      · have hkeeps := (Keeps.bind
          (keeps_readAddressSpaceUserRolePermissions k space (st.ready k space) request.copying
            request.nodeId roles) fun permissions => .pure
              (isOperationAuthorized permissions request.operation)).state
          (Frame.mk rfl rfl rfl rfl : Frame (st.ready k space) (st.ready k space))
        rw [h] at hkeeps
        exact hkeeps
      · cases h
        exact ⟨rfl, rfl, rfl, rfl⟩
    refine ⟨.inr ⟨htable, hframe.isInit, hframe.defaultRolePermissions⟩, ?_, ?_⟩
    · exact hframe.setUser
    · exact hframe.setRoles
  · obtain ⟨e, st'', hstop⟩ :=
      hasAddressSpaceRolePermissions_stops k space htable hst request.nodeId
    rw [getUserAuthorization, if_neg Bool.false_ne_true, exec_bind_of_error hstop] at h
    cases h

/-- An operation is decided as it should. -/
def OperationExact (user : User) (roles : Option (List Id)) (st : Statics Id)
    (request : OperationRequest Id) : Prop :=
  ∃ b, (exec (getUserAuthorization k space callback false request user roles) st).1 = .ok b ∧
    (b = true ↔ Authorized k space callback user (roles.getD []) request)

/-- The decision of an operation is exact when it is up to the callback. -/
theorem operationExact_of_callback (hexec : exec (getUserAuthorization k space callback false
      request user roles) st = (.ok (getUserAuthorizationBs callback request user), st')) :
    OperationExact k space callback user roles st request ↔
      (getUserAuthorizationBs callback request user = true ↔
        Authorized k space callback user (roles.getD []) request) := by
  unfold OperationExact
  rw [hexec]
  constructor
  · rintro ⟨b, hb, h⟩
    cases hb
    exact h
  · intro h
    exact ⟨_, rfl, h⟩

/-- With defaults, a granted operation is authorized when a role carries its permission. -/
theorem authorized_iff_of_published {roles : List Id} {defaults : List (RolePermission Id)}
    (hcallback : callback request.operation request.nodeId request.attributeId user = some true)
    (hpublished : published k space (k.namespaceIndex request.nodeId) = some defaults) :
    Authorized k space callback user roles request ↔
      roles.any (carries ((ownRolePermissions space request.nodeId).getD defaults)
        request.operation) = true := by
  rw [any_carries_iff]
  constructor
  · intro h
    exact h.2 defaults hpublished
  · intro h
    refine ⟨hcallback, ?_⟩
    intro defaults' hpublished'
    rw [hpublished] at hpublished'
    cases hpublished'
    exact h

/-- The decision of an operation is exact when it is up to the roles, and their permissions are. -/
theorem operationExact_iff_permissionsExact (htable : TableReadable k space)
    (hst : Coherent k space st) {defaults : List (RolePermission Id)}
    (hcallback : callback request.operation request.nodeId request.attributeId user = some true)
    (hpublished : published k space (k.namespaceIndex request.nodeId) = some defaults)
    (hmax : (namespaceUris k space).length < namespaceIndexMax) :
    OperationExact k space callback user roles st request ↔
      PermissionsExact k space request defaults roles (st.ready k space) := by
  have hjoin : (table k space)[k.namespaceIndex request.nodeId]?.join = some defaults := by
    rw [table_getElem?, if_pos hmax, hpublished]
  unfold OperationExact PermissionsExact
  rw [exec_getUserAuthorization k space callback htable hst,
    (getUserAuthorizationBs_iff callback).2 hcallback, hjoin, isSome_some, Bool.and_self,
    if_pos rfl, authorized_iff_of_published k space callback hcallback hpublished, exec_bind]
  constructor
  · rintro ⟨b, hb, h⟩
    revert hb
    obtain ⟨r, st'⟩ := exec (readAddressSpaceUserRolePermissions k space request.copying
      request.nodeId roles) (st.ready k space)
    rcases r with e | merged
    · intro hb
      cases hb
    intro hb
    cases hb
    exact ⟨merged, rfl, Bool.eq_iff_iff.2 h⟩
  · rintro ⟨merged, hmerged, h⟩
    revert hmerged
    obtain ⟨r, st'⟩ := exec (readAddressSpaceUserRolePermissions k space request.copying
      request.nodeId roles) (st.ready k space)
    rintro rfl
    exact ⟨_, rfl, by rw [h]⟩

/-- An operation is decided as it should if and only if its condition holds. -/
theorem operationExact_iff (hst : Coherent k space st) (request : OperationRequest Id) (user : User)
    (roles : Option (List Id)) :
    OperationExact k space callback user roles st request ↔
      RequestSound k space callback user roles request := by
  by_cases htable : TableReadable k space
  · have hexec := exec_getUserAuthorization k space callback htable hst request user roles
    by_cases hcallback :
        callback request.operation request.nodeId request.attributeId user = some true
    · have hbs := (getUserAuthorizationBs_iff callback).2 hcallback
      have hjoin := table_getElem? k space (k.namespaceIndex request.nodeId)
      rcases hpublished : published k space (k.namespaceIndex request.nodeId) with _ | defaults
      · rw [hpublished, ite_self] at hjoin
        rw [hjoin, isSome_none, Bool.and_false, if_neg Bool.false_ne_true] at hexec
        rw [operationExact_of_callback k space callback hexec, iff_true_left hbs]
        constructor
        · intro _
          exact ⟨htable, fun _ defaults h => (by rw [hpublished] at h; cases h)⟩
        · intro _
          exact ⟨hcallback, fun defaults h => (by rw [hpublished] at h; cases h)⟩
      have hsound : RequestSound k space callback user roles request ↔
          if (namespaceUris k space).length < namespaceIndexMax then
            ∃ rs, roles = some rs ∧ CopySound space request defaults rs
          else
            (roles.getD []).any (carries ((ownRolePermissions space request.nodeId).getD
              defaults) request.operation) = true := by
        constructor
        · intro h
          exact h.permissions hcallback defaults hpublished
        · intro h
          refine ⟨htable, ?_⟩
          intro _ defaults' hpublished'
          rw [hpublished] at hpublished'
          cases hpublished'
          exact h
      rw [hsound]
      by_cases hmax : (namespaceUris k space).length < namespaceIndexMax
      · have hentry : (table k space)[k.namespaceIndex request.nodeId]? =
            some (some defaults) := by
          rw [if_pos hmax, hpublished] at hjoin
          exact join_eq_some_iff.1 hjoin
        rw [if_pos hmax, operationExact_iff_permissionsExact k space callback htable hst
          hcallback hpublished hmax]
        exact permissionsExact_iff k space rfl hentry roles
      · rw [if_neg hmax] at hjoin
        rw [hjoin, isSome_none, Bool.and_false, if_neg Bool.false_ne_true] at hexec
        rw [if_neg hmax, operationExact_of_callback k space callback hexec,
          iff_true_left hbs, authorized_iff_of_published k space callback hcallback hpublished]
    · have hbs : getUserAuthorizationBs callback request user = false := by
        rw [← Bool.not_eq_true, getUserAuthorizationBs_iff]
        exact hcallback
      have hcond : (getUserAuthorizationBs callback request user &&
          (table k space)[k.namespaceIndex request.nodeId]?.join.isSome) = false := by
        rw [hbs, Bool.false_and]
      rw [hcond, if_neg Bool.false_ne_true] at hexec
      rw [operationExact_of_callback k space callback hexec, hbs]
      constructor
      · intro _
        exact ⟨htable, fun h => absurd h hcallback⟩
      · intro _
        exact ⟨fun h => absurd h Bool.false_ne_true, fun h => absurd h.1 hcallback⟩
  · constructor
    · rintro ⟨b, hb, -⟩
      obtain ⟨e, st', hstop⟩ :=
        hasAddressSpaceRolePermissions_stops k space htable hst request.nodeId
      rw [getUserAuthorization, if_neg Bool.false_ne_true, exec_bind_of_error hstop] at hb
      cases hb
    · intro h
      exact absurd h.table htable

/-! ## Requests -/

/-- The answers to the operations of a request. -/
def AnswersExact (user : User) (roles : Option (List Id)) (requests : List (OperationRequest Id))
    (answers : List Bool) : Prop :=
  List.Forall₂ (fun request b =>
    b = true ↔ Authorized k space callback user (roles.getD []) request) requests answers

theorem treatOperations_leaves {requests : List (OperationRequest Id)} {answers : List Bool}
    (hst : Coherent k space st)
    (h : exec (treatOperations k space callback user requests) st = (.ok answers, st')) :
    Coherent k space st' := by
  induction requests generalizing st answers with
  | nil =>
    cases h
    exact hst
  | cons request requests ih =>
    obtain ⟨roles, st₀, hroles, h⟩ := exec_bind_eq_ok.1 h
    cases hroles
    obtain ⟨b, st₁, hfirst, h⟩ := exec_bind_eq_ok.1 h
    obtain ⟨rest, st₂, hrest, h⟩ := exec_bind_eq_ok.1 h
    cases h
    exact ih (getUserAuthorization_leaves k space callback hst hfirst).1 hrest

/-- The operations of a request are decided as they should if and only if each of them meets its
    condition. -/
theorem treatOperations_exact_iff {requests : List (OperationRequest Id)}
    (hst : Coherent k space st) (hroles : getUserRoles user st = roles) :
    (∃ answers, (exec (treatOperations k space callback user requests) st).1 = .ok answers ∧
      AnswersExact k space callback user roles requests answers) ↔
    ∀ request ∈ requests, RequestSound k space callback user roles request := by
  induction requests generalizing st with
  | nil =>
    constructor
    · intro _ request hrequest
      cases hrequest
    · intro _
      exact ⟨[], rfl, .nil⟩
  | cons request requests ih =>
    rw [List.forall_mem_cons, ← operationExact_iff k space callback hst request user roles,
      treatOperations, exec_bind_of_ok (exec_query _ _), hroles]
    unfold OperationExact
    cases hfirst : exec (getUserAuthorization k space callback false request user roles) st with
    | mk r st₁ =>
      rcases r with e | b
      · rw [exec_bind_of_error hfirst]
        constructor
        · rintro ⟨answers, h, -⟩
          cases h
        · rintro ⟨⟨b, h, -⟩, -⟩
          cases h
      obtain ⟨hst₁, huser, hset⟩ := getUserAuthorization_leaves k space callback hst hfirst
      have hroles₁ : getUserRoles user st₁ = roles := by
        rw [getUserRoles, huser, hset]
        exact hroles
      rw [exec_bind_of_ok hfirst, ← ih hst₁ hroles₁]
      cases hrest : exec (treatOperations k space callback user requests) st₁ with
      | mk r st₂ =>
        rcases r with e | rest
        · rw [exec_bind_of_error hrest]
          constructor
          · rintro ⟨answers, h, -⟩
            cases h
          · rintro ⟨-, rest, h, -⟩
            cases h
        rw [exec_bind_of_ok hrest]
        constructor
        · rintro ⟨answers, h, hall⟩
          cases h
          cases hall with
          | cons hb hall => exact ⟨⟨b, rfl, hb⟩, rest, rfl, hall⟩
        · rintro ⟨⟨b', hb', hb⟩, rest', hrest', hall⟩
          cases hb'
          cases hrest'
          exact ⟨b :: rest, rfl, .cons hb hall⟩

/-! ## Runs -/

/-- What happens to the server: a session is activated, or a session with a user and roles has
    the operations of a request treated. -/
inductive Event (Id : Type) where
  | activation (client : ClientContext) (user : UserIdentity)
  | request (user : User) (roles : Option (List Id)) (requests : List (OperationRequest Id))

/-- The static variables after an event. -/
def next (st : Statics Id) : Event Id → Statics Id
  | .activation _ _ => st
  | .request user roles requests =>
    (exec (treatSessionServiceReq k space callback user roles requests) st).2

/-- What is asked of an event: that the roles of an activation are those of the RoleSet with a
    criterion the user meets, and that each operation is authorized when it should be. -/
def Exact (st : Statics Id) : Event Id → Prop
  | .activation client user =>
    ∃ roles, computeUserRoles k space client user = .ok roles ∧
      ∀ id, id ∈ roles.getD [] ↔ Granted k space client user id
  | .request user roles requests =>
    ∃ answers, (exec (treatSessionServiceReq k space callback user roles requests) st).1 =
        .ok answers ∧ AnswersExact k space callback user roles requests answers

/-- The condition on an event. -/
def Sound : Event Id → Prop
  | .activation _ _ => RolesReadable k space
  | .request user roles requests =>
    ∀ request ∈ requests, RequestSound k space callback user roles request

theorem coherent_of_frame (hst : Coherent k space st) (hinit : st'.isInit = st.isInit)
    (htable : st'.defaultRolePermissions = st.defaultRolePermissions) : Coherent k space st' := by
  unfold Coherent at *
  rw [hinit, htable]
  exact hst

theorem exec_treatSessionServiceReq (user : User) (roles : Option (List Id))
    (requests : List (OperationRequest Id)) (st : Statics Id) :
    exec (treatSessionServiceReq k space callback user roles requests) st =
      exec (treatOperations k space callback user requests >>= fun answers =>
        update clearUserRoles >>= fun _ => pure answers) (setUserRoles user roles st) := by
  rw [treatSessionServiceReq, exec_bind_of_ok (exec_update _ _)]

theorem exact_iff_sound (hst : Coherent k space st) (event : Event Id) :
    Exact k space callback st event ↔ Sound k space callback event := by
  rcases event with ⟨client, user⟩ | ⟨user, roles, requests⟩
  · constructor
    · rintro ⟨roles, h, -⟩
      exact rolesReadable_of_computeUserRoles k space h
    · intro h
      obtain ⟨roles, hroles, hgranted⟩ := computeUserRoles_of_readable k space client user h
      exact ⟨roles, hroles, hgranted⟩
  have hset : Coherent k space (setUserRoles user roles st) := coherent_of_frame k space hst rfl rfl
  have hroles : getUserRoles user (setUserRoles user roles st) = roles := by
    rw [getUserRoles, setUserRoles, if_pos rfl]
  show (∃ answers, _ = _ ∧ _) ↔ ∀ request ∈ requests, _
  rw [← treatOperations_exact_iff k space callback hset hroles, exec_treatSessionServiceReq]
  cases hexec : exec (treatOperations k space callback user requests)
      (setUserRoles user roles st) with
  | mk r st' =>
    rcases r with e | answers
    · rw [exec_bind_of_error hexec]
    rw [exec_bind_of_ok hexec]
    exact .rfl

theorem coherent_next (hst : Coherent k space st) {event : Event Id}
    (h : Exact k space callback st event) : Coherent k space (next k space callback st event) := by
  rcases event with ⟨client, user⟩ | ⟨user, roles, requests⟩
  · exact hst
  obtain ⟨answers, hanswers, -⟩ := h
  have hset : Coherent k space (setUserRoles user roles st) := coherent_of_frame k space hst rfl rfl
  show Coherent k space (exec _ st).2
  cases hexec : exec (treatSessionServiceReq k space callback user roles requests) st with
  | mk r st' =>
    rw [hexec] at hanswers
    cases hanswers
    rw [exec_treatSessionServiceReq] at hexec
    obtain ⟨answers', st₁, hoperations, hclear⟩ := exec_bind_eq_ok.1 hexec
    cases hclear
    exact coherent_of_frame k space
      (treatOperations_leaves k space callback hset hoperations) rfl rfl

/-- Along a run from the start of the server, the roles of each session are exactly those granted
    to its user and each operation of a remote client is authorized exactly when the callback
    grants it and a role carries its permission, if and only if each event is sound. -/
theorem roleAuthorization_exact_iff (events : List (Event Id)) :
    EveryStep (next k space callback) (Exact k space callback) Statics.initial events ↔
      ∀ event ∈ events, Sound k space callback event := by
  have hstart : Coherent k space Statics.initial := .inl ⟨rfl, rfl⟩
  have hnext : ∀ st event, Coherent k space st → Exact k space callback st event →
      Coherent k space (next k space callback st event) :=
    fun st event hst h => coherent_next k space callback hst h
  have hstep : ∀ st event, Coherent k space st →
      (Exact k space callback st event ↔ Sound k space callback event) :=
    fun st event hst => exact_iff_sound k space callback hst event
  rw [everyStep_iff_everyStep hnext hstep hstart, everyStep_iff_forall]

end

/-! ## A session without roles -/

/-- A string of a few bytes. -/
def text (bytes : List UInt8) (h : bytes.length < 2 ^ 31 := by decide) : SopcString :=
  SopcString.ofBytes bytes h

/-- NodeIds of a sample: the namespace index and the number of each. -/
def sampleConstants : Constants (Nat × Nat) where
  namespaceIndex := Prod.fst
  isTypeDefinition id := id.2 == 40
  hasComponentType := (0, 47)
  hasPropertyType := (0, 46)
  namespaceMetadataType := (0, 11616)
  roleType := (0, 15620)
  serverNamespaceArray := (0, 2255)
  serverNamespaces := (0, 11715)
  roleSet := (0, 15606)
  defaultRolePermissionsName := ⟨0, text [68, 82, 80]⟩
  namespaceUriName := ⟨0, text [85, 82, 73]⟩
  identitiesName := ⟨0, text [73, 68]⟩

/-- A forward reference. -/
def forward (type target : Nat × Nat) : ReferenceNode (Nat × Nat) :=
  ⟨type, false, TargetId.ofNodeId target⟩

/-- An address space whose namespace 0 gives the role `(0, 15644)` the permission to read, and that
    has no RoleSet. -/
def sampleSpace : Space (Nat × Nat)
  | (0, 2255) => some ⟨.variableNode, ⟨0, text []⟩, [], ⟨.strings [text [117]], []⟩⟩
  | (0, 11715) => some ⟨.objectNode, ⟨0, text []⟩, [forward (0, 47) (0, 1)], ⟨.other, []⟩⟩
  | (0, 1) => some ⟨.objectNode, ⟨0, text []⟩,
      [forward (0, 40) (0, 11616), forward (0, 46) (0, 2), forward (0, 46) (0, 3)], ⟨.other, []⟩⟩
  | (0, 2) => some ⟨.variableNode, ⟨0, text [85, 82, 73]⟩, [], ⟨.string (text [117]), []⟩⟩
  | (0, 3) => some ⟨.variableNode, ⟨0, text [68, 82, 80]⟩, [],
      ⟨.extObjects [.rolePermission ⟨(0, 15644), 32⟩], []⟩⟩
  | (0, 4) => some ⟨.variableNode, ⟨0, text []⟩, [], ⟨.other, []⟩⟩
  | _ => none

/-- The read of a variable of the namespace 0. -/
def sampleRead : OperationRequest (Nat × Nat) := ⟨.read, (0, 4), 13, true, fun _ => true⟩

/-- The answer to this read for a session with a list of roles. -/
def sampleAnswer (roles : Option (List (Nat × Nat))) : Except Stop (List Bool) :=
  (exec (treatSessionServiceReq sampleConstants sampleSpace (fun _ _ _ _ => some true)
    ⟨1, .anonymous⟩ roles [sampleRead]) Statics.initial).1

example : sampleAnswer (some [(0, 15644)]) = .ok [true] := by decide +kernel

example : sampleAnswer (some [(0, 15656)]) = .ok [false] := by decide +kernel

/-- A session is activated while the address space has no RoleSet: its user has no roles, and the
    list of them is a null pointer.  The read of a variable that the callback grants fails an
    assertion of the server, where it should be refused. -/
theorem session_without_roleSet_stops_server :
    computeUserRoles sampleConstants sampleSpace ⟨.none, text []⟩ .anonymous = .ok none ∧
      sampleAnswer none = .error .assertionFailed ∧
      ¬ EveryStep (next sampleConstants sampleSpace fun _ _ _ _ => some true)
        (Exact sampleConstants sampleSpace fun _ _ _ _ => some true) Statics.initial
        [.activation ⟨.none, text []⟩ .anonymous, .request ⟨1, .anonymous⟩ none [sampleRead]] := by
  have hstop : sampleAnswer none = .error .assertionFailed := by decide +kernel
  refine ⟨by decide +kernel, hstop, ?_⟩
  rintro ⟨-, ⟨answers, hanswers, -⟩, -⟩
  have h : sampleAnswer none = .ok answers := hanswers
  rw [hstop] at h
  cases h

end S2opc.Authorization
