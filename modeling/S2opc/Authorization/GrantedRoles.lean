/-
What `compute_user_roles` computes.

`Granted` says which roles a user has: those of the RoleSet with an identity
criterion the user meets.  The loop gives exactly these, and it ends if and only
if the RoleSet is `RolesReadable`: each object it has a component reference to
says its type, and the Identities of each role are identity mapping rules.
-/
import S2opc.Authorization.Roles

namespace S2opc.Authorization

open AddressSpace List
open BuiltinTypes
open Lib.Scan

variable {Id : Type} [DecidableEq Id]

/-! ## Identity criteria -/

/-- A user meets the criterion of an identity mapping rule.  The criteria are texts, without a zero
    byte: the comparison of the source ends at the first one. -/
inductive Meets (client : ClientContext) : UserIdentity → IdentityMappingRule → Prop where
  | anonymous {user : UserIdentity} {criteria : SopcString} : Meets client user ⟨.anonymous, criteria⟩
  | userName {name criteria : SopcString} (h : stringEqual name criteria) :
      Meets client (.username name) ⟨.userName, criteria⟩
  | thumbprint {thumbprint criteria : SopcString} (h : stringEqual thumbprint criteria) :
      Meets client (.certificate thumbprint) ⟨.thumbprint, criteria⟩
  | authenticatedUser {user : UserIdentity} {criteria : SopcString} (h : user ≠ .anonymous) :
      Meets client user ⟨.authenticatedUser, criteria⟩
  | application {criteria : SopcString} (hsecure : client.securityMode ≠ .none)
      (h : stringEqual client.applicationUri criteria) :
      Meets client .anonymous ⟨.application, criteria⟩

theorem areApplicationUriEqual_iff (client : ClientContext) (criteria : SopcString) :
    areApplicationUriEqual client criteria = true ↔
      client.securityMode ≠ .none ∧ stringEqual client.applicationUri criteria = true := by
  unfold areApplicationUriEqual
  cases client.securityMode <;> simp

theorem userAndIdentityMatch_iff (client : ClientContext) (user : UserIdentity)
    (identity : IdentityMappingRule) :
    userAndIdentityMatch client user identity = true ↔ Meets client user identity := by
  obtain ⟨type, criteria⟩ := identity
  constructor
  · intro h
    unfold userAndIdentityMatch at h
    cases type <;> cases user <;>
      simp only [reduceCtorEq, ne_eq, not_true_eq_false, not_false_eq_true, if_true, if_false,
        Bool.false_eq_true] at h
    -- what is left are the rules that match, one for each criterion and kind of user
    case userName.username name => exact .userName h
    case thumbprint.certificate thumbprint => exact .thumbprint h
    case application.anonymous =>
        obtain ⟨hsecure, huri⟩ := (areApplicationUriEqual_iff client criteria).1 h
        exact .application hsecure huri
    all_goals first | exact .anonymous | exact .authenticatedUser (fun hc => by cases hc)
  · intro h
    unfold userAndIdentityMatch
    cases h with
    | anonymous => rfl
    | userName h => simpa using h
    | thumbprint h => simpa using h
    | authenticatedUser h => simp [h]
    | application hsecure h => simpa using (areApplicationUriEqual_iff client criteria).2 ⟨hsecure, h⟩

/-! ## Objects and properties -/

variable {b : Bool} {ref : ReferenceNode Id} {l : List (ExtObject Id)} {client : ClientContext}
  {user : UserIdentity}

section

variable (k : Constants Id) (space : Space Id)

/-- A node is an object of a type. -/
def isObjectOf (type : Id) (node : Node Id (Attributes Id)) : Bool :=
  decide (node.nodeClass = .objectNode) &&
    decide ((getTypeDefinition k node).bind (·.localNodeId?) = some type)

/-- The object of a type a reference leads to, if it is a forward one of a type. -/
def objectOf (refType objectType : Id) (ref : ReferenceNode Id) :
    Option (Id × Node Id (Attributes Id)) :=
  if isForwardOfType refType ref then
    (getReferenceNode space ref).filter fun target => isObjectOf k objectType target.2
  else
    none

/-- A node that is an object says its type. -/
def TypeKnown (node : Node Id (Attributes Id)) : Prop :=
  node.nodeClass = .objectNode → getTypeDefinition k node ≠ none

/-- The node a reference leads to, if it is a forward one of a type, says its type. -/
def Typed (refType : Id) (ref : ReferenceNode Id) : Prop :=
  isForwardOfType refType ref → ∀ target, getReferenceNode space ref = some target →
    TypeKnown k target.2

theorem checkNodeClassAndTypeDef_eq_ok {type : Id} {node : Node Id (Attributes Id)} :
    checkNodeClassAndTypeDef k type node = .ok b ↔
      TypeKnown k node ∧ b = isObjectOf k type node := by
  unfold checkNodeClassAndTypeDef TypeKnown isObjectOf
  split_ifs with hclass
  · rw [decide_eq_true hclass, Bool.true_and]
    cases htype : getTypeDefinition k node with
    | none => simp [hclass]
    | some typeDefinition => simp [eq_comm]
  · rw [decide_eq_false hclass, Bool.false_and]
    simp [hclass, eq_comm]

theorem isRefToObject_eq_ok {refType objectType : Id} {r : Option (Id × Node Id (Attributes Id))} :
    isRefToObject k space refType objectType ref = .ok r ↔
      Typed k space refType ref ∧ r = objectOf k space refType objectType ref := by
  rw [isRefToObject, objectOf, Typed]
  by_cases hforward : isForwardOfType refType ref = true
  · rw [if_pos hforward, if_pos hforward]
    rcases htarget : getReferenceNode space ref with _ | target
    · constructor
      · intro h
        exact ⟨fun _ target ht => (by cases ht), (Except.ok.inj h).symm⟩
      · rintro ⟨-, rfl⟩
        rfl
    obtain ⟨id, node⟩ := target
    rw [Option.filter_some]
    constructor
    · intro h
      obtain ⟨b, hcheck, hr⟩ := bind_eq_ok.1 h
      obtain ⟨hknown, rfl⟩ := (checkNodeClassAndTypeDef_eq_ok k).1 hcheck
      refine ⟨?_, (Except.ok.inj hr).symm⟩
      rintro - target ht
      cases ht
      exact hknown
    · rintro ⟨htyped, rfl⟩
      have hknown : TypeKnown k node := htyped hforward (id, node) rfl
      exact bind_eq_ok.2 ⟨_, (checkNodeClassAndTypeDef_eq_ok k).2 ⟨hknown, rfl⟩, rfl⟩
  · rw [if_neg hforward, if_neg hforward]
    constructor
    · intro h
      exact ⟨fun hf => absurd hf hforward, (Except.ok.inj h).symm⟩
    · rintro ⟨-, rfl⟩
      rfl

/-- The properties of a node with a browse name, in the order of its references. -/
def propertiesOf (name : QualifiedName) (refs : List (ReferenceNode Id)) :
    List (Node Id (Attributes Id)) :=
  refs.filterMap (refMaybeGetProperty k space name)

theorem getRoleIdentitiesNode_eq (refs : List (ReferenceNode Id))
    (found : Option (Node Id (Attributes Id))) :
    getRoleIdentitiesNode k space refs found =
      ((propertiesOf k space k.identitiesName refs).getLast?).or found := by
  induction refs generalizing found with
  | nil => rfl
  | cons ref refs ih =>
    rw [getRoleIdentitiesNode, ih]
    unfold propertiesOf
    rw [filterMap_cons]
    rcases refMaybeGetProperty k space k.identitiesName ref with _ | node
    · rfl
    cases hl : refs.filterMap (refMaybeGetProperty k space k.identitiesName) with
    | nil => rfl
    | cons n l => simp [getLast?_eq_some_getLast]

/-! ## Identities -/

/-- The extension objects in a value that is not a matrix. -/
def Value.extensionObjects : Value Id → List (ExtObject Id)
  | .extObject o => [o]
  | .extObjects l => l
  | _ => []

/-- A value can be read as identities. -/
def Value.IdentitiesReadable (v : Value Id) : Prop :=
  v ≠ .extObjectMatrix ∧ ∀ o ∈ v.extensionObjects, ∃ rule, o = .identityMappingRule rule

omit [DecidableEq Id] in
theorem identitiesOfValue_eq_ok {v : Value Id} :
    identitiesOfValue v = .ok l ↔ v ≠ .extObjectMatrix ∧ l = v.extensionObjects := by
  cases v <;> simp [identitiesOfValue, Value.extensionObjects, eq_comm]

/-- A user meets a rule among identities. -/
def MeetsOneOf (client : ClientContext) (user : UserIdentity) (l : List (ExtObject Id)) : Prop :=
  ∃ rule, .identityMappingRule rule ∈ l ∧ Meets client user rule

omit [DecidableEq Id] in
theorem meetsOneOf_cons {rule : IdentityMappingRule} :
    MeetsOneOf client user (.identityMappingRule rule :: l) ↔
      Meets client user rule ∨ MeetsOneOf client user l := by
  constructor
  · rintro ⟨rule', hmem, hmeets⟩
    rcases mem_cons.1 hmem with heq | hmem
    · cases heq
      exact Or.inl hmeets
    · exact Or.inr ⟨rule', hmem, hmeets⟩
  · rintro (hmeets | ⟨rule', hmem, hmeets⟩)
    · exact ⟨rule, mem_cons_self, hmeets⟩
    · exact ⟨rule', mem_cons_of_mem _ hmem, hmeets⟩

omit [DecidableEq Id] in
theorem evalIdentities_eq_ok {res : Bool} :
    evalIdentities client user l res = .ok b ↔
      (∀ o ∈ l, ∃ rule, o = .identityMappingRule rule) ∧
        (b = true ↔ MeetsOneOf client user l ∨ res = true) := by
  induction l generalizing res with
  | nil =>
    have hnone : ¬ MeetsOneOf client user ([] : List (ExtObject Id)) := by
      rintro ⟨rule, hmem, -⟩
      cases hmem
    rw [evalIdentities, Except.ok.injEq, or_iff_right hnone]
    constructor
    · rintro rfl
      exact ⟨fun o ho => absurd ho not_mem_nil, Iff.rfl⟩
    · rintro ⟨-, h⟩
      exact (Bool.eq_iff_iff.2 h).symm
  | cons o l ih =>
    rw [evalIdentities, bind_eq_ok, forall_mem_cons]
    constructor
    · rintro ⟨rule, hread, h⟩
      have ho : o = .identityMappingRule rule := by
        cases o <;> cases hread
        rfl
      obtain ⟨hall, hb⟩ := ih.1 h
      refine ⟨⟨⟨rule, ho⟩, hall⟩, ?_⟩
      rw [hb, ho, meetsOneOf_cons, Bool.or_eq_true, userAndIdentityMatch_iff, or_left_comm,
        or_assoc]
    · rintro ⟨⟨⟨rule, rfl⟩, hall⟩, hb⟩
      refine ⟨rule, rfl, ih.2 ⟨hall, ?_⟩⟩
      rw [hb, meetsOneOf_cons, Bool.or_eq_true, userAndIdentityMatch_iff, or_left_comm, or_assoc]

/-! ## Roles -/

/-- The value of the Identities of a role. -/
def identitiesValue (role : Node Id (Attributes Id)) : Option (Value Id) :=
  ((propertiesOf k space k.identitiesName role.references).getLast?).map (·.attributes.value)

/-- A user meets a criterion of a role. -/
def MeetsCriterionOf (client : ClientContext) (user : UserIdentity)
    (role : Node Id (Attributes Id)) : Prop :=
  ∃ v, identitiesValue k space role = some v ∧ MeetsOneOf client user v.extensionObjects

/-- The Identities of a role can be read. -/
def IdentitiesReadable (role : Node Id (Attributes Id)) : Prop :=
  ∀ v, identitiesValue k space role = some v → v.IdentitiesReadable

theorem roleEvalUser_eq_ok {role : Node Id (Attributes Id)} :
    roleEvalUser k space client user role = .ok b ↔
      IdentitiesReadable k space role ∧
        (b = true ↔ MeetsCriterionOf k space client user role) := by
  rw [roleEvalUser, getRoleIdentitiesNode_eq, Option.or_none]
  unfold IdentitiesReadable MeetsCriterionOf identitiesValue
  rcases (propertiesOf k space k.identitiesName role.references).getLast? with _ | node
  · simp [eq_comm]
  have hmeets : (∃ v, some node.attributes.value = some v ∧
      MeetsOneOf client user v.extensionObjects) ↔
      MeetsOneOf client user node.attributes.value.extensionObjects ∨ false = true := by
    simp
  show (identitiesOfValue node.attributes.value >>= _) = _ ↔ _
  rw [bind_eq_ok]
  constructor
  · rintro ⟨l, hl, h⟩
    obtain ⟨hmatrix, rfl⟩ := identitiesOfValue_eq_ok.1 hl
    obtain ⟨hall, hb⟩ := evalIdentities_eq_ok.1 h
    refine ⟨?_, hb.trans hmeets.symm⟩
    intro v hv
    cases hv
    exact ⟨hmatrix, hall⟩
  · rintro ⟨hreadable, hb⟩
    obtain ⟨hmatrix, hall⟩ := hreadable _ rfl
    exact ⟨_, identitiesOfValue_eq_ok.2 ⟨hmatrix, rfl⟩,
      evalIdentities_eq_ok.2 ⟨hall, hb.trans hmeets⟩⟩

/-- A reference of the RoleSet leads to a role. -/
def IsRole (id : Id) (role : Node Id (Attributes Id)) : Prop :=
  ∃ roleSet, space k.roleSet = some roleSet ∧ ∃ ref ∈ roleSet.references,
    objectOf k space k.hasComponentType k.roleType ref = some (id, role)

/-- The roles of a user: those of the RoleSet with a criterion the user meets. -/
def Granted (client : ClientContext) (user : UserIdentity) (id : Id) : Prop :=
  ∃ role, IsRole k space id role ∧ MeetsCriterionOf k space client user role

/-- A reference of the RoleSet can be evaluated. -/
def RoleReadable (ref : ReferenceNode Id) : Prop :=
  Typed k space k.hasComponentType ref ∧
    ∀ id role, objectOf k space k.hasComponentType k.roleType ref = some (id, role) →
      IdentitiesReadable k space role

/-- The references of the RoleSet can be evaluated. -/
def RolesReadable : Prop :=
  ∀ roleSet, space k.roleSet = some roleSet → ∀ ref ∈ roleSet.references, RoleReadable k space ref

theorem roleReadable_of_roleToAdd {r : Option Id} (h : roleToAdd k space client user ref = .ok r) :
    RoleReadable k space ref := by
  obtain ⟨target, htarget, h⟩ := bind_eq_ok.1 h
  obtain ⟨htyped, rfl⟩ := (isRefToObject_eq_ok k space).1 htarget
  refine ⟨htyped, ?_⟩
  intro id role hobject
  rw [hobject] at h
  obtain ⟨b, hb, -⟩ := bind_eq_ok.1 h
  exact ((roleEvalUser_eq_ok k space).1 hb).1

/-- A reference that can be evaluated gives a role if it leads to one that is granted. -/
theorem roleToAdd_of_readable (h : RoleReadable k space ref) :
    ∃ r, roleToAdd k space client user ref = .ok r ∧
      ∀ id, r = some id ↔ ∃ role, MeetsCriterionOf k space client user role ∧
        objectOf k space k.hasComponentType k.roleType ref = some (id, role) := by
  obtain ⟨htyped, hreadable⟩ := h
  have htarget := (isRefToObject_eq_ok k space (r := objectOf k space _ k.roleType ref)).2
    ⟨htyped, rfl⟩
  rcases hobject : objectOf k space k.hasComponentType k.roleType ref with _ | target
  · rw [hobject] at htarget
    refine ⟨none, bind_eq_ok.2 ⟨none, htarget, rfl⟩, ?_⟩
    simp
  obtain ⟨id, role⟩ := target
  rw [hobject] at htarget
  obtain ⟨b, hmeets⟩ : ∃ b : Bool, b = true ↔ MeetsCriterionOf k space client user role := by
    by_cases hm : MeetsCriterionOf k space client user role
    · exact ⟨true, by simp [hm]⟩
    · exact ⟨false, by simp [hm]⟩
  have hb := (roleEvalUser_eq_ok k space).2 ⟨hreadable id role hobject, hmeets⟩
  refine ⟨_, bind_eq_ok.2 ⟨some (id, role), htarget, bind_eq_ok.2 ⟨b, hb, rfl⟩⟩, ?_⟩
  intro id'
  rw [Option.ite_none_right_eq_some, hmeets]
  constructor
  · rintro ⟨hm, heq⟩
    cases heq
    exact ⟨role, hm, rfl⟩
  · rintro ⟨role', hm, heq⟩
    cases heq
    exact ⟨hm, rfl⟩

theorem rolesReadable_of_computeUserRoles {roles : Option (List Id)}
    (h : computeUserRoles k space client user = .ok roles) :
    RolesReadable k space := by
  intro roleSet hroleSet ref href
  rw [computeUserRoles, hroleSet] at h
  obtain ⟨l, hl, -⟩ := bind_eq_ok.1 h
  obtain ⟨r, hr⟩ := (gather_eq_ok.1 hl).1 ref href
  exact roleReadable_of_roleToAdd k space hr

/-- The roles of a user are computed if those of the RoleSet can be evaluated. -/
theorem computeUserRoles_of_readable (client : ClientContext) (user : UserIdentity)
    (h : RolesReadable k space) :
    ∃ roles, computeUserRoles k space client user = .ok roles ∧
      ∀ id, id ∈ roles.getD [] ↔ Granted k space client user id := by
  rcases hroleSet : space k.roleSet with _ | roleSet
  · refine ⟨none, by rw [computeUserRoles, hroleSet], ?_⟩
    intro id
    constructor
    · intro hid
      cases hid
    · rintro ⟨role, ⟨roleSet, hsome, -⟩, -⟩
      rw [hroleSet] at hsome
      cases hsome
  have hread : ∀ ref ∈ roleSet.references, RoleReadable k space ref := h roleSet hroleSet
  have hall : ∀ ref ∈ roleSet.references, ∃ r, roleToAdd k space client user ref = .ok r := by
    intro ref href
    obtain ⟨r, hr, -⟩ := roleToAdd_of_readable k space (hread ref href)
    exact ⟨r, hr⟩
  have hgather := gather_eq_ok.2 ⟨hall, rfl⟩
  refine ⟨_, by rw [computeUserRoles, hroleSet]; exact bind_eq_ok.2 ⟨_, hgather, rfl⟩, ?_⟩
  intro id
  rw [Option.getD_some, mem_filterMap]
  constructor
  · rintro ⟨ref, href, hid⟩
    obtain ⟨r, hr, hspec⟩ := roleToAdd_of_readable k space (hread ref href)
    rw [hr, answer_ok] at hid
    obtain ⟨role, hm, hobject⟩ := (hspec id).1 hid
    exact ⟨role, ⟨roleSet, hroleSet, ref, href, hobject⟩, hm⟩
  · rintro ⟨role, ⟨roleSet', hroleSet', ref, href, hobject⟩, hm⟩
    rw [hroleSet] at hroleSet'
    cases hroleSet'
    obtain ⟨r, hr, hspec⟩ := roleToAdd_of_readable k space (hread ref href)
    refine ⟨ref, href, ?_⟩
    rw [hr, answer_ok]
    exact (hspec id).2 ⟨role, hm, hobject⟩

end

end S2opc.Authorization
