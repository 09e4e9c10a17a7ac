/-
The default role permissions that a namespace publishes.

`published` is what the address space says: the URI of the namespace is that of
its index in the namespace array, and the defaults are those of the last
namespace metadata object with that URI.  The table of the server is filled with
them, at the first remote operation, and this first operation stops the server
unless the namespaces are `TableReadable`.  A table that was filled is
`Coherent` with the address space, and stays so.
-/
import S2opc.Authorization.GrantedRoles
import S2opc.Authorization.Permissions

namespace S2opc.Authorization

open AddressSpace List
open BuiltinTypes
open Lib.Scan
open Lib.Stateful
open Lib.Stateful.Action

variable {Id : Type} [DecidableEq Id] (k : Constants Id) (space : Space Id)

/-! ## What is published -/

/-- A namespace metadata object has a URI. -/
def hasUri (uri : SopcString) (refs : List (ReferenceNode Id)) : Bool :=
  match (propertiesOf k space k.namespaceUriName refs).getLast? with
  | some node => compareNamespaceUriAndValueUri uri node.attributes.value
  | none => false

/-- The default permissions of a namespace metadata object. -/
def defaultsOf (refs : List (ReferenceNode Id)) : Option (List (RolePermission Id)) :=
  (propertiesOf k space k.defaultRolePermissionsName refs).findSome? fun node =>
    convVariantRolePermissionTypes node.attributes.value

/-- The namespace metadata objects. -/
def namespaceMetadata : List (Node Id (Attributes Id)) :=
  match space k.serverNamespaces with
  | some node => node.references.filterMap fun ref =>
    (objectOf k space k.hasComponentType k.namespaceMetadataType ref).map (·.2)
  | none => []

/-- The default permissions published for a URI. -/
def publishedFor (uri : SopcString) : Option (List (RolePermission Id)) :=
  (((namespaceMetadata k space).filter fun node => hasUri k space uri node.references).getLast?).bind
    fun node => defaultsOf k space node.references

/-- The URIs of the namespaces of the server. -/
def namespaceUris : List SopcString :=
  match space k.serverNamespaceArray with
  | some node => node.attributes.value.namespaceUris
  | none => []

/-- The default permissions that the namespace of an index publishes. -/
def published (idx : Nat) : Option (List (RolePermission Id)) :=
  (namespaceUris k space)[idx]?.bind (publishedFor k space)

/-! ## The loops on the namespaces -/

theorem namespaceMetadataAndUriMatch_eq (uri : SopcString) (refs : List (ReferenceNode Id))
    (bres : Bool) (permissions : Option (List (RolePermission Id))) :
    namespaceMetadataAndUriMatch k space uri refs bres permissions =
      let b := match (propertiesOf k space k.namespaceUriName refs).getLast? with
        | some node => compareNamespaceUriAndValueUri uri node.attributes.value
        | none => bres
      (b, if b then permissions.or (defaultsOf k space refs) else none) := by
  induction refs generalizing bres permissions with
  | nil => simp [namespaceMetadataAndUriMatch, propertiesOf, defaultsOf]
  | cons ref refs ih =>
    have hdefaults : defaultsOf k space (ref :: refs) =
        (refMaybeGetDefaultRolePermissions k space ref).or (defaultsOf k space refs) := by
      unfold defaultsOf propertiesOf refMaybeGetDefaultRolePermissions
      rw [filterMap_cons]
      rcases refMaybeGetProperty k space k.defaultRolePermissionsName ref with _ | node
      · rfl
      rw [findSome?_cons]
      cases hconv : convVariantRolePermissionTypes node.attributes.value with
      | none => simp [hconv]
      | some l => simp [hconv]
    rw [namespaceMetadataAndUriMatch, hdefaults, ← Option.or_assoc]
    unfold propertiesOf
    rw [filterMap_cons]
    rcases refMaybeGetProperty k space k.namespaceUriName ref with _ | node
    · show namespaceMetadataAndUriMatch k space uri refs bres _ = _
      rw [ih]
      rfl
    show namespaceMetadataAndUriMatch k space uri refs _ _ = _
    rw [ih]
    unfold propertiesOf
    cases hl : refs.filterMap (refMaybeGetProperty k space k.namespaceUriName) with
    | nil => rfl
    | cons n l => simp [getLast?_eq_some_getLast]

/-- The references of the namespaces object lead to objects that say their type. -/
def NamespacesTyped : Prop :=
  ∀ node, space k.serverNamespaces = some node → ∀ ref ∈ node.references,
    Typed k space k.hasComponentType ref

variable {uri : SopcString}

theorem matchingNamespace_eq_ok {ref : ReferenceNode Id}
    {r : Option (Option (List (RolePermission Id)))} :
    matchingNamespace k space uri ref = .ok r ↔
      Typed k space k.hasComponentType ref ∧
        r = (((objectOf k space k.hasComponentType k.namespaceMetadataType ref).map (·.2)).filter
          fun node => hasUri k space uri node.references).map
            fun node => defaultsOf k space node.references := by
  rw [matchingNamespace, bind_eq_ok]
  simp only [isRefToObject_eq_ok, and_assoc, exists_and_left, exists_eq_left]
  refine and_congr_right fun _ => ?_
  rcases objectOf k space k.hasComponentType k.namespaceMetadataType ref with _ | target
  · exact ⟨fun h => (Except.ok.inj h).symm, fun h => congrArg Except.ok h.symm⟩
  obtain ⟨id, node⟩ := target
  simp only [namespaceMetadataAndUriMatch_eq, Option.map_some, Option.filter_some, Option.none_or]
  rw [Except.ok.injEq, eq_comm]
  show r = (if hasUri k space uri node.references = true then
    some (if hasUri k space uri node.references = true then _ else none) else none) ↔ _
  by_cases huri : hasUri k space uri node.references = true
  · rw [if_pos huri, if_pos huri, if_pos huri]
    rfl
  · rw [if_neg huri, if_neg huri]
    rfl

theorem getDefaultRolePermissions_eq_ok {r : Option (List (RolePermission Id))} :
    getDefaultRolePermissions k space uri = .ok r ↔
      NamespacesTyped k space ∧ r = publishedFor k space uri := by
  unfold getDefaultRolePermissions NamespacesTyped publishedFor namespaceMetadata
  rcases space k.serverNamespaces with _ | node
  · constructor
    · intro h
      exact ⟨fun node hnode => (by cases hnode), (Except.ok.inj h).symm⟩
    · rintro ⟨-, rfl⟩
      rfl
  show (keepLast (matchingNamespace k space uri) node.references none >>= _) = _ ↔ _
  rw [bind_eq_ok]
  simp only [keepLast_eq_ok (matchingNamespace_eq_ok k space), and_assoc, exists_and_left,
    exists_eq_left, Option.some.injEq, forall_eq', Option.or_none]
  refine and_congr_right fun _ => ?_
  rw [Except.ok.injEq, eq_comm, ← map_filterMap, getLast?_map, filter_filterMap]
  cases (node.references.filterMap fun ref =>
    ((objectOf k space k.hasComponentType k.namespaceMetadataType ref).map (·.2)).filter
      fun node => hasUri k space uri node.references).getLast? with
  | none => rfl
  | some last => rfl

/-! ## The table -/

/-- The table the server computes. -/
def table : List (Option (List (RolePermission Id))) :=
  if (namespaceUris k space).length < namespaceIndexMax then
    (namespaceUris k space).map (publishedFor k space)
  else
    List.replicate (namespaceUris k space).length none

/-- The table can be computed: there is a namespace array with a URI, and the objects of the
    namespaces say their type. -/
structure TableReadable : Prop where
  array : ∃ node, space k.serverNamespaceArray = some node ∧
    (node.nodeClass = .variableNode ∨ node.nodeClass = .variableTypeNode)
  uris : namespaceUris k space ≠ []
  typed : (namespaceUris k space).length < namespaceIndexMax → NamespacesTyped k space

/-- The static variables with a table. -/
def Statics.withTable (st : Statics Id) (t : List (Option (List (RolePermission Id)))) :
    Statics Id := { st with defaultRolePermissions := some t }

variable {uris : List SopcString}

theorem fillEach_eq (htyped : NamespacesTyped k space) (st : Statics Id)
    (filled : List (Option (List (RolePermission Id)))) :
    exec (fillEach k space uris filled.length)
        (st.withTable (filled ++ replicate uris.length none)) =
      (.ok (), st.withTable (filled ++ uris.map (publishedFor k space))) := by
  induction uris generalizing filled with
  | nil => rfl
  | cons uri uris ih =>
    have hget : getDefaultRolePermissions k space uri = .ok (publishedFor k space uri) :=
      (getDefaultRolePermissions_eq_ok k space).2 ⟨htyped, rfl⟩
    have hadd : addDefaultRolePermissionsAtIdx filled.length (publishedFor k space uri)
        (st.withTable (filled ++ replicate (uris.length + 1) none)) =
        st.withTable ((filled ++ [publishedFor k space uri]) ++
          replicate uris.length none) := by
      rw [replicate_succ, append_assoc, singleton_append]
      unfold addDefaultRolePermissionsAtIdx
      cases publishedFor k space uri with
      | none => rfl
      | some permissions => simp [Statics.withTable]
    rw [fillEach, exec_bind, exec_ofExcept, hget]
    show exec (update _ >>= _) _ = _
    rw [exec_bind, exec_update, length_cons, hadd]
    show exec (fillEach k space uris (filled.length + 1)) _ = _
    rw [show filled.length + 1 = (filled ++ [publishedFor k space uri]).length by simp, ih,
      append_assoc, singleton_append, map_cons]

theorem fillEach_stops (huris : uris ≠ []) (htyped : ¬ NamespacesTyped k space) (st : Statics Id)
    (idx : Nat) :
    ∃ e st', exec (fillEach k space uris idx) st = (.error e, st') := by
  rcases uris with _ | ⟨uri, uris⟩
  · exact absurd rfl huris
  cases hget : getDefaultRolePermissions k space uri with
  | ok permissions =>
    exact absurd ((getDefaultRolePermissions_eq_ok k space).1 hget).1 htyped
  | error e =>
    refine ⟨e, st, ?_⟩
    rw [fillEach, exec_bind, exec_ofExcept, hget]

theorem fillDefaultRolePermissions_eq (h : TableReadable k space) (st : Statics Id) :
    exec (fillDefaultRolePermissions k space (namespaceUris k space)) st =
      (.ok (), st.withTable (table k space)) := by
  have hlength : (namespaceUris k space).length ≠ 0 := by
    rw [ne_eq, length_eq_zero_iff]
    exact h.uris
  rw [fillDefaultRolePermissions, if_neg hlength, exec_bind, exec_update]
  unfold table
  by_cases hmax : (namespaceUris k space).length < namespaceIndexMax
  · rw [if_pos hmax, if_pos hmax]
    exact fillEach_eq k space (h.typed hmax) st []
  · rw [if_neg hmax, if_neg hmax]
    rfl

/-- The table of the server was not filled yet, or it is that of the address space. -/
def Coherent (st : Statics Id) : Prop :=
  (st.isInit = false ∧ st.defaultRolePermissions = none) ∨
    (TableReadable k space ∧ st.isInit = true ∧
      st.defaultRolePermissions = some (table k space))

/-- The static variables once the table was used. -/
def Statics.ready (st : Statics Id) : Statics Id :=
  { st.withTable (table k space) with isInit := true }

variable {st : Statics Id}

theorem mayInitializeDefaultRolePermissions_eq (h : TableReadable k space)
    (hst : Coherent k space st) :
    exec (mayInitializeDefaultRolePermissions k space) st =
      (.ok (), st.withTable (table k space)) := by
  rw [mayInitializeDefaultRolePermissions, exec_bind, exec_query]
  rcases hst with ⟨hinit, -⟩ | ⟨-, hinit, htable⟩
  · obtain ⟨node, hnode, hclass⟩ := h.array
    have huris : node.attributes.value.namespaceUris = namespaceUris k space := by
      rw [namespaceUris, hnode]
    simp only [hinit, hnode, Bool.false_eq_true, if_false]
    rw [if_pos hclass, huris]
    exact fillDefaultRolePermissions_eq k space h st
  · simp only [hinit, if_true, exec_pure]
    rw [Statics.withTable, ← htable]

/-- The table is asked for the namespace of a node. -/
theorem exec_hasAddressSpaceRolePermissions (h : TableReadable k space) (hst : Coherent k space st)
    (nodeId : Id) :
    exec (hasAddressSpaceRolePermissions k space nodeId) st =
      (.ok ((table k space)[k.namespaceIndex nodeId]?.join.isSome), st.ready k space) := by
  rw [hasAddressSpaceRolePermissions,
    exec_bind_of_ok (mayInitializeDefaultRolePermissions_eq k space h hst)]
  rfl

/-- Without a table that can be computed, the first operation stops the server. -/
theorem hasAddressSpaceRolePermissions_stops (h : ¬ TableReadable k space)
    (hst : Coherent k space st) (nodeId : Id) :
    ∃ e st', exec (hasAddressSpaceRolePermissions k space nodeId) st = (.error e, st') := by
  obtain ⟨hinit, htable⟩ : st.isInit = false ∧ st.defaultRolePermissions = none := by
    rcases hst with hst | ⟨hread, -⟩
    · exact hst
    · exact absurd hread h
  -- without a table, `has_DefaultRolePermissions_at_idx` fails its assertion
  have hno : ∀ idx, exec (hasDefaultRolePermissionsAtIdx idx : Eval Id Bool) st =
      (.error .assertionFailed, st) := by
    intro idx
    rw [hasDefaultRolePermissionsAtIdx, exec_bind, exec_query]
    simp only [htable]
    rfl
  rw [hasAddressSpaceRolePermissions, mayInitializeDefaultRolePermissions, bind_assoc, exec_bind,
    exec_query]
  simp only [hinit, Bool.false_eq_true, if_false]
  rcases harray : space k.serverNamespaceArray with _ | node
  · exact ⟨_, _, hno _⟩
  by_cases hclass : node.nodeClass = .variableNode ∨ node.nodeClass = .variableTypeNode
  · have huris : node.attributes.value.namespaceUris = namespaceUris k space := by
      rw [namespaceUris, harray]
    simp only [if_pos hclass]
    rw [huris, fillDefaultRolePermissions]
    by_cases hnil : namespaceUris k space = []
    · rw [if_pos (by rw [hnil]; rfl)]
      exact ⟨_, _, hno _⟩
    have hlength : (namespaceUris k space).length ≠ 0 := by
      rw [ne_eq, length_eq_zero_iff]
      exact hnil
    have hmax : (namespaceUris k space).length < namespaceIndexMax := by
      by_contra hmax
      exact h ⟨⟨node, harray, hclass⟩, hnil, fun hlt => absurd hlt hmax⟩
    have htyped : ¬ NamespacesTyped k space := by
      intro htyped
      exact h ⟨⟨node, harray, hclass⟩, hnil, fun _ => htyped⟩
    rw [if_neg hlength, bind_assoc, exec_bind, exec_update]
    simp only [if_pos hmax]
    obtain ⟨e, st', hstop⟩ := fillEach_stops k space hnil htyped
      (st.withTable (replicate (namespaceUris k space).length none)) 0
    exact ⟨e, st', exec_bind_of_error hstop⟩
  · simp only [if_neg hclass]
    exact ⟨.assertionFailed, st, rfl⟩

end S2opc.Authorization
