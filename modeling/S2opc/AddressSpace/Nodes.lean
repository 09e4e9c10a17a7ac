/-
The nodes of an address space (`sopc_address_space.h`) as the services see them.

NodeIds are the elements of a type `Id`: two of them are equal when
`SOPC_NodeId_Equal` says so.  The address space is a function on them, which
gives the node of a NodeId if there is one.  A node has its class, its browse
name and its array of references; the other attributes that a service reads are
in `Attr`.
-/
import S2opc.BuiltinTypes.Compare

namespace S2opc.AddressSpace

open BuiltinTypes

variable {Id Attr : Type}

/-- `SOPC_ExpandedNodeId`, the target of a reference. -/
structure TargetId (Id : Type) where
  nodeId : Id
  namespaceUri : SopcString
  serverIndex : UInt32
  deriving DecidableEq, Repr

/-- `OpcUa_ReferenceNode`. -/
structure ReferenceNode (Id : Type) where
  referenceTypeId : Id
  isInverse : Bool
  targetId : TargetId Id
  deriving DecidableEq, Repr

/-- `OpcUa_NodeClass`. -/
inductive NodeClass where
  | unspecified
  | objectNode
  | variableNode
  | methodNode
  | objectTypeNode
  | variableTypeNode
  | referenceTypeNode
  | dataTypeNode
  | viewNode
  deriving DecidableEq, Repr

/-- `SOPC_AddressSpace_Node`, without its NodeId. -/
structure Node (Id Attr : Type) where
  nodeClass : NodeClass
  browseName : QualifiedName
  references : List (ReferenceNode Id)
  attributes : Attr

/-- `SOPC_AddressSpace`, with `SOPC_AddressSpace_Get_Node`. -/
abbrev Nodes (Id Attr : Type) := Id → Option (Node Id Attr)

/-- The target in this server of a NodeId alone. -/
def TargetId.ofNodeId (id : Id) : TargetId Id := ⟨id, SopcString.null, 0⟩

/-- `getall_conv_ExpandedNodeId_NodeId`: the NodeId of a node of this server.  A target with a
    namespace URI is taken for one of another server. -/
def TargetId.localNodeId? (t : TargetId Id) : Option Id :=
  if t.serverIndex = 0 ∧ t.namespaceUri.length ≤ 0 then some t.nodeId else none

/-- `is_QualifiedNames_Equal`. -/
def qualifiedNamesEqual (left right : QualifiedName) : Bool := qualifiedNameCompare left right = .eq

/-- The node of this server that a reference leads to, with its NodeId: `getall_Reference_Node`. -/
def getReferenceNode (nodes : Nodes Id Attr) (ref : ReferenceNode Id) :
    Option (Id × Node Id Attr) :=
  ref.targetId.localNodeId?.bind fun id => (nodes id).map fun node => (id, node)

end S2opc.AddressSpace
