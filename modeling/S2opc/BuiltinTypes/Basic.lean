/-
The built-in types of `sopc_builtintypes.h` that hold no other variant.

A string, a byte string and an XML element share one representation: a signed
length and that many bytes, no bytes at all when the length is not positive.
The length and the bytes are tied together by a field of the structure, so no
other pair can be built.  Pointers to a value are the value itself, except the
Guid of a NodeId, whose null pointer the source tests for.  Floating-point
values are their bit patterns.
-/
import Mathlib

namespace S2opc.BuiltinTypes

/-- The values of `SOPC_ReturnStatus` a modelled function fails with, and one more for an
    access outside of the memory it was given. -/
inductive Status where
  | nok
  | invalidParameters
  | invalidState
  | encodingError
  | wouldBlock
  | outOfMemory
  | notSupported
  | undefinedBehaviour
  deriving DecidableEq, Repr

/-- `SOPC_String`, also `SOPC_ByteString` and `SOPC_XmlElement`. -/
structure SopcString where
  length : Int32
  data : List UInt8
  wf : data.length = length.toInt.toNat
  deriving DecidableEq, Repr

/-- `SOPC_Guid`. -/
structure Guid where
  data1 : UInt32
  data2 : UInt16
  data3 : UInt16
  data4 : Vector UInt8 8
  deriving DecidableEq, Repr

/-- The identifier of a NodeId, with its `SOPC_IdentifierType`. -/
inductive Identifier where
  | numeric (n : UInt32)
  | string (s : SopcString)
  | guid (g : Option Guid)
  | byteString (s : SopcString)
  deriving DecidableEq, Repr

/-- `SOPC_NodeId`. -/
structure NodeId where
  namespaceIndex : UInt16
  data : Identifier
  deriving DecidableEq, Repr

/-- `SOPC_ExpandedNodeId`. -/
structure ExpandedNodeId where
  nodeId : NodeId
  namespaceUri : SopcString
  serverIndex : UInt32
  deriving DecidableEq, Repr

/-- `SOPC_QualifiedName`. -/
structure QualifiedName where
  namespaceIndex : UInt16
  name : SopcString
  deriving DecidableEq, Repr

/-- `SOPC_LocalizedText`: the default locale and text, and the other locales a server
    stores beside them. -/
structure LocalizedText where
  defaultLocale : SopcString
  defaultText : SopcString
  localizedTextList : List (SopcString × SopcString)
  deriving DecidableEq, Repr

/-- The body of an extension object, with its `SOPC_ExtObjectBodyEncoding`.  `Obj` is the
    type of the decoded objects a body may hold. -/
inductive ExtObjectBody (Obj : Type) where
  | none
  | byteString (s : SopcString)
  | xmlElement (s : SopcString)
  | object (o : Obj)
  deriving DecidableEq, Repr

/-- `SOPC_ExtensionObject`. -/
structure ExtensionObject (Obj : Type) where
  typeId : ExpandedNodeId
  body : ExtObjectBody Obj
  deriving DecidableEq, Repr

/-- The fields of one level of a `SOPC_DiagnosticInfo`. -/
structure DiagnosticLevel where
  symbolicId : Int32
  namespaceUri : Int32
  locale : Int32
  localizedText : Int32
  additionalInfo : SopcString
  innerStatusCode : UInt32
  deriving DecidableEq, Repr

/-- `SOPC_DiagnosticInfo`: a level, and the inner information it points to if any. -/
inductive DiagnosticInfo where
  | leaf (level : DiagnosticLevel)
  | nest (level : DiagnosticLevel) (inner : DiagnosticInfo)
  deriving DecidableEq, Repr

namespace SopcString

/-- `SOPC_String_Initialize`: the null string. -/
def null : SopcString := ⟨-1, [], by decide⟩

/-- The string of at most `INT32_MAX` bytes. -/
def ofBytes (bytes : List UInt8) (h : bytes.length < 2 ^ 31) : SopcString where
  length := Int32.ofNat bytes.length
  data := bytes
  wf := by
    rw [Int32.toInt_ofNat_of_lt h]
    omega

theorem length_pos_iff (s : SopcString) : 0 < s.length ↔ s.data ≠ [] := by
  have hwf := s.wf
  rw [Int32.lt_iff_toInt_lt, ← List.length_pos_iff, hwf]
  simp only [Int32.toInt_zero]
  omega

theorem data_eq_nil_iff (s : SopcString) : s.data = [] ↔ s.length ≤ 0 := by
  rw [← not_iff_not, ← ne_eq, ← length_pos_iff, Int32.lt_iff_toInt_lt, Int32.le_iff_toInt_le]
  omega

theorem length_data_lt (s : SopcString) : s.data.length < 2 ^ 31 := by
  have hwf := s.wf
  have hlt := Int32.toInt_lt s.length
  omega

end SopcString

end S2opc.BuiltinTypes
