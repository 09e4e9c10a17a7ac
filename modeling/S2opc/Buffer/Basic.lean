/-
The buffers of `sopc_buffer.c`.

A buffer has its memory, of which the first `length` bytes are in use, and a
position in it.  It grows up to `maximum_size` when something is written, by
steps of `initial_size`.  All the sizes are unsigned 32-bit numbers and the
checks on them are done with wrapping arithmetic, as in the source.

An access outside of the memory of a buffer has no defined outcome: the model
stops there.  Allocations succeed; the bytes that a larger block has more are
zero here.  Several buffers stand side by side, so that the functions on two of
them also apply to one buffer given twice.
-/
import S2opc.BuiltinTypes.Basic

namespace S2opc.Buffer

open BuiltinTypes (Status)

/-- `SOPC_Buffer`, with the memory that its `data` points to. -/
structure MemBuffer where
  data : List UInt8
  position : UInt32
  length : UInt32
  initialSize : UInt32
  currentSize : UInt32
  maximumSize : UInt32
  allocated : data.length = currentSize.toNat
  deriving DecidableEq, Repr

/-- Where a function goes wrong: outside of the memory of a buffer, or at an assertion. -/
inductive Fault where
  | overrun
  | assertion
  deriving DecidableEq, Repr

/-- What a function returns: `SOPC_STATUS_OK`, another status, or the number of bytes that
    `SOPC_Buffer_ReadFrom` has moved, which is -1 if it refuses. -/
inductive Answer where
  | ok
  | failed (status : Status)
  | moved (count : Int)
  deriving DecidableEq, Repr

namespace MemBuffer

/-- `SOPC_Buffer_CreateResizable`, and `SOPC_Buffer_Create` if the two sizes are equal. -/
def createResizable (initialSize maximumSize : UInt32) : Option MemBuffer :=
  if initialSize = 0 ∨ maximumSize < initialSize then none
  else
    some
      { data := List.replicate initialSize.toNat 0
        position := 0
        length := 0
        initialSize := initialSize
        currentSize := initialSize
        maximumSize := maximumSize
        allocated := List.length_replicate }

/-! ## The memory -/

variable (b : MemBuffer)

/-- `memcpy` to the memory of the buffer, of `count` bytes. -/
def store (offset count : Nat) (bytes : Nat → UInt8) : Except Fault MemBuffer :=
  if h : offset + count ≤ b.data.length then
    .ok
      { b with
        data := b.data.take offset ++ (List.range count).map bytes ++ b.data.drop (offset + count)
        allocated := by
          rw [← b.allocated]
          simp only [List.length_append, List.length_take, List.length_map, List.length_range,
            List.length_drop]
          omega }
  else .error .overrun

/-- `memcpy` from the memory of the buffer, of `count` bytes. -/
def load (offset count : Nat) : Except Fault (Nat → UInt8) :=
  if offset + count ≤ b.data.length then .ok fun i => b.data.getD (offset + i) 0
  else .error .overrun

/-- `SOPC_Realloc` of the memory of the buffer. -/
def realloc (newSize : UInt32) : MemBuffer :=
  { b with
    data := b.data.take newSize.toNat ++ List.replicate (newSize.toNat - b.data.length) 0
    currentSize := newSize
    allocated := by
      rw [List.length_append, List.length_take, List.length_replicate]
      omega }

/-! ## The functions on one buffer -/

/-- `SOPC_Buffer_ResetAfterPosition`. -/
def resetAfterPosition (position : UInt32) : Except Fault (Answer × MemBuffer) :=
  if position ≤ b.length then do
    let b ← b.store position.toNat (b.currentSize - position).toNat fun _ => 0
    .ok (.ok, { b with position := position, length := position })
  else .ok (.failed .invalidParameters, b)

/-- `SOPC_Buffer_SetPosition`. -/
def setPosition (position : UInt32) : Answer × MemBuffer :=
  if position ≤ b.length then (.ok, { b with position := position })
  else (.failed .invalidParameters, b)

/-- `SOPC_Buffer_SetDataLength`. -/
def setDataLength (length : UInt32) : Except Fault (Answer × MemBuffer) :=
  if length ≤ b.currentSize ∧ b.position ≤ length then do
    let b ←
      if length < b.length then b.store length.toNat (b.length - length).toNat fun _ => 0
      else .ok b
    .ok (.ok, { b with length := length })
  else .ok (.failed .invalidParameters, b)

/-- The size that a buffer is given to contain some bytes: the first multiple of the initial size
    that is enough, or the maximum size. -/
def steppedSize (totalNbBytes : UInt32) : UInt32 :=
  let requiredSteps :=
    totalNbBytes / b.initialSize + if totalNbBytes % b.initialSize ≠ 0 then 1 else 0
  if b.maximumSize / b.initialSize < requiredSteps then b.maximumSize
  else requiredSteps * b.initialSize

/-- `SOPC_Buffer_CheckSizeAndResize`. -/
def checkSizeAndResize (totalNbBytes : UInt32) (exactResize : Bool) :
    Option MemBuffer :=
  if totalNbBytes ≤ b.currentSize then some b
  else if totalNbBytes ≤ b.maximumSize then
    some (b.realloc (if exactResize then totalNbBytes else b.steppedSize totalNbBytes))
  else none

/-- `SOPC_Buffer_Write` of the `count` bytes at an address. -/
def write (source : Nat → UInt8) (count : UInt32) :
    Except Fault (Answer × MemBuffer) :=
  match b.checkSizeAndResize (b.position + count) false with
  | none => .ok (.failed .outOfMemory, b)
  | some b => do
      let b ← b.store b.position.toNat count.toNat source
      let position := b.position + count
      .ok (.ok, { b with
        position := position
        length := if b.length < position then position else b.length })

/-- `SOPC_Buffer_Read` of `count` bytes, which are given back if there is an address to copy them
    to. -/
def read (count : UInt32) (toAddress : Bool) :
    Except Fault (Answer × Option (Nat → UInt8) × MemBuffer) :=
  if b.position + count ≤ b.length then do
    let bytes ←
      if toAddress then (b.load b.position.toNat count.toNat).map some else .ok none
    .ok (.ok, bytes, { b with position := b.position + count })
  else .ok (.failed .outOfMemory, none, b)

end MemBuffer

/-! ## The functions on two buffers -/

variable {K : Type} [DecidableEq K]

/-- Buffers that have a name each. -/
abbrev Buffers (K : Type) := K → MemBuffer

variable (s : Buffers K)

/-- The steps of `SOPC_Buffer_CopyWithLength` that follow the copy of the bytes. -/
def setCopied (dest src : K) (limitedLength : UInt32) :
    Except Fault (Answer × Buffers K) :=
  match (s dest).setPosition 0 with
  | (.ok, b) => do
      let s := Function.update s dest b
      match ← (s dest).setDataLength limitedLength with
      | (.ok, b) =>
        let s := Function.update s dest b
        let positioned := (s dest).setPosition (s src).position
        .ok (positioned.1, Function.update s dest positioned.2)
      | (answer, b) => .ok (answer, Function.update s dest b)
  | (answer, b) => .ok (answer, Function.update s dest b)

/-- `SOPC_Buffer_CopyWithLength`. -/
def copyWithLength (dest src : K) (limitedLength : UInt32) :
    Except Fault (Answer × Buffers K) :=
  if limitedLength ≤ (s src).length ∧ (s src).position ≤ limitedLength then
    if (s src).length < (s src).position then .error .assertion
    else
      match (s dest).checkSizeAndResize limitedLength true with
      | none => .ok (.failed .outOfMemory, s)
      | some b => do
          let s := Function.update s dest b
          let bytes ← (s src).load 0 limitedLength.toNat
          let b ← (s dest).store 0 limitedLength.toNat bytes
          setCopied (Function.update s dest b) dest src limitedLength
  else .ok (.failed .invalidParameters, s)

/-- `SOPC_Buffer_ReadFrom`. -/
def readFrom (buffer src : K) (n : UInt32) : Except Fault (Answer × Buffers K) :=
  if (s buffer).currentSize - (s buffer).length < n then .ok (.moved (-1), s)
  else do
    let available := (s src).length - (s src).position
    let n := if available < n then available else n
    let bytes ← (s src).load (s src).position.toNat n.toNat
    let b ← (s buffer).store (s buffer).length.toNat n.toNat bytes
    let s := Function.update s buffer { b with length := b.length + n }
    .ok (.moved n.toNat,
      Function.update s src { s src with position := (s src).position + n })

/-! ## Sequences of calls -/

/-- The calls of a sequence. -/
inductive Call (K : Type) where
  | write (b : K) (source : Nat → UInt8) (count : UInt32)
  | read (b : K) (count : UInt32) (toAddress : Bool)
  | setPosition (b : K) (position : UInt32)
  | setDataLength (b : K) (length : UInt32)
  | resetAfterPosition (b : K) (position : UInt32)
  | copyWithLength (dest src : K) (limitedLength : UInt32)
  | readFrom (buffer src : K) (n : UInt32)

/-- What a function on one buffer does among the others. -/
def onBuffer (k : K) (result : Except Fault (Answer × MemBuffer)) :
    Except Fault (Answer × Buffers K) :=
  result.map fun r => (r.1, Function.update s k r.2)

/-- The outcome of a call. -/
def call : Call K → Except Fault (Answer × Buffers K)
  | .write k source count => onBuffer s k ((s k).write source count)
  | .read k count toAddress =>
    onBuffer s k (((s k).read count toAddress).map fun r => (r.1, r.2.2))
  | .setPosition k position => onBuffer s k (.ok ((s k).setPosition position))
  | .setDataLength k length => onBuffer s k ((s k).setDataLength length)
  | .resetAfterPosition k position => onBuffer s k ((s k).resetAfterPosition position)
  | .copyWithLength dest src limitedLength => copyWithLength s dest src limitedLength
  | .readFrom buffer src n => readFrom s buffer src n

/-- The buffers after a call; a call that goes wrong leaves nothing that can be relied on. -/
def next (c : Call K) : Buffers K :=
  match call s c with
  | .ok (_, s') => s'
  | .error _ => s

end S2opc.Buffer
