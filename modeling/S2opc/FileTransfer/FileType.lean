/-
File objects and their methods.

A file object keeps its content in memory: a permanent one, and a temporary
buffer that an opening reads and writes.  `handle` and `mode` are those of the
opening in progress, a handle of 0 standing for none.  The four variables of the
object (`OpenCount`, `Size`, `Writable`, `UserWritable`) are nodes of the address
space and are kept beside the object here.

The methods are those of `libs2opc_file_transfer.c`, with each of their exits.
What a call meets outside the object is its `Surroundings`: whether an access to
the address space or an allocation that the code checks succeeds, what the
application's callbacks answer, and what the random generator gives.
-/
import S2opc.Lib.ByteCodec
import S2opc.Lib.Stateful

namespace S2opc.FileTransfer

open Lib.ByteCodec
open Lib.Stateful
open Lib.Stateful.Action

/-! ## File objects -/

/-- The status codes of the methods. -/
inductive StatusCode where
  | good
  | badInvalidArgument
  | badNotFound
  | badNotWritable
  | badNotReadable
  | badNotSupported
  | badInvalidState
  | badUnexpectedError
  deriving DecidableEq, Repr

/-- How a method ends without a result: with a status code, or never, a pointer that is null
    being read. -/
inductive Stop where
  | status (code : StatusCode)
  | nullPointer
  deriving DecidableEq, Repr

/-- The value of a variable, as far as the methods tell one from the other. -/
inductive VariableValue where
  | null
  | boolean (b : Bool)
  | uint16 (n : UInt16)
  | uint64 (n : UInt64)
  | other
  deriving DecidableEq, Repr

/-- `MAX_SIZE_FILE`. -/
def maxSizeFile : UInt32 := 1000000

/-- `FT_INVALID_HANDLE_VALUE`. -/
def invalidHandleValue : UInt32 := 0

def readMask : UInt8 := 0x01
def writeMask : UInt8 := 0x02
def eraseExistingMask : UInt8 := 0x04
def appendMask : UInt8 := 0x08

/-- A bit of an opening mode is set. -/
def hasMode (mode mask : UInt8) : Bool := mode &&& mask != 0

/-- `SOPC_FileType` with the variables of the object. -/
structure FileObject where
  handle : UInt32
  mode : UInt8
  tmpFileContent : Buffer
  permFileContent : List UInt8
  openCount : VariableValue
  size : VariableValue
  sizeStatus : StatusCode
  writable : VariableValue
  userWritable : VariableValue
  deriving DecidableEq, Repr

/-- The object `SOPC_FileType_Create` makes.  The variables are in the address space before,
    with no opening counted. -/
def FileObject.create (size writable userWritable : VariableValue) : FileObject where
  handle := invalidHandleValue
  mode := 0
  tmpFileContent := Buffer.empty maxSizeFile
  permFileContent := []
  openCount := .uint16 0
  size := size
  sizeStatus := .good
  writable := writable
  userWritable := userWritable

/-- What a call meets outside the object. -/
structure Surroundings where
  /-- The accesses to the variables that return a good status. -/
  readWritable : Bool := true
  writeWritable : Bool := true
  writeUserWritable : Bool := true
  readOpenCount : Bool := true
  writeOpenCount : Bool := true
  writeSize : Bool := true
  /-- The verdict and the content given by the application's callback, if there is one. -/
  userOpen : Option (Bool × List UInt8) := none
  /-- Whether the application's callback leaves the content to be saved, if there is one. -/
  userClose : Option Bool := none
  /-- The bytes of the random generator, unless it fails. -/
  randomBytes : Option (Fin 4 → UInt8) := some fun _ => 1
  /-- The temporary buffer can be given the room it needs. -/
  bufferRoom : Bool := true
  /-- The byte string of a saved content is allocated. -/
  byteString : Bool := true
  /-- The variant of an output argument is allocated. -/
  outputVariant : Bool := true

/-- The output argument of a method. -/
inductive Output where
  | none
  | handle (h : UInt32)
  | byteString (data : List UInt8)
  | position (p : UInt64)
  deriving DecidableEq, Repr

/-- A method of a file object. -/
abbrev Method := Action FileObject Stop

variable (env : Surroundings) (mode : UInt8)

/-! ## Utility functions -/

/-- `Check_OpenModeValidity`. -/
def checkOpenModeValidity : Bool :=
  if mode >>> 4 != 0 || mode == 0 then false
  else if hasMode mode eraseExistingMask && !hasMode mode writeMask then false
  else if hasMode mode appendMask && !hasMode mode (~~~appendMask) then false
  else true

/-- `BuffToInt`. -/
def buffToInt (b : Fin 4 → UInt8) : UInt32 :=
  (b 0).toUInt32 + ((b 1).toUInt32 <<< 8) + ((b 2).toUInt32 <<< 16) + ((b 3).toUInt32 <<< 24)

/-- `GenerateRandomHandle`: the handle is invalid if the generator fails. -/
def generateRandomHandle : UInt32 :=
  match env.randomBytes with
  | none => invalidHandleValue
  | some b => if buffToInt b = invalidHandleValue then 1 else buffToInt b

theorem generateRandomHandle_ne_zero :
    generateRandomHandle env ≠ 0 ↔ env.randomBytes.isSome := by
  unfold generateRandomHandle
  rcases env.randomBytes with _ | b
  · simp [invalidHandleValue]
  show (if buffToInt b = 0 then 1 else buffToInt b) ≠ 0 ↔ _
  split_ifs with h
  · simp
  · simp [h]

/-- `FileType_OpenCount_Inc_Dec`. -/
def openCountIncDec (command : Bool) : Method Unit := do
  match (← query FileObject.openCount) with
  | .uint16 n =>
    if env.readOpenCount && env.writeOpenCount then
      update fun f => { f with openCount := .uint16 (if command then n + 1 else n - 1) }
    else throw (.status .badInvalidState)
  | _ => throw (.status .badInvalidState)

/-- `FileType_WriteSizeWithStatus`, with the length of the temporary content. -/
def writeSizeWithStatus (optStatus : StatusCode) : Method Unit :=
  if env.writeSize then
    update fun f =>
      { f with
        size := .uint64 (UInt64.ofNat f.tmpFileContent.data.length)
        sizeStatus := optStatus }
  else throw (.status .badInvalidState)

/-- `FileType_ReadWrite_Writable`, with the status that `FileTransfer_Method_Open` makes of a
    failure.  If the variable cannot be read, the data value that was not given is looked at. -/
def readWriteWritable : Method Bool :=
  if env.readWritable then do
    match (← query FileObject.writable) with
    | .boolean b => pure b
    | .null =>
      if env.writeWritable then do
        update fun f => { f with writable := .boolean true }
        if env.writeUserWritable then do
          update fun f => { f with userWritable := .boolean true }
          pure true
        else throw (.status .badInvalidState)
      else throw (.status .badInvalidState)
    | _ => pure true
  else throw .nullPointer

/-! ## The methods -/

/-- The bytes written at the position of the temporary buffer, if it can hold them. -/
def bufferWrite (bytes : List UInt8) : Method Unit := do
  match (← query fun f => f.tmpFileContent.write bytes) with
  | some b =>
    if env.bufferRoom then update fun f => { f with tmpFileContent := b }
    else throw (.status .badUnexpectedError)
  | none => throw (.status .badUnexpectedError)

/-- `SOPC_Buffer_SetPosition` on the temporary buffer. -/
def bufferSetPosition (position : FileObject → Nat) : Method Unit := do
  match (← query fun f => f.tmpFileContent.seek (position f)) with
  | some b => update fun f => { f with tmpFileContent := b }
  | none => throw (.status .badUnexpectedError)

/-- `SOPC_Buffer_Reset` on the temporary buffer. -/
def bufferReset : Method Unit :=
  update fun f => { f with tmpFileContent := Buffer.empty f.tmpFileContent.maximumSize }

/-- The refusal of an opening while there is one. -/
def alreadyOpen (f : FileObject) : StatusCode :=
  if hasMode mode writeMask then .badNotWritable
  else if hasMode mode readMask && hasMode f.mode writeMask then .badNotReadable
  else .badNotSupported

/-- The content an opening starts from: the one the application gives, if it is neither empty nor
    too large, and the permanent one otherwise. -/
def openedContent (permFileContent : List UInt8) : List UInt8 :=
  match env.userOpen with
  | some (_, bs) =>
    if 0 < bs.length ∧ bs.length < maxSizeFile.toNat then bs else permFileContent
  | none => permFileContent

/-- The application's callback lets the file be opened. -/
def userAuthorizes : Bool :=
  match env.userOpen with
  | some (modeUserOk, _) => modeUserOk
  | none => true

/-- `FileTransfer_Method_Open`, up to the moment where the content is loaded. -/
def openChecks : Method Unit :=
  if checkOpenModeValidity mode then do
    let writable ← readWriteWritable env
    if !writable && hasMode mode writeMask then throw (.status .badNotWritable)
    else do
      let f ← query id
      if f.handle ≠ invalidHandleValue then throw (.status (alreadyOpen mode f))
      else if userAuthorizes env then
        update fun f => { f with permFileContent := openedContent env f.permFileContent }
      else throw (.status .badInvalidArgument)
  else throw (.status .badInvalidArgument)

/-- The temporary buffer filled from the permanent content, or both emptied. -/
def openLoad : Method Unit :=
  if hasMode mode eraseExistingMask then do
    update fun f => { f with permFileContent := [] }
    bufferReset
  else do
    let content ← query FileObject.permFileContent
    bufferReset
    if content = [] then pure ()
    else do
      bufferWrite env content
      bufferSetPosition fun _ => 0

/-- The position of an opening that appends. -/
def openAppend : Method Unit :=
  if hasMode mode appendMask then bufferSetPosition fun f => f.tmpFileContent.data.length
  else pure ()

/-- The handle given to the client and kept with the mode. -/
def openHandle : Method Output :=
  if env.outputVariant then do
    update fun f => { f with handle := generateRandomHandle env, mode := mode }
    pure (.handle (generateRandomHandle env))
  else throw (.status .badUnexpectedError)

/-- `FileTransfer_Method_Open`. -/
def openMethod : Method Output := do
  openChecks env mode
  openLoad env mode
  openAppend mode
  openCountIncDec env true
  writeSizeWithStatus env .good
  openHandle env mode

/-- The application leaves the content to be saved here. -/
def localSave : Bool := !env.byteString || env.userClose.getD true

/-- The temporary content saved, unless the byte string for it cannot be made. -/
def closeSave : Method Unit := do
  if env.byteString then do
    bufferSetPosition fun _ => 0
    let f ← query id
    match f.tmpFileContent.read f.tmpFileContent.data.length with
    | some (bytes, b) =>
      update fun f =>
        { f with
          tmpFileContent := b
          permFileContent := if localSave env then bytes else f.permFileContent }
    -- never taken: the reading asks for the whole content, from its first byte
    | none => throw (.status .badUnexpectedError)
  else pure ()

variable (handle : UInt32)

/-- `FileTransfer_Method_Close`. -/
def closeMethod : Method Output := do
  let f ← query id
  if handle ≠ f.handle then throw (.status .badInvalidArgument)
  else if f.tmpFileContent.data.length > 2147483647 then throw (.status .badUnexpectedError)
  else do
    closeSave env
    update fun f => { f with handle := 0 }
    openCountIncDec env false
    writeSizeWithStatus env (if localSave env then .good else .badNotSupported)
    pure .none

/-- `FileTransfer_Method_Read`. -/
def readMethod (length : Int32) : Method Output := do
  let f ← query id
  if length < 0 then throw (.status .badInvalidArgument)
  else if handle ≠ f.handle then throw (.status .badInvalidArgument)
  else if !hasMode f.mode readMask then throw (.status .badInvalidState)
  else
    match f.tmpFileContent.read (min length.toInt.toNat f.tmpFileContent.remaining.length) with
    | some (data, b) => do
        update fun f => { f with tmpFileContent := b }
        if env.outputVariant then pure (.byteString data)
        else throw (.status .badUnexpectedError)
    | none => throw (.status .badUnexpectedError)

/-- The data written by a client; a byte string that is null, or empty, writes nothing. -/
def writeData (data : List UInt8) : Method Unit :=
  if data = [] then pure () else bufferWrite env data

/-- `FileTransfer_Method_Write`. -/
def writeMethod (data : List UInt8) : Method Output := do
  let f ← query id
  if handle ≠ f.handle then throw (.status .badInvalidArgument)
  else if !hasMode f.mode writeMask then throw (.status .badInvalidState)
  else do
    writeData env data
    writeSizeWithStatus env .good
    pure .none

/-- `FileTransfer_Method_GetPos`. -/
def getPosMethod : Method Output := do
  let f ← query id
  if handle ≠ f.handle then throw (.status .badInvalidArgument)
  else if env.outputVariant then pure (.position (UInt64.ofNat f.tmpFileContent.position))
  else throw (.status .badUnexpectedError)

/-- `FileTransfer_Method_SetPos`. -/
def setPosMethod (position : UInt64) : Method Output := do
  let f ← query id
  if handle ≠ f.handle then throw (.status .badInvalidArgument)
  else if position.toNat > 4294967295 then throw (.status .badNotSupported)
  else do
    bufferSetPosition fun f => min position.toNat f.tmpFileContent.data.length
    pure .none

/-! ## Method calls -/

/-- A method with its input arguments, read as the method reads them. -/
inductive Call where
  | open (mode : UInt8)
  | close (handle : UInt32)
  | read (handle : UInt32) (length : Int32)
  | write (handle : UInt32) (data : List UInt8)
  | getPosition (handle : UInt32)
  | setPosition (handle : UInt32) (position : UInt64)
  deriving DecidableEq, Repr

/-- The number of input arguments a method asks for. -/
def Call.nbInputArgs : Call → Nat
  | .open _ | .close _ | .getPosition _ => 1
  | .read _ _ | .write _ _ | .setPosition _ _ => 2

/-- The status of a call on an object that is not a file. -/
def Call.notFound : Call → StatusCode
  | .open _ => .badNotFound
  | _ => .badInvalidArgument

/-- The method that is called, on the file that was found. -/
def Call.method : Call → Method Output
  | .open mode => openMethod env mode
  | .close handle => closeMethod env handle
  | .read handle length => readMethod env handle length
  | .write handle data => writeMethod env handle data
  | .getPosition handle => getPosMethod env handle
  | .setPosition handle position => setPosMethod handle position

/-- A method call as the method call manager forwards it. -/
structure Request (Id : Type) where
  objectId : Option Id
  nbInputArgs : Nat
  /-- The input arguments are not null. -/
  inputArgs : Bool
  call : Call
  env : Surroundings

/-- The input arguments that are checked in each method. -/
def Request.argumentsOk {Id : Type} (r : Request Id) : Bool :=
  r.nbInputArgs = r.call.nbInputArgs && r.inputArgs

/-- `g_objectId_to_file`, until a method reads a null pointer. -/
structure Server (Id : Type) where
  files : Id → Option FileObject
  running : Bool

variable {Id : Type} [DecidableEq Id]

/-- The file a call is made on, if its arguments are accepted and there is one. -/
def Server.target (s : Server Id) (r : Request Id) : Option (Id × FileObject) :=
  if r.argumentsOk then r.objectId.bind fun o => (s.files o).map fun f => (o, f) else none

/-- The status of a call that has no file to be made on. -/
def Request.refusal (r : Request Id) : StatusCode :=
  if r.argumentsOk && r.objectId.isSome then r.call.notFound else .badInvalidArgument

/-- A call of a method: its result, and the server after it. -/
def Server.methodCall (s : Server Id) (r : Request Id) : Except Stop Output × Server Id :=
  match s.target r with
  | none => (.error (.status r.refusal), s)
  | some (o, f) =>
    let result := exec (r.call.method r.env) f
    (result.1,
      { files := Function.update s.files o (some result.2)
        running := result.1 ≠ .error .nullPointer })

end S2opc.FileTransfer
