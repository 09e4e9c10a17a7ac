/-
What the methods of a file object do to its handle, its mode and its count.

The steps of the methods that only concern the content leave all three, which is
said once by `Same`; each step has one lemma that says when it ends, and the rules
of `Decides` put them together.  Each method then has one lemma that lists its outcomes with
the condition of each: `OpenOutcome` and `CloseOutcome` for the two methods that
move the handle and the count, `ContentOutcome` for the others.
-/
import S2opc.FileTransfer.FileType

namespace S2opc.FileTransfer

open Lib.ByteCodec
open Lib.Stateful
open Lib.Stateful.Action

/-! ## What the content methods leave alone -/

/-- The handle, the mode and the count of a file are those of another one. -/
structure Same (f f' : FileObject) : Prop where
  handle : f'.handle = f.handle
  mode : f'.mode = f.mode
  openCount : f'.openCount = f.openCount
  maximumSize : f'.tmpFileContent.maximumSize = f.tmpFileContent.maximumSize

theorem Same.refl (f : FileObject) : Same f f := ⟨rfl, rfl, rfl, rfl⟩

variable {f f' : FileObject}

theorem Same.trans {f'' : FileObject} (h : Same f f') (h' : Same f' f'') : Same f f'' :=
  ⟨h'.handle.trans h.handle, h'.mode.trans h.mode, h'.openCount.trans h.openCount,
    h'.maximumSize.trans h.maximumSize⟩

variable {g : FileObject}

section

variable (env : Surroundings)

theorem bufferWrite_decides (bytes : List UInt8) (hg : Same g f) :
    Decides (bufferWrite env bytes) f
      (env.bufferRoom ∧
        f.tmpFileContent.position + bytes.length ≤ f.tmpFileContent.maximumSize.toNat)
      (fun _ => Same g) (Same g) := by
  refine .step rfl ?_
  dsimp only
  rcases hw : f.tmpFileContent.write bytes with _ | b
  · exact .throw (fun h => absurd h.2 (Nat.not_le.2 (Buffer.write_eq_none.1 hw))) hg
  · obtain ⟨hfits, -, -, hmax⟩ := Buffer.write_eq_some.1 hw
    exact .require hg fun _ => .update hfits (hg.trans ⟨rfl, rfl, rfl, hmax⟩)

theorem bufferSetPosition_decides (position : FileObject → Nat) (hg : Same g f) :
    Decides (bufferSetPosition position) f (position f ≤ f.tmpFileContent.data.length)
      (fun _ => Same g) (Same g) := by
  refine .step rfl ?_
  dsimp only [Buffer.seek]
  by_cases hle : position f ≤ f.tmpFileContent.data.length
  · rw [dif_pos hle]
    exact .update hle (hg.trans ⟨rfl, rfl, rfl, rfl⟩)
  · rw [dif_neg hle]
    exact .throw hle hg

theorem writeSizeWithStatus_decides (optStatus : StatusCode)
    (hg : Same g f) :
    Decides (writeSizeWithStatus env optStatus) f (env.writeSize ∧ True) (fun _ => Same g)
      (Same g) :=
  .require hg fun _ => .update trivial (hg.trans ⟨rfl, rfl, rfl, rfl⟩)

/-! ## Open -/

/-- What `FileType_ReadWrite_Writable` finds, if nothing fails. -/
def writableValue (f : FileObject) : Option Bool :=
  if env.readWritable then
    match f.writable with
    | .boolean b => some b
    | .null => if env.writeWritable && env.writeUserWritable then some true else none
    | _ => some true
  else none

section

variable (mode : UInt8)

/-- The file is not open, and the mode is one in which it may be opened. -/
def openAllowed (f : FileObject) : Bool :=
  checkOpenModeValidity mode &&
    (match writableValue env f with
    | some writable => writable || !hasMode mode writeMask
    | none => false) &&
    f.handle == invalidHandleValue && userAuthorizes env

/-- The content of an opening can be loaded into a buffer of some size. -/
def contentFits (content : List UInt8) (size : UInt32) : Bool :=
  hasMode mode eraseExistingMask || content == [] ||
    (env.bufferRoom && content.length ≤ size.toNat)

/-- The checks of `FileTransfer_Method_Open` let the opening be counted. -/
def opens (f : FileObject) : Bool :=
  openAllowed env mode f &&
    contentFits env mode (openedContent env f.permFileContent) f.tmpFileContent.maximumSize

/-- The variable `OpenCount` can be read and written. -/
def countable : Bool := env.readOpenCount && env.writeOpenCount

theorem readWriteWritable_decides (f : FileObject) :
    Decides (readWriteWritable env) f ((writableValue env f).isSome)
      (fun writable f' => Same f f' ∧ f'.permFileContent = f.permFileContent ∧
        writableValue env f = some writable) (Same f) := by
  unfold writableValue readWriteWritable
  by_cases hread : env.readWritable = true
  swap
  · simp only [hread, Bool.false_eq_true, if_false]
    exact .throw (by simp) (Same.refl f)
  simp only [hread, if_true]
  refine .step rfl ?_
  cases f.writable with
  | null =>
    rcases env.writeWritable with _ | _
    · exact .throw (by simp) (Same.refl f)
    refine .step rfl ?_
    rcases env.writeUserWritable with _ | _
    · exact .throw (by simp) ⟨rfl, rfl, rfl, rfl⟩
    exact .step rfl (.pure rfl ⟨⟨rfl, rfl, rfl, rfl⟩, rfl, rfl⟩)
  | _ => exact .pure rfl ⟨Same.refl f, rfl, rfl⟩

/-- The checks succeed exactly when the opening is allowed. -/
theorem openChecks_decides (f : FileObject) :
    Decides (openChecks env mode) f (openAllowed env mode f)
      (fun _ f' => Same f f' ∧ f'.permFileContent = openedContent env f.permFileContent)
      (Same f) := by
  unfold openChecks
  refine .of_iff (.require (Same.refl f) fun hmode =>
    (readWriteWritable_decides env f).bind (q := openAllowed env mode f) ?_) ?_
  · rintro writable f₁ ⟨hsame, hperm, hwritable⟩
    refine .of_iff (.reject hsame fun _ => .step rfl (.reject hsame fun _ =>
      .require hsame fun _ => .update trivial ?_)) ?_
    · exact ⟨hsame.trans ⟨rfl, rfl, rfl, rfl⟩, by rw [← hperm]⟩
    · cases writable <;> simp [openAllowed, hmode, hwritable, hsame.handle, and_assoc]
  · unfold openAllowed
    cases writableValue env f <;> simp +contextual [and_assoc]

/-- The content is loaded exactly when it fits. -/
theorem openLoad_decides (hg : Same g f) :
    Decides (openLoad env mode) f
      (contentFits env mode f.permFileContent f.tmpFileContent.maximumSize)
      (fun _ => Same g) (Same g) := by
  unfold contentFits openLoad
  by_cases herase : hasMode mode eraseExistingMask = true
  · simp only [herase, Bool.true_or, if_true]
    exact .step rfl (.update trivial (hg.trans ⟨rfl, rfl, rfl, rfl⟩))
  simp only [herase, Bool.false_or, Bool.false_eq_true, if_false]
  -- the buffer is reset, so that the content is written from its start
  refine .step rfl (.step rfl ?_)
  by_cases hnil : f.permFileContent = []
  · rw [if_pos hnil]
    exact .pure (by simp [hnil]) (hg.trans ⟨rfl, rfl, rfl, rfl⟩)
  rw [if_neg hnil]
  refine .of_iff (.bind (bufferWrite_decides env _ (hg.trans ⟨rfl, rfl, rfl, rfl⟩)) fun _ _ h =>
    (bufferSetPosition_decides (fun _ => 0) h).of_iff (iff_true_intro (Nat.zero_le _))) ?_
  simp [hnil, Buffer.empty]

theorem openAppend_decides (hg : Same g f) :
    Decides (openAppend mode) f True (fun _ => Same g) (Same g) := by
  unfold openAppend
  split_ifs with happend
  · exact (bufferSetPosition_decides _ hg).of_iff (iff_true_intro le_rfl)
  · exact .pure trivial hg

/-- The part of an opening before it is counted. -/
theorem openLoaded_decides (f : FileObject) :
    Decides (do openChecks env mode; openLoad env mode; openAppend mode) f (opens env mode f)
      (fun _ => Same f) (Same f) := by
  refine .of_iff ((openChecks_decides env mode f).bind
    (q := contentFits env mode (openedContent env f.permFileContent)
      f.tmpFileContent.maximumSize) ?_) ?_
  · rintro _ f₁ ⟨hsame, hperm⟩
    refine .of_iff ((openLoad_decides env mode hsame).bind fun _ _ h =>
      openAppend_decides mode h) ?_
    rw [hperm, hsame.maximumSize, and_true]
  · simp [opens]

end

end

variable {n : UInt16}

theorem exec_openCountIncDec (env : Surroundings) (command : Bool)
    (hcount : f.openCount = .uint16 n) :
    exec (openCountIncDec env command) f =
      if countable env then
        (.ok (), { f with openCount := .uint16 (if command then n + 1 else n - 1) })
      else (.error (.status .badInvalidState), f) := by
  unfold openCountIncDec countable
  rw [exec_bind, exec_query, hcount]
  cases env.readOpenCount && env.writeOpenCount with
  | false => rfl
  | true => rfl

/-- What `FileTransfer_Method_Open` can do to a file whose count is `n`. -/
inductive OpenOutcome (env : Surroundings) (mode : UInt8) (f : FileObject) (n : UInt16) :
    Except Stop Output → FileObject → Prop where
  | refused {e : Stop} {f' : FileObject} (hrefused : ¬(opens env mode f ∧ countable env))
      (hsame : Same f f') : OpenOutcome env mode f n (.error e) f'
  | counted {e : Stop} {f' : FileObject} (hopens : opens env mode f) (hcountable : countable env)
      (hfails : ¬(env.writeSize ∧ env.outputVariant))
      (hsame : Same { f with openCount := .uint16 (n + 1) } f') :
      OpenOutcome env mode f n (.error e) f'
  | opened {f' : FileObject} (hopens : opens env mode f) (hcountable : countable env)
      (hdone : env.writeSize ∧ env.outputVariant)
      (hsame : Same { f with
        openCount := .uint16 (n + 1), handle := generateRandomHandle env, mode := mode } f') :
      OpenOutcome env mode f n (.ok (.handle (generateRandomHandle env))) f'

variable {env : Surroundings}

theorem openMethod_outcome {mode : UInt8} (hcount : f.openCount = .uint16 n) :
    OpenOutcome env mode f n (exec (openMethod env mode) f).1 (exec (openMethod env mode) f).2 := by
  have hsplit : openMethod env mode =
      (do openChecks env mode; openLoad env mode; openAppend mode) >>= fun _ =>
        (do openCountIncDec env true; writeSizeWithStatus env .good; openHandle env mode) := by
    simp only [openMethod, bind_assoc]
  rw [hsplit]
  rcases openLoaded_decides env mode f with
    ⟨hopens, _, f₁, hexec, hsame⟩ | ⟨hopens, e, f₁, hexec, hsame⟩
  swap
  · rw [exec_bind_of_error hexec]
    exact .refused (fun h => hopens h.1) hsame
  have hinc := exec_openCountIncDec env true (hsame.openCount.trans hcount)
  rw [exec_bind_of_ok hexec]
  by_cases hcountable : countable env = true
  swap
  · rw [if_neg hcountable] at hinc
    rw [exec_bind_of_error hinc]
    exact .refused (fun h => hcountable h.2) hsame
  rw [if_pos hcountable] at hinc
  rw [exec_bind_of_ok hinc]
  have hcounted : Same { f with openCount := .uint16 (n + 1) }
      { f₁ with openCount := .uint16 (n + 1) } :=
    ⟨hsame.handle, hsame.mode, rfl, hsame.maximumSize⟩
  unfold writeSizeWithStatus openHandle
  by_cases hsize : env.writeSize = true
  swap
  · rw [if_neg hsize]
    exact .counted hopens hcountable (fun h => hsize h.1) hcounted
  rw [if_pos hsize]
  by_cases houtput : env.outputVariant = true
  · rw [if_pos houtput]
    exact .opened hopens hcountable ⟨hsize, houtput⟩ ⟨rfl, rfl, rfl, hsame.maximumSize⟩
  rw [if_neg houtput]
  exact .counted hopens hcountable (fun h => houtput h.2) (hcounted.trans ⟨rfl, rfl, rfl, rfl⟩)

/-! ## Close -/

/-- What `FileTransfer_Method_Close` can do to a file whose count is `n`. -/
inductive CloseOutcome (env : Surroundings) (handle : UInt32) (f : FileObject) (n : UInt16) :
    Except Stop Output → FileObject → Prop where
  | refused {f' : FileObject} (hhandle : handle ≠ f.handle) (hsame : Same f f') :
      CloseOutcome env handle f n (.error (.status .badInvalidArgument)) f'
  | uncounted {f' : FileObject} (hhandle : handle = f.handle) (hcountable : ¬countable env)
      (hsame : Same { f with handle := 0 } f') :
      CloseOutcome env handle f n (.error (.status .badInvalidState)) f'
  | closed {r : Except Stop Output} {f' : FileObject} (hhandle : handle = f.handle)
      (hcountable : countable env)
      (hresult : r = .ok .none ∨ r = .error (.status .badInvalidState))
      (hsame : Same { f with handle := 0, openCount := .uint16 (n - 1) } f') :
      CloseOutcome env handle f n r f'

theorem closeSave_ok (env : Surroundings) (f : FileObject) :
    ∃ f', Same f f' ∧ exec (closeSave env) f = (.ok (), f') := by
  unfold closeSave
  by_cases hbs : env.byteString = true
  swap
  · rw [if_neg hbs]
    exact ⟨f, Same.refl f, rfl⟩
  rw [if_pos hbs]
  unfold bufferSetPosition Buffer.seek
  -- from the start of the buffer the whole of it can be read
  simp only [exec_bind, exec_query, id_eq, Nat.zero_le, dite_true, exec_update]
  unfold Buffer.read
  rw [dif_pos (by simp)]
  refine ⟨_, ?_, rfl⟩
  exact ⟨rfl, rfl, rfl, rfl⟩

variable {handle : UInt32}

theorem closeMethod_outcome (hcount : f.openCount = .uint16 n)
    (hmax : f.tmpFileContent.maximumSize = maxSizeFile) :
    CloseOutcome env handle f n (exec (closeMethod env handle) f).1
      (exec (closeMethod env handle) f).2 := by
  have hlength : ¬f.tmpFileContent.data.length > 2147483647 := by
    have hle := f.tmpFileContent.length_le
    rw [hmax, show maxSizeFile.toNat = 1000000 from rfl] at hle
    omega
  unfold closeMethod
  rw [exec_bind, exec_query]
  simp only [id_eq]
  by_cases hhandle : handle = f.handle
  swap
  · rw [if_pos hhandle]
    exact .refused hhandle (Same.refl f)
  rw [if_neg (not_not.2 hhandle), if_neg hlength]
  obtain ⟨f₁, hsame, hsave⟩ := closeSave_ok env f
  rw [exec_bind_of_ok hsave]
  -- the handle is gone before the variables are written
  have hcount₁ : ({ f₁ with handle := 0 } : FileObject).openCount = .uint16 n :=
    hsame.openCount.trans hcount
  have hdec := exec_openCountIncDec env false hcount₁
  show CloseOutcome env handle f n
    (exec (openCountIncDec env false >>= fun _ => _) { f₁ with handle := 0 }).1
    (exec (openCountIncDec env false >>= fun _ => _) { f₁ with handle := 0 }).2
  by_cases hcountable : countable env = true
  swap
  · rw [if_neg hcountable] at hdec
    rw [exec_bind_of_error hdec]
    exact .uncounted hhandle hcountable ⟨rfl, hsame.mode, hsame.openCount, hsame.maximumSize⟩
  rw [if_pos hcountable] at hdec
  rw [exec_bind_of_ok hdec]
  unfold writeSizeWithStatus
  by_cases hsize : env.writeSize = true
  · rw [if_pos hsize]
    exact .closed hhandle hcountable (Or.inl rfl) ⟨rfl, hsame.mode, rfl, hsame.maximumSize⟩
  · rw [if_neg hsize]
    exact .closed hhandle hcountable (Or.inr rfl) ⟨rfl, hsame.mode, rfl, hsame.maximumSize⟩

/-! ## The methods on the content -/

/-- A client's data can be written at the position of the temporary buffer. -/
def dataFits (env : Surroundings) (data : List UInt8) (f : FileObject) : Prop :=
  data = [] ∨ env.bufferRoom ∧
    f.tmpFileContent.position + data.length ≤ f.tmpFileContent.maximumSize.toNat

theorem writeData_decides (env : Surroundings) (data : List UInt8) (f : FileObject) :
    Decides (writeData env data) f (dataFits env data f) (fun _ => Same f) (Same f) := by
  unfold writeData dataFits
  split_ifs with hnil
  · exact .pure (Or.inl hnil) (Same.refl f)
  · exact (bufferWrite_decides env data (Same.refl f)).of_iff (or_iff_right hnil).symm

/-- A call on the content of a file has nothing against it but its handle. -/
def Call.acceptable (env : Surroundings) (f : FileObject) : Call → Prop
  | .read _ length => 0 ≤ length ∧ hasMode f.mode readMask ∧ env.outputVariant
  | .write _ data =>
    hasMode f.mode writeMask ∧ env.writeSize ∧ dataFits env data f
  | .getPosition _ => env.outputVariant
  | .setPosition _ position => position.toNat ≤ 4294967295
  | _ => False

/-- What a method on the content does: it leaves handle, mode and count, and succeeds exactly with
    the handle of the file if the call is acceptable. -/
structure ContentOutcome (env : Surroundings) (call : Call) (handle : UInt32) (f : FileObject)
    (r : Except Stop Output) (f' : FileObject) : Prop where
  same : Same f f'
  succeeds : (∃ out, r = .ok out) ↔ handle = f.handle ∧ call.acceptable env f

variable {call : Call}

theorem ContentOutcome.of_decides {m : Method Output}
    (h : Decides m f (handle = f.handle ∧ call.acceptable env f) (fun _ => Same f) (Same f)) :
    ContentOutcome env call handle f (exec m f).1 (exec m f).2 := by
  rcases h with ⟨hp, out, f', hexec, hsame⟩ | ⟨hp, e, f', hexec, hsame⟩
  · rw [hexec]
    exact ⟨hsame, iff_of_true ⟨out, rfl⟩ hp⟩
  · rw [hexec]
    exact ⟨hsame, iff_of_false (by simp) hp⟩

section

variable (env : Surroundings)

section

variable (handle : UInt32)

theorem getPosMethod_outcome (f : FileObject) :
    ContentOutcome env (.getPosition handle) handle f (exec (getPosMethod env handle) f).1
      (exec (getPosMethod env handle) f).2 := by
  have hs := Same.refl f
  refine .of_decides (.of_iff (.step rfl (.reject hs fun _ => .require hs fun _ =>
    .pure trivial hs)) ?_)
  simp [Call.acceptable]

theorem setPosMethod_outcome (position : UInt64)
    (f : FileObject) :
    ContentOutcome env (.setPosition handle position) handle f
      (exec (setPosMethod handle position) f).1 (exec (setPosMethod handle position) f).2 := by
  have hs := Same.refl f
  refine .of_decides (.of_iff (.step rfl (.reject hs fun _ => .reject hs fun _ =>
    (bufferSetPosition_decides _ hs).bind fun _ _ h => .pure trivial h)) ?_)
  simp [Call.acceptable]

theorem readMethod_outcome (length : Int32)
    (f : FileObject) :
    ContentOutcome env (.read handle length) handle f (exec (readMethod env handle length) f).1
      (exec (readMethod env handle length) f).2 := by
  have hs := Same.refl f
  have hsign : ¬length < 0 ↔ 0 ≤ length := by
    rw [Int32.lt_iff_toInt_lt, Int32.le_iff_toInt_le]
    omega
  refine .of_decides (.of_iff (.step rfl (.reject hs fun _ => .reject hs fun _ =>
    .reject (p := env.outputVariant ∧ True) hs fun _ => ?_)) ?_)
  · -- no more is read than there is
    unfold Buffer.read
    rw [dif_pos (by
      have hposition := f.tmpFileContent.position_le
      simp only [id_eq, Buffer.length_remaining]
      omega)]
    exact .step rfl (.require ⟨rfl, rfl, rfl, rfl⟩ fun _ => .pure trivial ⟨rfl, rfl, rfl, rfl⟩)
  · simp only [Call.acceptable, hsign, id_eq, not_not, and_true, ne_eq, Bool.not_eq_true',
      Bool.not_eq_false]
    tauto

theorem writeMethod_outcome (data : List UInt8)
    (f : FileObject) :
    ContentOutcome env (.write handle data) handle f (exec (writeMethod env handle data) f).1
      (exec (writeMethod env handle data) f).2 := by
  have hs := Same.refl f
  refine .of_decides (.of_iff (.step rfl (.reject hs fun _ => .reject hs fun _ =>
    (writeData_decides env data f).bind fun _ _ h =>
      (writeSizeWithStatus_decides env .good h).bind fun _ _ h => .pure trivial h)) ?_)
  simp only [Call.acceptable, id_eq, not_not, and_true, ne_eq, Bool.not_eq_true', Bool.not_eq_false]
  tauto

end

end

end S2opc.FileTransfer
