/-
The discipline of file handles.

`Opening` is what the calls and their answers say: a file is open from an `Open`
that returned a handle, which is not 0, to the `Close` of this handle.  `Obeys`
says what is asked of a call: that it is accepted only with the handle of the
opening, in a mode that permits it; that `OpenCount` counts the opening; and that
an `Open` that fails changes nothing.

A call obeys exactly when it is `Sound`, a condition on the call, its
surroundings and the file before it: a call with the handle 0 on a file that is
closed has another reason to be refused, an opening that is counted is given its
handle, and the closing of an opening is counted.
-/
import S2opc.Lib.Run
import S2opc.FileTransfer.Outcomes

namespace S2opc.FileTransfer

open Lib.ByteCodec Function
open Lib.Stateful
open Lib.Stateful.Action
open Lib.Run

/-! ## Openings -/

/-- An opening of a file, with the handle that was returned for it. -/
structure Opening where
  handle : UInt32
  mode : UInt8
  handle_ne_zero : handle ≠ 0
  deriving DecidableEq, Repr

/-- The opening after the `Close` of a handle. -/
def Opening.close (handle : UInt32) (opening : Option Opening) : Option Opening :=
  opening.filter fun o => o.handle ≠ handle

/-- The opening of a file after a call and its result.  A `Close` that ends with
    `BadInvalidState` has closed the file: it is the variables that could not be written. -/
def Opening.after (opening : Option Opening) : Call → Except Stop Output → Option Opening
  | .open mode, .ok (.handle h) =>
    if hne : h ≠ 0 then some ⟨h, mode, hne⟩ else opening
  | .close handle, .ok _ => Opening.close handle opening
  | .close handle, .error (.status .badInvalidState) => Opening.close handle opening
  | _, _ => opening

/-- The number of open handles of a file. -/
def openHandles : Option Opening → UInt16
  | none => 0
  | some _ => 1

/-- The handle a call passes. -/
def Call.handle? : Call → Option UInt32
  | .open _ => none
  | .close handle => some handle
  | .read handle _ => some handle
  | .write handle _ => some handle
  | .getPosition handle => some handle
  | .setPosition handle _ => some handle

/-- An opening mode permits a call. -/
def Call.permittedBy (mode : UInt8) : Call → Bool
  | .read _ _ => hasMode mode readMask
  | .write _ _ => hasMode mode writeMask
  | _ => true

/-! ## One call on one file -/

/-- What is asked of a call on a file, from its result and the file after it. -/
structure CallObeys (f : FileObject) (opening : Option Opening) (call : Call)
    (r : Except Stop Output) (f' : FileObject) : Prop where
  handle : ∀ h out, call.handle? = some h → r = .ok out →
    ∃ o, opening = some o ∧ o.handle = h ∧ call.permittedBy o.mode
  openCount : f'.openCount = .uint16 (openHandles (Opening.after opening call r))
  failedOpen : ∀ mode e, call = .open mode → r = .error e →
    f'.handle = f.handle ∧ f'.mode = f.mode ∧ f'.openCount = f.openCount

/-- The condition on a call, its surroundings and the file before it. -/
def Call.sound (env : Surroundings) (f : FileObject) : Call → Prop
  | .open mode =>
    opens env mode f → countable env →
      env.writeSize ∧ env.outputVariant ∧ env.randomBytes.isSome
  | .close handle => handle = f.handle → (countable env ↔ f.handle ≠ 0)
  | .read handle length =>
    handle = f.handle → f.handle = 0 → ¬(Call.read handle length).acceptable env f
  | .write handle data =>
    handle = f.handle → f.handle = 0 → ¬(Call.write handle data).acceptable env f
  | .getPosition handle =>
    handle = f.handle → f.handle = 0 → ¬(Call.getPosition handle).acceptable env f
  | .setPosition handle position =>
    handle = f.handle → f.handle = 0 → ¬(Call.setPosition handle position).acceptable env f

/-- The fields of a file are those of its opening. -/
structure Agrees (f : FileObject) (opening : Option Opening) : Prop where
  handle : f.handle = (opening.map Opening.handle).getD 0
  mode : ∀ o, opening = some o → f.mode = o.mode
  openCount : f.openCount = .uint16 (openHandles opening)
  maximumSize : f.tmpFileContent.maximumSize = maxSizeFile

variable {env : Surroundings} {f f' : FileObject} {opening : Option Opening}
  {r : Except Stop Output}

section

variable (h : Agrees f opening)
include h

theorem Agrees.handle_eq_zero : f.handle = 0 ↔ opening = none := by
  rw [h.handle]
  cases opening with
  | none => simp
  | some o => simp [o.handle_ne_zero]

theorem Agrees.of_handle_ne_zero (hne : f.handle ≠ 0) :
    ∃ o, opening = some o ∧ o.handle = f.handle ∧ o.mode = f.mode := by
  cases opening with
  | none => exact absurd h.handle hne
  | some o => exact ⟨o, rfl, h.handle.symm, (h.mode o rfl).symm⟩

theorem Agrees.same (hsame : Same f f') : Agrees f' opening where
  handle := hsame.handle.trans h.handle
  mode o ho := hsame.mode.trans (h.mode o ho)
  openCount := hsame.openCount.trans h.openCount
  maximumSize := hsame.maximumSize.trans h.maximumSize

theorem Opening.close_of_agrees : Opening.close f.handle opening = none := by
  rcases opening with _ | o
  · rfl
  have hhandle : f.handle = o.handle := h.handle
  simp [Opening.close, hhandle]

end

/-- What follows from the outcome of a call: it obeys exactly when it is sound, and then the file
    agrees with its opening again. -/
structure Judged (env : Surroundings) (f : FileObject) (opening : Option Opening) (call : Call)
    (r : Except Stop Output) (f' : FileObject) : Prop where
  obeys_iff : CallObeys f opening call r f' ↔ call.sound env f
  agrees : CallObeys f opening call r f' → Agrees f' (Opening.after opening call r)

theorem ContentOutcome.judged {call : Call} {h : UInt32} (hagrees : Agrees f opening)
    (hout : ContentOutcome env call h f r f') (hhandle : call.handle? = some h)
    (hafter : Opening.after opening call r = opening)
    (hsound : call.sound env f ↔ (h = f.handle → f.handle = 0 → ¬call.acceptable env f))
    (hpermitted : call.acceptable env f → call.permittedBy f.mode) :
    Judged env f opening call r f' := by
  have hagrees' := hagrees.same hout.same
  refine ⟨?_, fun _ => hafter.symm ▸ hagrees'⟩
  rw [hsound]
  constructor
  · intro hobeys heq hzero hacceptable
    obtain ⟨out, hr⟩ := hout.succeeds.2 ⟨heq, hacceptable⟩
    obtain ⟨o, -, ho, -⟩ := hobeys.handle h out hhandle hr
    exact o.handle_ne_zero (ho.trans (heq.trans hzero))
  · intro hrefused
    refine ⟨?_, hafter.symm ▸ hagrees'.openCount, ?_⟩
    · intro h' out hh' hr
      obtain rfl : h = h' := Option.some.inj (hhandle.symm.trans hh')
      obtain ⟨heq, hacceptable⟩ := hout.succeeds.1 ⟨out, hr⟩
      have hne : f.handle ≠ 0 := fun hzero => hrefused heq hzero hacceptable
      obtain ⟨o, ho, hoh, hom⟩ := hagrees.of_handle_ne_zero hne
      exact ⟨o, ho, hoh.trans heq.symm, hom ▸ hpermitted hacceptable⟩
    · rintro mode e rfl -
      cases hhandle

theorem Judged.obeying {call : Call} (hagrees : Agrees f' (Opening.after opening call r))
    (hobeys : CallObeys f opening call r f') (hsound : call.sound env f) :
    Judged env f opening call r f' :=
  ⟨iff_of_true hobeys hsound, fun _ => hagrees⟩

/-- A call after which the count is not that of the openings. -/
theorem Judged.miscounted {call : Call} {n : UInt16} (hcount : f'.openCount = .uint16 n)
    (hne : n ≠ openHandles (Opening.after opening call r)) (hsound : ¬call.sound env f) :
    Judged env f opening call r f' := by
  have hbroken : ¬CallObeys f opening call r f' := fun hobeys =>
    hne (VariableValue.uint16.inj (hcount.symm.trans hobeys.openCount))
  exact ⟨iff_of_false hbroken hsound, fun hobeys => absurd hobeys hbroken⟩

theorem OpenOutcome.judged {mode : UInt8} (hagrees : Agrees f opening)
    (hout : OpenOutcome env mode f (openHandles opening) r f') :
    Judged env f opening (.open mode) r f' := by
  cases hout with
  | refused hrefused hsame =>
    have hagrees' := hagrees.same hsame
    refine .obeying hagrees' ⟨fun _ _ h => (by cases h), hagrees'.openCount, ?_⟩
      fun hopens hcountable => absurd ⟨hopens, hcountable⟩ hrefused
    exact fun _ _ _ _ => ⟨hsame.handle, hsame.mode, hsame.openCount⟩
  | counted hopens hcountable hfails hsame =>
    -- the count has moved although the call fails
    refine .miscounted hsame.openCount ?_ fun hsound => ?_
    · cases opening with
      | none => exact show (0 : UInt16) + 1 ≠ 0 by decide
      | some o => exact show (1 : UInt16) + 1 ≠ 1 by decide
    · have hdone := hsound hopens hcountable
      exact hfails ⟨hdone.1, hdone.2.1⟩
  | opened hopens hcountable hdone hsame =>
    have hclosed : opening = none := by
      rw [← hagrees.handle_eq_zero]
      simp only [opens, openAllowed, Bool.and_eq_true, beq_iff_eq] at hopens
      exact hopens.1.1.2
    subst hclosed
    by_cases hrandom : env.randomBytes.isSome = true
    · have hne := (generateRandomHandle_ne_zero env).2 hrandom
      have hafter : Opening.after none (.open mode) (.ok (.handle (generateRandomHandle env))) =
          some ⟨generateRandomHandle env, mode, hne⟩ := dif_pos hne
      have hagrees' : Agrees f'
          (Opening.after none (.open mode) (.ok (.handle (generateRandomHandle env)))) := by
        rw [hafter]
        refine ⟨hsame.handle, ?_, hsame.openCount, hsame.maximumSize.trans hagrees.maximumSize⟩
        rintro o ho
        cases ho
        exact hsame.mode
      exact .obeying hagrees' ⟨fun _ _ h => (by cases h), hagrees'.openCount,
        fun _ _ _ h => (by cases h)⟩ fun _ _ => ⟨hdone.1, hdone.2, hrandom⟩
    · have hzero : ¬generateRandomHandle env ≠ 0 :=
        fun hne => hrandom ((generateRandomHandle_ne_zero env).1 hne)
      -- the handle 0 opens nothing, and is counted
      refine .miscounted hsame.openCount ?_ fun hsound => hrandom (hsound hopens hcountable).2.2
      rw [show Opening.after none (.open mode) (.ok (.handle (generateRandomHandle env))) = none
        from dif_neg hzero]
      decide

theorem CloseOutcome.judged {handle : UInt32} (hagrees : Agrees f opening)
    (hout : CloseOutcome env handle f (openHandles opening) r f') :
    Judged env f opening (.close handle) r f' := by
  cases hout with
  | refused hhandle hsame =>
    have hagrees' := hagrees.same hsame
    exact .obeying hagrees' ⟨fun _ _ _ h => (by cases h), hagrees'.openCount,
      fun _ _ h => (by cases h)⟩ fun h => absurd h hhandle
  | uncounted hhandle hcountable hsame =>
    subst hhandle
    have hafter : Opening.after opening (.close f.handle) (.error (.status .badInvalidState)) =
        none := Opening.close_of_agrees hagrees
    have hcount : f'.openCount = .uint16 (openHandles opening) :=
      hsame.openCount.trans hagrees.openCount
    by_cases hzero : f.handle = 0
    · have hnone := hagrees.handle_eq_zero.1 hzero
      subst hnone
      have hagrees' : Agrees f' none :=
        ⟨hsame.handle, fun _ h => (by cases h), hcount, hsame.maximumSize.trans hagrees.maximumSize⟩
      exact .obeying hagrees' ⟨fun _ _ _ h => (by cases h), hcount, fun _ _ h => (by cases h)⟩
        fun _ => ⟨fun h => absurd h hcountable, fun h => absurd hzero h⟩
    · obtain ⟨o, rfl, -, -⟩ := hagrees.of_handle_ne_zero hzero
      -- the opening is gone and still counted
      refine .miscounted hcount ?_ fun hsound => hcountable ((hsound rfl).2 hzero)
      rw [hafter]
      exact show (1 : UInt16) ≠ 0 by decide
  | closed hhandle hcountable hresult hsame =>
    subst hhandle
    have hafter : Opening.after opening (.close f.handle) r = none := by
      rcases hresult with rfl | rfl <;> exact Opening.close_of_agrees hagrees
    by_cases hzero : f.handle = 0
    · have hnone := hagrees.handle_eq_zero.1 hzero
      subst hnone
      -- nothing was open, and the count goes below 0
      refine .miscounted hsame.openCount ?_ fun hsound => (hsound rfl).1 hcountable hzero
      rw [hafter]
      decide
    · obtain ⟨o, rfl, hoh, -⟩ := hagrees.of_handle_ne_zero hzero
      have hagrees' : Agrees f' (Opening.after (some o) (.close f.handle) r) := by
        rw [hafter]
        exact ⟨hsame.handle, fun _ h => (by cases h),
          hsame.openCount.trans (show VariableValue.uint16 (1 - 1) = .uint16 0 by decide),
          hsame.maximumSize.trans hagrees.maximumSize⟩
      refine .obeying hagrees' ⟨?_, hagrees'.openCount, fun _ _ h => (by cases h)⟩
        fun _ => ⟨fun _ => hzero, fun _ => hcountable⟩
      intro h out hh _
      exact ⟨o, rfl, hoh.trans (Option.some.inj hh), rfl⟩

theorem Call.judged (env : Surroundings) (call : Call) (hagrees : Agrees f opening) :
    Judged env f opening call (exec (call.method env) f).1 (exec (call.method env) f).2 := by
  cases call with
  | «open» mode => exact (openMethod_outcome hagrees.openCount).judged hagrees
  | close handle =>
    exact (closeMethod_outcome hagrees.openCount hagrees.maximumSize).judged hagrees
  | read handle length =>
    exact (readMethod_outcome env handle length f).judged hagrees rfl rfl Iff.rfl fun h => h.2.1
  | write handle data =>
    exact (writeMethod_outcome env handle data f).judged hagrees rfl rfl Iff.rfl fun h => h.1
  | getPosition handle =>
    exact (getPosMethod_outcome env handle f).judged hagrees rfl rfl Iff.rfl fun _ => rfl
  | setPosition handle position =>
    exact (setPosMethod_outcome env handle position f).judged hagrees rfl rfl Iff.rfl fun _ => rfl

/-! ## Runs -/

variable {Id : Type} [DecidableEq Id]

/-- A server with the openings that the calls so far have left. -/
structure Monitored (Id : Type) where
  server : Server Id
  openings : Id → Option Opening

/-- The variables of a file that are in the address space when the file is created. -/
structure FileVariables where
  size : VariableValue
  writable : VariableValue
  userWritable : VariableValue

/-- The files that have been created, before the first call. -/
def Monitored.start (config : Id → Option FileVariables) : Monitored Id where
  server :=
    { files := fun o => (config o).map fun v => FileObject.create v.size v.writable v.userWritable
      running := true }
  openings := fun _ => none

/-- A call, with what its answer says of the opening of its file. -/
def Monitored.step (m : Monitored Id) (r : Request Id) : Monitored Id :=
  if m.server.running then
    { server := (m.server.methodCall r).2
      openings :=
        match m.server.target r with
        | some (o, _) =>
          Function.update m.openings o
            (Opening.after (m.openings o) r.call (m.server.methodCall r).1)
        | none => m.openings }
  else m

/-- What is asked of a call: a handle is accepted only if it is the one of the opening of the
    file, in a mode that permits the call; `OpenCount` is the number of open handles; and an
    `Open` that fails changes nothing. -/
structure Obeys (m : Monitored Id) (r : Request Id) : Prop where
  handle : m.server.running → ∀ h out, r.call.handle? = some h →
    (m.server.methodCall r).1 = .ok out →
    ∃ o opening, r.objectId = some o ∧ m.openings o = some opening ∧ opening.handle = h ∧
      r.call.permittedBy opening.mode
  openCount : ∀ o f, (m.step r).server.files o = some f →
    f.openCount = .uint16 (openHandles ((m.step r).openings o))
  failedOpen : m.server.running → ∀ mode e, r.call = .open mode →
    (m.server.methodCall r).1 = .error e → ∀ o f, m.server.files o = some f →
    ∃ f', (m.step r).server.files o = some f' ∧ (m.step r).openings o = m.openings o ∧
      f'.handle = f.handle ∧ f'.mode = f.mode ∧ f'.openCount = f.openCount

/-- The call is sound on the file it is made on. -/
def Sound (m : Monitored Id) (r : Request Id) : Prop :=
  m.server.running → ∀ o f, m.server.target r = some (o, f) → r.call.sound r.env f

/-- Each file agrees with its opening. -/
def Monitored.Inv (m : Monitored Id) : Prop :=
  ∀ o f, m.server.files o = some f → Agrees f (m.openings o)

variable {s : Server Id} {r : Request Id} {o : Id} {f : FileObject}

omit [DecidableEq Id] in
theorem Server.target_eq_some (h : s.target r = some (o, f)) :
    r.objectId = some o ∧ s.files o = some f := by
  unfold Server.target at h
  by_cases hargs : r.argumentsOk = true
  · rw [if_pos hargs, Option.bind_eq_some_iff] at h
    obtain ⟨o', ho, hmap⟩ := h
    obtain ⟨f', hf, heq⟩ := Option.map_eq_some_iff.1 hmap
    cases heq
    exact ⟨ho, hf⟩
  · rw [if_neg hargs] at h
    cases h

theorem Server.methodCall_of_target (h : s.target r = some (o, f)) :
    (s.methodCall r).1 = (exec (r.call.method r.env) f).1 ∧
      (s.methodCall r).2.files =
        Function.update s.files o (some (exec (r.call.method r.env) f).2) := by
  unfold Server.methodCall
  rw [h]
  exact ⟨rfl, rfl⟩

theorem Server.methodCall_of_none (h : s.target r = none) :
    s.methodCall r = (.error (.status r.refusal), s) := by
  unfold Server.methodCall
  rw [h]

variable {m : Monitored Id}

/-- A call that reaches no file obeys, and changes nothing. -/
theorem obeys_of_unchanged (hinv : m.Inv) (hstep : m.step r = m)
    (hresult : m.server.running → ∃ e, (m.server.methodCall r).1 = .error e) : Obeys m r where
  handle hrunning h out _ hok := by
    obtain ⟨e, he⟩ := hresult hrunning
    rw [he] at hok
    cases hok
  openCount o f hf := by
    rw [hstep] at hf ⊢
    exact (hinv o f hf).openCount
  failedOpen _ mode e _ _ o f hf := by
    rw [hstep]
    exact ⟨f, hf, rfl, rfl, rfl, rfl⟩

theorem Monitored.step_of_not_running (h : ¬m.server.running = true) : m.step r = m := by
  unfold Monitored.step
  rw [if_neg h]

theorem Monitored.step_of_none (h : m.server.target r = none) : m.step r = m := by
  unfold Monitored.step
  rw [h, Server.methodCall_of_none h]
  exact ite_self m

theorem Monitored.step_of_target (hrunning : m.server.running = true)
    (h : m.server.target r = some (o, f)) :
    (m.step r).server.files =
        Function.update m.server.files o (some (exec (r.call.method r.env) f).2) ∧
      (m.step r).openings =
        Function.update m.openings o
          (Opening.after (m.openings o) r.call (exec (r.call.method r.env) f).1) := by
  obtain ⟨hresult, hfiles⟩ := Server.methodCall_of_target h
  unfold Monitored.step
  rw [if_pos hrunning, h, ← hresult]
  exact ⟨hfiles, rfl⟩

/-- A call obeys if and only if it does on the file that it reaches. -/
theorem obeys_iff_callObeys (hinv : m.Inv) (hrunning : m.server.running = true)
    (htarget : m.server.target r = some (o, f)) :
    Obeys m r ↔
      CallObeys f (m.openings o) r.call (exec (r.call.method r.env) f).1
        (exec (r.call.method r.env) f).2 := by
  obtain ⟨hobject, hf⟩ := Server.target_eq_some htarget
  obtain ⟨hresult, -⟩ := Server.methodCall_of_target htarget
  obtain ⟨hfiles, hopenings⟩ := Monitored.step_of_target hrunning htarget
  constructor
  · intro hobeys
    refine ⟨?_, ?_, ?_⟩
    · intro h out hh hok
      obtain ⟨o', opening, ho', hopening, hrest⟩ :=
        hobeys.handle hrunning h out hh (hresult.trans hok)
      obtain rfl : o = o' := Option.some.inj (hobject.symm.trans ho')
      exact ⟨opening, hopening, hrest⟩
    · have hcount := hobeys.openCount o _ (by rw [hfiles, update_self])
      rwa [hopenings, update_self] at hcount
    · intro mode e hcall herror
      obtain ⟨f', hf', -, hsame⟩ :=
        hobeys.failedOpen hrunning mode e hcall (hresult.trans herror) o f hf
      rw [hfiles, update_self] at hf'
      rw [Option.some.inj hf']
      exact hsame
  · intro hobeys
    refine ⟨?_, ?_, ?_⟩
    · intro _ h out hh hok
      obtain ⟨opening, hopening, hrest⟩ := hobeys.handle h out hh (hresult.symm.trans hok)
      exact ⟨o, opening, hobject, hopening, hrest⟩
    · intro o' f' hf'
      rw [hfiles] at hf'
      rw [hopenings]
      by_cases ho : o' = o
      · subst ho
        rw [update_self] at hf' ⊢
        rw [← Option.some.inj hf']
        exact hobeys.openCount
      · rw [update_of_ne ho] at hf' ⊢
        exact (hinv o' f' hf').openCount
    · intro _ mode e hcall herror o' f₀ hf₀
      have herror' := hresult.symm.trans herror
      rw [hfiles, hopenings]
      by_cases ho : o' = o
      · subst ho
        obtain rfl : f = f₀ := Option.some.inj (hf.symm.trans hf₀)
        refine ⟨_, update_self _ _ _, ?_, hobeys.failedOpen mode e hcall herror'⟩
        rw [update_self, herror', hcall]
        rfl
      · rw [update_of_ne ho, update_of_ne ho]
        exact ⟨f₀, hf₀, rfl, rfl, rfl, rfl⟩

theorem obeys_iff_sound (hinv : m.Inv) :
    Obeys m r ↔ Sound m r := by
  by_cases hrunning : m.server.running = true
  swap
  · exact ⟨fun _ h => absurd h hrunning, fun _ =>
      obeys_of_unchanged hinv (Monitored.step_of_not_running hrunning) fun h => absurd h hrunning⟩
  rcases htarget : m.server.target r with _ | p
  · refine ⟨fun _ _ o f h => ?_, fun _ => ?_⟩
    · rw [htarget] at h
      cases h
    · exact obeys_of_unchanged hinv (Monitored.step_of_none htarget) fun _ =>
        ⟨_, congrArg Prod.fst (Server.methodCall_of_none htarget)⟩
  obtain ⟨o, f⟩ := p
  have hjudged := Call.judged r.env r.call (hinv o f (Server.target_eq_some htarget).2)
  rw [obeys_iff_callObeys hinv hrunning htarget, hjudged.obeys_iff]
  constructor
  · intro hsound _ o' f' h
    rw [htarget] at h
    cases h
    exact hsound
  · intro hsound
    exact hsound hrunning o f htarget

theorem inv_step (hinv : m.Inv) (hobeys : Obeys m r) :
    (m.step r).Inv := by
  by_cases hrunning : m.server.running = true
  swap
  · rw [Monitored.step_of_not_running hrunning]
    exact hinv
  rcases htarget : m.server.target r with _ | p
  · rw [Monitored.step_of_none htarget]
    exact hinv
  obtain ⟨o, f⟩ := p
  obtain ⟨hfiles, hopenings⟩ := Monitored.step_of_target hrunning htarget
  have hjudged := Call.judged r.env r.call (hinv o f (Server.target_eq_some htarget).2)
  have hagrees := hjudged.agrees ((obeys_iff_callObeys hinv hrunning htarget).1 hobeys)
  intro o' f' hf'
  rw [hfiles] at hf'
  rw [hopenings]
  by_cases ho : o' = o
  · subst ho
    rw [update_self] at hf' ⊢
    rw [← Option.some.inj hf']
    exact hagrees
  · rw [update_of_ne ho] at hf' ⊢
    exact hinv o' f' hf'

omit [DecidableEq Id] in
theorem inv_start (config : Id → Option FileVariables) : (Monitored.start config).Inv := by
  intro o f hf
  obtain ⟨v, -, rfl⟩ := Option.map_eq_some_iff.1 hf
  exact ⟨rfl, fun _ h => (by cases h), rfl, rfl⟩

/-- The calls of a run all obey the discipline of handles if and only if each of them is sound. -/
theorem fileHandles_disciplined_iff (config : Id → Option FileVariables)
    (requests : List (Request Id)) :
    EveryStep Monitored.step Obeys (Monitored.start config) requests ↔
      EveryStep Monitored.step Sound (Monitored.start config) requests :=
  everyStep_iff_everyStep (fun _ _ hinv hobeys => inv_step hinv hobeys)
    (fun _ _ hinv => obeys_iff_sound hinv) (inv_start config)

/-- A call with the number of arguments its method asks for, nothing failing around it. -/
def fileCall (call : Call) : Request Unit where
  objectId := some ()
  nbInputArgs := call.nbInputArgs
  inputArgs := true
  call := call
  env := {}

/-- A file that has just been created, with a `Writable` variable. -/
def createdFile : Monitored Unit := Monitored.start fun _ => some ⟨.null, .boolean true, .null⟩

/-- The handle 0 closes a file that nobody has opened, and the count goes from 0 to 65535. -/
theorem handleZero_closes_closed_file :
    (createdFile.server.methodCall (fileCall (.close 0))).1 = .ok .none ∧
      ((createdFile.step (fileCall (.close 0))).server.files ()).map FileObject.openCount =
        some (.uint16 65535) ∧
      ¬EveryStep Monitored.step Obeys createdFile [fileCall (.close 0)] := by
  refine ⟨by decide +kernel, by decide +kernel, ?_⟩
  rintro ⟨hobeys, -⟩
  obtain ⟨o, opening, -, hopening, -⟩ := hobeys.handle rfl 0 .none rfl (by decide +kernel)
  cases hopening

end S2opc.FileTransfer
