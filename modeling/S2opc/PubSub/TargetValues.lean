/-
What the application is given of the messages received for a reader.

The array of write values is kept from message to message, and only the values
in it are cleared: the status that a bad field has left there stays, and goes to
the application with the next value of the field.
-/
import S2opc.PubSub.Subscriber
import S2opc.Lib.Run

namespace S2opc.PubSub

open BuiltinTypes Lib.Stateful Lib.FirstMatch Lib.Run List

variable {Obj : Type} (callback : List (WriteValue Obj) → Bool) (reader : DataSetReader)
  (target : TargetVariable)

/-! ## Messages for a reader -/

/-- The bad status that is in place of the value of a field, if any. -/
def receivedStatus (field : FieldMetaData) (variant : Variant Obj) : Option UInt32 :=
  match isCompatibleVariant field variant with
  | .ok (_, status) => status
  | .error _ => none

/-- The message has values, which are compatible with the fields of the reader. -/
def Accepted (dsm : DataSetMessage Obj) : Prop :=
  dsm.conf.dataSetMessageType ≠ .keepAlive ∧ filterReaderFieldMetaData reader dsm = .ok true

/-- A message received for the reader. -/
def receive (s : Subscriber Obj) (dsm : DataSetMessage Obj) : Subscriber Obj :=
  (Action.exec (receiveDsm (some (some callback)) dsm reader (some target)) s).2

/-- A write value once a value or a bad status is set in it. -/
def setValue (timestamp : UInt64) (value : WriteValue Obj) (variant : Variant Obj) :
    Option UInt32 → WriteValue Obj
  | some status => { value with status := status }
  | none => { value with value := variant, sourceTimestamp := timestamp.toInt64 }

theorem setValues_of_compatible {timestamp : UInt64}
    {l : List (WriteValue Obj × FieldMetaData × Variant Obj)}
    (h : allCompatible (l.map (·.2)) = .ok true) :
    setValues timestamp l = .ok (l.map fun t =>
      setValue timestamp t.1 t.2.2 (receivedStatus t.2.1 t.2.2), true) := by
  induction l with
  | nil => rfl
  | cons t rest ih =>
    obtain ⟨value, field, variant⟩ := t
    rw [map_cons, allCompatible] at h
    rw [setValues, map_cons, receivedStatus]
    split at h
    · cases h
    · rename_i status hfield
      rw [hfield]
      cases status <;> simp [ih h, Except.map, setValue]
    · cases h

variable {reader target} {s : Subscriber Obj} {ctx : WriterCtx Obj}
  {dsm : DataSetMessage Obj}

/-- The write values of the reader, with the fields of a message set in them. -/
def valuesSet (reader : DataSetReader) (ctx : WriterCtx Obj) (dsm : DataSetMessage Obj) :
    List (WriteValue Obj) :=
  (ctx.writeValues.zip (reader.fieldMetaData.zip dsm.fields.toList)).map fun t =>
    setValue dsm.timestamp t.1 t.2.2 (receivedStatus t.2.1 t.2.2)

theorem Accepted.length (h : Accepted reader dsm) :
    dsm.fields.toList.length = reader.fieldMetaData.length ∧
      allCompatible (reader.fieldMetaData.zip dsm.fields.toList) = .ok true := by
  have hfilter := h.2
  unfold filterReaderFieldMetaData at hfilter
  split_ifs at hfilter with hlength
  · exact ⟨hlength, hfilter⟩
  · cases hfilter

theorem receive_of_accepted (h : Accepted reader dsm)
    (hctx : s.findWriterContext target.pubId target.groupId target.writerId = some ctx)
    (hlength : ctx.writeValues.length = reader.fieldMetaData.length) :
    receive callback reader target s dsm = s.write target (valuesSet reader ctx dsm) true := by
  obtain ⟨hfields, hcompatible⟩ := h.length
  have hset := @setValues_of_compatible _ dsm.timestamp
    (ctx.writeValues.zip (reader.fieldMetaData.zip dsm.fields.toList)) (by
      rw [map_snd_zip (by rw [length_zip]; omega)]
      exact hcompatible)
  unfold receive receiveDsm setVariables
  rw [if_neg h.1, Action.exec_bind, Action.exec_ofExcept, h.2]
  simp only [if_true, Action.exec_bind, Action.exec_query, hctx]
  rw [if_neg (not_not.2 (hfields.trans hlength.symm))]
  simp only [Action.exec_bind, Action.exec_ofExcept, hset]
  rfl

theorem receive_of_not_accepted (h : ¬ Accepted reader dsm) :
    receive callback reader target s dsm = s := by
  unfold receive receiveDsm
  split_ifs with hkeepAlive
  · rfl
  · rw [Action.exec_bind, Action.exec_ofExcept]
    rcases hfilter : filterReaderFieldMetaData reader dsm with stop | _ | _
    · rfl
    · rfl
    · exact absurd ⟨hkeepAlive, hfilter⟩ h

/-- The writer context of the target variables has a write value for each field, all cleared. -/
def HasCleared (reader : DataSetReader) (target : TargetVariable) (s : Subscriber Obj) : Prop :=
  ∃ ctx, s.findWriterContext target.pubId target.groupId target.writerId = some ctx ∧
    ctx.writeValues.length = reader.fieldMetaData.length ∧ ∀ v ∈ ctx.writeValues, v.value = .null

theorem HasCleared.receive (hs : HasCleared reader target s) :
    HasCleared reader target (receive callback reader target s dsm) := by
  obtain ⟨ctx, hctx, hlength, hnull⟩ := hs
  by_cases h : Accepted reader dsm
  · have hfields := h.length.1
    rw [receive_of_accepted callback h hctx hlength, HasCleared]
    unfold Subscriber.findWriterContext at hctx ⊢
    simp only [Subscriber.write, if_true, Subscriber.updateWriterContext]
    rw [find?_updateFirst (by intro; rfl), hctx]
    refine ⟨_, rfl, ?_, by simp⟩
    simp only [valuesSet, length_map, length_zip]
    omega
  · rw [receive_of_not_accepted callback h]
    exact ⟨ctx, hctx, hlength, hnull⟩

/-- A message with one field, received at the time 8. -/
def message (variant : Variant Empty) : DataSetMessage Empty :=
  ⟨.initial, 8, ⟨1, fun _ => variant⟩, 1, 0, false⟩

end S2opc.PubSub
