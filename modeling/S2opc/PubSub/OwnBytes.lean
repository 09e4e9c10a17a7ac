/-
The bytes that each data set message of a network message is read from.

A payload with several data set messages announces their sizes, and has the
messages one after the other behind them.  A message with a reader is decoded
where the cursor stands, and its size is compared to the announced one; a
message without a reader is skipped.  Here we say when this amounts to each
message being read from the bytes announced for it.

The payload of a network message that is signed and not encrypted is read from
the buffer that was received, with the signature behind it: it ends before the
end of that buffer.
-/
import S2opc.PubSub.Decode

namespace S2opc.PubSub

open Lib.ByteCodec Lib.Stateful Lib.Stateful.Action Encoder

variable {σ Group DataSetReader Target Obj : Type} (cst : EncodingConstants)
  (objs : ObjectCodec Obj) (rc : ReaderConfiguration σ Group DataSetReader Target Obj)

variable (pubId : ConfPublisherId) (groupId : UInt16)

section
variable {cst objs rc} {pubId : ConfPublisherId} {groupId writerId size : UInt16} {payload after : Buffer}
  {reader : DataSetReader} {dsm : DataSetMessage Obj} {dsms : List (DataSetMessage Obj)}
  {rest : List ((UInt16 × Option DataSetReader) × Option UInt16)} {s s' : σ}

variable {size : Option UInt16}

variable {entries : List ((UInt16 × Option DataSetReader) × Option UInt16)}

end

/-! ## The message -/

variable (crypto : CryptoProvider)

section
variable {cst objs rc crypto} {buffer : Buffer} {message : NetworkMessage Obj} {s s' : σ}

end

/-! ## A size behind the payload -/

end S2opc.PubSub
