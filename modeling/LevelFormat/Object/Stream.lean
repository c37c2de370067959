import LevelFormat.Object.Entity
import LevelFormat.Wire.Consumption

/-!
Objects one after another, up to the end of a buffer.

An object takes at least 55 bytes, so a stream comes to its end.
-/

namespace LevelFormat.Object

open LevelFormat.Wire (Cursor Decoder Emission Layout Options)

theorem Record.minSize_layout_ge (kind : Kind) : 55 ≤ (Record.layout kind).minSize := by
  have whole : Base.layout.minSize = 55 := rfl
  change 55 ≤ Base.layout.minSize + kind.payloadLayout.minSize
  omega

theorem Entity.takes_decode (kind : Kind) (options : Options) :
    Decoder.Takes 55 (Entity.decode kind options) := by
  have takes := ((Record.layout kind).takes_read options).bind
    fun record => Decoder.takes_pure (⟨kind, record⟩ : Entity)
  exact takes.mono (Record.minSize_layout_ge kind)

theorem Entity.takes_decodeInferred (options : Options) :
    Decoder.Takes 55 (Entity.decodeInferred options) := by
  have takes := (Decoder.takes_peek 2).bind fun bytes =>
    Entity.takes_decode (Kind.infer (Wire.Word.ofBytes options.order bytes)) options
  exact takes.mono (by omega)

/-- What is left of a buffer of objects. A stream that met a fault delivers nothing more. -/
structure Stream where
  options : Options
  cursor : Cursor
  failed : Bool

namespace Stream

def start (options : Options) (bytes : List UInt8) : Stream := ⟨options, .start bytes, false⟩

def next? (stream : Stream) : Option (Except Fault Entity × Stream) :=
  if stream.failed || stream.cursor.isEmpty then none
  else
    match Entity.decodeInferred stream.options stream.cursor with
    | .ok entity cursor => some (.ok entity, { stream with cursor })
    | .error fault cursor => some (.error fault, { stream with cursor, failed := true })

theorem remaining_lt_of_next? {stream rest : Stream} {entity : Entity}
    (delivered : stream.next? = some (.ok entity, rest)) :
    rest.cursor.remaining < stream.cursor.remaining := by
  unfold next? at delivered
  split at delivered
  next => cases delivered
  next =>
    split at delivered
    next found cursor taken =>
      cases delivered
      have moved := Entity.takes_decodeInferred stream.options _ _ _ taken
      have shorter := moved.remaining_le
      simp only
      omega
    next => cases delivered

def toList (stream : Stream) : Except Fault (List Entity) :=
  match _delivered : stream.next? with
  | none => .ok []
  | some (.error fault, _) => .error fault
  | some (.ok entity, rest) =>
    match rest.toList with
    | .ok others => .ok (entity :: others)
    | .error fault => .error fault
termination_by stream.cursor.remaining
decreasing_by exact remaining_lt_of_next? _delivered

end Stream

def decodeAll (options : Options) (bytes : List UInt8) : Except Fault (List Entity) :=
  (Stream.start options bytes).toList

def emitAll (options : Options) : List Entity → Emission
  | [] => .ofBytes []
  | entity :: rest => entity.emit options ++ emitAll options rest

def encodeAll (options : Options) (entities : List Entity) : Except Fault (List UInt8) :=
  (emitAll options entities).toExcept

end LevelFormat.Object
