import LevelFormat.Fault

/-!
Reading position in a byte buffer.

Every read goes through `Cursor.take`, which hands out the next bytes and moves past them, or
fails and stays. A decoder is a computation on the cursor that keeps the cursor when it fails,
so the caller sees how far it came.
-/

namespace LevelFormat.Wire

structure Cursor where
  position : Nat
  rest : List UInt8
  deriving DecidableEq

def Cursor.start (bytes : List UInt8) : Cursor := ⟨0, bytes⟩

def Cursor.remaining (cursor : Cursor) : Nat := cursor.rest.length

def Cursor.isEmpty (cursor : Cursor) : Bool := cursor.rest.isEmpty

abbrev Decoder := EStateM Fault Cursor

def Decoder.peek (count : Nat) : Decoder (List UInt8) := fun cursor =>
  let bytes := cursor.rest.take count
  if bytes.length = count then .ok bytes cursor
  else .error (.truncated cursor.position count cursor.remaining) cursor

def Cursor.advance (count : Nat) (cursor : Cursor) : Cursor :=
  ⟨cursor.position + count, cursor.rest.drop count⟩

def Decoder.take (count : Nat) : Decoder (List UInt8) := do
  let bytes ← peek count
  modify (Cursor.advance count)
  return bytes

def Decoder.ofExcept {α : Type} : Except Fault α → Decoder α
  | .ok value => pure value
  | .error fault => throw fault

/-- A value that takes up the whole buffer: whatever is left over is refused. -/
def Decoder.run {α : Type} (decoder : Decoder α) (bytes : List UInt8) : Except Fault α :=
  match decoder (.start bytes) with
  | .ok value cursor =>
    if cursor.isEmpty then .ok value else .error (.trailingBytes cursor.remaining)
  | .error fault _ => .error fault

end LevelFormat.Wire
