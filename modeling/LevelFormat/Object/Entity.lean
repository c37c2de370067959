import LevelFormat.Object.Base
import LevelFormat.Object.Payload

/-!
Objects of any kind, and streams of them.

On the wire an object is its base record followed by its payload. The kind is not written: it
is inferred from the id, so an object is only written if its id belongs to its kind.
-/

namespace LevelFormat.Object

open LevelFormat.Wire (Decoder Emission Layout Options Parts)

structure Record (kind : Kind) where
  base : Base
  payload : kind.Payload
  deriving DecidableEq

namespace Record

def new (kind : Kind) : Record kind := ⟨.ofId kind.defaultId, kind.defaultPayload⟩

instance (kind : Kind) : Inhabited (Record kind) := ⟨new kind⟩

def parts (kind : Kind) : Parts (Record kind) (Base × kind.Payload) where
  split record := (record.base, record.payload)
  build := fun (base, payload) => { base, payload }

def layout (kind : Kind) : Layout (Record kind) :=
  .record (parts kind) (.pair Base.layout kind.payloadLayout)

end Record

structure Entity where
  kind : Kind
  record : Record kind
  deriving DecidableEq

namespace Entity

def new (kind : Kind) : Entity := ⟨kind, .new kind⟩

def base (entity : Entity) : Base := entity.record.base

def withBase (entity : Entity) (base : Base) : Entity :=
  ⟨entity.kind, { entity.record with base }⟩

def targetGroup? (entity : Entity) : Option UInt16 :=
  entity.kind.targetGroup? entity.record.payload

def triggerFlags? (entity : Entity) : Option TriggerFlags :=
  entity.kind.triggerFlags? entity.record.payload

def trigger? : Entity → Option (Record (.trigger .plain))
  | ⟨.trigger _, record⟩ => some ⟨record.base, { flags := record.payload.flags, action := () }⟩
  | _ => none

theorem isSome_trigger? (entity : Entity) : entity.trigger?.isSome = entity.kind.isTrigger := by
  obtain ⟨kind, record⟩ := entity
  cases kind <;> rfl

theorem triggerFlags?_eq_trigger? (entity : Entity) :
    entity.triggerFlags? = entity.trigger?.map (·.payload.flags) := by
  obtain ⟨kind, record⟩ := entity
  cases kind <;> rfl

def withTriggerFlags : Entity → TriggerFlags → Entity
  | ⟨.trigger action, record⟩, flags =>
    ⟨.trigger action, ⟨record.base, { record.payload with flags }⟩⟩
  | entity, _ => entity

def decode (kind : Kind) (options : Options) : Decoder Entity := do
  let record ← (Record.layout kind).read options
  return ⟨kind, record⟩

def decodeInferred (options : Options) : Decoder Entity := do
  let bytes ← Decoder.peek 2
  decode (Kind.infer (Wire.Word.ofBytes options.order bytes)) options

def kindFault? (entity : Entity) : Option Fault :=
  let inferred := Kind.infer entity.base.id
  if inferred = entity.kind then none
  else some (.kindMismatch entity.base.id entity.kind.name inferred.name)

def emit (entity : Entity) (options : Options) : Emission :=
  match entity.kindFault? with
  | some fault => .fail fault
  | none => (Record.layout entity.kind).emit options entity.record

end Entity

end LevelFormat.Object
