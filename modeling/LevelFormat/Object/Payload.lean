import LevelFormat.Object.Action

/-!
What an object has beyond its base record, by its kind.
-/

namespace LevelFormat.Object

open LevelFormat.Bits (FlagByte)
open LevelFormat.Number (Binary32)
open LevelFormat.Wire (Layout Parts)

structure Teleport where
  offset : Binary32 := .zero
  smooth : Bool := false
  deriving DecidableEq

def Teleport.parts : Parts Teleport (Binary32 × Bool) where
  split teleport := (teleport.offset, teleport.smooth)
  build := fun (offset, smooth) => { offset, smooth }

def Teleport.layout : Layout Teleport := .record parts (.pair .binary32 (.word .lowBit))

structure Playback where
  randomizeStart : Bool := false
  speed : Binary32 := .one
  deriving DecidableEq

def Playback.parts : Parts Playback (Bool × Binary32) where
  split playback := (playback.randomizeStart, playback.speed)
  build := fun (randomizeStart, speed) => { randomizeStart, speed }

def Playback.layout : Layout Playback := .record parts (.pair .bool .binary32)

structure CollisionBlock where
  blockId : UInt16 := 0
  dynamic : Bool := false
  deriving DecidableEq

def CollisionBlock.parts : Parts CollisionBlock (UInt16 × Bool) where
  split block := (block.blockId, block.dynamic)
  build := fun (blockId, dynamic) => { blockId, dynamic }

def CollisionBlock.layout : Layout CollisionBlock := .record parts (.word .flagged15)

structure PickupItem where
  item : UInt16 := 0
  targetGroup : UInt16 := 0
  mode : PickupItemMode := default
  deriving DecidableEq

def PickupItem.parts : Parts PickupItem (UInt16 × UInt16 × PickupItemMode) where
  split pickup := (pickup.item, pickup.targetGroup, pickup.mode)
  build := fun (item, targetGroup, mode) => { item, targetGroup, mode }

def PickupItem.layout : Layout PickupItem :=
  .record parts (.pair .uint16 <| .pair .uint16 <| .enumeration PickupItemMode)

abbrev TriggerFlags := FlagByte 7

namespace TriggerFlags

def touchTriggered : UInt8 := 1

def spawnTriggered : UInt8 := 2

def multiTrigger : UInt8 := 4

end TriggerFlags

structure Triggered (action : TriggerKind) where
  flags : TriggerFlags
  action : action.Action
  deriving DecidableEq

def Triggered.parts (kind : TriggerKind) : Parts (Triggered kind) (TriggerFlags × kind.Action) where
  split triggered := (triggered.flags, triggered.action)
  build := fun (flags, action) => { flags, action }

def Triggered.layout (kind : TriggerKind) : Layout (Triggered kind) :=
  .record (parts kind) (.pair (.flagByte 7) kind.actionLayout)

namespace Kind

abbrev Payload : Kind → Type
  | object => Unit
  | coin => UInt8
  | text => String
  | teleport => Teleport
  | animatedObject => Playback
  | collisionBlock => CollisionBlock
  | orb => Bool
  | pickupItem => PickupItem
  | trigger action => Triggered action

def payloadLayout : (kind : Kind) → Layout kind.Payload
  | object => .empty
  | coin => .uint8
  | text => .text
  | teleport => Teleport.layout
  | animatedObject => Playback.layout
  | collisionBlock => CollisionBlock.layout
  | orb => .bool
  | pickupItem => PickupItem.layout
  | trigger action => Triggered.layout action

def defaultPayload : (kind : Kind) → kind.Payload
  | object => ()
  | coin => (0 : UInt8)
  | text => ""
  | teleport => ({} : Teleport)
  | animatedObject => ({} : Playback)
  | collisionBlock => ({} : CollisionBlock)
  | orb => false
  | pickupItem => ({} : PickupItem)
  | trigger action => ({ flags := default, action := action.defaultAction } : Triggered action)

instance : (kind : Kind) → DecidableEq kind.Payload
  | object => inferInstanceAs (DecidableEq Unit)
  | coin => inferInstanceAs (DecidableEq UInt8)
  | text => inferInstanceAs (DecidableEq String)
  | teleport => inferInstanceAs (DecidableEq Teleport)
  | animatedObject => inferInstanceAs (DecidableEq Playback)
  | collisionBlock => inferInstanceAs (DecidableEq CollisionBlock)
  | orb => inferInstanceAs (DecidableEq Bool)
  | pickupItem => inferInstanceAs (DecidableEq PickupItem)
  | trigger action => inferInstanceAs (DecidableEq (Triggered action))

def targetGroup? : (kind : Kind) → kind.Payload → Option UInt16
  | pickupItem, payload => some payload.targetGroup
  | trigger kind, payload => kind.targetGroup? payload.action
  | object, _ | coin, _ | text, _ | teleport, _ | animatedObject, _ | collisionBlock, _
  | orb, _ => none

def triggerFlags? : (kind : Kind) → kind.Payload → Option TriggerFlags
  | trigger _, payload => some payload.flags
  | object, _ | coin, _ | text, _ | teleport, _ | animatedObject, _ | collisionBlock, _
  | orb, _ | pickupItem, _ => none

theorem isSome_targetGroup? (kind : Kind) (payload : kind.Payload) :
    (kind.targetGroup? payload).isSome = kind.hasTargetGroup := by
  cases kind with
  | trigger action => exact action.isSome_targetGroup? payload.action
  | _ => rfl

theorem isSome_triggerFlags? (kind : Kind) (payload : kind.Payload) :
    (kind.triggerFlags? payload).isSome = kind.isTrigger := by
  cases kind <;> rfl

end Kind

end LevelFormat.Object
