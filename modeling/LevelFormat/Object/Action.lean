import LevelFormat.Object.Color
import LevelFormat.Object.Kind
import LevelFormat.Object.Setting

/-!
What the triggers do, each as a record with its layout.

Fields stand in the order in which they lie on the wire. Of the ids of collision blocks the low 15
bits are kept; the top bit beside the second one tells which of the two is meant.
-/

namespace LevelFormat.Object

open LevelFormat.Number (Binary32)
open LevelFormat.Wire (Layout Parts)

structure Curve where
  easing : Easing := default
  rate : Binary32 := .zero
  deriving DecidableEq

instance : Inhabited Curve := ⟨{}⟩

def Curve.parts : Parts Curve (Easing × Binary32) where
  split v := (v.easing, v.rate)
  build := fun (easing, rate) => { easing, rate }

def Curve.layout : Layout Curve :=
  .record parts (.pair (.enumeration Easing) .binary32)

structure GroupPair where
  target : UInt16 := 0
  additional : UInt16 := 0
  deriving DecidableEq

instance : Inhabited GroupPair := ⟨{}⟩

def GroupPair.parts : Parts GroupPair (UInt16 × UInt16) where
  split v := (v.target, v.additional)
  build := fun (target, additional) => { target, additional }

def GroupPair.layout : Layout GroupPair :=
  .record parts (.pair .uint16 .uint16)

structure ColorChange where
  duration : Binary32 := .zero
  color : Color := default
  blending : Bool := false
  targetColor : UInt16 := 0
  copiedColor : UInt16 := 0
  copiedHsv : Hsv := default
  copyOpacity : Bool := false
  playerColor : PlayerColor := default
  deriving DecidableEq

def ColorChange.parts : Parts ColorChange (Binary32 × Color × Bool × UInt16 × UInt16 × Hsv × Bool ×
    PlayerColor) where
  split v := (v.duration, v.color, v.blending, v.targetColor, v.copiedColor, v.copiedHsv,
    v.copyOpacity, v.playerColor)
  build := fun (duration, color, blending, targetColor, copiedColor, copiedHsv, copyOpacity,
      playerColor) =>
    { duration, color, blending, targetColor, copiedColor, copiedHsv, copyOpacity, playerColor }

def ColorChange.layout : Layout ColorChange :=
  .record parts
    (.pair .binary32 <| .pair Color.layout <| .pair .bool <| .pair .uint16 <| .pair .uint16 <|
      .pair Hsv.layout <| .pair .bool <| .enumeration PlayerColor)

structure Pulse where
  fadeIn : Binary32 := .zero
  hold : Binary32 := .zero
  fadeOut : Binary32 := .zero
  color : Color := default
  hsv : Hsv := default
  targetType : PulseTargetType := default
  pulseType : PulseType := default
  mode : PulseMode := default
  exclusive : Bool := false
  deriving DecidableEq

def Pulse.parts : Parts Pulse (Binary32 × Binary32 × Binary32 × Color × Hsv × PulseTargetType ×
    PulseType × PulseMode × Bool) where
  split v := (v.fadeIn, v.hold, v.fadeOut, v.color, v.hsv, v.targetType, v.pulseType, v.mode,
    v.exclusive)
  build := fun (fadeIn, hold, fadeOut, color, hsv, targetType, pulseType, mode, exclusive) =>
    { fadeIn, hold, fadeOut, color, hsv, targetType, pulseType, mode, exclusive }

def Pulse.layout : Layout Pulse :=
  .record parts
    (.pair .binary32 <| .pair .binary32 <| .pair .binary32 <| .pair Color.layout <|
      .pair Hsv.layout <| .pair (.enumeration PulseTargetType) <| .pair (.enumeration PulseType) <|
      .pair (.enumeration PulseMode) <| .bool)

structure Move where
  duration : Binary32 := .zero
  curve : Curve := {}
  xOffset : Binary32 := .zero
  yOffset : Binary32 := .zero
  lockedToPlayerX : Bool := false
  lockedToPlayerY : Bool := false
  targetType : TargetType := default
  deriving DecidableEq

def Move.parts : Parts Move (Binary32 × Curve × Binary32 × Binary32 × Bool × Bool ×
    TargetType) where
  split v := (v.duration, v.curve, v.xOffset, v.yOffset, v.lockedToPlayerX, v.lockedToPlayerY,
    v.targetType)
  build := fun (duration, curve, xOffset, yOffset, lockedToPlayerX, lockedToPlayerY, targetType) =>
    { duration, curve, xOffset, yOffset, lockedToPlayerX, lockedToPlayerY, targetType }

def Move.layout : Layout Move :=
  .record parts
    (.pair .binary32 <| .pair Curve.layout <| .pair .binary32 <| .pair .binary32 <| .pair .bool <|
      .pair .bool <| .enumeration TargetType)

structure Spawn where
  targetGroup : UInt16 := 0
  delay : Binary32 := .zero
  editorDisable : Bool := false
  deriving DecidableEq

def Spawn.parts : Parts Spawn (UInt16 × Binary32 × Bool) where
  split v := (v.targetGroup, v.delay, v.editorDisable)
  build := fun (targetGroup, delay, editorDisable) => { targetGroup, delay, editorDisable }

def Spawn.layout : Layout Spawn :=
  .record parts (.pair .uint16 <| .pair .binary32 <| .bool)

structure Stop where
  targetGroup : UInt16 := 0
  deriving DecidableEq

def Stop.parts : Parts Stop (UInt16) where
  split v := v.targetGroup
  build targetGroup := { targetGroup }

def Stop.layout : Layout Stop := .record parts .uint16

structure Rotate where
  groups : GroupPair := {}
  duration : Binary32 := .zero
  curve : Curve := {}
  targetRotation : Binary32 := .zero
  rotationLocked : Bool := false
  deriving DecidableEq

def Rotate.parts : Parts Rotate (GroupPair × Binary32 × Curve × Binary32 × Bool) where
  split v := (v.groups, v.duration, v.curve, v.targetRotation, v.rotationLocked)
  build := fun (groups, duration, curve, targetRotation, rotationLocked) =>
    { groups, duration, curve, targetRotation, rotationLocked }

def Rotate.layout : Layout Rotate :=
  .record parts
    (.pair GroupPair.layout <| .pair .binary32 <| .pair Curve.layout <| .pair .binary32 <| .bool)

structure Follow where
  groups : GroupPair := {}
  duration : Binary32 := .zero
  curve : Curve := {}
  xModifier : Binary32 := .one
  yModifier : Binary32 := .one
  deriving DecidableEq

def Follow.parts : Parts Follow (GroupPair × Binary32 × Curve × Binary32 × Binary32) where
  split v := (v.groups, v.duration, v.curve, v.xModifier, v.yModifier)
  build := fun (groups, duration, curve, xModifier, yModifier) =>
    { groups, duration, curve, xModifier, yModifier }

def Follow.layout : Layout Follow :=
  .record parts
    (.pair GroupPair.layout <| .pair .binary32 <| .pair Curve.layout <| .pair .binary32 <|
      .binary32)

structure Shake where
  duration : Binary32 := .zero
  strength : Binary32 := .zero
  interval : Binary32 := .zero
  deriving DecidableEq

def Shake.parts : Parts Shake (Binary32 × Binary32 × Binary32) where
  split v := (v.duration, v.strength, v.interval)
  build := fun (duration, strength, interval) => { duration, strength, interval }

def Shake.layout : Layout Shake :=
  .record parts (.pair .binary32 <| .pair .binary32 <| .binary32)

structure Animate where
  targetGroup : UInt16 := 0
  animation : UInt16 := 0
  deriving DecidableEq

def Animate.parts : Parts Animate (UInt16 × UInt16) where
  split v := (v.targetGroup, v.animation)
  build := fun (targetGroup, animation) => { targetGroup, animation }

def Animate.layout : Layout Animate :=
  .record parts (.pair .uint16 .uint16)

structure Touch where
  targetGroup : UInt16 := 0
  holdMode : Bool := false
  dualMode : Bool := false
  toggle : ToggleType := default
  deriving DecidableEq

def Touch.parts : Parts Touch (UInt16 × Bool × Bool × ToggleType) where
  split v := (v.targetGroup, v.holdMode, v.dualMode, v.toggle)
  build := fun (targetGroup, holdMode, dualMode, toggle) =>
    { targetGroup, holdMode, dualMode, toggle }

def Touch.layout : Layout Touch :=
  .record parts (.pair .uint16 <| .pair .bool <| .pair .bool <| .enumeration ToggleType)

structure Count where
  item : UInt16 := 0
  count : Int32 := 0
  activateGroup : Bool := false
  multiActivate : Bool := false
  deriving DecidableEq

def Count.parts : Parts Count (UInt16 × Int32 × Bool × Bool) where
  split v := (v.item, v.count, v.activateGroup, v.multiActivate)
  build := fun (item, count, activateGroup, multiActivate) =>
    { item, count, activateGroup, multiActivate }

def Count.layout : Layout Count :=
  .record parts (.pair .uint16 <| .pair .int32 <| .pair .bool <| .bool)

structure InstantCount where
  item : UInt16 := 0
  count : Int32 := 0
  activateGroup : Bool := false
  comparison : InstantCountComparison := default
  deriving DecidableEq

def InstantCount.parts : Parts InstantCount (UInt16 × Int32 × Bool × InstantCountComparison) where
  split v := (v.item, v.count, v.activateGroup, v.comparison)
  build := fun (item, count, activateGroup, comparison) =>
    { item, count, activateGroup, comparison }

def InstantCount.layout : Layout InstantCount :=
  .record parts
    (.pair .uint16 <| .pair .int32 <| .pair .bool <| .enumeration InstantCountComparison)

structure Pickup where
  item : UInt16 := 0
  count : Int32 := 0
  deriving DecidableEq

def Pickup.parts : Parts Pickup (UInt16 × Int32) where
  split v := (v.item, v.count)
  build := fun (item, count) => { item, count }

def Pickup.layout : Layout Pickup :=
  .record parts (.pair .uint16 .int32)

structure FollowPlayerY where
  targetGroup : UInt16 := 0
  delay : Binary32 := .zero
  speed : Binary32 := .one
  maxSpeed : Binary32 := .zero
  offset : Binary32 := .zero
  deriving DecidableEq

def FollowPlayerY.parts : Parts FollowPlayerY (UInt16 × Binary32 × Binary32 × Binary32 ×
    Binary32) where
  split v := (v.targetGroup, v.delay, v.speed, v.maxSpeed, v.offset)
  build := fun (targetGroup, delay, speed, maxSpeed, offset) =>
    { targetGroup, delay, speed, maxSpeed, offset }

def FollowPlayerY.layout : Layout FollowPlayerY :=
  .record parts
    (.pair .uint16 <| .pair .binary32 <| .pair .binary32 <| .pair .binary32 <| .binary32)

structure OnDeath where
  targetGroup : UInt16 := 0
  activateGroup : Bool := false
  deriving DecidableEq

def OnDeath.parts : Parts OnDeath (UInt16 × Bool) where
  split v := (v.targetGroup, v.activateGroup)
  build := fun (targetGroup, activateGroup) => { targetGroup, activateGroup }

def OnDeath.layout : Layout OnDeath :=
  .record parts (.pair .uint16 .bool)

structure Collision where
  targetGroup : UInt16 := 0
  activateGroup : Bool := false
  blockA : UInt16 := 0
  blockB : UInt16 := 0
  triggerOnExit : Bool := false
  deriving DecidableEq

def Collision.parts : Parts Collision (UInt16 × Bool × UInt16 × UInt16 × Bool) where
  split v := (v.targetGroup, v.activateGroup, v.blockA, (v.blockB, v.triggerOnExit))
  build := fun (targetGroup, activateGroup, blockA, (blockB, triggerOnExit)) =>
    { targetGroup, activateGroup, blockA, blockB, triggerOnExit }

def Collision.layout : Layout Collision :=
  .record parts (.pair .uint16 <| .pair .bool <| .pair (.word .low15) <| .word .flagged15)

namespace TriggerKind

abbrev Action : TriggerKind → Type
  | plain => Unit
  | color => ColorChange
  | pulse => Pulse
  | move => Move
  | spawn => Spawn
  | stop => Stop
  | rotate => Rotate
  | follow => Follow
  | shake => Shake
  | animation => Animate
  | touch => Touch
  | count => Count
  | instantCount => InstantCount
  | pickup => Pickup
  | followPlayerY => FollowPlayerY
  | onDeath => OnDeath
  | collision => Collision

def actionLayout : (kind : TriggerKind) → Layout kind.Action
  | plain => .empty
  | color => ColorChange.layout
  | pulse => Pulse.layout
  | move => Move.layout
  | spawn => Spawn.layout
  | stop => Stop.layout
  | rotate => Rotate.layout
  | follow => Follow.layout
  | shake => Shake.layout
  | animation => Animate.layout
  | touch => Touch.layout
  | count => Count.layout
  | instantCount => InstantCount.layout
  | pickup => Pickup.layout
  | followPlayerY => FollowPlayerY.layout
  | onDeath => OnDeath.layout
  | collision => Collision.layout

def defaultAction : (kind : TriggerKind) → kind.Action
  | plain => ()
  | color => ({} : ColorChange)
  | pulse => ({} : Pulse)
  | move => ({} : Move)
  | spawn => ({} : Spawn)
  | stop => ({} : Stop)
  | rotate => ({} : Rotate)
  | follow => ({} : Follow)
  | shake => ({} : Shake)
  | animation => ({} : Animate)
  | touch => ({} : Touch)
  | count => ({} : Count)
  | instantCount => ({} : InstantCount)
  | pickup => ({} : Pickup)
  | followPlayerY => ({} : FollowPlayerY)
  | onDeath => ({} : OnDeath)
  | collision => ({} : Collision)

instance : (kind : TriggerKind) → DecidableEq kind.Action
  | plain => inferInstanceAs (DecidableEq Unit)
  | color => inferInstanceAs (DecidableEq ColorChange)
  | pulse => inferInstanceAs (DecidableEq Pulse)
  | move => inferInstanceAs (DecidableEq Move)
  | spawn => inferInstanceAs (DecidableEq Spawn)
  | stop => inferInstanceAs (DecidableEq Stop)
  | rotate => inferInstanceAs (DecidableEq Rotate)
  | follow => inferInstanceAs (DecidableEq Follow)
  | shake => inferInstanceAs (DecidableEq Shake)
  | animation => inferInstanceAs (DecidableEq Animate)
  | touch => inferInstanceAs (DecidableEq Touch)
  | count => inferInstanceAs (DecidableEq Count)
  | instantCount => inferInstanceAs (DecidableEq InstantCount)
  | pickup => inferInstanceAs (DecidableEq Pickup)
  | followPlayerY => inferInstanceAs (DecidableEq FollowPlayerY)
  | onDeath => inferInstanceAs (DecidableEq OnDeath)
  | collision => inferInstanceAs (DecidableEq Collision)

def targetGroup? : (kind : TriggerKind) → kind.Action → Option UInt16
  | spawn, action => some action.targetGroup
  | stop, action => some action.targetGroup
  | rotate, action => some action.groups.target
  | follow, action => some action.groups.target
  | animation, action => some action.targetGroup
  | touch, action => some action.targetGroup
  | followPlayerY, action => some action.targetGroup
  | onDeath, action => some action.targetGroup
  | collision, action => some action.targetGroup
  | plain, _ | color, _ | pulse, _ | move, _ | shake, _ | count, _ | instantCount, _
  | pickup, _ => none

theorem isSome_targetGroup? (kind : TriggerKind) (action : kind.Action) :
    (kind.targetGroup? action).isSome = kind.hasTargetGroup := by
  cases kind <;> rfl

end TriggerKind

end LevelFormat.Object
