/-!
The kinds of objects, and the ids that belong to each.

An id belongs to at most one kind. An id in no list is that of a plain object. Colors have legacy
triggers, one for each channel; the plain triggers are enter effects, camera movements and toggles.
-/

namespace LevelFormat.Object

inductive TriggerKind where
  | plain | color | pulse | move | spawn | stop | rotate | follow | shake | animation | touch
  | count | instantCount | pickup | followPlayerY | onDeath | collision
  deriving DecidableEq

inductive Kind where
  | object | coin | text | teleport | animatedObject | collisionBlock | orb | pickupItem
  | trigger (action : TriggerKind)
  deriving DecidableEq

namespace TriggerKind

def all : List TriggerKind := [
    plain, color, pulse, move, spawn, stop, rotate, follow, shake, animation, touch, count,
    instantCount, pickup, followPlayerY, onDeath, collision]

theorem mem_all (action : TriggerKind) : action ∈ all := by
  cases action <;> decide

def name : TriggerKind → String
  | plain => "Trigger"
  | color => "ColorTrigger"
  | pulse => "PulseTrigger"
  | move => "MoveTrigger"
  | spawn => "SpawnTrigger"
  | stop => "StopTrigger"
  | rotate => "RotateTrigger"
  | follow => "FollowTrigger"
  | shake => "ShakeTrigger"
  | animation => "AnimationTrigger"
  | touch => "TouchTrigger"
  | count => "CountTrigger"
  | instantCount => "InstantCountTrigger"
  | pickup => "PickupTrigger"
  | followPlayerY => "FollowPlayerYTrigger"
  | onDeath => "OnDeathTrigger"
  | collision => "CollisionTrigger"

def defaultId : TriggerKind → UInt16
  | plain => 1932
  | color => 899
  | pulse => 1006
  | move => 901
  | spawn => 1268
  | stop => 1616
  | rotate => 1346
  | follow => 1347
  | shake => 1520
  | animation => 1585
  | touch => 1595
  | count => 1611
  | instantCount => 1811
  | pickup => 1817
  | followPlayerY => 1814
  | onDeath => 1812
  | collision => 1815

def ids : TriggerKind → List UInt16
  | plain => [
      22, 23, 24, 25, 26, 27, 28, 32, 33, 55, 56, 57, 58, 59, 1612, 1613, 1818, 1819, 1915, 1917,
      1932, 1934, 1935]
  | color => [29, 30, 104, 105, 221, 717, 718, 743, 744, 899, 900, 915]
  | action => [action.defaultId]

def hasTargetGroup : TriggerKind → Bool
  | spawn | stop | rotate | follow | animation | touch | followPlayerY | onDeath | collision => true
  | plain | color | pulse | move | shake | count | instantCount | pickup => false

end TriggerKind

namespace Kind

def all : List Kind :=
  [object, coin, text, teleport, animatedObject, collisionBlock, orb, pickupItem] ++
    TriggerKind.all.map trigger

theorem mem_all (kind : Kind) : kind ∈ all := by
  cases kind with
  | trigger action =>
      exact List.mem_append_right _ (List.mem_map_of_mem (TriggerKind.mem_all action))
  | _ => decide

def name : Kind → String
  | object => "Object"
  | coin => "Coin"
  | text => "Text"
  | teleport => "Teleport"
  | animatedObject => "AnimatedObject"
  | collisionBlock => "CollisionBlock"
  | orb => "Orb"
  | pickupItem => "PickupItem"
  | trigger action => action.name

def defaultId : Kind → UInt16
  | object => 1
  | coin => 1329
  | text => 914
  | teleport => 747
  | animatedObject => 918
  | collisionBlock => 1816
  | orb => 36
  | pickupItem => 1275
  | trigger action => action.defaultId

def ids : Kind → List UInt16
  | object => []
  | coin => [142, 1329]
  | text => [914]
  | teleport => [747]
  | animatedObject => [918]
  | collisionBlock => [1816]
  | orb => [36, 84, 141, 1022, 1330, 1333, 1594, 1704, 1751]
  | pickupItem => [1275, 1587, 1589, 1598, 1614]
  | trigger action => action.ids

def infer (id : UInt16) : Kind :=
  (all.find? fun kind => kind.ids.contains id).getD object

/-- No id is listed twice, so the order of the search does not matter. -/
theorem nodup_ids : (all.flatMap ids).Nodup := by
  decide

theorem infer_defaultId (kind : Kind) : infer kind.defaultId = kind := by
  cases kind with
  | trigger action => cases action <;> decide
  | _ => decide

def isTrigger : Kind → Bool
  | trigger _ => true
  | _ => false

def hasTargetGroup : Kind → Bool
  | pickupItem => true
  | trigger action => action.hasTargetGroup
  | _ => false

end Kind

end LevelFormat.Object
