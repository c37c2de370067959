import LevelFormat.Object.Entity

/-!
Edits of an object's base record, and of the records of two triggers.
-/

namespace LevelFormat.Object

open LevelFormat.Number (Binary32)

inductive Edit where
  | moveBy (x y : Binary32)
  | moveTo (x y : Binary32)
  | rotate (angle : Binary32)
  | scaleBy (factor : Binary32)
  | scaleTo (scale : Binary32)
  | flipHorizontally
  | flipVertically
  | assignFlags (bits : UInt8) (value : Bool)
  | addGroups (ids : List UInt16)
  | removeGroups (ids : List UInt16)
  deriving DecidableEq

def Edit.apply : Edit → Base → Base
  | moveBy x y, base => { base with x := base.x + x, y := base.y + y }
  | moveTo x y, base => { base with x, y }
  | rotate angle, base => { base with rotation := base.rotation + angle }
  | scaleBy factor, base => { base with scale := base.scale * factor }
  | scaleTo scale, base => { base with scale }
  | flipHorizontally, base => { base with flags := base.flags.toggle Base.flippedHorizontally }
  | flipVertically, base => { base with flags := base.flags.toggle Base.flippedVertically }
  | assignFlags bits value, base => { base with flags := base.flags.assign bits value }
  | addGroups ids, base => { base with groups := base.groups.insertAll ids }
  | removeGroups ids, base => { base with groups := base.groups.eraseAll ids }

def Base.edit (base : Base) (script : List Edit) : Base :=
  script.foldl (fun base edit => edit.apply base) base

def Entity.edit (entity : Entity) (script : List Edit) : Entity :=
  entity.withBase (entity.base.edit script)

def Move.moveOffset (move : Move) (x y : Binary32) : Move :=
  { move with xOffset := move.xOffset + x, yOffset := move.yOffset + y }

def Rotate.targetRotate (rotate : Rotate) (angle : Binary32) : Rotate :=
  { rotate with targetRotation := rotate.targetRotation + angle }

end LevelFormat.Object
