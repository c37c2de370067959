import LevelFormat.Wire.Layout

/-!
Colors, and the shifts that are applied to them.

As a number a color has red in the highest of three bytes. On the wire it is three bytes in the order
red, green, blue, whatever the byte order.
-/

namespace LevelFormat.Object

open LevelFormat.Wire (Layout Parts Word)
open LevelFormat.Number (Binary32)
open LevelFormat.Bits (FlagByte)

structure Color where
  red : UInt8
  green : UInt8
  blue : UInt8
  deriving DecidableEq

namespace Color

def white : Color := ⟨255, 255, 255⟩

def black : Color := ⟨0, 0, 0⟩

instance : Inhabited Color := ⟨white⟩

def ofValue (value : UInt32) : Color :=
  ⟨(value >>> 16).toUInt8, (value >>> 8).toUInt8, value.toUInt8⟩

def toValue (color : Color) : UInt32 :=
  color.red.toUInt32 <<< 16 ||| color.green.toUInt32 <<< 8 ||| color.blue.toUInt32

def hexByte (byte : UInt8) : List Char :=
  [Nat.digitChar (byte.toNat / 16), Nat.digitChar (byte.toNat % 16)]

def text (color : Color) : String :=
  String.ofList ('#' :: [color.red, color.green, color.blue].flatMap hexByte)

instance : Word Color where
  width := 3
  toBytes _ color := [color.red, color.green, color.blue]
  ofBytes _ bytes := ⟨bytes.getD 0 0, bytes.getD 1 0, bytes.getD 2 0⟩
  length_toBytes _ _ := rfl
  ofBytes_toBytes _ _ := rfl
  toBytes_ofBytes _ bytes length := by
    match bytes, length with
    | [_, _, _], _ => rfl

def layout : Layout Color := .word (.word Color)

end Color

structure Hsv where
  hue : Int16 := 0
  saturation : Binary32 := .one
  brightness : Binary32 := .one
  saturationChecked : Bool := false
  brightnessChecked : Bool := false
  deriving DecidableEq

namespace Hsv

instance : Inhabited Hsv := ⟨{}⟩

def unchecked (hue : Int16) (saturation brightness : Binary32) : Hsv :=
  { hue, saturation, brightness }

def checks : Wire.Packing UInt8 (Bool × Bool) :=
  .total (fun value => (((FlagByte.empty 3).assign 1 value.1).assign 2 value.2).bits)
    (fun byte => ((FlagByte.ofBits 3 byte).contains 1, (FlagByte.ofBits 3 byte).contains 2))
    (by intro ⟨first, second⟩; cases first <;> cases second <;> rfl)

def parts : Parts Hsv (Int16 × Binary32 × Binary32 × Bool × Bool) where
  split hsv := (hsv.hue, hsv.saturation, hsv.brightness,
    (hsv.saturationChecked, hsv.brightnessChecked))
  build := fun (hue, saturation, brightness, (saturationChecked, brightnessChecked)) =>
    { hue, saturation, brightness, saturationChecked, brightnessChecked }

def layout : Layout Hsv :=
  .record parts (.pair .int16 <| .pair .binary32 <| .pair .binary32 <| .word checks)

end Hsv

end LevelFormat.Object
