import LevelFormat.Object.Color
import LevelFormat.Object.Setting

/-!
The record that every object starts with.

Its layer and its order within the layer share one word: three bits above thirteen.
-/

namespace LevelFormat.Object

open LevelFormat.Bits (FlagByte)
open LevelFormat.Number (Binary32)
open LevelFormat.Wire (Enumeration IdSet Layout Packing Parts)

structure Base where
  id : UInt16
  x : Binary32
  y : Binary32
  rotation : Binary32
  scale : Binary32
  flags : FlagByte 0xFF
  zLayer : ZLayer
  zOrder : Int16
  editorLayer : UInt16
  secondEditorLayer : UInt16
  mainColor : UInt16
  detailColor : UInt16
  mainHsv : Hsv
  detailHsv : Hsv
  groups : IdSet
  link : UInt16
  deriving DecidableEq

namespace Base

/-! The bits of the flag byte. -/

def flippedHorizontally : UInt8 := 1

def flippedVertically : UInt8 := 2

def doNotFade : UInt8 := 4

def doNotEnter : UInt8 := 8

def groupParent : UInt8 := 16

def highDetail : UInt8 := 32

def glow : UInt8 := 64

def specialChecked : UInt8 := 128

def flagBits : List UInt8 :=
  [flippedHorizontally, flippedVertically, doNotFade, doNotEnter, groupParent, highDetail, glow,
    specialChecked]

def ofId (id : UInt16) : Base where
  id := id
  x := .zero
  y := .zero
  rotation := .zero
  scale := .one
  flags := .ofBits 0xFF glow
  zLayer := .default
  zOrder := 0
  editorLayer := 0
  secondEditorLayer := 0
  mainColor := 0
  detailColor := 0
  mainHsv := default
  detailHsv := default
  groups := default
  link := 0

def zOrderMask : UInt32 := 0x1FFF

def zWord (layer : ZLayer) (order : Int16) : UInt32 :=
  Bits.join (Enumeration.code layer).toUInt32 order.toUInt16.toUInt32 zOrderMask

theorem code_zLayer_lt (layer : ZLayer) : (Enumeration.code layer).toNat < 8 := by
  cases layer <;> decide

theorem toNat_zWord_lt (layer : ZLayer) (order : Int16) : (zWord layer order).toNat < 2 ^ 16 := by
  have high := code_zLayer_lt layer
  have low : (order.toUInt16.toUInt32 &&& zOrderMask).toNat < 2 ^ 16 := by
    rw [UInt32.toNat_and]
    exact Nat.lt_of_le_of_lt Nat.and_le_right (by decide)
  rw [zWord, Bits.join, UInt32.toNat_or]
  apply Nat.or_lt_two_pow low
  rw [UInt32.toNat_shiftLeft, show (Bits.bitWidth zOrderMask).toNat % 32 = 13 from rfl,
    UInt8.toNat_toUInt32, Nat.shiftLeft_eq]
  omega

theorem split_zWord (layer : ZLayer) (order : Int16) :
    Bits.split (zWord layer order).toUInt16.toUInt32 zOrderMask =
      ((Enumeration.code layer).toUInt32, order.toUInt16.toUInt32 &&& zOrderMask) := by
  have whole : (zWord layer order).toUInt16.toUInt32 = zWord layer order := by
    have bound := toNat_zWord_lt layer order
    rw [← UInt32.toNat_inj, UInt16.toNat_toUInt32, UInt32.toNat_toUInt16]
    omega
  have high : ((Enumeration.code layer).toUInt32 <<< Bits.bitWidth zOrderMask) >>>
      Bits.bitWidth zOrderMask = (Enumeration.code layer).toUInt32 := by
    cases layer <;> rfl
  rw [whole, zWord, Bits.split_join _ _ _ (by decide), high]

def settleZOrder (order : Int16) : Int16 :=
  (order.toUInt16.toUInt32 &&& zOrderMask).toUInt16.toInt16

/-- The word of the order does not change when the order settles. -/
theorem and_zOrderMask_settleZOrder (order : Int16) :
    (settleZOrder order).toUInt16.toUInt32 &&& zOrderMask =
      order.toUInt16.toUInt32 &&& zOrderMask := by
  have bound : (order.toUInt16.toUInt32 &&& zOrderMask).toNat < 2 ^ 16 := by
    rw [UInt32.toNat_and]
    exact Nat.lt_of_le_of_lt Nat.and_le_right (by decide)
  have whole : (order.toUInt16.toUInt32 &&& zOrderMask).toUInt16.toUInt32 =
      order.toUInt16.toUInt32 &&& zOrderMask := by
    rw [← UInt32.toNat_inj, UInt16.toNat_toUInt32, UInt32.toNat_toUInt16]
    omega
  rw [settleZOrder, UInt16.toUInt16_toInt16, whole, UInt32.and_assoc, UInt32.and_self]

theorem settleZOrder_settleZOrder (order : Int16) :
    settleZOrder (settleZOrder order) = settleZOrder order :=
  congrArg (fun word => word.toUInt16.toInt16) (and_zOrderMask_settleZOrder order)

def zPacking : Packing UInt16 (ZLayer × Int16) where
  pack value := (zWord value.1 value.2).toUInt16
  unpack word :=
    let (layer, order) := Bits.split word.toUInt32 zOrderMask
    match Enumeration.ofCode ZLayer layer.toUInt8 with
    | .ok layer => .ok (layer, order.toUInt16.toInt16)
    | .error fault => .error fault
  settle value := (value.1, settleZOrder value.2)
  unpack_pack := by
    intro ⟨layer, order⟩
    have code : (Enumeration.code layer).toUInt32.toUInt8 = Enumeration.code layer := by
      cases layer <;> rfl
    simp only [split_zWord, code, Enumeration.ofCode_code]
    rfl
  settle_of_unpack := by
    intro word ⟨layer, order⟩ unpacked
    simp only at unpacked
    split at unpacked
    next found _ =>
      cases unpacked
      have again := settleZOrder_settleZOrder word.toInt16
      simpa [Bits.split, settleZOrder] using again
    next => cases unpacked

def parts : Parts Base (UInt16 × Binary32 × Binary32 × Binary32 × Binary32 × FlagByte 0xFF ×
    (ZLayer × Int16) × UInt16 × UInt16 × UInt16 × UInt16 × Hsv × Hsv × IdSet × UInt16) where
  split base := (base.id, base.x, base.y, base.rotation, base.scale, base.flags,
    (base.zLayer, base.zOrder), base.editorLayer, base.secondEditorLayer, base.mainColor,
    base.detailColor, base.mainHsv, base.detailHsv, base.groups, base.link)
  build := fun (id, x, y, rotation, scale, flags, (zLayer, zOrder), editorLayer,
      secondEditorLayer, mainColor, detailColor, mainHsv, detailHsv, groups, link) =>
    { id, x, y, rotation, scale, flags, zLayer, zOrder, editorLayer, secondEditorLayer,
      mainColor, detailColor, mainHsv, detailHsv, groups, link }

def layout : Layout Base :=
  .record parts
    (.pair .uint16 <| .pair .binary32 <| .pair .binary32 <| .pair .binary32 <|
      .pair .binary32 <| .pair (.flagByte 0xFF) <| .pair (.word zPacking) <| .pair .uint16 <|
      .pair .uint16 <| .pair .uint16 <| .pair .uint16 <| .pair Hsv.layout <|
      .pair Hsv.layout <| .pair .ids .uint16)

end Base

end LevelFormat.Object
