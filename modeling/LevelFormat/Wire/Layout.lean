import LevelFormat.Wire.Cursor
import LevelFormat.Wire.Emission
import LevelFormat.Wire.IdSet
import LevelFormat.Wire.Options
import LevelFormat.Wire.Packing
import LevelFormat.Wire.Word

/-!
Record layouts as data.

A layout lists the fields of a type in the order in which they lie on the wire. Bytes stand behind a
count of one byte, ids behind one of two bytes, and texts behind a length of two bytes. Reading and
writing are two functions on layouts, so what holds for every layout is proved once, by
induction on it.
-/

namespace LevelFormat.Wire

structure Parts (β α : Type) where
  split : β → α
  build : α → β
  build_split : ∀ value, build (split value) = value := by intro _; rfl
  split_build : ∀ value, split (build value) = value := by intro _; rfl

inductive Layout : Type → Type 1 where
  | empty : Layout Unit
  | word {ω α : Type} [Word ω] (packing : Packing ω α) : Layout α
  | bytes {α : Type} (packing : Packing UInt8 α) : Layout (List α)
  | ids : Layout IdSet
  | text : Layout String
  | pair {α β : Type} (first : Layout α) (second : Layout β) : Layout (α × β)
  | record {α β : Type} (parts : Parts β α) (layout : Layout α) : Layout β

def maxCount16 : Nat := 65535

def maxCount8 : Nat := 255

namespace Decoder

def word (ω : Type) [Word ω] (order : Order) : Decoder ω := do
  let bytes ← take (Word.width ω)
  return Word.ofBytes order bytes

def packed {ω α : Type} [Word ω] (packing : Packing ω α) (order : Order) : Decoder α := do
  let word ← word ω order
  ofExcept (packing.unpack word)

def replicateOnto {α : Type} (decoder : Decoder α) : Nat → List α → Decoder (List α)
  | 0, reversed => return reversed.reverse
  | count + 1, reversed => do
    let value ← decoder
    replicateOnto decoder count (value :: reversed)

def replicate {α : Type} (decoder : Decoder α) (count : Nat) : Decoder (List α) :=
  replicateOnto decoder count []

def text (order : Order) (charset : Text.Charset) : Decoder String := do
  let length ← word UInt16 order
  let bytes ← take length.toNat
  ofExcept (charset.decode bytes)

end Decoder

namespace Emission

def word {ω : Type} [Word ω] (order : Order) (word : ω) : Emission :=
  ofBytes (Word.toBytes order word)

def text (order : Order) (charset : Text.Charset) (text : String) : Emission :=
  match charset.encode text with
  | .error fault => fail fault
  | .ok bytes =>
    if bytes.length ≤ maxCount16 then
      ofBytes (Word.toBytes order (UInt16.ofNat bytes.length) ++ bytes)
    else fail (.textTooLong bytes.length maxCount16)

end Emission

namespace Layout

/-- Reads a value in wire order; a fault leaves the cursor behind the last field that was read. -/
def read : {α : Type} → Layout α → Options → Decoder α
  | _, empty, _ => return ()
  | _, word packing, options => Decoder.packed packing options.order
  | _, bytes packing, options => do
    let count ← Decoder.word UInt8 options.order
    Decoder.replicate (Decoder.packed packing options.order) count.toNat
  | _, ids, options => do
    let count ← Decoder.word UInt16 options.order
    let found ← Decoder.replicate (Decoder.word UInt16 options.order) count.toNat
    return IdSet.ofList found
  | _, text, options => Decoder.text options.order options.charset
  | _, pair first second, options => do
    let left ← first.read options
    let right ← second.read options
    return (left, right)
  | _, record parts layout, options => do
    let value ← layout.read options
    return parts.build value

/-- Writes a value in wire order. Lists and sets that outgrow their count are cut, sets to their
smallest members. -/
def emit : {α : Type} → Layout α → Options → α → Emission
  | _, empty, _, _ => .ofBytes []
  | _, word packing, options, value => .word options.order (packing.pack value)
  | _, bytes packing, _, values =>
    let kept := values.take maxCount8
    .ofBytes (UInt8.ofNat kept.length :: kept.map packing.pack)
  | _, ids, options, set =>
    let kept := set.smallest maxCount16
    .ofBytes (Word.toBytes options.order (UInt16.ofNat kept.size) ++
      kept.ids.flatMap (Word.toBytes options.order))
  | _, text, options, value => .text options.order options.charset value
  | _, pair first second, options, value =>
    first.emit options value.1 ++ second.emit options value.2
  | _, record parts layout, options, value => layout.emit options (parts.split value)

def decode {α : Type} (layout : Layout α) (options : Options) (bytes : List UInt8) :
    Except Fault α :=
  (layout.read options).run bytes

def encode {α : Type} (layout : Layout α) (options : Options) (value : α) :
    Except Fault (List UInt8) :=
  (layout.emit options value).toExcept

/-- A value after it was written and read back, where its texts keep their characters. -/
def settle : {α : Type} → Layout α → α → α
  | _, empty, value => value
  | _, word packing, value => packing.settle value
  | _, bytes packing, values => (values.take maxCount8).map packing.settle
  | _, ids, set => set.smallest maxCount16
  | _, text, value => value
  | _, pair first second, value => (first.settle value.1, second.settle value.2)
  | _, record parts layout, value => parts.build (layout.settle (parts.split value))

def uint8 : Layout UInt8 := word (.word UInt8)

def uint16 : Layout UInt16 := word (.word UInt16)

def uint32 : Layout UInt32 := word (.word UInt32)

def int8 : Layout Int8 := word .int8

def int16 : Layout Int16 := word .int16

def int32 : Layout Int32 := word .int32

def bool : Layout Bool := word .bool

def binary32 : Layout Number.Binary32 := word .binary32

def enumeration (α : Type) [DecidableEq α] [Enumeration α] : Layout α := word (.enumeration α)

def flagByte (mask : UInt8) : Layout (Bits.FlagByte mask) := word (.flagByte mask)

end Layout

end LevelFormat.Wire
