import LevelFormat.Bits.FlagByte
import LevelFormat.Bits.Flagged
import LevelFormat.Number.Binary32
import LevelFormat.Wire.Enumeration

/-!
How values lie in machine words.

A packing says how a value becomes a word, which words are refused, and what a value is after it
was written and read back. Its two laws make a value that was read once stable ever after. Bits of a
number that have no room in its word are dropped on the way out.
-/

namespace LevelFormat.Wire

open LevelFormat.Bits (FlagByte Flagged)
open LevelFormat.Number (Binary32)

structure Packing (ω α : Type) where
  pack : α → ω
  unpack : ω → Except Fault α
  settle : α → α
  unpack_pack : ∀ value, unpack (pack value) = .ok (settle value)
  settle_of_unpack : ∀ word value, unpack word = .ok value → settle value = value

namespace Packing

def total {ω α : Type} (pack : α → ω) (unpack : ω → α)
    (unpack_pack : ∀ value, unpack (pack value) = value) : Packing ω α where
  pack := pack
  unpack word := .ok (unpack word)
  settle := id
  unpack_pack value := congrArg Except.ok (unpack_pack value)
  settle_of_unpack _ _ _ := rfl

def word (ω : Type) : Packing ω ω := total id id fun _ => rfl

def bool : Packing UInt8 Bool :=
  total Bool.toUInt8 (· != 0) (by intro value; cases value <;> rfl)

def int8 : Packing UInt8 Int8 :=
  total Int8.toUInt8 UInt8.toInt8 (by intro value; rfl)

def int16 : Packing UInt16 Int16 :=
  total Int16.toUInt16 UInt16.toInt16 (by intro value; rfl)

def int32 : Packing UInt32 Int32 :=
  total Int32.toUInt32 UInt32.toInt32 (by intro value; rfl)

def binary32 : Packing UInt32 Binary32 :=
  total Binary32.bits Binary32.mk fun _ => rfl

def enumeration (α : Type) [DecidableEq α] [Enumeration α] : Packing UInt8 α where
  pack := Enumeration.code
  unpack := Enumeration.ofCode α
  settle := id
  unpack_pack := Enumeration.ofCode_code
  settle_of_unpack _ _ _ := rfl

def flagByte (mask : UInt8) : Packing UInt8 (FlagByte mask) :=
  total FlagByte.bits (FlagByte.ofBits mask) FlagByte.ofBits_bits

def lowBit : Packing UInt8 Bool :=
  total (fun value => (FlagByte.assign (.empty 1) 1 value).bits)
    (fun byte => (FlagByte.ofBits 1 byte).contains 1) (by intro value; cases value <;> rfl)

theorem toNat_and_low15 (number : UInt16) : (number &&& 0x7FFF).toNat = number.toNat % 2 ^ 15 := by
  rw [UInt16.toNat_and, show (0x7FFF : UInt16).toNat = 2 ^ 15 - 1 from rfl,
    Nat.and_two_pow_sub_one_eq_mod]

theorem fifteen_lt : 15 < 32 := by decide

def flagged15 : Packing UInt16 (UInt16 × Bool) where
  pack value := (Flagged.ofValue value.1.toUInt32 value.2 fifteen_lt : Flagged 15).toWord16
  unpack word := .ok ((Flagged.ofWord16 word).value.toUInt16, (Flagged.ofWord16 word).flag)
  settle value := (value.1 &&& 0x7FFF, value.2)
  unpack_pack := by
    intro ⟨number, flag⟩
    have kept := Flagged.toNat_and_valueMask number.toUInt32 fifteen_lt
    rw [Flagged.ofWord16_toWord16]
    simp only [Except.ok.injEq, Prod.mk.injEq, Flagged.ofValue, and_true]
    rw [← UInt16.toNat_inj, UInt32.toNat_toUInt16, kept, toNat_and_low15,
      UInt16.toNat_toUInt32]
    omega
  settle_of_unpack := by
    intro word value unpacked
    cases unpacked
    have bounded := (Flagged.ofWord16 word).value_lt
    simp only [Prod.mk.injEq, and_true]
    rw [← UInt16.toNat_inj, toNat_and_low15, UInt32.toNat_toUInt16]
    omega

def low15 : Packing UInt16 UInt16 where
  pack number := number &&& 0x7FFF
  unpack word := .ok (word &&& 0x7FFF)
  settle number := number &&& 0x7FFF
  unpack_pack number := by rw [UInt16.and_assoc, UInt16.and_self]
  settle_of_unpack := by
    intro word number unpacked
    cases unpacked
    rw [UInt16.and_assoc, UInt16.and_self]

end Packing

end LevelFormat.Wire
