/-!
Up to eight truth values in one byte.

The mask of a kind of flag byte is the set of bits that mean something; the others are dropped
on the way in, so a flag byte never has a bit outside its mask.
-/

namespace LevelFormat.Bits

/-- Flags of a byte, all of them inside the mask. Flags could also be put together by hand with bits
that have no name. Such bits would be written as they are and dropped when they are read, and flags
that hold them are left out here: they are no values of this type. -/
structure FlagByte (mask : UInt8) where
  bits : UInt8
  bits_and_mask : bits &&& mask = bits
  deriving DecidableEq

namespace FlagByte

variable {mask : UInt8}

def ofBits (mask bits : UInt8) : FlagByte mask where
  bits := bits &&& mask
  bits_and_mask := by rw [UInt8.and_assoc, UInt8.and_self]

theorem ext {first second : FlagByte mask} (same : first.bits = second.bits) :
    first = second := by
  cases first
  cases second
  simp_all

theorem ofBits_bits (flags : FlagByte mask) : ofBits mask flags.bits = flags :=
  ext flags.bits_and_mask

def empty (mask : UInt8) : FlagByte mask := ofBits mask 0

instance : Inhabited (FlagByte mask) := ⟨empty mask⟩

def contains (flags : FlagByte mask) (flag : UInt8) : Bool := flags.bits &&& flag == flag

def assign (flags : FlagByte mask) (flag : UInt8) (value : Bool) : FlagByte mask :=
  ofBits mask (if value then flags.bits ||| flag else flags.bits &&& ~~~flag)

def toggle (flags : FlagByte mask) (flag : UInt8) : FlagByte mask :=
  ofBits mask (flags.bits ^^^ flag)

end FlagByte

end LevelFormat.Bits
