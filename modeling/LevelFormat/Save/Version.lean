import LevelFormat.Number.Numeral
import LevelFormat.Wire.Layout

/-!
Version numbers.

A version is stored as a single decimal value, ten times its major part plus its minor part, so
the minor part has one digit.
-/

namespace LevelFormat.Save

open LevelFormat.Number (isNumeral natural? naturalText)
open LevelFormat.Wire (Layout Packing)

instance neZeroTen : @NeZero Nat .ofOfNat0 10 := ⟨by decide⟩

structure Version where
  major : UInt32
  minor : Fin 10
  deriving DecidableEq

namespace Version

instance : Inhabited Version := ⟨0, 0⟩

def currentFormat : Version := ⟨3, 5⟩

def ofParts (major : UInt32) (minor : UInt8) : Except Fault Version :=
  if single : minor.toNat < 10 then .ok ⟨major, minor.toNat, single⟩
  else .error (.invalidVersion s!"expected minor < 10, got {minor}")

instance : LE Version where
  le first second :=
    first.major < second.major ∨ first.major = second.major ∧ first.minor ≤ second.minor

instance : LT Version where
  lt first second :=
    first.major < second.major ∨ first.major = second.major ∧ first.minor < second.minor

instance (first second : Version) : Decidable (first ≤ second) :=
  inferInstanceAs (Decidable (_ ∨ _))

instance (first second : Version) : Decidable (first < second) :=
  inferInstanceAs (Decidable (_ ∨ _))

def maxValue : Nat := 2 ^ 32 - 1

def ofValue (value : UInt32) : Version :=
  ⟨value / 10, ⟨value.toNat % 10, Nat.mod_lt _ (by decide)⟩⟩

def saturate (number : Nat) : UInt32 := UInt32.ofNat (min number maxValue)

/-- The value of a version. What lies too high is cut after the product and after the sum. -/
def toValue (version : Version) : UInt32 :=
  saturate ((saturate (10 * version.major.toNat)).toNat + version.minor)

theorem toNat_saturate (number : Nat) : (saturate number).toNat = min number maxValue := by
  have bounded : min number maxValue ≤ maxValue := Nat.min_le_right _ _
  rw [saturate, UInt32.toNat_ofNat', Nat.mod_eq_of_lt]
  exact Nat.lt_of_le_of_lt bounded (by decide)

/-- Cutting the product already changes nothing: where it is cut, so is the sum. -/
theorem toNat_toValue (version : Version) :
    version.toValue.toNat = min (10 * version.major.toNat + version.minor) maxValue := by
  rw [toValue, toNat_saturate, toNat_saturate]
  omega

theorem toValue_ofValue (value : UInt32) : (ofValue value).toValue = value := by
  have bounded := value.toNat_lt
  rw [← UInt32.toNat_inj, toNat_toValue]
  simp only [ofValue, maxValue, UInt32.toNat_div, UInt32.reduceToNat]
  omega

/-! ### Text -/

def display (version : Version) : String :=
  String.ofList (naturalText version.major.toNat ++ '.' :: naturalText version.minor)

def resembles (text : String) : Bool := isNumeral text.toList

def readValue (text : String) : Except Fault UInt32 :=
  match natural? text.toList with
  | none => .error (.malformedText text .versionDigits)
  | some value =>
    if value ≤ maxValue then .ok (UInt32.ofNat value)
    else .error (.malformedText text .versionRange)

def ofText (text : String) : Except Fault Version := do
  let value ← readValue text
  return ofValue value

def toText (version : Version) : String := String.ofList (naturalText version.toValue.toNat)

/-! ### Bytes -/

def lowByte (version : Version) : UInt8 := version.toValue.toUInt8

theorem lowByte_ofValue (byte : UInt8) : (ofValue byte.toUInt32).lowByte = byte := by
  rw [lowByte, toValue_ofValue, UInt8.toUInt8_toUInt32]

def packing : Packing UInt8 Version where
  pack := lowByte
  unpack byte := .ok (ofValue byte.toUInt32)
  settle version := ofValue version.lowByte.toUInt32
  unpack_pack _ := rfl
  settle_of_unpack := by
    intro byte version unpacked
    cases unpacked
    rw [lowByte_ofValue]

def layout : Layout Version := .word packing

end Version

end LevelFormat.Save
