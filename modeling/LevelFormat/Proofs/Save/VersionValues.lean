import LevelFormat.Proofs.Wire.Meaning
import LevelFormat.Save.Version

/-!
Values of versions.

The digits of a version, taken as one number, order the versions. The value of a version is that
number unless it is too large for a word, and its byte is the value unless that is too large for a
byte. Main statement: `Version.exact_up_to_saturation`.
-/

namespace LevelFormat.Save.Version

open LevelFormat.Wire (Layout Options Word)

variable {first second : Version}

def digits (version : Version) : Nat := 10 * version.major.toNat + version.minor

theorem digits_ofValue (value : UInt32) : (ofValue value).digits = value.toNat := by
  simp only [digits, ofValue, UInt32.toNat_div, UInt32.reduceToNat]
  omega

theorem eq_of_digits (same : first.digits = second.digits) : first = second := by
  obtain ⟨major, minor⟩ := first
  obtain ⟨otherMajor, otherMinor⟩ := second
  simp only [digits] at same
  have majors : major.toNat = otherMajor.toNat := by omega
  rw [mk.injEq, ← UInt32.toNat_inj, Fin.ext_iff]
  omega

theorem toNat_toValue_digits (version : Version) :
    version.toValue.toNat = min version.digits maxValue :=
  toNat_toValue version

theorem ofValue_eq_iff (value : UInt32) (version : Version) :
    ofValue value = version ↔ value.toNat = version.digits := by
  rw [← digits_ofValue value]
  exact ⟨congrArg digits, eq_of_digits⟩

theorem ofValue_toValue_iff (version : Version) :
    ofValue version.toValue = version ↔ version.digits ≤ maxValue := by
  rw [ofValue_eq_iff, toNat_toValue_digits]
  omega

/-! ### Order -/

theorem lt_iff_digits_lt : first < second ↔ first.digits < second.digits := by
  have ordered : first < second ↔ first.major < second.major ∨
      first.major = second.major ∧ first.minor < second.minor := Iff.rfl
  have single := first.minor.isLt
  have otherSingle := second.minor.isLt
  rw [ordered, UInt32.lt_iff_toNat_lt, ← UInt32.toNat_inj, Fin.lt_def, digits, digits]
  omega

theorem le_iff_digits_le : first ≤ second ↔ first.digits ≤ second.digits := by
  have ordered : first ≤ second ↔ first.major < second.major ∨
      first.major = second.major ∧ first.minor ≤ second.minor := Iff.rfl
  have single := first.minor.isLt
  have otherSingle := second.minor.isLt
  rw [ordered, UInt32.lt_iff_toNat_lt, ← UInt32.toNat_inj, Fin.le_def, digits, digits]
  omega

theorem toValue_le_toValue (below : first ≤ second) : first.toValue ≤ second.toValue := by
  rw [le_iff_digits_le] at below
  rw [UInt32.le_iff_toNat_le, toNat_toValue_digits, toNat_toValue_digits]
  omega

theorem toValue_lt_toValue (below : first < second) (whole : second.digits ≤ maxValue) :
    first.toValue < second.toValue := by
  rw [lt_iff_digits_lt] at below
  rw [UInt32.lt_iff_toNat_lt, toNat_toValue_digits, toNat_toValue_digits]
  omega

/-! ### Bytes -/

theorem encode_eq (version : Version) (options : Options) :
    layout.encode options version = .ok [UInt8.ofNat (version.toValue.toNat % 256)] := by
  have byte : version.lowByte = UInt8.ofNat (version.toValue.toNat % 256) := by
    rw [← UInt8.toNat_inj, lowByte, UInt32.toNat_toUInt8, UInt8.toNat_ofNat', Nat.mod_mod]
  rw [← byte]
  exact congrArg Except.ok (Wire.Decoder.toBytes_uint8 options.order version.lowByte)

theorem decode_singleton_eq_ok_iff (options : Options) (byte : UInt8) (version : Version) :
    layout.decode options [byte] = .ok version ↔ ofValue byte.toUInt32 = version := by
  have means : layout.Means options [byte] version ↔ [byte].length = 1 ∧
      Except.ok (ofValue (Word.ofBytes options.order [byte] : UInt8).toUInt32) = .ok version :=
    Iff.rfl
  rw [Layout.decode_eq_ok_iff, means, Wire.Decoder.ofBytes_singleton, Except.ok.injEq]
  exact and_iff_right rfl

theorem decode_encode_iff (version : Version) (options : Options) :
    layout.encode options version >>= layout.decode options = .ok version ↔
      version.toValue.toNat ≤ 255 := by
  have value := version.toNat_toValue_digits
  rw [encode_eq]
  change layout.decode options [_] = _ ↔ _
  rw [decode_singleton_eq_ok_iff, ofValue_eq_iff, UInt8.toNat_toUInt32, UInt8.toNat_ofNat']
  rw [maxValue] at value
  omega

/-- The value of a version is the number of its digits, or the largest value where that number is
larger, and the version is found again from its value unless it was cut. The values are in the order
of the versions, and different for different versions as long as none was cut. A version is written
as the lowest byte of its value, and read back from it if the value is no larger than a byte. -/
theorem exact_up_to_saturation (version : Version) (options : Options) :
    version.toValue.toNat = min (10 * version.major.toNat + version.minor) maxValue ∧
      (ofValue version.toValue = version ↔
        10 * version.major.toNat + version.minor ≤ maxValue) ∧
      (∀ value : UInt32, (ofValue value).toValue = value) ∧
      (∀ above : Version, version ≤ above → version.toValue ≤ above.toValue ∧
        (version < above → 10 * above.major.toNat + above.minor ≤ maxValue →
          version.toValue < above.toValue)) ∧
      layout.encode options version = .ok [UInt8.ofNat (version.toValue.toNat % 256)] ∧
      (layout.encode options version >>= layout.decode options = .ok version ↔
        version.toValue.toNat ≤ 255) := by
  refine ⟨version.toNat_toValue, version.ofValue_toValue_iff, toValue_ofValue, ?_,
    version.encode_eq options, version.decode_encode_iff options⟩
  exact fun above inOrder =>
    ⟨toValue_le_toValue inOrder, fun below whole => toValue_lt_toValue below whole⟩

/-- The largest value is that of 429496729.5 and of all versions above it. -/
theorem exact_up_to_saturation_last :
    toValue ⟨429496729, 4⟩ < toValue ⟨429496729, 5⟩ ∧
      toValue ⟨429496729, 5⟩ ≤ toValue ⟨429496729, 9⟩ ∧
      ofValue (toValue ⟨429496729, 5⟩) = ⟨429496729, 5⟩ ∧
      ofValue (toValue ⟨429496729, 9⟩) ≠ ⟨429496729, 9⟩ := by
  obtain ⟨-, -, -, above, -⟩ := exact_up_to_saturation ⟨429496729, 4⟩ default
  obtain ⟨-, kept, -, aboveLast, -⟩ := exact_up_to_saturation ⟨429496729, 5⟩ default
  obtain ⟨-, cut, -⟩ := exact_up_to_saturation ⟨429496729, 9⟩ default
  refine ⟨(above ⟨429496729, 5⟩ (by decide)).2 (by decide) (by decide),
    (aboveLast ⟨429496729, 9⟩ (by decide)).1, kept.mpr (by decide), fun same => ?_⟩
  exact absurd (cut.mp same) (by decide)

end LevelFormat.Save.Version
