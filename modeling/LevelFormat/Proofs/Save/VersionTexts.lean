import LevelFormat.Proofs.Number.Numerals
import LevelFormat.Proofs.Save.GameOrder

/-!
Texts of versions.

A text is read as a version exactly if it is a numeral whose number fits into a word, and the version
is printed as that numeral without zeros in front. The same texts are read as versions of the game, but
for those of the two unused values. Main statement: `Version.ofText_exact`.
-/

namespace LevelFormat.Save

open LevelFormat.Number (Denotes natural?_eq_some_iff natural?_eq_none_iff naturalText_of_denotes
  unpadded)

namespace Version

variable {text : String} {value : UInt32} {version : Version} {number : Nat} {fault : Fault}

theorem toNat_ofNat_of_le_maxValue (small : number ≤ maxValue) :
    (UInt32.ofNat number).toNat = number := by
  rw [maxValue] at small
  rw [UInt32.toNat_ofNat']
  omega

theorem toNat_le_maxValue (value : UInt32) : value.toNat ≤ maxValue :=
  Nat.le_sub_one_of_lt value.toNat_lt

theorem readValue_of_denotes (denotes : Denotes text.toList number) :
    readValue text =
      if number ≤ maxValue then .ok (UInt32.ofNat number)
      else .error (.malformedText text .versionRange) := by
  rw [readValue, natural?_eq_some_iff.mpr denotes]

theorem readValue_of_not_denotes (noNumeral : ∀ number, ¬ Denotes text.toList number) :
    readValue text = .error (.malformedText text .versionDigits) := by
  rw [readValue, natural?_eq_none_iff.mpr noNumeral]

theorem readValue_eq_ok_iff : readValue text = .ok value ↔ Denotes text.toList value.toNat := by
  constructor
  · intro read
    by_cases numeral : ∃ number, Denotes text.toList number
    · obtain ⟨number, denotes⟩ := numeral
      rw [readValue_of_denotes denotes] at read
      split at read
      next small =>
        cases read
        rwa [toNat_ofNat_of_le_maxValue small]
      next => cases read
    · rw [readValue_of_not_denotes (not_exists.mp numeral)] at read
      cases read
  · intro denotes
    rw [readValue_of_denotes denotes, if_pos (toNat_le_maxValue value), UInt32.ofNat_toNat]

theorem readValue_eq_error_iff : readValue text = .error fault ↔
    (∀ number, ¬ Denotes text.toList number) ∧ fault = .malformedText text .versionDigits ∨
      (∃ number, Denotes text.toList number ∧ maxValue < number) ∧
        fault = .malformedText text .versionRange := by
  by_cases numeral : ∃ number, Denotes text.toList number
  · obtain ⟨number, denotes⟩ := numeral
    have some : ¬ ∀ number, ¬ Denotes text.toList number := fun none => none number denotes
    have large : (∃ number, Denotes text.toList number ∧ maxValue < number) ↔ maxValue < number := by
      constructor
      · rintro ⟨other, again, large⟩
        rwa [denotes.unique again]
      · exact fun large => ⟨number, denotes, large⟩
    rw [readValue_of_denotes denotes, large]
    by_cases small : number ≤ maxValue
    · simp [small, some, Nat.not_lt.mpr small]
    · simp [small, some, Nat.lt_of_not_le small, eq_comm]
  · have noNumeral := not_exists.mp numeral
    rw [readValue_of_not_denotes noNumeral]
    simp [noNumeral, eq_comm]

theorem ofText_of_readValue (read : readValue text = .ok value) :
    ofText text = .ok (ofValue value) := by
  rw [ofText, read]
  rfl

theorem ofText_of_error (failed : readValue text = .error fault) : ofText text = .error fault := by
  rw [ofText, failed]
  rfl

theorem ofText_eq_error_iff : ofText text = .error fault ↔ readValue text = .error fault := by
  cases read : readValue text with
  | error other => rw [ofText_of_error read, Except.error.injEq, Except.error.injEq]
  | ok value => exact iff_of_false (by rw [ofText_of_readValue read]; nofun) nofun

theorem ofText_eq_ok_iff : ofText text = .ok version ↔
    Denotes text.toList version.digits ∧ version.digits ≤ maxValue := by
  constructor
  · intro read
    cases found : readValue text with
    | error fault =>
        rw [ofText_of_error found] at read
        cases read
    | ok value =>
        rw [ofText_of_readValue found, Except.ok.injEq] at read
        rw [← read, digits_ofValue]
        exact ⟨readValue_eq_ok_iff.mp found, toNat_le_maxValue value⟩
  · rintro ⟨denotes, small⟩
    have number := toNat_ofNat_of_le_maxValue small
    rw [← number] at denotes
    rw [ofText_of_readValue (readValue_eq_ok_iff.mpr denotes), Except.ok.injEq, ofValue_eq_iff,
      number]

theorem digits_eq_iff : version.digits = number ↔
    version.major.toNat = number / 10 ∧ version.minor.val = number % 10 := by
  have single := version.minor.isLt
  rw [digits]
  omega

theorem toText_of_ofText (read : ofText text = .ok version) :
    version.toText = String.ofList (unpadded text.toList) := by
  obtain ⟨denotes, small⟩ := ofText_eq_ok_iff.mp read
  rw [toText, toNat_toValue_digits, Nat.min_eq_left small, naturalText_of_denotes denotes]

theorem ofText_toText_iff_le (version : Version) :
    ofText version.toText = .ok version ↔ version.digits ≤ maxValue := by
  rw [toText, ofText_of_readValue (readValue_naturalText _), Except.ok.injEq]
  exact ofValue_toValue_iff version

end Version

namespace GameVersion

variable {text : String} {value : UInt32} {number : Nat} {fault : Fault}

theorem ofText_of_readValue (read : Version.readValue text = .ok value) :
    ofText text = ofValue value := by
  rw [ofText, read]
  rfl

theorem ofText_of_error (failed : Version.readValue text = .error fault) :
    ofText text = .error fault := by
  rw [ofText, failed]
  rfl

theorem mem_unused_iff_toNat : value ∈ unused ↔ value.toNat = 8 ∨ value.toNat = 9 := by
  rw [mem_unused_iff, ← UInt32.toNat_inj, ← UInt32.toNat_inj]
  exact Iff.rfl

theorem exists_ofText_iff : (∃ game, ofText text = .ok game) ↔
    ∃ number, Denotes text.toList number ∧ number ≤ Version.maxValue ∧ number ≠ 8 ∧ number ≠ 9 := by
  constructor
  · rintro ⟨game, read⟩
    cases found : Version.readValue text with
    | error fault =>
        rw [ofText_of_error found] at read
        cases read
    | ok value =>
        rw [ofText_of_readValue found] at read
        have used : value ∉ unused := by
          intro gap
          rw [ofValue_of_unused gap] at read
          cases read
        rw [mem_unused_iff_toNat] at used
        exact ⟨value.toNat, Version.readValue_eq_ok_iff.mp found, Version.toNat_le_maxValue value,
          by omega, by omega⟩
  · rintro ⟨number, denotes, small, notEight, notNine⟩
    have same := Version.toNat_ofNat_of_le_maxValue small
    have used : UInt32.ofNat number ∉ unused := by
      rw [mem_unused_iff_toNat]
      omega
    rw [← same] at denotes
    rw [ofText_of_readValue (Version.readValue_eq_ok_iff.mpr denotes)]
    exact exists_ofValue used

theorem ofValue_eq_error_iff : ofValue value = .error fault ↔
    value ∈ unused ∧ fault = .invalidVersion s!"invalid game version `{value}`" := by
  by_cases gap : value ∈ unused
  · rw [ofValue_of_unused gap]
    simp [gap, eq_comm]
  · obtain ⟨game, read⟩ := exists_ofValue gap
    rw [read]
    simp [gap]

/-- A text has no version of the game for the same reason as it has no version at all, or because its
number is unused. -/
theorem ofText_eq_error_iff : ofText text = .error fault ↔ Version.ofText text = .error fault ∨
    ∃ number, Denotes text.toList number ∧ (number = 8 ∨ number = 9) ∧
      fault = .invalidVersion s!"invalid game version `{number}`" := by
  rw [Version.ofText_eq_error_iff]
  cases found : Version.readValue text with
  | error other =>
      have refused : ¬ ∃ number, Denotes text.toList number ∧ (number = 8 ∨ number = 9) ∧
          fault = .invalidVersion s!"invalid game version `{number}`" := by
        rintro ⟨number, denotes, gap, -⟩
        have read := Version.readValue_of_denotes denotes
        rw [found, if_pos (by rw [Version.maxValue]; omega)] at read
        cases read
      rw [ofText_of_error found, Except.error.injEq, Except.error.injEq]
      exact (or_iff_left refused).symm
  | ok value =>
      have denotes := Version.readValue_eq_ok_iff.mp found
      rw [ofText_of_readValue found, ofValue_eq_error_iff, mem_unused_iff_toNat]
      constructor
      · rintro ⟨gap, rfl⟩
        exact .inr ⟨value.toNat, denotes, gap, rfl⟩
      · rintro (impossible | ⟨number, again, gap, rfl⟩)
        · cases impossible
        · rw [again.unique denotes] at gap ⊢
          exact ⟨gap, rfl⟩

end GameVersion

namespace Version

/-- A text is read as a version exactly if it is a numeral for a number that fits into a word. The
version has the last digit of the number as its minor part, and is printed as the numeral without
zeros in front. All other texts are malformed. As a version of the game, the number is taken for its
value, and 8 and 9 are refused. A version whose digits fit into a word is read back from its text. -/
theorem ofText_exact (text : String) :
    (∀ version, ofText text = .ok version ↔
      ∃ number, Denotes text.toList number ∧ number ≤ maxValue ∧
        version.major.toNat = number / 10 ∧ version.minor.val = number % 10) ∧
      (∀ version, ofText text = .ok version →
        version.toText = String.ofList (unpadded text.toList)) ∧
      (∀ fault, ofText text = .error fault ↔
        (∀ number, ¬ Denotes text.toList number) ∧ fault = .malformedText text .versionDigits ∨
          (∃ number, Denotes text.toList number ∧ maxValue < number) ∧
            fault = .malformedText text .versionRange) ∧
      ((∃ game, GameVersion.ofText text = .ok game) ↔
        ∃ number, Denotes text.toList number ∧ number ≤ maxValue ∧ number ≠ 8 ∧ number ≠ 9) ∧
      (∀ value : UInt32, Denotes text.toList value.toNat →
        GameVersion.ofText text = GameVersion.ofValue value) ∧
      (∀ fault, GameVersion.ofText text = .error fault ↔ ofText text = .error fault ∨
        ∃ number, Denotes text.toList number ∧ (number = 8 ∨ number = 9) ∧
          fault = .invalidVersion s!"invalid game version `{number}`") ∧
      ∀ version : Version, ofText version.toText = .ok version ↔
        10 * version.major.toNat + version.minor ≤ maxValue := by
  refine ⟨fun version => ?_, fun version => toText_of_ofText, fun fault => ?_,
    GameVersion.exists_ofText_iff, fun value denotes => ?_,
    fun fault => GameVersion.ofText_eq_error_iff, ofText_toText_iff_le⟩
  · rw [ofText_eq_ok_iff]
    constructor
    · rintro ⟨denotes, small⟩
      exact ⟨version.digits, denotes, small, digits_eq_iff.mp rfl⟩
    · rintro ⟨number, denotes, small, parts⟩
      rw [digits_eq_iff.mpr parts]
      exact ⟨denotes, small⟩
  · rw [ofText_eq_error_iff, readValue_eq_error_iff]
  · exact GameVersion.ofText_of_readValue (readValue_eq_ok_iff.mpr denotes)

/-- `0008` is read as 0.8, which is printed as `8`. It is no version of the game. -/
theorem ofText_exact_padded :
    ofText "0008" = .ok ⟨0, 8⟩ ∧ toText ⟨0, 8⟩ = "8" ∧
      GameVersion.ofText "0008" = GameVersion.ofValue 8 ∧
      GameVersion.ofText "0008" = .error (.invalidVersion "invalid game version `8`") ∧
      ofText "8" = .ok ⟨0, 8⟩ := by
  have denotes : Denotes "0008".toList 8 := natural?_eq_some_iff.mp rfl
  obtain ⟨read, printed, -, -, value, refused, back⟩ := ofText_exact "0008"
  have found : ofText "0008" = .ok ⟨0, 8⟩ := (read _).mpr ⟨8, denotes, by decide, rfl, rfl⟩
  exact ⟨found, printed _ found, value 8 denotes, (refused _).mpr (.inr ⟨8, denotes, .inl rfl, rfl⟩),
    (back ⟨0, 8⟩).mpr (by decide)⟩

end Version

end LevelFormat.Save
