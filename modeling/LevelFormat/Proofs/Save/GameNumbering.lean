import LevelFormat.Proofs.Save.VersionValues
import LevelFormat.Save.GameVersion

/-!
The numbering of game versions.

The values 1 to 11 stand for historical versions or for none, all others are read by their digits
(`GameVersion.ofValue_eq_ok_iff`). Main statement: `GameVersion.ofText_toText_eq_ok_iff`. The
digits of the versions 0.1 to 0.9 are historical values, so no text is read as one of them.
-/

namespace LevelFormat.Save

open LevelFormat.Number (naturalText natural?_naturalText)

namespace Version

theorem readValue_naturalText (value : UInt32) :
    readValue (String.ofList (naturalText value.toNat)) = .ok value := by
  have bounded : value.toNat ≤ maxValue := Nat.le_sub_one_of_lt value.toNat_lt
  rw [readValue, String.toList_ofList, natural?_naturalText]
  simp only [bounded, ↓reduceIte, UInt32.ofNat_toNat]

end Version

namespace GameVersion

theorem major_of_mem_historical : ∀ entry ∈ historical, entry.2.major = 1 := by
  decide

theorem bounds_of_mem_historical {value : UInt32} {version : Version}
    (member : (value, version) ∈ historical) : 10 ≤ version.digits ∧ version.digits ≤ 18 ∧
      1 ≤ value.toNat ∧ value.toNat < version.digits := by
  have all : ∀ entry ∈ historical, 10 ≤ entry.2.digits ∧ entry.2.digits ≤ 18 ∧
      1 ≤ entry.1.toNat ∧ entry.1.toNat < entry.2.digits := by
    decide
  exact all _ member

/-- The historical versions are 1.0 to 1.8. -/
theorem exists_mem_historical {version : Version} (lower : 10 ≤ version.digits)
    (upper : version.digits ≤ 18) : ∃ entry ∈ historical, entry.2 = version := by
  have all : ∀ number < 19, 10 ≤ number → ∃ entry ∈ historical, entry.2.digits = number := by
    decide
  obtain ⟨entry, member, same⟩ := all version.digits (Nat.lt_succ_of_le upper) lower
  exact ⟨entry, member, Version.eq_of_digits same⟩

theorem lookup_eq_some_iff (value : UInt32) (version : Version) :
    historical.lookup value = some version ↔ (value, version) ∈ historical := by
  constructor
  · intro found
    obtain ⟨front, back, split, -⟩ := List.lookup_eq_some_iff.mp found
    rw [split]
    exact List.mem_append_right _ List.mem_cons_self
  · -- No value stands in the table twice.
    have all : ∀ entry ∈ historical, historical.lookup entry.1 = some entry.2 := by
      decide
    exact all (value, version)

/-- The values 1 to 11 are those of the historical versions and the unused ones. -/
theorem mem_values_iff (value : UInt32) :
    value ∈ historical.map Prod.fst ++ unused ↔ 1 ≤ value.toNat ∧ value.toNat ≤ 11 := by
  constructor
  · have bounds : ∀ value ∈ historical.map Prod.fst ++ unused,
        1 ≤ value.toNat ∧ value.toNat ≤ 11 := by
      simp [historical, unused]
    exact bounds value
  · have all : ∀ number < 12, 1 ≤ number →
        UInt32.ofNat number ∈ historical.map Prod.fst ++ unused := by
      decide
    rintro ⟨lower, upper⟩
    have member := all value.toNat (Nat.lt_succ_of_le upper) lower
    rwa [UInt32.ofNat_toNat] at member

theorem ofValue_eq_ok_iff (value : UInt32) (game : GameVersion) :
    ofValue value = .ok game ↔
      (value, game.version) ∈ historical ∨
        (value.toNat = 0 ∨ 12 ≤ value.toNat) ∧ game.version = .ofValue value := by
  obtain ⟨version⟩ := game
  have listed := mem_values_iff value
  rw [List.mem_append] at listed
  rw [← lookup_eq_some_iff]
  unfold ofValue
  split
  next old found =>
    have member := (lookup_eq_some_iff value old).mp found
    have bounds := listed.mp (.inl (List.mem_map_of_mem member))
    constructor
    · intro same
      cases same
      exact .inl found
    · rintro (again | ⟨outside, -⟩)
      · rw [found] at again
        cases again
        rfl
      · omega
  next missing =>
    split
    next gap =>
      have bounds := listed.mp (.inr gap)
      refine iff_of_false nofun ?_
      rintro (found | ⟨outside, -⟩)
      · rw [missing] at found
        cases found
      · omega
    next used =>
      have outside : ¬ (1 ≤ value.toNat ∧ value.toNat ≤ 11) := by
        intro bounds
        rcases listed.mpr bounds with member | gap
        · obtain ⟨⟨_, version⟩, entry, rfl⟩ := List.mem_map.mp member
          rw [(lookup_eq_some_iff _ _).mpr entry] at missing
          cases missing
        · exact used gap
      constructor
      · intro same
        cases same
        exact .inr ⟨by omega, rfl⟩
      · rintro (found | ⟨-, rfl⟩)
        · rw [missing] at found
          cases found
        · rfl

theorem toValue_cases (game : GameVersion) :
    (game.toValue, game.version) ∈ historical ∨
      (∀ entry ∈ historical, entry.2 ≠ game.version) ∧ game.toValue = game.version.toValue := by
  unfold toValue
  split
  next value version found =>
    have same : version = game.version := by simpa using List.find?_some found
    rw [← same]
    exact .inl (List.mem_of_find?_eq_some found)
  next none =>
    refine .inr ⟨fun entry member => ?_, rfl⟩
    simpa using List.find?_eq_none.mp none entry member

def Early (game : GameVersion) : Prop := game.version.major = 0 ∧ game.version.minor ≠ 0

theorem digits_of_early {game : GameVersion} (early : game.Early) :
    1 ≤ game.version.digits ∧ game.version.digits ≤ 9 := by
  obtain ⟨zero, nonzero⟩ := early
  have positive := Nat.pos_of_ne_zero fun none => nonzero (Fin.ext none)
  have single := game.version.minor.isLt
  rw [Version.digits, zero, UInt32.toNat_zero]
  omega

theorem early_or_listed_of_digits {game : GameVersion} (lower : 1 ≤ game.version.digits)
    (upper : game.version.digits ≤ 11) :
    game.Early ∨ ∃ entry ∈ historical, entry.2 = game.version := by
  by_cases single : game.version.digits ≤ 9
  · rw [Version.digits] at lower single
    refine .inl ⟨UInt32.toNat_inj.mp ?_, fun none => ?_⟩
    · rw [UInt32.toNat_zero]
      omega
    · rw [none, Fin.val_zero] at lower single
      omega
  · exact .inr (exists_mem_historical (by omega) (by omega))

theorem ofValue_toValue_iff (game : GameVersion) :
    ofValue game.toValue = .ok game ↔ game.version.digits ≤ Version.maxValue ∧ ¬ game.Early := by
  rw [ofValue_eq_ok_iff]
  rcases game.toValue_cases with listed | ⟨unlisted, value⟩
  · have major : game.version.major = 1 := major_of_mem_historical _ listed
    have single := game.version.minor.isLt
    refine iff_of_true (.inl listed) ⟨?_, fun early => ?_⟩
    · rw [Version.digits, major, UInt32.toNat_one, Version.maxValue]
      omega
    · rw [early.1] at major
      cases major
  · rw [value, Version.toNat_toValue_digits, eq_comm (b := Version.ofValue _),
      Version.ofValue_toValue_iff]
    constructor
    · rintro (member | ⟨outside, whole⟩)
      · exact absurd rfl (unlisted _ member)
      · refine ⟨whole, fun early => ?_⟩
        have bounds := digits_of_early early
        omega
    · rintro ⟨whole, late⟩
      have outside : ¬ (1 ≤ game.version.digits ∧ game.version.digits ≤ 11) := by
        rintro ⟨lower, upper⟩
        rcases early_or_listed_of_digits lower upper with early | ⟨entry, member, same⟩
        · exact late early
        · exact unlisted entry member same
      exact .inr ⟨by omega, whole⟩

/-- A version of the game is read back from its own text exactly if its digits fit into a value and
it is none of the versions 0.1 to 0.9. -/
theorem ofText_toText_eq_ok_iff (game : GameVersion) :
    ofText game.toText = .ok game ↔
      10 * game.version.major.toNat + game.version.minor ≤ Version.maxValue ∧
        ¬ (game.version.major = 0 ∧ game.version.minor ≠ 0) := by
  rw [ofText, toText, Version.readValue_naturalText]
  exact ofValue_toValue_iff game

/-- The version 0.5 has the text of 1.4, and 0.8 has one that is refused. -/
theorem ofText_toText_early :
    (∃ game, ofParts 0 5 = .ok game ∧ game.version.toValue = 5 ∧
        ofText game.toText = .ok ⟨⟨1, 4⟩⟩ ∧ ofText game.toText ≠ .ok game) ∧
      ∃ game, ofParts 0 8 = .ok game ∧ game.version.toValue = 8 ∧
        ofText game.toText = .error (.invalidVersion "invalid game version `8`") := by
  have other : ofText (toText ⟨⟨0, 5⟩⟩) = .ok ⟨⟨1, 4⟩⟩ := rfl
  refine ⟨⟨⟨⟨0, 5⟩⟩, rfl, rfl, other, ?_⟩, ⟨⟨0, 8⟩⟩, rfl, rfl, rfl⟩
  rw [other]
  intro same
  cases same

end GameVersion

end LevelFormat.Save
