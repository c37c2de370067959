import LevelFormat.Proofs.Save.GameNumbering

/-!
The values of game versions and their order.

Every value but the unused ones stands for a version, and each of these versions has one value of its
own. These values are in the order of the versions. The values 12 to 18 stand for versions that have a
historical value. Main statement: `GameVersion.ofValue_canonical`.
-/

namespace LevelFormat.Save.GameVersion

variable {value : UInt32} {first second game : GameVersion}

/-! ### Which values are refused -/

theorem mem_unused_iff : value ∈ unused ↔ value = 8 ∨ value = 9 := by
  simp [unused]

theorem ofValue_of_unused (gap : value ∈ unused) :
    ofValue value = .error (.invalidVersion s!"invalid game version `{value}`") := by
  rcases mem_unused_iff.mp gap with rfl | rfl
  · rfl
  · rfl

theorem exists_ofValue (used : value ∉ unused) : ∃ game, ofValue value = .ok game := by
  unfold ofValue
  split
  next version _ => exact ⟨⟨version⟩, rfl⟩
  next => exact ⟨⟨.ofValue value⟩, if_neg used⟩

/-! ### The value of a version that was read -/

/-- The table is in the order of the values and of the versions alike. -/
theorem historical_ordered {other : UInt32} {one two : Version}
    (member : (value, one) ∈ historical) (otherMember : (other, two) ∈ historical) :
    one.digits < two.digits ↔ value.toNat < other.toNat := by
  have all : ∀ entry ∈ historical, ∀ following ∈ historical,
      entry.2.digits < following.2.digits ↔ entry.1.toNat < following.1.toNat := by
    decide
  exact all _ member _ otherMember

theorem toValue_cases_of_ofValue (read : ofValue value = .ok game) :
    (game.toValue, game.version) ∈ historical ∨
      game.toValue.toNat = game.version.digits ∧
        (game.version.digits = 0 ∨ 19 ≤ game.version.digits) := by
  rcases game.toValue_cases with listed | ⟨unlisted, plain⟩
  · exact .inl listed
  · rcases (ofValue_eq_ok_iff value game).mp read with member | ⟨outside, same⟩
    · exact absurd rfl (unlisted _ member)
    · have digits := Version.digits_ofValue value
      rw [← same] at digits
      refine .inr ⟨?_, ?_⟩
      · rw [plain, same, Version.toValue_ofValue, Version.digits_ofValue]
      · by_contra between
        obtain ⟨entry, member, listed⟩ : ∃ entry ∈ historical, entry.2 = game.version :=
          exists_mem_historical (by omega) (by omega)
        exact unlisted entry member listed

theorem ofValue_toValue (read : ofValue value = .ok game) : ofValue game.toValue = .ok game := by
  rw [ofValue_eq_ok_iff]
  rcases toValue_cases_of_ofValue read with listed | ⟨same, outside⟩
  · exact .inl listed
  · exact .inr ⟨by omega, ((Version.ofValue_eq_iff _ _).mpr same).symm⟩

theorem historical_of_alias (read : ofValue value = .ok game) (lower : 12 ≤ value.toNat)
    (upper : value.toNat ≤ 18) :
    (game.toValue, game.version) ∈ historical ∧ game.toValue.toNat < value.toNat := by
  have digits : game.version.digits = value.toNat := by
    rcases (ofValue_eq_ok_iff value game).mp read with member | ⟨-, same⟩
    · have bounds := (mem_values_iff value).mp
        (List.mem_append_left _ (List.mem_map_of_mem member))
      omega
    · rw [same, Version.digits_ofValue]
  rcases toValue_cases_of_ofValue read with listed | ⟨-, outside⟩
  · have bounds := bounds_of_mem_historical listed
    exact ⟨listed, by omega⟩
  · omega

theorem toValue_eq_iff (read : ofValue value = .ok game) :
    game.toValue = value ↔ ¬ (12 ≤ value.toNat ∧ value.toNat ≤ 18) := by
  constructor
  · rintro same ⟨lower, upper⟩
    have smaller := (historical_of_alias read lower upper).2
    rw [same] at smaller
    exact Nat.lt_irrefl _ smaller
  · intro canonical
    rw [← UInt32.toNat_inj]
    have cases := toValue_cases_of_ofValue read
    rcases (ofValue_eq_ok_iff value game).mp read with member | ⟨outside, same⟩
    · have bounds := bounds_of_mem_historical member
      rcases cases with listed | ⟨-, outside⟩
      · have forward := historical_ordered listed member
        have backward := historical_ordered member listed
        omega
      · omega
    · have digits := Version.digits_ofValue value
      rw [← same] at digits
      rcases cases with listed | ⟨plain, -⟩
      · have bounds := bounds_of_mem_historical listed
        omega
      · omega

/-! ### Order -/

theorem lt_iff_toValue_lt {other : UInt32} (read : ofValue value = .ok first)
    (otherRead : ofValue other = .ok second) :
    first < second ↔ first.toValue < second.toValue := by
  have ordered : first < second ↔ first.version.digits < second.version.digits :=
    Version.lt_iff_digits_lt
  rw [ordered, UInt32.lt_iff_toNat_lt]
  rcases toValue_cases_of_ofValue read with listed | ⟨plain, outside⟩
  · have bounds := bounds_of_mem_historical listed
    rcases toValue_cases_of_ofValue otherRead with otherListed | ⟨otherPlain, otherOutside⟩
    · exact historical_ordered listed otherListed
    · omega
  · rcases toValue_cases_of_ofValue otherRead with otherListed | ⟨otherPlain, otherOutside⟩
    · have bounds := bounds_of_mem_historical otherListed
      omega
    · omega

/-- The values 8 and 9, and no others, are refused. A version that was read is read again from its
own value. This is the value it was read from or, if that was one of 12 to 18, a smaller historical
one. Versions that were read are in the order of their own values. -/
theorem ofValue_canonical (value : UInt32) :
    (ofValue value = .error (.invalidVersion s!"invalid game version `{value}`") ↔
        value = 8 ∨ value = 9) ∧
      ((∃ game, ofValue value = .ok game) ↔ ¬ (value = 8 ∨ value = 9)) ∧
      ∀ game, ofValue value = .ok game →
        ofValue game.toValue = .ok game ∧
        (¬ (12 ≤ value.toNat ∧ value.toNat ≤ 18) → game.toValue = value) ∧
        (12 ≤ value.toNat ∧ value.toNat ≤ 18 →
          (game.toValue, game.version) ∈ historical ∧ game.toValue < value) ∧
        ∀ other second, ofValue other = .ok second →
          (game < second ↔ game.toValue < second.toValue) := by
  have refused : (∃ game, ofValue value = .ok game) → value ∉ unused := by
    rintro ⟨game, read⟩ gap
    rw [ofValue_of_unused gap] at read
    cases read
  rw [← mem_unused_iff]
  refine ⟨⟨?_, ofValue_of_unused⟩, ⟨refused, exists_ofValue⟩, ?_⟩
  · intro failed
    by_contra used
    obtain ⟨game, read⟩ := exists_ofValue used
    rw [read] at failed
    cases failed
  · intro game read
    refine ⟨ofValue_toValue read, (toValue_eq_iff read).mpr, ?_, fun other second otherRead =>
      lt_iff_toValue_lt read otherRead⟩
    rintro ⟨lower, upper⟩
    rw [UInt32.lt_iff_toNat_lt]
    exact historical_of_alias read lower upper

/-- The value 17 stands for 1.7, whose own value is 10, and 19 for 1.9. -/
theorem ofValue_canonical_alias :
    ofValue 17 = .ok ⟨⟨1, 7⟩⟩ ∧ ofValue 19 = .ok ⟨⟨1, 9⟩⟩ ∧
      ofValue (toValue ⟨⟨1, 7⟩⟩) = .ok ⟨⟨1, 7⟩⟩ ∧
      (toValue ⟨⟨1, 7⟩⟩, ⟨1, 7⟩) ∈ historical ∧ toValue ⟨⟨1, 7⟩⟩ < 17 ∧
      toValue ⟨⟨1, 9⟩⟩ = 19 ∧
      ((⟨⟨1, 7⟩⟩ : GameVersion) < ⟨⟨1, 9⟩⟩ ↔ toValue ⟨⟨1, 7⟩⟩ < toValue ⟨⟨1, 9⟩⟩) := by
  have read : ofValue 17 = .ok ⟨⟨1, 7⟩⟩ := rfl
  have otherRead : ofValue 19 = .ok ⟨⟨1, 9⟩⟩ := rfl
  obtain ⟨again, -, older, order⟩ := (ofValue_canonical 17).2.2 _ read
  obtain ⟨listed, smaller⟩ := older (by decide)
  have own := ((ofValue_canonical 19).2.2 _ otherRead).2.1 (by decide)
  exact ⟨read, otherRead, again, listed, smaller, own, order 19 _ otherRead⟩

end LevelFormat.Save.GameVersion
