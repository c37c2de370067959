import LevelFormat.Bits.Word

/-!
What replacing a field of a word does to its bits.

A field may reach past the top of the word; the bits that would lie there are lost
(`getLsbD_replace`). Main statement: `replace_isolated`.
-/

namespace LevelFormat.Bits

def InField (offset width : UInt32) (index : Nat) : Prop :=
  offset.toNat ≤ index ∧ index < offset.toNat + width.toNat

instance (offset width : UInt32) (index : Nat) : Decidable (InField offset width index) :=
  inferInstanceAs (Decidable (_ ∧ _))

/-! ### The bits of shifted words and of masks -/

section Bits

variable {word offset width : UInt32} {index : Nat}

theorem eq_of_getLsbD {first second : UInt32}
    (same : ∀ index < 32, first.toBitVec.getLsbD index = second.toBitVec.getLsbD index) :
    first = second :=
  UInt32.eq_of_toBitVec_eq (BitVec.eq_of_getLsbD_eq same)

theorem toNat_shift (bound : offset < 32) : (offset.toBitVec % 32).toNat = offset.toNat :=
  Nat.mod_eq_of_lt bound

theorem getLsbD_shiftLeft (bound : offset < 32) (inside : index < 32) :
    (word <<< offset).toBitVec.getLsbD index =
      (decide (offset.toNat ≤ index) && word.toBitVec.getLsbD (index - offset.toNat)) := by
  rw [UInt32.toBitVec_shiftLeft, BitVec.getLsbD_shiftLeft', toNat_shift bound,
    decide_eq_true inside, Bool.true_and, ← decide_not]
  simp only [Nat.not_lt]

theorem getLsbD_shiftRight (bound : offset < 32) :
    (word >>> offset).toBitVec.getLsbD index = word.toBitVec.getLsbD (offset.toNat + index) := by
  rw [UInt32.toBitVec_shiftRight, BitVec.ushiftRight_eq', toNat_shift bound,
    BitVec.getLsbD_ushiftRight]

theorem getLsbD_lowMask (width : UInt32) (index : Nat) :
    (lowMask width).toBitVec.getLsbD index = decide (index < width.toNat ∧ index < 32) := by
  change (lowMask width).toNat.testBit index = _
  rw [toNat_lowMask, Nat.testBit_two_pow_sub_one]
  exact decide_eq_decide.mpr Nat.lt_min

/-- The mask of a field has the bits of the field, as far as the word reaches. -/
theorem getLsbD_fieldMask (bound : offset < 32) (inside : index < 32) :
    (lowMask width <<< offset).toBitVec.getLsbD index = decide (InField offset width index) := by
  rw [getLsbD_shiftLeft bound inside, getLsbD_lowMask, ← Bool.decide_and]
  apply decide_eq_decide.mpr
  unfold InField
  omega

theorem getLsbD_extract (bound : offset < 32) :
    (extract word offset width).toBitVec.getLsbD index =
      (word.toBitVec.getLsbD (offset.toNat + index) &&
        decide (index < width.toNat ∧ index < 32)) := by
  rw [extract, UInt32.toBitVec_and, BitVec.getLsbD_and, getLsbD_shiftRight bound, getLsbD_lowMask]

end Bits

/-! ### Replacing a field -/

section Replacing

variable {word offset width value otherOffset otherWidth otherValue : UInt32} {index : Nat}

/-- The bits of the field become those of the value, and all others stay. -/
theorem getLsbD_replace (bound : offset < 32) (inside : index < 32) :
    (replace word offset width value).toBitVec.getLsbD index =
      if InField offset width index then value.toBitVec.getLsbD (index - offset.toNat)
      else word.toBitVec.getLsbD index := by
  rw [replace, UInt32.toBitVec_or, UInt32.toBitVec_and, UInt32.toBitVec_and, UInt32.toBitVec_not,
    BitVec.getLsbD_or, BitVec.getLsbD_and, BitVec.getLsbD_and, BitVec.getLsbD_not,
    getLsbD_fieldMask bound inside, getLsbD_shiftLeft bound inside]
  by_cases within : InField offset width index
  · have above : offset.toNat ≤ index := within.1
    simp [within, above]
  · simp [within, inside]

/-- The field then holds the value, cut to its width and to what the word reaches of it. -/
theorem extract_replace (bound : offset < 32) :
    extract (replace word offset width value) offset width =
      value &&& lowMask width &&& (0xFFFFFFFF >>> offset) := by
  have full : (0xFFFFFFFF : UInt32) = lowMask 32 := rfl
  refine eq_of_getLsbD fun index inside => ?_
  rw [full, getLsbD_extract bound, UInt32.toBitVec_and, BitVec.getLsbD_and, UInt32.toBitVec_and,
    BitVec.getLsbD_and, getLsbD_shiftRight bound, getLsbD_lowMask, getLsbD_lowMask]
  by_cases reached : offset.toNat + index < 32
  · have behind : offset.toNat + index - offset.toNat = index := by omega
    rw [getLsbD_replace bound reached, behind]
    by_cases narrow : index < width.toNat
    · have within : InField offset width (offset.toNat + index) := by
        unfold InField
        omega
      simp [within, narrow, inside, reached]
    · simp [narrow]
  · rw [BitVec.getLsbD_of_ge _ _ (Nat.le_of_not_lt reached)]
    simp [reached]

theorem getLsbD_replace_of_not_inField (bound : offset < 32) (outside : ¬InField offset width index) :
    (replace word offset width value).toBitVec.getLsbD index = word.toBitVec.getLsbD index := by
  by_cases inside : index < 32
  · rw [getLsbD_replace bound inside, if_neg outside]
  · rw [BitVec.getLsbD_of_ge _ _ (Nat.le_of_not_lt inside),
      BitVec.getLsbD_of_ge _ _ (Nat.le_of_not_lt inside)]

theorem replace_comm (bound : offset < 32) (otherBound : otherOffset < 32)
    (disjoint : ∀ index, ¬(InField offset width index ∧ InField otherOffset otherWidth index)) :
    replace (replace word offset width value) otherOffset otherWidth otherValue =
      replace (replace word otherOffset otherWidth otherValue) offset width value := by
  refine eq_of_getLsbD fun index inside => ?_
  rw [getLsbD_replace otherBound inside, getLsbD_replace bound inside,
    getLsbD_replace bound inside, getLsbD_replace otherBound inside]
  by_cases within : InField offset width index
  · have apart : ¬InField otherOffset otherWidth index := fun other => disjoint index ⟨within, other⟩
    rw [if_neg apart, if_pos within, if_pos within]
  · rw [if_neg within, if_neg within]

/-- A replaced field holds the value, cut to its width and to what the word reaches of it. All other
bits stay, so fields that share no position can be replaced in either order. -/
theorem replace_isolated (word value offset width : UInt32) (bound : offset < 32) :
    extract (replace word offset width value) offset width =
        value &&& lowMask width &&& (0xFFFFFFFF >>> offset) ∧
      (∀ index, ¬InField offset width index →
        (replace word offset width value).toBitVec.getLsbD index = word.toBitVec.getLsbD index) ∧
      ∀ otherOffset otherWidth otherValue, otherOffset < 32 →
        (∀ index, ¬(InField offset width index ∧ InField otherOffset otherWidth index)) →
          replace (replace word offset width value) otherOffset otherWidth otherValue =
            replace (replace word otherOffset otherWidth otherValue) offset width value :=
  ⟨extract_replace bound, fun _ => getLsbD_replace_of_not_inField bound,
    fun _ _ _ => replace_comm bound⟩

/-- A field of 40 bits, of which the word reaches four, and one far below it. -/
theorem replace_isolated_cutOff :
    extract (replace 0xDEADBEEF 28 40 0x123) 28 40 = 3 ∧
      (replace 0xDEADBEEF 28 40 0x123).toBitVec.getLsbD 27 = true ∧
      replace (replace 0xDEADBEEF 28 40 0x123) 3 5 0xFF =
        replace (replace 0xDEADBEEF 3 5 0xFF) 28 40 0x123 := by
  obtain ⟨held, kept, commutes⟩ := replace_isolated 0xDEADBEEF 0x123 28 40 (by decide)
  refine ⟨held.trans (by decide), (kept 27 (by decide)).trans (by decide),
    commutes 3 5 0xFF (by decide) ?_⟩
  rintro index ⟨⟨above, -⟩, -, below⟩
  change 28 ≤ index at above
  change index < 3 + 5 at below
  omega

end Replacing

end LevelFormat.Bits
