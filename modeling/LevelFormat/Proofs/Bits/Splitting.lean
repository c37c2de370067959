import LevelFormat.Proofs.Bits.Replacement

/-!
What a word loses when it is split at a mask and joined again, and what two parts lose when they
are joined and split.

A mask may leave out positions below its highest one. The bits of a word at these holes belong to
neither part, so they are clear when the parts are joined again (`getLsbD_join_split`). Main
statement: `split_join_up_to_mask`.
-/

namespace LevelFormat.Bits

/-- A position that the mask spans but leaves out. -/
def IsHole (mask : UInt32) (index : Nat) : Prop :=
  index < (bitWidth mask).toNat ∧ mask.toBitVec.getLsbD index = false

instance (mask : UInt32) (index : Nat) : Decidable (IsHole mask index) :=
  inferInstanceAs (Decidable (_ ∧ _))

variable {mask : UInt32}

theorem bitWidth_lt (below : mask.toNat < 2 ^ 31) : bitWidth mask < 32 := by
  have narrow := (toNat_bitWidth_le_iff mask 31).mpr below
  rw [UInt32.lt_iff_toNat_lt]
  exact Nat.lt_succ_of_le narrow

/-! ### Two parts joined and split -/

theorem toNat_shiftLeft_shiftRight (value : UInt32) {offset : UInt32} (bound : offset < 32) :
    ((value <<< offset) >>> offset).toNat = value.toNat % 2 ^ (32 - offset.toNat) := by
  have short : offset.toNat < 32 := UInt32.lt_iff_toNat_lt.mp bound
  have whole : 2 ^ 32 = 2 ^ (32 - offset.toNat) * 2 ^ offset.toNat := by
    rw [← Nat.pow_add, Nat.sub_add_cancel (Nat.le_of_lt short)]
  rw [UInt32.toNat_shiftRight, UInt32.toNat_shiftLeft, Nat.mod_eq_of_lt short, Nat.shiftLeft_eq,
    Nat.shiftRight_eq_div_pow, whole, Nat.mul_mod_mul_right,
    Nat.mul_div_cancel _ (Nat.two_pow_pos _)]

theorem toNat_split_join (below : mask.toNat < 2 ^ 31) (high low : UInt32) :
    (split (join high low mask) mask).1.toNat =
        high.toNat % 2 ^ (32 - (bitWidth mask).toNat) ∧
      (split (join high low mask) mask).2 = low &&& mask := by
  have bound := bitWidth_lt below
  rw [split_join high low mask (UInt32.lt_iff_toNat_lt.mp bound)]
  exact ⟨toNat_shiftLeft_shiftRight high bound, rfl⟩

/-! ### A word split and joined -/

theorem getLsbD_join_split (below : mask.toNat < 2 ^ 31) (word : UInt32) (index : Nat) :
    (join (split word mask).1 (split word mask).2 mask).toBitVec.getLsbD index =
      if IsHole mask index then false else word.toBitVec.getLsbD index := by
  have bound := bitWidth_lt below
  by_cases inside : index < 32
  · rw [join, split, UInt32.toBitVec_or, UInt32.toBitVec_and, UInt32.toBitVec_and,
      BitVec.getLsbD_or, BitVec.getLsbD_and, BitVec.getLsbD_and, getLsbD_shiftLeft bound inside,
      getLsbD_shiftRight bound]
    by_cases above : (bitWidth mask).toNat ≤ index
    · have back : (bitWidth mask).toNat + (index - (bitWidth mask).toNat) = index := by omega
      have outside : ¬IsHole mask index := fun hole => Nat.not_lt.mpr above hole.1
      simp [getLsbD_of_bitWidth_le mask above, above, back, outside]
    · have spanned : index < (bitWidth mask).toNat := Nat.lt_of_not_le above
      cases bit : mask.toBitVec.getLsbD index with
      | false => simp [IsHole, bit, above, spanned]
      | true => simp [IsHole, bit, above]
  · have beyond := Nat.le_of_not_lt inside
    simp [BitVec.getLsbD_of_ge _ _ beyond]

theorem join_split_eq_iff (below : mask.toNat < 2 ^ 31) (word : UInt32) :
    join (split word mask).1 (split word mask).2 mask = word ↔
      ∀ index, IsHole mask index → word.toBitVec.getLsbD index = false := by
  constructor
  · intro back index hole
    have bit := getLsbD_join_split below word index
    rwa [back, if_pos hole] at bit
  · intro clear
    refine eq_of_getLsbD fun index _ => ?_
    rw [getLsbD_join_split below]
    split
    next hole => exact (clear index hole).symm
    next => rfl

theorem forall_not_isHole_iff (mask : UInt32) :
    (∀ index, ¬IsHole mask index) ↔ mask.toNat = 2 ^ (bitWidth mask).toNat - 1 := by
  constructor
  · intro solid
    have same : mask = lowMask (bitWidth mask) := by
      refine eq_of_getLsbD fun index inside => ?_
      rw [getLsbD_lowMask]
      by_cases spanned : index < (bitWidth mask).toNat
      · have set : mask.toBitVec.getLsbD index = true := by
          rw [← Bool.not_eq_false]
          exact fun clear => solid index ⟨spanned, clear⟩
        simp [set, spanned, inside]
      · simp [getLsbD_of_bitWidth_le mask (Nat.le_of_not_lt spanned), spanned]
    have narrow : (bitWidth mask).toNat ≤ 32 := (toNat_bitWidth_le_iff mask 32).mpr mask.toNat_lt
    have number := toNat_lowMask (bitWidth mask)
    rwa [← same, Nat.min_eq_left narrow] at number
  · rintro number index ⟨spanned, clear⟩
    change mask.toNat.testBit index = false at clear
    rw [number, Nat.testBit_two_pow_sub_one] at clear
    exact of_decide_eq_false clear spanned

theorem forall_join_split_eq_iff (below : mask.toNat < 2 ^ 31) :
    (∀ word, join (split word mask).1 (split word mask).2 mask = word) ↔
      mask.toNat = 2 ^ (bitWidth mask).toNat - 1 := by
  rw [← forall_not_isHole_iff]
  constructor
  · intro back index hole
    have clear := (join_split_eq_iff below (lowMask 32)).mp (back _) index hole
    have inside : index < 32 :=
      Nat.lt_trans hole.1 (UInt32.lt_iff_toNat_lt.mp (bitWidth_lt below))
    rw [getLsbD_lowMask] at clear
    exact of_decide_eq_false clear ⟨inside, inside⟩
  · intro solid word
    exact (join_split_eq_iff below word).mpr fun index hole => absurd hole (solid index)

/-! ### Both ways -/

/-- Splitting gives back what was joined, up to what has no place in the word. Joining gives back
what was split, up to the holes of the mask, and so all words exactly for masks without holes. -/
theorem split_join_up_to_mask (mask : UInt32) (below : mask.toNat < 2 ^ 31) :
    (∀ high low,
      (split (join high low mask) mask).1.toNat =
          high.toNat % 2 ^ (32 - (bitWidth mask).toNat) ∧
        (split (join high low mask) mask).2 = low &&& mask) ∧
      (∀ word index,
        (join (split word mask).1 (split word mask).2 mask).toBitVec.getLsbD index =
          if IsHole mask index then false else word.toBitVec.getLsbD index) ∧
      ((∀ word, join (split word mask).1 (split word mask).2 mask = word) ↔
        mask.toNat = 2 ^ (bitWidth mask).toNat - 1) :=
  ⟨toNat_split_join below, getLsbD_join_split below, forall_join_split_eq_iff below⟩

/-- A mask with a hole at position 2, and a high part of which four bits go over the top. -/
theorem split_join_up_to_mask_hole :
    (0xB : UInt32).toNat < 2 ^ 31 ∧
      split (join 0xF0000001 0x7E 0xB) 0xB = (1, 0xA) ∧
      (join (split 0xFF 0xB).1 (split 0xFF 0xB).2 0xB).toBitVec.getLsbD 2 = false ∧
      (join (split 0xFF 0xB).1 (split 0xFF 0xB).2 0xB).toBitVec.getLsbD 4 = true ∧
      ¬∀ word, join (split word 0xB).1 (split word 0xB).2 0xB = word := by
  have below : (0xB : UInt32).toNat < 2 ^ 31 := by decide
  obtain ⟨parts, bits, every⟩ := split_join_up_to_mask 0xB below
  obtain ⟨high, low⟩ := parts 0xF0000001 0x7E
  refine ⟨below, Prod.ext ?_ ?_, (bits 0xFF 2).trans ?_, (bits 0xFF 4).trans ?_, ?_⟩
  · exact UInt32.toNat_inj.mp (high.trans (by decide))
  · exact low.trans (by decide)
  · decide
  · decide
  · rw [every]
    decide

end LevelFormat.Bits
