import LevelFormat.Bits.FlagByte

/-!
Single flags in a flag byte.

A flag of one bit is contained exactly if that bit is set, so what becomes of it can be told without
the other flags (`contains_assign`, `contains_toggle`).
-/

namespace LevelFormat.Bits

def IsSingle (flag : UInt8) : Prop := ∃ index < 8, flag.toBitVec = BitVec.twoPow 8 index

/-- A single flag is covered by some bits exactly if they have its bit. -/
theorem IsSingle.exists_index {flag : UInt8} (single : IsSingle flag) :
    ∃ index < 8, ∀ bits : UInt8, (bits &&& flag == flag) = bits.toBitVec.getLsbD index := by
  obtain ⟨index, inside, shape⟩ := single
  refine ⟨index, inside, fun bits => ?_⟩
  have nonzero : (0 : BitVec 8) ≠ BitVec.twoPow 8 index := by
    intro zero
    have bit := congrArg (·.getLsbD index) zero
    simp [inside] at bit
  rw [Bool.eq_iff_iff, beq_iff_eq, ← UInt8.toBitVec_inj, UInt8.toBitVec_and, shape,
    BitVec.and_twoPow]
  cases bits.toBitVec.getLsbD index with
  | false => simpa using nonzero
  | true => simp

namespace FlagByte

variable {mask flag : UInt8}

/-- Bits cover a flag within the mask as they do after they are cut to the mask. -/
theorem contains_ofBits (known : mask &&& flag = flag) (bits : UInt8) :
    (ofBits mask bits).contains flag = (bits &&& flag == flag) := by
  rw [contains, ofBits, UInt8.and_assoc, known]

theorem contains_assign (single : IsSingle flag) (known : mask &&& flag = flag)
    (flags : FlagByte mask) (bits : UInt8) (value : Bool) :
    (flags.assign bits value).contains flag =
      if bits &&& flag == flag then value else flags.contains flag := by
  obtain ⟨index, inside, covers⟩ := single.exists_index
  rw [assign, contains_ofBits known, contains, covers, covers, covers]
  cases value with
  | false =>
      rw [if_neg Bool.false_ne_true, UInt8.toBitVec_and, UInt8.toBitVec_not, BitVec.getLsbD_and,
        BitVec.getLsbD_not, decide_eq_true inside, Bool.true_and]
      cases bits.toBitVec.getLsbD index <;> simp
  | true =>
      rw [if_pos rfl, UInt8.toBitVec_or, BitVec.getLsbD_or]
      cases bits.toBitVec.getLsbD index <;> simp

theorem contains_toggle (single : IsSingle flag) (known : mask &&& flag = flag)
    (flags : FlagByte mask) (bits : UInt8) :
    (flags.toggle bits).contains flag = (flags.contains flag ^^ (bits &&& flag == flag)) := by
  obtain ⟨index, inside, covers⟩ := single.exists_index
  rw [toggle, contains_ofBits known, contains, covers, covers, covers, UInt8.toBitVec_xor,
    BitVec.getLsbD_xor]

end FlagByte

end LevelFormat.Bits
