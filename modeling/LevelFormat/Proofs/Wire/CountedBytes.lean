import LevelFormat.Proofs.Wire.FailedReads
import LevelFormat.Proofs.Wire.Meaning

/-!
Lists of one-byte values behind their count.

The values are read one by one, until the count is reached or the bytes end. Main statement:
`Layout.decode_bytes_cons`.
-/

namespace LevelFormat.Wire

variable {α : Type} {pack : α → UInt8} {unpack : UInt8 → α}
  {unpack_pack : ∀ value, unpack (pack value) = value}

namespace Decoder

theorem word_uint8_nil (order : Order) (position : Nat) :
    word UInt8 order ⟨position, []⟩ = .error (.truncated position 1 0) ⟨position, []⟩ := rfl

theorem word_uint8_cons (order : Order) (position : Nat) (byte : UInt8) (rest : List UInt8) :
    word UInt8 order ⟨position, byte :: rest⟩ = .ok byte ⟨position + 1, rest⟩ := by
  have enough : ¬ (Cursor.mk position (byte :: rest)).remaining < Word.width UInt8 := by
    rw [width_uint8, Cursor.remaining, List.length_cons]
    omega
  rw [word_eq, if_neg enough]
  change EStateM.Result.ok (Word.ofBytes order [byte]) (Cursor.mk (position + 1) rest) = _
  rw [ofBytes_singleton]

/-- Bytes that are all accepted are read one by one. Where some are missing, the first of these is. -/
theorem replicateOnto_total (order : Order) (count position : Nat) (rest : List UInt8)
    (reversed : List α) :
    replicateOnto (packed (.total pack unpack unpack_pack) order) count reversed ⟨position, rest⟩ =
      if rest.length < count then
        .error (.truncated (position + rest.length) 1 0) ⟨position + rest.length, []⟩
      else .ok (reversed.reverse ++ (rest.take count).map unpack)
        ⟨position + count, rest.drop count⟩ := by
  induction count generalizing position rest reversed with
  | zero =>
      change EStateM.Result.ok reversed.reverse _ = _
      simp
  | succ count ih =>
      rw [replicateOnto, packed]
      simp only [bind_eq]
      cases rest with
      | nil =>
          rw [word_uint8_nil]
          simp
      | cons byte rest =>
          rw [word_uint8_cons]
          change replicateOnto (packed (.total pack unpack unpack_pack) order) count
            (unpack byte :: reversed) ⟨position + 1, rest⟩ = _
          rw [ih]
          by_cases short : rest.length < count
          · simp [short]
            omega
          · simp [short]
            omega

end Decoder

namespace Layout

theorem decode_bytes_cons (options : Options) (count : UInt8) (rest : List UInt8) :
    (bytes (.total pack unpack unpack_pack)).decode options (count :: rest) =
      if rest.length < count.toNat then .error (.truncated (1 + rest.length) 1 0)
      else if count.toNat < rest.length then .error (.trailingBytes (rest.length - count.toNat))
      else .ok (rest.map unpack) := by
  have delivered : (bytes (.total pack unpack unpack_pack)).read options ⟨0, count :: rest⟩ =
      if rest.length < count.toNat then
        .error (.truncated (1 + rest.length) 1 0) ⟨1 + rest.length, []⟩
      else .ok ((rest.take count.toNat).map unpack)
        ⟨1 + count.toNat, rest.drop count.toNat⟩ := by
    rw [read, Decoder.bind_eq, Decoder.word_uint8_cons]
    exact Decoder.replicateOnto_total options.order count.toNat 1 rest []
  rw [decode, Decoder.run, Cursor.start, delivered]
  by_cases short : rest.length < count.toNat
  · simp [short]
  · by_cases long : count.toNat < rest.length
    · simp [short, long, Cursor.isEmpty, Cursor.remaining]
    · have same : rest.length = count.toNat := by omega
      simp [← same, Cursor.isEmpty]

end Layout

end LevelFormat.Wire
