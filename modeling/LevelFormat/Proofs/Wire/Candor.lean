import LevelFormat.Proofs.Wire.Locality

/-!
What a fault tells about the reader.

Reading moves forward inside the buffer, also where it fails, and a fault about missing bytes says how
many are left where the reader stopped. `Layout.candid_read` says so of every layout whose words are
refused without regard to their place.
-/

namespace LevelFormat

/-- What a fault says about missing bytes is so at a cursor. -/
def Fault.TrueAt (cursor : Wire.Cursor) : Fault → Prop
  | truncated offset needed remaining =>
    offset = cursor.position ∧ remaining = cursor.remaining ∧ remaining < needed
  | _ => True

theorem Fault.trueAt_of_placeless {fault : Fault}
    (placeless : ∀ distance, fault.shift distance = fault) (cursor : Wire.Cursor) :
    fault.TrueAt cursor := by
  cases fault with
  | truncated offset needed remaining =>
      have same := placeless 1
      rw [shift, truncated.injEq] at same
      exact absurd same.1 (Nat.succ_ne_self offset)
  | _ => trivial

namespace Wire

namespace Decoder

variable {α β : Type}

structure Candid (decoder : Decoder α) : Prop where
  takes : decoder.Takes 0
  error : ∀ {cursor fault next}, decoder cursor = .error fault next →
    cursor.Moves 0 next ∧ fault.TrueAt next

theorem candid_pure (value : α) : (pure value : Decoder α).Candid where
  takes := takes_pure value
  error failed := by cases failed

theorem Candid.bind {decoder : Decoder α} {continuation : α → Decoder β} (first : decoder.Candid)
    (second : ∀ value, (continuation value).Candid) : (decoder >>= continuation).Candid where
  takes := first.takes.bind fun value => (second value).takes
  error := by
    intro cursor fault finish failed
    rw [bind_eq] at failed
    cases taken : decoder cursor with
    | error other middle =>
        rw [taken] at failed
        cases failed
        exact first.error taken
    | ok value middle =>
        rw [taken] at failed
        obtain ⟨moves, told⟩ := (second value).error failed
        exact ⟨(first.takes cursor value middle taken).trans moves, told⟩

theorem candid_ofExcept {outcome : Except Fault α}
    (placeless : ∀ fault, outcome = .error fault → ∀ distance, fault.shift distance = fault) :
    (ofExcept outcome).Candid where
  takes := takes_ofExcept outcome
  error := by
    intro cursor fault next failed
    cases outcome with
    | ok value => cases failed
    | error other =>
        cases failed
        exact ⟨.refl cursor, Fault.trueAt_of_placeless (placeless fault rfl) cursor⟩

theorem candid_peek (count : Nat) : (peek count).Candid where
  takes := takes_peek count
  error := by
    intro cursor fault next failed
    rw [peek_eq] at failed
    split at failed
    next short =>
      cases failed
      exact ⟨.refl cursor, rfl, rfl, short⟩
    next => cases failed

theorem candid_take (count : Nat) : (take count).Candid where
  takes := (takes_take count).mono (Nat.zero_le count)
  error := by
    intro cursor fault next failed
    rw [take_eq] at failed
    split at failed
    next short =>
      cases failed
      exact ⟨.refl cursor, rfl, rfl, short⟩
    next => cases failed

theorem candid_word (ω : Type) [Word ω] (order : Order) : (word ω order).Candid :=
  (candid_take _).bind fun _ => candid_pure _

theorem candid_packed {ω : Type} [Word ω] {packing : Packing ω α} (placeless : packing.Placeless)
    (order : Order) : (packed packing order).Candid :=
  (candid_word ω order).bind fun word => candid_ofExcept (placeless word)

theorem candid_replicateOnto {decoder : Decoder α} (candid : decoder.Candid) (count : Nat)
    (reversed : List α) : (replicateOnto decoder count reversed).Candid := by
  induction count generalizing reversed with
  | zero => exact candid_pure _
  | succ count ih => exact candid.bind fun value => ih (value :: reversed)

theorem candid_content (length : Nat) (charset : Text.Charset) :
    (take length >>= fun content => ofExcept (charset.decode content)).Candid :=
  (candid_take length).bind fun content =>
    candid_ofExcept (Text.Charset.placeless_decode charset content)

theorem candid_text (order : Order) (charset : Text.Charset) : (text order charset).Candid :=
  (candid_word UInt16 order).bind fun length => candid_content length.toNat charset

end Decoder

theorem Layout.candid_read {α : Type} {layout : Layout α} (placeless : layout.Placeless)
    (options : Options) : (layout.read options).Candid := by
  induction layout with
  | empty => exact Decoder.candid_pure ()
  | word packing => exact Decoder.candid_packed placeless options.order
  | bytes packing =>
      exact (Decoder.candid_word UInt8 _).bind fun _ =>
        Decoder.candid_replicateOnto (Decoder.candid_packed placeless _) _ _
  | ids =>
      exact (Decoder.candid_word UInt16 _).bind fun _ =>
        (Decoder.candid_replicateOnto (Decoder.candid_word UInt16 _) _ _).bind fun _ =>
          Decoder.candid_pure _
  | text => exact Decoder.candid_text options.order options.charset
  | pair first second firstCandid secondCandid =>
      exact (firstCandid placeless.1).bind fun _ =>
        (secondCandid placeless.2).bind fun _ => Decoder.candid_pure _
  | record parts layout candid => exact (candid placeless).bind fun _ => Decoder.candid_pure _

end Wire

end LevelFormat
