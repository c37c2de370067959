import LevelFormat.Wire.Layout

/-!
How much reading takes from a buffer.

Whatever a layout reads, the cursor only moves forward and stays inside the buffer, and a value
that was read took at least `Layout.minSize` bytes. Main statement: `Layout.read_ok`.
-/

namespace LevelFormat.Wire

namespace Cursor

theorem advance_zero (cursor : Cursor) : cursor.advance 0 = cursor := by
  simp [advance]

theorem advance_advance (cursor : Cursor) (first second : Nat) :
    (cursor.advance first).advance second = cursor.advance (first + second) := by
  simp [advance, Nat.add_assoc]

theorem remaining_advance (cursor : Cursor) (count : Nat) :
    (cursor.advance count).remaining = cursor.remaining - count := by
  simp [remaining, advance]

end Cursor

def Cursor.Moves (least : Nat) (cursor next : Cursor) : Prop :=
  ∃ count, least ≤ count ∧ count ≤ cursor.remaining ∧ next = cursor.advance count

namespace Cursor.Moves

variable {least first second : Nat} {start middle finish cursor next : Cursor}

theorem refl (cursor : Cursor) : Moves 0 cursor cursor :=
  ⟨0, Nat.le_refl 0, Nat.zero_le _, cursor.advance_zero.symm⟩

theorem mono (moves : Moves first cursor next) (below : least ≤ first) :
    Moves least cursor next := by
  obtain ⟨count, lower, upper, rfl⟩ := moves
  exact ⟨count, Nat.le_trans below lower, upper, rfl⟩

theorem trans (before : Moves first start middle) (after : Moves second middle finish) :
    Moves (first + second) start finish := by
  obtain ⟨left, lowerLeft, upperLeft, rfl⟩ := before
  obtain ⟨right, lowerRight, upperRight, rfl⟩ := after
  rw [remaining_advance] at upperRight
  refine ⟨left + right, by omega, by omega, ?_⟩
  rw [advance_advance]

theorem remaining_le (moves : Moves least cursor next) :
    next.remaining + least ≤ cursor.remaining := by
  obtain ⟨count, lower, upper, rfl⟩ := moves
  rw [remaining_advance]
  omega

end Cursor.Moves

def Decoder.Takes {α : Type} (least : Nat) (decoder : Decoder α) : Prop :=
  ∀ cursor value next, decoder cursor = .ok value next → cursor.Moves least next

namespace Decoder

variable {α β : Type} {least first second : Nat}

theorem takes_pure (value : α) : Takes 0 (pure value : Decoder α) := by
  intro cursor result next delivered
  cases delivered
  exact .refl cursor

theorem Takes.bind {decoder : Decoder α} {continuation : α → Decoder β}
    (before : Takes first decoder) (after : ∀ value, Takes second (continuation value)) :
    Takes (first + second) (decoder >>= continuation) := by
  intro cursor result finish delivered
  change EStateM.bind decoder continuation cursor = .ok result finish at delivered
  unfold EStateM.bind at delivered
  split at delivered
  next value middle taken =>
    exact (before cursor value middle taken).trans (after value middle result finish delivered)
  next => cases delivered

theorem Takes.mono {decoder : Decoder α} (takes : Takes first decoder) (below : least ≤ first) :
    Takes least decoder :=
  fun cursor value next delivered => (takes cursor value next delivered).mono below

theorem takes_ofExcept (outcome : Except Fault α) : Takes 0 (ofExcept outcome) := by
  cases outcome with
  | ok value => exact takes_pure value
  | error fault => exact fun _ _ _ delivered => by cases delivered

theorem takes_peek (count : Nat) : Takes 0 (peek count) := by
  intro cursor bytes next delivered
  unfold peek at delivered
  dsimp only at delivered
  split at delivered
  next => cases delivered; exact .refl cursor
  next => cases delivered

theorem take_ok {count : Nat} {cursor next : Cursor} {bytes : List UInt8}
    (delivered : take count cursor = .ok bytes next) :
    count ≤ cursor.remaining ∧ bytes = cursor.rest.take count ∧ next = cursor.advance count := by
  change EStateM.bind (peek count) _ cursor = .ok bytes next at delivered
  unfold EStateM.bind peek at delivered
  by_cases whole : (cursor.rest.take count).length = count
  · simp only [whole, ↓reduceIte] at delivered
    cases delivered
    rw [List.length_take] at whole
    refine ⟨?_, rfl, rfl⟩
    simp only [Cursor.remaining]
    omega
  · simp only [whole, ↓reduceIte] at delivered
    cases delivered

theorem takes_take (count : Nat) : Takes count (take count) := by
  intro cursor bytes next delivered
  obtain ⟨inside, -, moved⟩ := take_ok delivered
  exact ⟨count, Nat.le_refl count, inside, moved⟩

theorem takes_word (ω : Type) [Word ω] (order : Order) :
    Takes (Word.width ω) (word ω order) :=
  (takes_take _).bind fun _ => takes_pure _

theorem takes_packed {ω : Type} [Word ω] (packing : Packing ω α) (order : Order) :
    Takes (Word.width ω) (packed packing order) :=
  (takes_word ω order).bind fun _ => takes_ofExcept _

theorem takes_replicateOnto {decoder : Decoder α} (takes : Takes least decoder) (count : Nat)
    (reversed : List α) : Takes (count * least) (replicateOnto decoder count reversed) := by
  induction count generalizing reversed with
  | zero => exact (takes_pure _).mono (by omega)
  | succ count ih =>
      refine (takes.bind fun value => ih (value :: reversed)).mono ?_
      rw [Nat.succ_mul]
      omega

theorem takes_replicate {decoder : Decoder α} (takes : Takes least decoder) (count : Nat) :
    Takes (count * least) (replicate decoder count) :=
  takes_replicateOnto takes count []

end Decoder

namespace Layout

def minSize : {α : Type} → Layout α → Nat
  | _, empty => 0
  | _, @word ω _ _ _ => Word.width ω
  | _, bytes _ => 1
  | _, ids => 2
  | _, text => 2
  | _, pair first second => first.minSize + second.minSize
  | _, record _ layout => layout.minSize

theorem takes_read {α : Type} (layout : Layout α) (options : Options) :
    Decoder.Takes layout.minSize (layout.read options) := by
  induction layout with
  | empty => exact Decoder.takes_pure ()
  | word packing => exact Decoder.takes_packed packing options.order
  | bytes packing =>
      exact ((Decoder.takes_word UInt8 _).bind fun _ =>
        (Decoder.takes_replicate (Decoder.takes_packed packing _) _).mono
          (Nat.zero_le _)).mono (Nat.le_refl 1)
  | ids =>
      exact ((Decoder.takes_word UInt16 _).bind fun _ =>
        ((Decoder.takes_replicate (Decoder.takes_word UInt16 _) _).bind fun _ =>
          Decoder.takes_pure _).mono (Nat.zero_le _)).mono (Nat.le_refl 2)
  | text =>
      exact ((Decoder.takes_word UInt16 _).bind fun _ =>
        ((Decoder.takes_take _).bind fun _ => Decoder.takes_ofExcept _).mono
          (Nat.zero_le _)).mono (Nat.le_refl 2)
  | pair first second firstTakes secondTakes =>
      exact (firstTakes.bind fun _ => (secondTakes.bind fun _ => Decoder.takes_pure _))
  | record parts layout takes => exact takes.bind fun _ => Decoder.takes_pure _

/-- A value that was read took at least the least size of its layout, and nothing beyond the end
of the buffer. -/
theorem read_ok {α : Type} {layout : Layout α} {options : Options} {cursor next : Cursor}
    {value : α} (delivered : layout.read options cursor = .ok value next) :
    ∃ count, layout.minSize ≤ count ∧ count ≤ cursor.remaining ∧ next = cursor.advance count :=
  layout.takes_read options cursor value next delivered

end Layout

end LevelFormat.Wire
