import LevelFormat.Wire.Consumption
import Mathlib.Data.List.Forall2

/-!
What decoders accept, as a relation between bytes and values.

`Decoder.Accepts` is closed under the ways in which decoders are put together: steps that read
nothing, one step after another, and repetition.
-/

namespace LevelFormat.Wire

def Cursor.Spans (cursor : Cursor) (found : List UInt8) (next : Cursor) : Prop :=
  cursor.rest = found ++ next.rest ∧ next.position = cursor.position + found.length

namespace Cursor.Spans

variable {start middle finish cursor next : Cursor} {found front back : List UInt8}

theorem nil_iff : cursor.Spans [] next ↔ next = cursor := by
  obtain ⟨position, rest⟩ := cursor
  obtain ⟨nextPosition, nextRest⟩ := next
  simp only [Spans, List.nil_append, List.length_nil, Nat.add_zero, mk.injEq]
  constructor
  · rintro ⟨rests, positions⟩
    exact ⟨positions, rests.symm⟩
  · rintro ⟨positions, rests⟩
    exact ⟨rests.symm, positions⟩

theorem trans (first : start.Spans front middle) (second : middle.Spans back finish) :
    start.Spans (front ++ back) finish := by
  obtain ⟨firstRest, firstPosition⟩ := first
  obtain ⟨secondRest, secondPosition⟩ := second
  refine ⟨by rw [firstRest, secondRest, List.append_assoc], ?_⟩
  rw [secondPosition, firstPosition, List.length_append, Nat.add_assoc]

theorem split (whole : start.Spans (front ++ back) finish) :
    ∃ middle, start.Spans front middle ∧ middle.Spans back finish := by
  obtain ⟨rests, positions⟩ := whole
  refine ⟨⟨start.position + front.length, back ++ finish.rest⟩, ⟨?_, rfl⟩, rfl, ?_⟩
  · rw [rests, List.append_assoc]
  · rw [positions, List.length_append, Nat.add_assoc]

theorem eq_advance (spans : cursor.Spans found next) : next = cursor.advance found.length := by
  obtain ⟨position, rest⟩ := next
  obtain ⟨rests, positions⟩ := spans
  simp only at rests positions
  simp [advance, rests, positions]

theorem take_advance {count : Nat} (inside : count ≤ cursor.remaining) :
    cursor.Spans (cursor.rest.take count) (cursor.advance count) := by
  simp only [remaining] at inside
  refine ⟨(List.take_append_drop count cursor.rest).symm, ?_⟩
  simp [advance, Nat.min_eq_left inside]

end Cursor.Spans

/-- The decoder delivers a value exactly where bytes that mean it lie in front. -/
def Decoder.Accepts {α : Type} (decoder : Decoder α) (means : List UInt8 → α → Prop) : Prop :=
  ∀ cursor value next, decoder cursor = .ok value next ↔
    ∃ found, cursor.Spans found next ∧ means found value

namespace Decoder

variable {α β : Type}

theorem bind_ok_iff (decoder : Decoder α) (continuation : α → Decoder β) (cursor finish : Cursor)
    (result : β) :
    (decoder >>= continuation) cursor = .ok result finish ↔
      ∃ value middle, decoder cursor = .ok value middle ∧
        continuation value middle = .ok result finish := by
  change EStateM.bind decoder continuation cursor = .ok result finish ↔ _
  unfold EStateM.bind
  cases decoder cursor with
  | ok value middle => simp
  | error fault middle => simp

theorem peek_ok_iff (count : Nat) (cursor next : Cursor) (bytes : List UInt8) :
    peek count cursor = .ok bytes next ↔
      count ≤ cursor.remaining ∧ bytes = cursor.rest.take count ∧ next = cursor := by
  unfold peek
  dsimp only
  rw [List.length_take, Cursor.remaining]
  split
  next enough =>
    simp only [EStateM.Result.ok.injEq]
    constructor
    · rintro ⟨rfl, rfl⟩
      exact ⟨by omega, rfl, rfl⟩
    · rintro ⟨-, rfl, rfl⟩
      exact ⟨rfl, rfl⟩
  next short =>
    constructor
    · intro impossible
      cases impossible
    · rintro ⟨enough, -, -⟩
      omega

theorem accepts_pure (value : α) :
    Accepts (pure value : Decoder α) fun found result => found = [] ∧ result = value := by
  intro cursor result next
  change EStateM.Result.ok value cursor = .ok result next ↔ _
  simp only [EStateM.Result.ok.injEq]
  constructor
  · rintro ⟨rfl, rfl⟩
    exact ⟨[], Cursor.Spans.nil_iff.mpr rfl, rfl, rfl⟩
  · rintro ⟨_, spans, rfl, rfl⟩
    exact ⟨rfl, (Cursor.Spans.nil_iff.mp spans).symm⟩

theorem Accepts.congr {decoder : Decoder α} {means other : List UInt8 → α → Prop}
    (accepts : decoder.Accepts means) (same : ∀ found value, means found value ↔ other found value) :
    decoder.Accepts other := by
  intro cursor value next
  simp only [accepts cursor value next, same]

theorem Accepts.bind {decoder : Decoder α} {continuation : α → Decoder β}
    {means : List UInt8 → α → Prop} {meansNext : α → List UInt8 → β → Prop}
    (first : decoder.Accepts means) (second : ∀ value, (continuation value).Accepts (meansNext value)) :
    (decoder >>= continuation).Accepts fun found result =>
      ∃ front back value, found = front ++ back ∧ means front value ∧
        meansNext value back result := by
  intro cursor result finish
  rw [bind_ok_iff]
  constructor
  · rintro ⟨value, middle, taken, continued⟩
    obtain ⟨front, frontSpans, frontMeans⟩ := (first cursor value middle).mp taken
    obtain ⟨back, backSpans, backMeans⟩ := (second value middle result finish).mp continued
    exact ⟨front ++ back, frontSpans.trans backSpans, front, back, value, rfl, frontMeans,
      backMeans⟩
  · rintro ⟨_, spans, front, back, value, rfl, frontMeans, backMeans⟩
    obtain ⟨middle, frontSpans, backSpans⟩ := spans.split
    exact ⟨value, middle, (first cursor value middle).mpr ⟨front, frontSpans, frontMeans⟩,
      (second value middle result finish).mpr ⟨back, backSpans, backMeans⟩⟩

theorem accepts_take (count : Nat) :
    Accepts (take count) fun found bytes => found.length = count ∧ bytes = found := by
  intro cursor bytes next
  constructor
  · intro taken
    obtain ⟨inside, rfl, rfl⟩ := take_ok taken
    refine ⟨_, Cursor.Spans.take_advance inside, ?_, rfl⟩
    rw [Cursor.remaining] at inside
    rw [List.length_take, Nat.min_eq_left inside]
  · rintro ⟨found, spans, length, rfl⟩
    have moved := spans.eq_advance
    subst length
    have front : cursor.rest.take bytes.length = bytes := by rw [spans.1, List.take_left]
    rw [moved]
    change EStateM.bind (peek bytes.length) _ cursor = _
    unfold EStateM.bind peek
    simp only [front, ↓reduceIte]
    rfl

theorem accepts_ofExcept (outcome : Except Fault α) :
    Accepts (ofExcept outcome) fun found value => found = [] ∧ outcome = .ok value := by
  cases outcome with
  | ok value =>
      refine (accepts_pure value).congr ?_
      intro found result
      simp only [Except.ok.injEq, eq_comm]
  | error fault =>
      intro cursor value next
      constructor
      · intro delivered
        cases delivered
      · rintro ⟨_, _, _, impossible⟩
        cases impossible

theorem accepts_word (ω : Type) [Word ω] (order : Order) :
    Accepts (word ω order) fun found value =>
      found.length = Word.width ω ∧ value = Word.ofBytes order found := by
  refine ((accepts_take _).bind fun _ => accepts_pure _).congr ?_
  intro found value
  constructor
  · rintro ⟨front, _, _, rfl, ⟨length, rfl⟩, rfl, rfl⟩
    simpa using length
  · rintro ⟨length, rfl⟩
    exact ⟨found, [], found, by simp, ⟨length, rfl⟩, rfl, rfl⟩

theorem accepts_packed {ω : Type} [Word ω] (packing : Packing ω α) (order : Order) :
    Accepts (packed packing order) fun found value =>
      found.length = Word.width ω ∧ packing.unpack (Word.ofBytes order found) = .ok value := by
  refine ((accepts_word ω order).bind fun _ => accepts_ofExcept _).congr ?_
  intro found value
  constructor
  · rintro ⟨front, _, _, rfl, ⟨length, rfl⟩, rfl, unpacked⟩
    simpa using ⟨length, unpacked⟩
  · rintro ⟨length, unpacked⟩
    exact ⟨found, [], _, by simp, ⟨length, rfl⟩, rfl, unpacked⟩

def Chain (means : List UInt8 → α → Prop) (found : List UInt8) (values : List α) : Prop :=
  ∃ runs, found = runs.flatten ∧ List.Forall₂ means runs values

theorem accepts_replicateOnto {decoder : Decoder α} {means : List UInt8 → α → Prop}
    (accepts : decoder.Accepts means) (count : Nat) (reversed : List α) :
    Accepts (replicateOnto decoder count reversed) fun found values =>
      ∃ rest, values = reversed.reverse ++ rest ∧ rest.length = count ∧ Chain means found rest := by
  induction count generalizing reversed with
  | zero =>
      refine (accepts_pure reversed.reverse).congr ?_
      intro found values
      constructor
      · rintro ⟨rfl, rfl⟩
        exact ⟨[], by simp, rfl, [], rfl, .nil⟩
      · rintro ⟨rest, rfl, empty, runs, rfl, chain⟩
        rw [List.length_eq_zero_iff] at empty
        subst empty
        cases chain
        simp
  | succ count ih =>
      refine (accepts.bind fun value => ih (value :: reversed)).congr ?_
      intro found values
      constructor
      · rintro ⟨front, back, value, rfl, frontMeans, rest, rfl, length, runs, rfl, chain⟩
        exact ⟨value :: rest, by simp, by simp [length], front :: runs, by simp,
          .cons frontMeans chain⟩
      · rintro ⟨rest, rfl, length, runs, rfl, chain⟩
        cases chain with
        | nil => simp at length
        | @cons front value runs rest frontMeans chain =>
            exact ⟨front, runs.flatten, value, by simp, frontMeans, rest, by simp,
              by simpa using length, runs, rfl, chain⟩

theorem accepts_replicate {decoder : Decoder α} {means : List UInt8 → α → Prop}
    (accepts : decoder.Accepts means) (count : Nat) :
    Accepts (replicate decoder count) fun found values =>
      values.length = count ∧ Chain means found values := by
  refine (accepts_replicateOnto accepts count []).congr ?_
  intro found values
  constructor
  · rintro ⟨rest, rfl, length, chain⟩
    exact ⟨length, chain⟩
  · rintro ⟨length, chain⟩
    exact ⟨values, rfl, length, chain⟩

/-- A buffer is a value exactly if all of it means the value. -/
theorem Accepts.run_eq_ok_iff {decoder : Decoder α} {means : List UInt8 → α → Prop}
    (accepts : decoder.Accepts means) (bytes : List UInt8) (value : α) :
    decoder.run bytes = .ok value ↔ means bytes value := by
  unfold run
  constructor
  · intro delivered
    split at delivered
    next result next taken =>
      split at delivered
      next ended =>
        cases delivered
        obtain ⟨found, ⟨rests, -⟩, foundMeans⟩ := (accepts _ _ _).mp taken
        rw [Cursor.isEmpty, List.isEmpty_iff] at ended
        rw [ended, List.append_nil] at rests
        rwa [show bytes = found from rests]
      next => cases delivered
    next => cases delivered
  · intro wholeMeans
    have taken := (accepts (.start bytes) value ⟨bytes.length, []⟩).mpr
      ⟨bytes, ⟨by simp [Cursor.start], by simp [Cursor.start]⟩, wholeMeans⟩
    rw [taken]
    rfl

end Decoder

end LevelFormat.Wire
