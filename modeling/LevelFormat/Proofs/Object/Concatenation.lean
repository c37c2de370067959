import LevelFormat.Proofs.Object.Fields
import LevelFormat.Proofs.Object.Reencoding
import LevelFormat.Proofs.Wire.Locality

/-!
Streams one after another.

Objects are decoded by what their own bytes say (`Entity.local_decodeInferred`), so whatever follows
a stream is decoded as it would be alone, only its faults stand further behind. Main statement:
`decode_append`.
-/

namespace LevelFormat.Object

open LevelFormat.Wire (Cursor Decoder Layout Options Packing)

/-! ### No word is refused with a fault that has a place -/

@[simp]
theorem Color.placeless : Color.layout.Placeless := Packing.placeless_total _ _ _

@[simp]
theorem Hsv.placeless : Hsv.layout.Placeless := by
  have checks : Hsv.checks.Placeless := Packing.placeless_total _ _ _
  simp [layout, checks]

theorem Base.placeless : Base.layout.Placeless := by
  have z : zPacking.Placeless := Packing.placeless_of_accepts unpack_zPacking
  simp [layout, Layout.Placeless, z]

theorem TriggerKind.placeless (kind : TriggerKind) : kind.actionLayout.Placeless := by
  cases kind with
  | plain => trivial
  | _ =>
      simp [actionLayout, ColorChange.layout, Pulse.layout, Move.layout, Spawn.layout, Stop.layout,
        Rotate.layout, Follow.layout, Shake.layout, Animate.layout, Touch.layout, Count.layout,
        InstantCount.layout, Pickup.layout, FollowPlayerY.layout, OnDeath.layout, Collision.layout,
        Curve.layout, GroupPair.layout]

theorem Kind.placeless (kind : Kind) : kind.payloadLayout.Placeless := by
  cases kind with
  | object => trivial
  | text => trivial
  | trigger action => simp [payloadLayout, Triggered.layout, action.placeless]
  | _ =>
      simp [payloadLayout, Teleport.layout, Playback.layout, CollisionBlock.layout,
        PickupItem.layout]

theorem Record.placeless (kind : Kind) : (Record.layout kind).Placeless := by
  rw [layout, Layout.placeless_record, Layout.placeless_pair]
  exact ⟨Base.placeless, kind.placeless⟩

theorem Record.local_read (kind : Kind) (options : Options) :
    ((Record.layout kind).read options).Local :=
  Layout.local_read (Record.placeless kind) options

theorem Entity.local_decodeInferred (options : Options) :
    (Entity.decodeInferred options).Local :=
  (Decoder.local_peek 2).bind fun _ =>
    (Record.local_read _ options).bind fun _ => Decoder.local_pure _

/-! ### Streams -/

namespace Stream

variable {options : Options} {cursor : Cursor} {more : List UInt8}
  {segments : List (List UInt8)} {entities : List Entity}

def shift (distance : Nat) (stream : Stream) : Stream :=
  { stream with cursor := stream.cursor.shift distance }

theorem next?_shift (distance : Nat) (stream : Stream) :
    (stream.shift distance).next? = stream.next?.map fun (item, rest) =>
      (item.mapError (Fault.shift distance), rest.shift distance) := by
  have outcome := (Entity.local_decodeInferred stream.options).shift distance stream.cursor
  have same : ((stream.shift distance).failed || (stream.shift distance).cursor.isEmpty) =
    (stream.failed || stream.cursor.isEmpty) := rfl
  unfold next?
  rw [same]
  by_cases ended : (stream.failed || stream.cursor.isEmpty) = true
  · rw [if_pos ended, if_pos ended]
    rfl
  · rw [if_neg ended, if_neg ended]
    simp only [shift, outcome]
    cases Entity.decodeInferred stream.options stream.cursor with
    | ok entity cursor => rfl
    | error fault cursor => rfl

theorem toList_shift (distance : Nat) (stream : Stream) :
    (stream.shift distance).toList = stream.toList.mapError (Fault.shift distance) := by
  induction left : stream.cursor.remaining using Nat.strongRecOn generalizing stream with
  | ind left ih =>
      have shifted := stream.next?_shift distance
      match delivered : stream.next? with
      | none =>
        rw [delivered] at shifted
        rw [toList_of_none delivered, toList_of_none shifted]
        rfl
      | some (.error fault, rest) =>
        rw [delivered] at shifted
        rw [toList_of_error delivered, toList_of_error shifted]
        rfl
      | some (.ok entity, rest) =>
        rw [delivered] at shifted
        have shorter := remaining_lt_of_next? delivered
        rw [toList_of_ok delivered, toList_of_ok shifted, ih _ (by omega) rest rfl]
        cases rest.toList with
        | ok others => rfl
        | error fault => rfl

/-- Behind the segments of some objects a stream goes on as if it began there. -/
theorem toList_append (rests : cursor.rest = segments.flatten ++ more)
    (forms : List.Forall₂ (Entity.Means options) segments entities) :
    (Stream.mk options cursor false).toList =
      (Stream.mk options (cursor.advance segments.flatten.length) false).toList.map
        (entities ++ ·) := by
  induction forms generalizing cursor with
  | nil =>
      rw [List.flatten_nil, List.length_nil, Cursor.advance_zero]
      cases (Stream.mk options cursor false).toList with
      | ok others => rfl
      | error fault => rfl
  | @cons found entity segments entities means forms ih =>
      rw [List.flatten_cons, List.append_assoc] at rests
      let next : Cursor := ⟨cursor.position + found.length, segments.flatten ++ more⟩
      have spans : cursor.Spans found next := ⟨rests, rfl⟩
      rw [toList_of_ok (next?_eq_ok_iff.mpr ⟨found, next, spans, means, rfl⟩), ih rfl,
        spans.eq_advance, Cursor.advance_advance, List.flatten_cons, List.length_append]
      cases (Stream.mk options _ false).toList with
      | ok others => rfl
      | error fault => rfl

end Stream

theorem decodeAll_append {options : Options} {first : List UInt8} {entities : List Entity}
    (decoded : decodeAll options first = .ok entities) (second : List UInt8) :
    decodeAll options (first ++ second) =
      ((decodeAll options second).mapError (Fault.shift first.length)).map (entities ++ ·) := by
  obtain ⟨segments, rfl, forms⟩ := (decodeAll_ok_iff options first entities).mp decoded
  rw [decodeAll, Stream.start, Stream.toList_append rfl forms]
  have moved : (Cursor.start (segments.flatten ++ second)).advance segments.flatten.length =
      (Cursor.start second).shift segments.flatten.length := by
    simp only [Cursor.advance, Cursor.start, Cursor.shift, List.drop_left]
  rw [moved]
  exact congrArg (Except.map _) (Stream.toList_shift _ (.start options second))

/-- Behind a stream that is decoded, another one is decoded as it would be alone, only its faults
stand that much further behind. Nothing but an end may follow an object by itself. -/
theorem decode_append (options : Options) :
    (∀ first second entities, decodeAll options first = .ok entities →
      (∀ others, decodeAll options second = .ok others →
        decodeAll options (first ++ second) = .ok (entities ++ others)) ∧
      (∀ fault, decodeAll options second = .error fault →
        decodeAll options (first ++ second) = .error (fault.shift first.length))) ∧
    ∀ kind bytes extra record, extra ≠ [] →
      (Record.layout kind).decode options bytes = .ok record →
        (Record.layout kind).decode options (bytes ++ extra) =
          .error (.trailingBytes extra.length) := by
  refine ⟨fun first second entities decoded => ?_, fun kind bytes extra record more decoded => ?_⟩
  · rw [decodeAll_append decoded second]
    constructor
    · intro others second
      rw [second]
      rfl
    · intro fault second
      rw [second]
      rfl
  · exact (Record.local_read kind options).run_append decoded more

theorem decode_append_listedTwice :
    decodeAll ⟨.little, .utf8⟩ (listedTwice ++ listedTwice) = .ok [listedOnce, listedOnce] ∧
      decodeAll ⟨.little, .utf8⟩ (listedTwice ++ [1]) = .error (.truncated 59 2 1) ∧
      (Record.layout .object).decode ⟨.little, .utf8⟩ (listedTwice ++ [1]) =
        .error (.trailingBytes 1) := by
  obtain ⟨behind, alone⟩ := decode_append ⟨.little, .utf8⟩
  obtain ⟨others, failed⟩ := behind listedTwice listedTwice _ decodeAll_listedTwice
  have truncated : decodeAll ⟨.little, .utf8⟩ [1] = .error (.truncated 0 2 1) :=
    Stream.toList_of_error rfl
  exact ⟨others _ decodeAll_listedTwice,
    (behind listedTwice [1] _ decodeAll_listedTwice).2 _ truncated,
    alone .object listedTwice [1] listedOnce.record (by decide) rfl⟩

end LevelFormat.Object
