import LevelFormat.Proofs.Object.RoundTrip

/-!
Objects that were read and are written again.

Main statement: `encodeAll_of_decodeAll`. The only bytes that get lost are those of groups that are
listed more than once.
-/

namespace LevelFormat.Object

open LevelFormat.Text (Charset)
open LevelFormat.Wire (Emission IdSet Layout Options Order Word)

theorem Kind.listsIds_payloadLayout (kind : Kind) : kind.payloadLayout.listsIds = false := by
  cases kind with
  | trigger action => cases action <;> rfl
  | _ => rfl

theorem Base.emit_of_means {order : Order} {found : List UInt8} {base : Base}
    (means : Base.layout.Means ⟨order, .utf8⟩ found base) :
    ∃ written, Base.layout.emit ⟨order, .utf8⟩ base = .ofBytes written ∧
      written.length ≤ found.length ∧
      (written.length = found.length ↔ (listedGroups order found).Nodup) := by
  obtain ⟨written, emitted, short, -⟩ := Layout.emit_of_means means
  refine ⟨written, emitted, short, ?_⟩
  obtain ⟨foundLength, groups⟩ := length_of_means means
  have small : (IdSet.ofList (listedGroups order found)).size ≤ Wire.maxCount16 :=
    Nat.le_trans (IdSet.size_ofList_le _) (length_listedGroups_le order found)
  have writtenLength := length_of_emit emitted
  rw [groups, IdSet.smallest_of_size_le small] at writtenLength
  rw [← IdSet.size_ofList_eq_length_iff, writtenLength, foundLength]
  dsimp only
  omega

namespace Entity

variable {order : Order} {found : List UInt8} {entity : Entity}

theorem Means.listedGroups_append (means : Entity.Means ⟨order, .utf8⟩ found entity)
    (rest : List UInt8) :
    Base.listedGroups order (found ++ rest) = Base.listedGroups order found := by
  obtain ⟨⟨front, back, rfl, baseMeans, -⟩, -⟩ := means
  rw [List.append_assoc, Base.listedGroups_append baseMeans, Base.listedGroups_append baseMeans]

theorem Means.settle_eq {options : Options} (means : Entity.Means options found entity) :
    entity.settle = entity := by
  rw [← settle_layout, Layout.settle_of_means means.1]

theorem Means.emit (means : Entity.Means ⟨order, .utf8⟩ found entity) :
    ∃ written, entity.emit ⟨order, .utf8⟩ = .ofBytes written ∧
      Entity.Means ⟨order, .utf8⟩ written entity ∧ written.length ≤ found.length ∧
      (written.length = found.length ↔ (Base.listedGroups order found).Nodup) := by
  obtain ⟨⟨front, back, rfl, baseMeans, payloadMeans⟩, inferred⟩ := id means
  obtain ⟨frontWritten, baseEmitted, baseShort, baseSame⟩ := Base.emit_of_means baseMeans
  obtain ⟨backWritten, payloadEmitted, -, payloadSame⟩ := Layout.emit_of_means payloadMeans
  have same := payloadSame (Kind.listsIds_payloadLayout entity.kind)
  have emitted : entity.emit ⟨order, .utf8⟩ = .ofBytes (frontWritten ++ backWritten) := by
    refine (emit_eq_ofBytes_iff _ _ _).mpr ⟨inferred, ?_⟩
    exact (Emission.append_eq_ofBytes_iff _ _ _).mpr
      ⟨frontWritten, backWritten, rfl, baseEmitted, payloadEmitted⟩
  have again := means_of_emit Charset.faithful_utf8 emitted
  rw [means.settle_eq] at again
  refine ⟨frontWritten ++ backWritten, emitted, again, ?_, ?_⟩
  · rw [List.length_append, List.length_append]
    omega
  · rw [Base.listedGroups_append baseMeans, ← baseSame, List.length_append, List.length_append]
    omega

end Entity

theorem inferred_of_segments {options : Options} {segments : List (List UInt8)}
    {entities : List Entity} (forms : List.Forall₂ (Entity.Means options) segments entities) :
    ∀ entity ∈ entities, Kind.infer entity.base.id = entity.kind := by
  induction forms with
  | nil => simp
  | cons means _ ih => exact List.forall_mem_cons.mpr ⟨means.2, ih⟩

theorem emit_of_segments {order : Order} {segments : List (List UInt8)} {entities : List Entity}
    (forms : List.Forall₂ (Entity.Means ⟨order, .utf8⟩) segments entities) :
    ∃ written : List (List UInt8),
      List.Forall₂ (fun segment entity => entity.emit ⟨order, .utf8⟩ = .ofBytes segment) written
        entities ∧
      List.Forall₂ (Entity.Means ⟨order, .utf8⟩) written entities ∧
      written.flatten.length ≤ segments.flatten.length ∧
      (written.flatten.length = segments.flatten.length ↔
        ∀ segment ∈ segments, (Base.listedGroups order segment).Nodup) := by
  induction forms with
  | nil => exact ⟨[], .nil, .nil, Nat.le_refl _, by simp⟩
  | @cons segment entity segments entities means _ ih =>
      obtain ⟨first, emitted, firstMeans, firstShort, firstSame⟩ := means.emit
      obtain ⟨written, others, othersMean, short, same⟩ := ih
      refine ⟨first :: written, .cons emitted others, .cons firstMeans othersMean, ?_, ?_⟩
      · simp only [List.flatten_cons, List.length_append]
        omega
      · rw [List.forall_mem_cons, ← firstSame, ← same]
        simp only [List.flatten_cons, List.length_append]
        omega

/-- Whatever bytes objects were read from, the objects can be written again, and then they are read
back unchanged. The bytes get fewer exactly where an object lists a group more than once. -/
theorem encodeAll_of_decodeAll {order : Order} {bytes : List UInt8} {entities : List Entity}
    (decoded : decodeAll ⟨order, .utf8⟩ bytes = .ok entities) :
    (∀ entity ∈ entities, Kind.infer entity.base.id = entity.kind) ∧
      ∃ written, encodeAll ⟨order, .utf8⟩ entities = .ok written ∧
        decodeAll ⟨order, .utf8⟩ written = .ok entities ∧ written.length ≤ bytes.length ∧
        (written.length = bytes.length ↔
          ∀ opening ∈ (Stream.start ⟨order, .utf8⟩ bytes).openings,
            (Base.listedGroups order opening.rest).Nodup) := by
  obtain ⟨segments, whole, forms⟩ := (decodeAll_ok_iff _ bytes entities).mp decoded
  obtain ⟨written, emitted, again, short, same⟩ := emit_of_segments forms
  have repeated := @Stream.forall_openings_iff _ (.start bytes) _ _ whole forms
    (fun found => (Base.listedGroups order found).Nodup)
    (fun found entity means later => by rw [means.listedGroups_append])
  refine ⟨inferred_of_segments forms, written.flatten,
    (encodeAll_ok_iff _ _ _).mpr ⟨written, rfl, emitted⟩,
    (decodeAll_ok_iff _ _ _).mpr ⟨written, rfl, again⟩, ?_, ?_⟩
  · rw [whole]
    exact short
  · rw [Stream.start, repeated, ← same, whole]

def listedTwice : List UInt8 :=
  [1, 0] ++ List.replicate 49 0 ++ [2, 0] ++ [7, 0] ++ [7, 0] ++ [0, 0]

def listedOnce : Entity :=
  ⟨.object,
    { Base.ofId 1 with
      scale := .zero
      flags := .ofBits 0xFF 0
      mainHsv := .unchecked 0 .zero .zero
      detailHsv := .unchecked 0 .zero .zero
      groups := .ofList [7, 7] }, ()⟩

theorem next?_listedTwice : (Stream.start ⟨.little, .utf8⟩ listedTwice).next? =
    some (.ok listedOnce, ⟨⟨.little, .utf8⟩, ⟨59, []⟩, false⟩) := rfl

theorem decodeAll_listedTwice : decodeAll ⟨.little, .utf8⟩ listedTwice = .ok [listedOnce] := by
  rw [decodeAll, Stream.toList_eq_cons_iff]
  refine ⟨_, next?_listedTwice, ?_⟩
  rw [Stream.toList_eq_nil_iff]
  rfl

theorem encodeAll_of_decodeAll_listedTwice :
    ∃ written, encodeAll ⟨.little, .utf8⟩ [listedOnce] = .ok written ∧
      decodeAll ⟨.little, .utf8⟩ written = .ok [listedOnce] ∧
      written.length < listedTwice.length := by
  obtain ⟨-, written, encoded, decoded, short, same⟩ :=
    encodeAll_of_decodeAll decodeAll_listedTwice
  refine ⟨written, encoded, decoded, Nat.lt_of_le_of_ne short ?_⟩
  rw [same, Stream.openings_of_ok next?_listedTwice, List.forall_mem_cons]
  rintro ⟨unique, -⟩
  revert unique
  decide

end LevelFormat.Object
