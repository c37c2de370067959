import LevelFormat.Proofs.Object.Outcome

/-!
What objects of all kinds have in common.

An object is read as its base record and then its payload, and written likewise
(`Entity.decode_ok_iff`, `Entity.encode_eq_ok_iff`). Neither half looks at the other, so the base
record can be read without knowing the kind, and exchanged without a change to the bytes behind it.
Main statement: `Entity.base_shared`.
-/

namespace LevelFormat.Wire.Layout

variable {α β : Type} {options : Options} {cursor next : Cursor}

theorem read_pair_ok_iff {first : Layout α} {second : Layout β} {value : α × β} :
    (pair first second).read options cursor = .ok value next ↔
      ∃ middle, first.read options cursor = .ok value.1 middle ∧
        second.read options middle = .ok value.2 next := by
  simp only [read, Decoder.bind_ok_iff]
  constructor
  · rintro ⟨left, middle, front, right, finish, back, rest⟩
    cases rest
    exact ⟨middle, front, back⟩
  · rintro ⟨middle, front, back⟩
    exact ⟨_, middle, front, _, next, back, rfl⟩

theorem read_record_ok_iff {parts : Parts β α} {layout : Layout α} {value : β} :
    (record parts layout).read options cursor = .ok value next ↔
      layout.read options cursor = .ok (parts.split value) next := by
  simp only [read, Decoder.bind_ok_iff]
  constructor
  · rintro ⟨inner, middle, found, rest⟩
    cases rest
    rwa [parts.split_build]
  · intro found
    exact ⟨_, next, found, congrArg (EStateM.Result.ok · next) (parts.build_split value)⟩

end LevelFormat.Wire.Layout

namespace LevelFormat.Object

open LevelFormat.Wire (Cursor Decoder Emission Layout Options)

namespace Record

variable {options : Options} {cursor next : Cursor}

theorem read_ok_iff {kind : Kind} {record : Record kind} :
    (layout kind).read options cursor = .ok record next ↔
      ∃ middle, Base.layout.read options cursor = .ok record.base middle ∧
        kind.payloadLayout.read options middle = .ok record.payload next := by
  rw [layout, Layout.read_record_ok_iff]
  exact Layout.read_pair_ok_iff

/-- What a trigger begins with is read alike by triggers of all actions. -/
theorem read_header {action : TriggerKind} {record : Record (.trigger action)}
    (decoded : (layout (.trigger action)).read options cursor = .ok record next) :
    ∃ middle, (layout (.trigger .plain)).read options cursor =
      .ok ⟨record.base, { flags := record.payload.flags, action := () }⟩ middle := by
  obtain ⟨behind, base, payload⟩ := read_ok_iff.mp decoded
  obtain ⟨middle, flags, -⟩ := Layout.read_pair_ok_iff.mp (Layout.read_record_ok_iff.mp payload)
  refine ⟨middle, read_ok_iff.mpr ⟨behind, base, Layout.read_record_ok_iff.mpr ?_⟩⟩
  exact Layout.read_pair_ok_iff.mpr ⟨middle, flags, rfl⟩

end Record

namespace Entity

variable {options : Options} {cursor next : Cursor} {entity : Entity}

theorem decode_ok_iff {kind : Kind} :
    decode kind options cursor = .ok entity next ↔
      ∃ record, (Record.layout kind).read options cursor = .ok record next ∧
        entity = ⟨kind, record⟩ := by
  rw [decode, Decoder.bind_ok_iff]
  constructor
  · rintro ⟨record, middle, found, rest⟩
    cases rest
    exact ⟨record, found, rfl⟩
  · rintro ⟨record, found, rfl⟩
    exact ⟨record, next, found, rfl⟩

theorem encode_eq_ok_iff {bytes : List UInt8} :
    entity.encode options = .ok bytes ↔
      Kind.infer entity.base.id = entity.kind ∧ ∃ front tail, bytes = front ++ tail ∧
        Base.layout.encode options entity.base = .ok front ∧
        entity.kind.payloadLayout.encode options entity.record.payload = .ok tail := by
  simp only [encode, Layout.encode_eq_ok_iff, Emission.toExcept_eq_ok_iff,
    ← Emission.append_eq_ofBytes_iff]
  rw [emit_eq_ofBytes_iff]
  rfl

/-- All kinds share one base record, and what is behind it does not depend on it. Where an object of
a kind can be read, so can its base record, and the header of a trigger. The bytes of an object are
those of its base record and a tail, which stays if the base record is replaced by one whose id
belongs to the same kind. -/
theorem base_shared (options : Options) :
    (∀ kind cursor entity next, decode kind options cursor = .ok entity next →
      (∃ middle, Base.layout.read options cursor = .ok entity.base middle ∧
        entity.kind.payloadLayout.read options middle = .ok entity.record.payload next) ∧
      (kind.isTrigger → ∃ header middle, entity.trigger? = some header ∧
        (Record.layout (.trigger .plain)).read options cursor = .ok header middle)) ∧
    ∀ (entity : Entity) bytes, entity.encode options = .ok bytes →
      ∃ front tail, bytes = front ++ tail ∧ Base.layout.encode options entity.base = .ok front ∧
        entity.kind.payloadLayout.encode options entity.record.payload = .ok tail ∧
        ∀ base, Kind.infer base.id = entity.kind → ∃ other,
          Base.layout.encode options base = .ok other ∧
            (entity.withBase base).encode options = .ok (other ++ tail) := by
  constructor
  · intro kind cursor entity next decoded
    obtain ⟨record, found, rfl⟩ := decode_ok_iff.mp decoded
    refine ⟨Record.read_ok_iff.mp found, fun trigger => ?_⟩
    cases kind with
    | trigger action =>
        obtain ⟨middle, header⟩ := Record.read_header found
        exact ⟨_, middle, rfl, header⟩
    | _ => cases trigger
  · intro entity bytes encoded
    obtain ⟨-, front, tail, rfl, written, behind⟩ := encode_eq_ok_iff.mp encoded
    refine ⟨front, tail, rfl, written, behind, fun base own => ?_⟩
    obtain ⟨other, otherWritten⟩ := Base.exists_encode options base
    exact ⟨other, otherWritten, encode_eq_ok_iff.mpr ⟨own, other, tail, rfl, otherWritten, behind⟩⟩

def stopInTwoGroups : List UInt8 :=
  [0x50, 6] ++ List.replicate 49 0 ++ [2, 0, 7, 0, 9, 0, 0, 0] ++ [2, 5, 0]

theorem base_shared_stopInTwoGroups :
    (∃ entity next header middle, decode (.trigger .stop) ⟨.little, .utf8⟩
        (.start stopInTwoGroups) = .ok entity next ∧ entity.trigger? = some header ∧
      (Record.layout (.trigger .plain)).read ⟨.little, .utf8⟩ (.start stopInTwoGroups) =
        .ok header middle) ∧
    ∃ front other, (new (.trigger .stop)).encode ⟨.little, .utf8⟩ = .ok (front ++ [0, 0, 0]) ∧
      ((new (.trigger .stop)).withBase { Base.ofId 1616 with groups := .ofList [7, 9] }).encode
        ⟨.little, .utf8⟩ = .ok (other ++ [0, 0, 0]) := by
  obtain ⟨reading, writing⟩ := base_shared ⟨.little, .utf8⟩
  constructor
  · have accepted : ∃ entity next, decode (.trigger .stop) ⟨.little, .utf8⟩
        (.start stopInTwoGroups) = .ok entity next := ⟨_, _, rfl⟩
    obtain ⟨entity, next, decoded⟩ := accepted
    obtain ⟨header, middle, found, read⟩ := (reading _ _ _ _ decoded).2 rfl
    exact ⟨entity, next, header, middle, decoded, found, read⟩
  · obtain ⟨front, written⟩ := Base.exists_encode ⟨.little, .utf8⟩ (.ofId 1616)
    have encoded : (new (.trigger .stop)).encode ⟨.little, .utf8⟩ = .ok (front ++ [0, 0, 0]) :=
      encode_eq_ok_iff.mpr ⟨by decide, front, [0, 0, 0], rfl, written, rfl⟩
    obtain ⟨_, _, -, -, behind, replaced⟩ := writing _ _ encoded
    obtain ⟨other, -, whole⟩ := replaced { Base.ofId 1616 with groups := .ofList [7, 9] } (by decide)
    cases behind
    exact ⟨front, other, encoded, whole⟩

end Entity

end LevelFormat.Object
