import LevelFormat.Proofs.Object.RoundTrip

/-!
What base records lose when they are written.

A base record is written as it settles, and what was written tells what it settles to
(`Base.encode_eq_ok_iff_settle`). Main statement: `Base.encode_eq_encode_iff`, which says field by
field which base records are written the same.
-/

namespace LevelFormat.Object.Base

open LevelFormat.Wire (IdSet Layout Options)

theorem zWord_settleZOrder (layer : ZLayer) (order : Int16) :
    zWord layer (settleZOrder order) = zWord layer order := by
  rw [zWord, zWord, Bits.join, Bits.join, and_zOrderMask_settleZOrder]

theorem emit_settle (options : Options) (base : Base) :
    layout.emit options base.settle = layout.emit options base := by
  rw [settle, ← settleZOrder_eq, ← IdSet.smallest_maxCount16]
  simp only [layout, Layout.emit, parts, zPacking, zWord_settleZOrder, IdSet.smallest_smallest]

theorem exists_encode (options : Options) (base : Base) :
    ∃ written, layout.encode options base = .ok written :=
  ⟨_, rfl⟩

variable {options : Options} {first second : Base} {written : List UInt8}

theorem decode_of_encode (encoded : layout.encode options first = .ok written) :
    layout.decode options written = .ok first.settle :=
  (Layout.decode_eq_ok_iff _ _ _ _).mpr
    (means_of_emit ((Layout.encode_eq_ok_iff _ _ _ _).mp encoded))

theorem encode_eq_ok_iff_settle (encoded : layout.encode options first = .ok written) :
    layout.encode options second = .ok written ↔ first.settle = second.settle := by
  constructor
  · intro same
    exact Except.ok.inj ((decode_of_encode encoded).symm.trans (decode_of_encode same))
  · intro same
    rw [← encoded, Layout.encode, Layout.encode, ← emit_settle, ← same, emit_settle]

theorem settledOrder_eq_iff (first second : Int16) :
    Int16.ofInt (first.toInt % 8192) = Int16.ofInt (second.toInt % 8192) ↔
      first.toInt % 8192 = second.toInt % 8192 := by
  have kept (order : Int16) :
      (Int16.ofInt (order.toInt % 8192)).toInt = order.toInt % 8192 :=
    Int16.toInt_ofInt_of_le (by omega) (by omega)
  rw [← Int16.toInt_inj, kept, kept]

theorem settle_eq_settle_iff (first second : Base) :
    first.settle = second.settle ↔
      second = { first with zOrder := second.zOrder, groups := second.groups } ∧
        first.zOrder.toInt % 8192 = second.zOrder.toInt % 8192 ∧
        first.groups.settle = second.groups.settle := by
  obtain ⟨⟩ := first
  obtain ⟨⟩ := second
  simp only [settle, mk.injEq, settledOrder_eq_iff, eq_comm, true_and]
  tauto

theorem mem_listedGroups_of_encode (encoded : layout.encode options first = .ok written)
    (id : UInt16) : id ∈ listedGroups options.order written ↔ id ∈ first.groups.settle := by
  have means := (Layout.decode_eq_ok_iff _ _ _ _).mp (decode_of_encode encoded)
  obtain ⟨-, groups⟩ := length_of_means means
  rw [← IdSet.mem_ofList, ← groups]
  rfl

/-- A base record lists all its groups, but of all 65536 ids the largest is left out. It is written
the same as another one exactly if they agree in everything but the order within the layer, which
may differ above its low thirteen bits, and the groups, which may differ in the largest id where both
have all the others. -/
theorem encode_eq_encode_iff (options : Options) (first second : Base) :
    ∃ written, layout.encode options first = .ok written ∧
      (∀ id, id ∈ listedGroups options.order written ↔
        id ∈ first.groups ∧ ¬(id = 0xFFFF ∧ first.groups.size = 65536)) ∧
      (layout.encode options second = .ok written ↔
        second = { first with zOrder := second.zOrder, groups := second.groups } ∧
          first.zOrder.toInt % 8192 = second.zOrder.toInt % 8192 ∧
          (first.groups = second.groups ∨
            ∀ id, id ≠ 0xFFFF → id ∈ first.groups ∧ id ∈ second.groups)) := by
  obtain ⟨written, encoded⟩ := exists_encode options first
  refine ⟨written, encoded, fun id => ?_, ?_⟩
  · rw [mem_listedGroups_of_encode encoded, IdSet.mem_settle]
  · rw [encode_eq_ok_iff_settle encoded, settle_eq_settle_iff, IdSet.settle_eq_settle_iff]

def crowded : Base := { ofId 1 with groups := IdSet.every }

def crowdedButLast : Base := { ofId 1 with groups := IdSet.every.eraseAll [0xFFFF] }

theorem encode_crowded :
    ∃ written, layout.encode ⟨.little, .utf8⟩ crowded = .ok written ∧
      layout.encode ⟨.little, .utf8⟩ crowdedButLast = .ok written ∧
      crowded.groups ≠ crowdedButLast.groups ∧
      0xFFFF ∈ crowded.groups ∧ 0xFFFF ∉ listedGroups .little written := by
  obtain ⟨written, encoded⟩ := exists_encode ⟨.little, .utf8⟩ crowded
  have erased (id : UInt16) : id ∈ crowdedButLast.groups ↔ id ≠ 0xFFFF := by
    rw [crowdedButLast, IdSet.mem_eraseAll, List.mem_singleton, and_iff_right (IdSet.mem_every id)]
  have settled : crowded.groups.settle = crowdedButLast.groups.settle :=
    (IdSet.settle_eq_settle_iff _ _).mpr
      (.inr fun id other => ⟨IdSet.mem_every id, (erased id).mpr other⟩)
  have same := (settle_eq_settle_iff crowded crowdedButLast).mpr ⟨rfl, rfl, settled⟩
  refine ⟨written, encoded, (encode_eq_ok_iff_settle encoded).mpr same, ?_,
    IdSet.mem_every 0xFFFF, ?_⟩
  · intro equal
    have last : 0xFFFF ∈ crowdedButLast.groups := equal ▸ IdSet.mem_every 0xFFFF
    exact (erased 0xFFFF).mp last rfl
  · intro listed
    have kept := (mem_listedGroups_of_encode encoded 0xFFFF).mp listed
    exact ((IdSet.mem_settle _ _).mp kept).2 ⟨rfl, IdSet.size_every⟩

end LevelFormat.Object.Base
