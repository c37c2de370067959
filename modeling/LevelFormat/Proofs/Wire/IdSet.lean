import LevelFormat.Wire.Layout
import Mathlib.Data.List.Dedup
import Mathlib.Data.List.Perm.Subperm

/-!
How many ids a set has.

A list with a repeated id has more entries than its set (`size_ofList_eq_length_iff`), and a
two-byte count is too small for one set only, that of all ids (`smallest_maxCount16`). Cut to its
count, that set is taken for the one without the largest id (`settle_eq_settle_iff`).
-/

namespace LevelFormat.Wire.IdSet

theorem nodup_ids (set : IdSet) : set.ids.Nodup :=
  set.ascending.imp fun below => UInt16.ne_of_lt below

theorem size_ofList (ids : List UInt16) : (ofList ids).size = ids.dedup.length := by
  apply List.Perm.length_eq
  rw [List.perm_ext_iff_of_nodup (nodup_ids _) (List.nodup_dedup ids)]
  intro id
  rw [List.mem_dedup]
  exact mem_ofList id ids

theorem size_ofList_le (ids : List UInt16) : (ofList ids).size ≤ ids.length := by
  rw [size_ofList]
  exact (List.dedup_sublist ids).length_le

theorem size_ofList_eq_length_iff (ids : List UInt16) :
    (ofList ids).size = ids.length ↔ ids.Nodup := by
  rw [size_ofList, ← List.dedup_eq_self]
  constructor
  · exact (List.dedup_sublist ids).eq_of_length
  · intro same
    rw [same]

theorem ids_ofList_eq_iff (ids : List UInt16) :
    (ofList ids).ids = ids ↔ ids.Pairwise (· < ·) := by
  constructor
  · intro same
    rw [← same]
    exact (ofList ids).ascending
  · intro ascending
    rw [ofList_ids ⟨ids, ascending⟩]

theorem smallest_of_size_le {set : IdSet} {count : Nat} (small : set.size ≤ count) :
    set.smallest count = set := by
  obtain ⟨ids, ascending⟩ := set
  simp only [smallest, mk.injEq]
  exact List.take_of_length_le small

theorem smallest_smallest (set : IdSet) (count : Nat) :
    (set.smallest count).smallest count = set.smallest count := by
  simp only [smallest, List.take_take, Nat.min_self]

theorem index_le_getElem (set : IdSet) (index : Nat) (inside : index < set.ids.length) :
    index ≤ set.ids[index].toNat := by
  induction index with
  | zero => exact Nat.zero_le _
  | succ index ih =>
      have previous := ih (by omega)
      have below := List.pairwise_iff_getElem.mp set.ascending index (index + 1) (by omega) inside
        (Nat.lt_succ_self index)
      rw [UInt16.lt_iff_toNat_lt] at below
      omega

theorem size_le (set : IdSet) : set.size ≤ 65536 := by
  by_cases small : set.size ≤ 65536
  · exact small
  · have inside : 65536 < set.ids.length := by simpa [size] using small
    have below := set.index_le_getElem 65536 inside
    have bounded := (set.ids[65536]).toNat_lt
    omega

def settle (set : IdSet) : IdSet := if set.size = 65536 then set.eraseAll [0xFFFF] else set

theorem mem_smallest_of_full {set : IdSet} (full : set.ids.length = 65536) (id : UInt16) :
    id ∈ set.smallest maxCount16 ↔ id ∈ set ∧ id ≠ 0xFFFF := by
  simp only [mem_iff, smallest, maxCount16]
  rw [List.mem_take_iff_getElem, List.mem_iff_getElem]
  constructor
  · rintro ⟨index, inside, rfl⟩
    have below := List.pairwise_iff_getElem.mp set.ascending index 65535 (by omega) (by omega)
      (by omega)
    have bounded := (set.ids[65535]).toNat_lt
    rw [UInt16.lt_iff_toNat_lt] at below
    refine ⟨⟨index, by omega, rfl⟩, ?_⟩
    rw [ne_eq, ← UInt16.toNat_inj, show (0xFFFF : UInt16).toNat = 65535 from rfl]
    omega
  · rintro ⟨⟨index, inside, rfl⟩, notLast⟩
    have below := set.index_le_getElem index inside
    have bounded := (set.ids[index]).toNat_lt
    rw [ne_eq, ← UInt16.toNat_inj, show (0xFFFF : UInt16).toNat = 65535 from rfl] at notLast
    exact ⟨index, by omega, rfl⟩

theorem smallest_maxCount16 (set : IdSet) : set.smallest maxCount16 = set.settle := by
  have bounded := set.size_le
  unfold settle
  split
  next full =>
    apply ext
    intro id
    rw [mem_smallest_of_full full, mem_eraseAll, List.mem_singleton]
  next notFull => exact smallest_of_size_le (by simp only [maxCount16]; omega)

def every : IdSet where
  ids := (List.range 65536).map UInt16.ofNat
  ascending := by
    rw [List.pairwise_map]
    refine List.pairwise_lt_range.imp_of_mem ?_
    intro below above _ inside less
    rw [List.mem_range] at inside
    rw [UInt16.lt_iff_toNat_lt, UInt16.toNat_ofNat', UInt16.toNat_ofNat']
    omega

theorem mem_every (id : UInt16) : id ∈ every := by
  rw [mem_iff, every, List.mem_map]
  exact ⟨id.toNat, List.mem_range.mpr id.toNat_lt, UInt16.ofNat_toNat⟩

theorem size_every : every.size = 65536 := by
  rw [size, every, List.length_map, List.length_range]

theorem size_eq_iff (set : IdSet) : set.size = 65536 ↔ ∀ id, id ∈ set := by
  constructor
  · intro full id
    have within : set.ids ⊆ every.ids := fun other _ => mem_every other
    have perm := (List.subperm_of_subset set.nodup_ids within).perm_of_length_le
      (Nat.le_of_eq (size_every.trans full.symm))
    exact perm.mem_iff.mpr (mem_every id)
  · intro whole
    have same : set = every := ext fun id => ⟨fun _ => mem_every id, fun _ => whole id⟩
    rw [same, size_every]

theorem mem_settle (id : UInt16) (set : IdSet) :
    id ∈ set.settle ↔ id ∈ set ∧ ¬(id = 0xFFFF ∧ set.size = 65536) := by
  unfold settle
  split
  next full => rw [mem_eraseAll, List.mem_singleton, and_iff_left full]
  next notFull => rw [and_iff_left fun both => notFull both.2]

theorem mem_settle_of_ne {id : UInt16} (set : IdSet) (other : id ≠ 0xFFFF) :
    id ∈ set.settle ↔ id ∈ set := by
  rw [mem_settle, and_iff_left fun both => other both.1]

theorem mem_settle_of_most {set : IdSet} (most : ∀ id, id ≠ 0xFFFF → id ∈ set) (id : UInt16) :
    id ∈ set.settle ↔ id ≠ 0xFFFF := by
  constructor
  · intro member last
    obtain ⟨largest, notCut⟩ := (mem_settle id set).mp member
    refine notCut ⟨last, (size_eq_iff set).mpr fun other => ?_⟩
    rcases eq_or_ne other id with rfl | different
    · exact largest
    · exact most other (last ▸ different)
  · intro other
    exact (mem_settle_of_ne set other).mpr (most id other)

/-- The only sets that are taken for each other are those that have all ids but the largest. -/
theorem settle_eq_settle_iff (first second : IdSet) :
    first.settle = second.settle ↔
      first = second ∨ ∀ id, id ≠ 0xFFFF → id ∈ first ∧ id ∈ second := by
  constructor
  · intro same
    have members {id : UInt16} (other : id ≠ 0xFFFF) : id ∈ first ↔ id ∈ second := by
      rw [← mem_settle_of_ne first other, same, mem_settle_of_ne second other]
    by_cases firstFull : first.size = 65536
    · have whole := (size_eq_iff first).mp firstFull
      exact .inr fun id other => ⟨whole id, (members other).mp (whole id)⟩
    by_cases secondFull : second.size = 65536
    · have whole := (size_eq_iff second).mp secondFull
      exact .inr fun id other => ⟨(members other).mpr (whole id), whole id⟩
    · rw [settle, settle, if_neg firstFull, if_neg secondFull] at same
      exact .inl same
  · rintro (same | both)
    · rw [same]
    · apply ext
      intro id
      rw [mem_settle_of_most fun id other => (both id other).1,
        mem_settle_of_most fun id other => (both id other).2]

end LevelFormat.Wire.IdSet
