/-!
Finite sets of 16-bit ids, kept as strictly ascending lists.

`IdSet.mem_ofList`, `mem_insertAll` and `mem_eraseAll` describe the operations by membership;
`IdSet.ext` says that members determine the set, so each set has one list.
-/

namespace LevelFormat.Wire

structure IdSet where
  ids : List UInt16
  ascending : ids.Pairwise (· < ·)
  deriving DecidableEq

namespace IdSet

instance : Membership UInt16 IdSet := ⟨fun set id => id ∈ set.ids⟩

instance (id : UInt16) (set : IdSet) : Decidable (id ∈ set) :=
  inferInstanceAs (Decidable (id ∈ set.ids))

theorem mem_iff (id : UInt16) (set : IdSet) : id ∈ set ↔ id ∈ set.ids := Iff.rfl

instance : Inhabited IdSet := ⟨[], .nil⟩

def size (set : IdSet) : Nat := set.ids.length

def prepend (id : UInt16) : List UInt16 → List UInt16
  | [] => [id]
  | next :: rest => if id = next then next :: rest else id :: next :: rest

theorem mem_prepend (id other : UInt16) (ids : List UInt16) :
    other ∈ prepend id ids ↔ other = id ∨ other ∈ ids := by
  cases ids with
  | nil => simp [prepend]
  | cons next rest =>
      by_cases same : id = next
      · simp [prepend, same]
      · simp [prepend, same]

theorem pairwise_prepend (id : UInt16) (ids : List UInt16) (ascending : ids.Pairwise (· < ·))
    (below : ∀ other ∈ ids, id ≤ other) : (prepend id ids).Pairwise (· < ·) := by
  cases ids with
  | nil => simp [prepend]
  | cons next rest =>
      by_cases same : id = next
      · simpa [prepend, same] using ascending
      · have least := below next List.mem_cons_self
        have strict : id < next := UInt16.lt_of_le_of_ne least same
        rw [prepend, if_neg same, List.pairwise_cons]
        refine ⟨?_, ascending⟩
        intro other member
        rcases List.mem_cons.mp member with rfl | later
        · exact strict
        · exact UInt16.lt_trans strict (List.rel_of_pairwise_cons ascending later)

def dedup (ids : List UInt16) : List UInt16 := ids.foldr prepend []

theorem mem_dedup (id : UInt16) (ids : List UInt16) : id ∈ dedup ids ↔ id ∈ ids := by
  induction ids with
  | nil => simp [dedup]
  | cons first rest ih => rw [dedup, List.foldr_cons, mem_prepend, ← dedup, ih, List.mem_cons]

theorem pairwise_dedup (ids : List UInt16) (sorted : ids.Pairwise (· ≤ ·)) :
    (dedup ids).Pairwise (· < ·) := by
  induction ids with
  | nil => exact .nil
  | cons first rest ih =>
      rw [List.pairwise_cons] at sorted
      refine pairwise_prepend first _ (ih sorted.2) ?_
      intro other member
      exact sorted.1 other ((mem_dedup other rest).mp member)

def sort (ids : List UInt16) : List UInt16 := ids.mergeSort fun a b => decide (a ≤ b)

theorem pairwise_sort (ids : List UInt16) : (sort ids).Pairwise (· ≤ ·) := by
  have sorted := @List.pairwise_mergeSort UInt16 (fun a b => decide (a ≤ b))
    (by
      intro a b c first second
      simp only [decide_eq_true_eq] at first second ⊢
      exact UInt16.le_trans first second)
    (by
      intro a b
      simp only [Bool.or_eq_true, decide_eq_true_eq]
      exact UInt16.le_total a b) ids
  simpa [sort] using sorted

def ofList (ids : List UInt16) : IdSet := ⟨dedup (sort ids), pairwise_dedup _ (pairwise_sort ids)⟩

theorem mem_ofList (id : UInt16) (ids : List UInt16) : id ∈ ofList ids ↔ id ∈ ids := by
  rw [mem_iff, ofList, mem_dedup, sort, List.mem_mergeSort]

def insertAll (set : IdSet) (ids : List UInt16) : IdSet := ofList (set.ids ++ ids)

theorem mem_insertAll (id : UInt16) (set : IdSet) (ids : List UInt16) :
    id ∈ set.insertAll ids ↔ id ∈ set ∨ id ∈ ids := by
  rw [insertAll, mem_ofList, List.mem_append, mem_iff]

def eraseAll (set : IdSet) (ids : List UInt16) : IdSet :=
  ⟨set.ids.filter (fun id => !ids.contains id), set.ascending.filter _⟩

theorem mem_eraseAll (id : UInt16) (set : IdSet) (ids : List UInt16) :
    id ∈ set.eraseAll ids ↔ id ∈ set ∧ id ∉ ids := by
  simp [eraseAll, mem_iff]

def smallest (set : IdSet) (count : Nat) : IdSet :=
  ⟨set.ids.take count, set.ascending.sublist (List.take_sublist count set.ids)⟩

theorem ext {first second : IdSet} (same : ∀ id, id ∈ first ↔ id ∈ second) : first = second := by
  obtain ⟨left, leftAscending⟩ := first
  obtain ⟨right, rightAscending⟩ := second
  simp only [mem_iff] at same
  have leftUnique := leftAscending.imp (fun {_ _} below => UInt16.ne_of_lt below)
  have rightUnique := rightAscending.imp (fun {_ _} below => UInt16.ne_of_lt below)
  have perm : left.Perm right := by
    rw [List.perm_iff_count]
    intro id
    rw [List.Nodup.count leftUnique, List.Nodup.count rightUnique]
    simp [same id]
  have equal : left = right :=
    perm.eq_of_pairwise (fun a b _ _ below above => absurd (UInt16.lt_trans below above)
      (UInt16.lt_irrefl a)) leftAscending rightAscending
  subst equal
  rfl

theorem ofList_ids (set : IdSet) : ofList set.ids = set :=
  ext fun id => mem_ofList id set.ids

end IdSet

end LevelFormat.Wire
