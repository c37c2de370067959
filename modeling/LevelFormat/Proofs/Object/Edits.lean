import LevelFormat.Object.Edit
import LevelFormat.Proofs.Bits.Flags
import Mathlib.Logic.Function.Iterate

/-!
What scripts of edits do to an object.

An edit leaves all parts of the base record alone but one (`Edit.of_apply_of_ne`), and what it makes
of that part depends on nothing else (`Edit.of_apply_congr`). So every part comes out of a script as
the edits of that part alone would leave it, and edits of two parts can change places. Within the
groups and the flags the last edit that names a group or a flag decides. Main statement:
`Entity.edit_by_part`.
-/

namespace LevelFormat.Object

open LevelFormat.Bits (FlagByte IsSingle)
open LevelFormat.Number (Binary32)
open LevelFormat.Wire (IdSet)

inductive Part where
  | groups | flags | position | rotation | scale
  deriving DecidableEq

namespace Part

abbrev Value : Part → Type
  | groups => IdSet
  | flags => FlagByte 0xFF
  | position => Binary32 × Binary32
  | rotation => Binary32
  | scale => Binary32

def of : (part : Part) → Base → part.Value
  | groups, base => base.groups
  | flags, base => base.flags
  | position, base => (base.x, base.y)
  | rotation, base => base.rotation
  | scale, base => base.scale

end Part

namespace Edit

def part : Edit → Part
  | addGroups _ | removeGroups _ => .groups
  | assignFlags _ _ | flipHorizontally | flipVertically => .flags
  | moveBy _ _ | moveTo _ _ => .position
  | rotate _ => .rotation
  | scaleBy _ | scaleTo _ => .scale

def mentions (id : UInt16) : Edit → Bool
  | addGroups ids | removeGroups ids => ids.contains id
  | _ => false

def assigns (flag : UInt8) : Edit → Bool
  | assignFlags bits _ => bits &&& flag == flag
  | _ => false

def flips (flag : UInt8) : Edit → Bool
  | flipHorizontally => flag == Base.flippedHorizontally
  | flipVertically => flag == Base.flippedVertically
  | _ => false

variable {edit first second : Edit} {part : Part} {base : Base}

theorem of_apply_of_ne (other : edit.part ≠ part) (base : Base) :
    part.of (edit.apply base) = part.of base := by
  cases part with
  | groups =>
      cases edit with
      | addGroups | removeGroups => exact absurd rfl other
      | _ => rfl
  | flags =>
      cases edit with
      | assignFlags | flipHorizontally | flipVertically => exact absurd rfl other
      | _ => rfl
  | position =>
      cases edit with
      | moveBy | moveTo => exact absurd rfl other
      | _ => rfl
  | rotation =>
      cases edit with
      | rotate => exact absurd rfl other
      | _ => rfl
  | scale =>
      cases edit with
      | scaleBy | scaleTo => exact absurd rfl other
      | _ => rfl

theorem of_apply_congr (edit : Edit) {left right : Base} (same : part.of left = part.of right) :
    part.of (edit.apply left) = part.of (edit.apply right) := by
  cases part with
  | groups =>
      cases edit with
      | addGroups ids => exact congrArg (·.insertAll ids) same
      | removeGroups ids => exact congrArg (·.eraseAll ids) same
      | _ => exact same
  | flags =>
      cases edit with
      | assignFlags bits value => exact congrArg (·.assign bits value) same
      | flipHorizontally => exact congrArg (·.toggle Base.flippedHorizontally) same
      | flipVertically => exact congrArg (·.toggle Base.flippedVertically) same
      | _ => exact same
  | position =>
      cases edit with
      | moveBy x y =>
          obtain ⟨sameX, sameY⟩ : left.x = right.x ∧ left.y = right.y := Prod.mk.inj same
          change (left.x + x, left.y + y) = (right.x + x, right.y + y)
          rw [sameX, sameY]
      | moveTo => rfl
      | _ => exact same
  | rotation =>
      cases edit with
      | rotate angle =>
          change left.rotation = right.rotation at same
          change left.rotation + angle = right.rotation + angle
          rw [same]
      | _ => exact same
  | scale =>
      cases edit with
      | scaleBy factor =>
          change left.scale = right.scale at same
          change left.scale * factor = right.scale * factor
          rw [same]
      | scaleTo => rfl
      | _ => exact same

theorem mem_groups_apply {id : UInt16} (unmentioned : edit.mentions id = false) (base : Base) :
    id ∈ (edit.apply base).groups ↔ id ∈ base.groups := by
  cases edit with
  | addGroups ids =>
      have absent : id ∉ ids := by simpa [mentions] using unmentioned
      exact (IdSet.mem_insertAll _ _ _).trans (or_iff_left absent)
  | removeGroups ids =>
      have absent : id ∉ ids := by simpa [mentions] using unmentioned
      exact (IdSet.mem_eraseAll _ _ _).trans (and_iff_left absent)
  | _ => exact Iff.rfl

end Edit

namespace Base

theorem single_of_mem_flagBits :
    ∀ flag ∈ flagBits, IsSingle flag ∧ (0xFF : UInt8) &&& flag = flag := by
  unfold IsSingle flagBits
  simp only [List.forall_mem_cons, List.not_mem_nil, false_implies, implies_true]
  decide

theorem flipped_covers :
    ∀ flag ∈ flagBits, (flippedHorizontally &&& flag == flag) = (flag == flippedHorizontally) ∧
      (flippedVertically &&& flag == flag) = (flag == flippedVertically) := by
  unfold flagBits
  simp only [List.forall_mem_cons, List.not_mem_nil, false_implies, implies_true]
  decide

variable {flag : UInt8}

theorem contains_assign (member : flag ∈ flagBits) (flags : FlagByte 0xFF) (bits : UInt8)
    (value : Bool) :
    (flags.assign bits value).contains flag =
      if bits &&& flag == flag then value else flags.contains flag := by
  obtain ⟨single, known⟩ := single_of_mem_flagBits flag member
  exact FlagByte.contains_assign single known flags bits value

theorem contains_toggle (member : flag ∈ flagBits) (flags : FlagByte 0xFF) (bits : UInt8) :
    (flags.toggle bits).contains flag = (flags.contains flag ^^ (bits &&& flag == flag)) := by
  obtain ⟨single, known⟩ := single_of_mem_flagBits flag member
  exact FlagByte.contains_toggle single known flags bits

end Base

/-- A flag that is given no value is turned around or stays. -/
theorem Edit.contains_apply {edit : Edit} {flag : UInt8} (member : flag ∈ Base.flagBits)
    (unassigned : edit.assigns flag = false) (base : Base) :
    (edit.apply base).flags.contains flag = (base.flags.contains flag ^^ edit.flips flag) := by
  obtain ⟨horizontal, vertical⟩ := Base.flipped_covers flag member
  cases edit with
  | assignFlags bits value =>
      have uncovered : (bits &&& flag == flag) = false := unassigned
      rw [apply, Base.contains_assign member, uncovered, if_neg Bool.false_ne_true]
      exact (Bool.xor_false _).symm
  | flipHorizontally => rw [apply, Base.contains_toggle member, horizontal, flips]
  | flipVertically => rw [apply, Base.contains_toggle member, vertical, flips]
  | _ => exact (Bool.xor_false _).symm

/-! ### Scripts -/

/-- Either some item of a list is the last one with a property, or none has it. -/
theorem last_or_none {α : Type} (property : α → Bool) (items : List α) :
    (∃ before item after, items = before ++ item :: after ∧ property item = true ∧
      ∀ later ∈ after, property later = false) ∨ ∀ item ∈ items, property item = false := by
  induction items with
  | nil => exact .inr (by simp)
  | cons first items ih =>
      rcases ih with ⟨before, item, after, rfl, holds, none⟩ | none
      · exact .inl ⟨first :: before, item, after, rfl, holds, none⟩
      · cases here : property first with
        | true => exact .inl ⟨[], first, items, rfl, here, none⟩
        | false => exact .inr (List.forall_mem_cons.mpr ⟨here, none⟩)

/-- The records differ in nothing but parts that can be edited. -/
def Base.Alike (first second : Base) : Prop :=
  ∃ x y rotation scale flags groups,
    second = { first with x, y, rotation, scale, flags, groups }

namespace Base

variable {first second third base : Base} {script : List Edit}

theorem Alike.trans (left : first.Alike second) (right : second.Alike third) :
    first.Alike third := by
  obtain ⟨_, _, _, _, _, _, rfl⟩ := left
  obtain ⟨_, _, _, _, _, _, rfl⟩ := right
  exact ⟨_, _, _, _, _, _, rfl⟩

theorem Alike.symm (alike : first.Alike second) : second.Alike first := by
  obtain ⟨_, _, _, _, _, _, rfl⟩ := alike
  exact ⟨_, _, _, _, _, _, rfl⟩

theorem Alike.eq (alike : first.Alike second) (parts : ∀ part : Part, part.of first = part.of second) :
    first = second := by
  obtain ⟨x, y, rotation, scale, flags, groups, rfl⟩ := alike
  obtain ⟨rfl, rfl⟩ : first.x = x ∧ first.y = y := Prod.mk.inj (parts .position)
  obtain rfl : first.rotation = rotation := parts .rotation
  obtain rfl : first.scale = scale := parts .scale
  obtain rfl : first.flags = flags := parts .flags
  obtain rfl : first.groups = groups := parts .groups
  rfl

theorem alike_apply (edit : Edit) (base : Base) : base.Alike (edit.apply base) := by
  cases edit
  all_goals exact ⟨_, _, _, _, _, _, rfl⟩

theorem edit_cons (base : Base) (edit : Edit) (script : List Edit) :
    base.edit (edit :: script) = (edit.apply base).edit script := rfl

theorem edit_append (base : Base) (front back : List Edit) :
    base.edit (front ++ back) = (base.edit front).edit back :=
  List.foldl_append

theorem alike_edit (base : Base) (script : List Edit) : base.Alike (base.edit script) := by
  induction script generalizing base with
  | nil => exact ⟨_, _, _, _, _, _, rfl⟩
  | cons edit script ih => exact (alike_apply edit base).trans (ih (edit.apply base))

/-- A part comes out of a script as the edits of that part alone would leave it. -/
theorem of_edit (part : Part) (script : List Edit) {left right : Base}
    (same : part.of left = part.of right) :
    part.of (left.edit script) = part.of (right.edit (script.filter (·.part = part))) := by
  induction script generalizing left right with
  | nil => exact same
  | cons edit script ih =>
      by_cases own : edit.part = part
      · rw [List.filter_cons_of_pos (by simpa using own)]
        exact ih (edit.of_apply_congr same)
      · rw [List.filter_cons_of_neg (by simpa using own)]
        exact ih ((Edit.of_apply_of_ne own left).trans same)

theorem mem_groups_edit {id : UInt16} (unmentioned : ∀ edit ∈ script, edit.mentions id = false) :
    id ∈ (base.edit script).groups ↔ id ∈ base.groups := by
  induction script generalizing base with
  | nil => exact Iff.rfl
  | cons edit script ih =>
      rw [List.forall_mem_cons] at unmentioned
      exact (ih unmentioned.2).trans (Edit.mem_groups_apply unmentioned.1 base)

/-- A flag that is given no value is turned around as often as the script says. -/
theorem contains_edit {flag : UInt8} (member : flag ∈ flagBits)
    (unassigned : ∀ edit ∈ script, edit.assigns flag = false) :
    (base.edit script).flags.contains flag =
      not^[script.countP (·.flips flag)] (base.flags.contains flag) := by
  induction script generalizing base with
  | nil => rfl
  | cons edit script ih =>
      rw [List.forall_mem_cons] at unassigned
      rw [edit_cons, ih unassigned.2, Edit.contains_apply member unassigned.1, List.countP_cons]
      cases edit.flips flag with
      | false => simp
      | true => simp

end Base

/-- Edits of two parts can change places. -/
theorem Edit.apply_comm {first second : Edit} (apart : first.part ≠ second.part) (base : Base) :
    second.apply (first.apply base) = first.apply (second.apply base) := by
  have left := (Base.alike_apply first base).trans (Base.alike_apply second _)
  have right := (Base.alike_apply second base).trans (Base.alike_apply first _)
  refine (left.symm.trans right).eq fun part => ?_
  by_cases own : first.part = part
  · have other : second.part ≠ part := fun same => apart (own.trans same.symm)
    rw [of_apply_of_ne other]
    exact first.of_apply_congr (of_apply_of_ne other base).symm
  · rw [of_apply_of_ne own]
    exact second.of_apply_congr (of_apply_of_ne own base)

namespace Base

variable {id : UInt16} {ids : List UInt16} {flag : UInt8} {before after : List Edit}

theorem mem_groups_of_added (base : Base) (added : id ∈ ids)
    (unmentioned : ∀ later ∈ after, later.mentions id = false) :
    id ∈ (base.edit (before ++ .addGroups ids :: after)).groups := by
  rw [edit_append, edit_cons, mem_groups_edit unmentioned]
  exact (IdSet.mem_insertAll _ _ _).mpr (.inr added)

theorem not_mem_groups_of_removed (base : Base) (removed : id ∈ ids)
    (unmentioned : ∀ later ∈ after, later.mentions id = false) :
    id ∉ (base.edit (before ++ .removeGroups ids :: after)).groups := by
  rw [edit_append, edit_cons, mem_groups_edit unmentioned]
  exact fun kept => ((IdSet.mem_eraseAll _ _ _).mp kept).2 removed

/-- The last edit that mentions a group decides whether the object is in it. -/
theorem mem_groups_edit_iff (base : Base) (script : List Edit) (id : UInt16) :
    id ∈ (base.edit script).groups ↔
      (∃ before ids after, script = before ++ .addGroups ids :: after ∧ id ∈ ids ∧
        ∀ later ∈ after, later.mentions id = false) ∨
      (∀ edit ∈ script, edit.mentions id = false) ∧ id ∈ base.groups := by
  constructor
  · intro found
    rcases last_or_none (Edit.mentions id) script with
      ⟨before, edit, after, rfl, mentioned, none⟩ | none
    · cases edit with
      | addGroups ids =>
          have added : id ∈ ids := List.contains_iff_mem.mp mentioned
          exact .inl ⟨before, ids, after, rfl, added, none⟩
      | removeGroups ids =>
          have removed : id ∈ ids := List.contains_iff_mem.mp mentioned
          exact absurd found (not_mem_groups_of_removed base removed none)
      | _ => cases mentioned
    · exact .inr ⟨none, (mem_groups_edit none).mp found⟩
  · rintro (⟨before, ids, after, rfl, added, none⟩ | ⟨none, initial⟩)
    · exact mem_groups_of_added base added none
    · exact (mem_groups_edit none).mpr initial

/-- The last edit that gives a flag a value decides on it, with the turns behind that edit. -/
theorem contains_edit_cases (base : Base) (script : List Edit) (member : flag ∈ flagBits) :
    (∃ before bits value after, script = before ++ .assignFlags bits value :: after ∧
      bits &&& flag = flag ∧ (∀ later ∈ after, later.assigns flag = false) ∧
      (base.edit script).flags.contains flag = not^[after.countP (·.flips flag)] value) ∨
    (∀ edit ∈ script, edit.assigns flag = false) ∧
      (base.edit script).flags.contains flag =
        not^[script.countP (·.flips flag)] (base.flags.contains flag) := by
  rcases last_or_none (Edit.assigns flag) script with
    ⟨before, edit, after, rfl, assigned, none⟩ | none
  · cases edit with
    | assignFlags bits value =>
        have covered : (bits &&& flag == flag) = true := assigned
        refine .inl ⟨before, bits, value, after, rfl, beq_iff_eq.mp covered, none, ?_⟩
        rw [edit_append, edit_cons, contains_edit member none, Edit.apply,
          contains_assign member, if_pos covered]
    | _ => cases assigned
  · exact .inr ⟨none, contains_edit member none⟩

end Base

/-- After a script of edits an object is in a group exactly if the last edit that mentions the group
added it, or none does and it was in the group before. A flag has the value that the last edit
naming it gave it, or the one it had before, turned around by every later flip. Kind, payload and
the rest of the base record stay, each part comes out as the edits of that part alone would leave
it, and two edits in a row that are about different parts can change places. Nothing is used of how
numbers are added and multiplied. -/
theorem Entity.edit_by_part (entity : Entity) (script : List Edit) :
    (∀ id, id ∈ (entity.edit script).base.groups ↔
      (∃ before ids after, script = before ++ .addGroups ids :: after ∧ id ∈ ids ∧
        ∀ later ∈ after, later.mentions id = false) ∨
      (∀ edit ∈ script, edit.mentions id = false) ∧ id ∈ entity.base.groups) ∧
    (∀ flag ∈ Base.flagBits,
      (∃ before bits value after, script = before ++ .assignFlags bits value :: after ∧
        bits &&& flag = flag ∧ (∀ later ∈ after, later.assigns flag = false) ∧
        (entity.edit script).base.flags.contains flag =
          not^[after.countP (·.flips flag)] value) ∨
      (∀ edit ∈ script, edit.assigns flag = false) ∧
        (entity.edit script).base.flags.contains flag =
          not^[script.countP (·.flips flag)] (entity.base.flags.contains flag)) ∧
    (∃ x y rotation scale flags groups,
      entity.edit script =
        ⟨entity.kind, { entity.base with x, y, rotation, scale, flags, groups },
          entity.record.payload⟩) ∧
    (∀ part : Part, part.of (entity.edit script).base =
      part.of (entity.base.edit (script.filter (·.part = part)))) ∧
    ∀ before first second after, first.part ≠ second.part →
      entity.edit (before ++ first :: second :: after) =
        entity.edit (before ++ second :: first :: after) := by
  refine ⟨entity.base.mem_groups_edit_iff script, fun flag => entity.base.contains_edit_cases script,
    ?_, fun part => Base.of_edit part script rfl, fun before first second after apart => ?_⟩
  · obtain ⟨x, y, rotation, scale, flags, groups, same⟩ := Base.alike_edit entity.base script
    exact ⟨x, y, rotation, scale, flags, groups, by rw [edit, same]; rfl⟩
  · rw [edit, edit, Base.edit_append, Base.edit_append, Base.edit_cons, Base.edit_cons,
      Edit.apply_comm apart, ← Base.edit_cons, ← Base.edit_cons]

/-- Group 9 is removed and then added again, and the flip behind that can come before it. -/
theorem Entity.edit_by_part_readded :
    9 ∈ ((new .coin).edit
      [.removeGroups [7, 9], .addGroups [9, 5], .flipHorizontally]).base.groups ∧
    (new .coin).edit [.removeGroups [7, 9], .addGroups [9, 5], .flipHorizontally] =
      (new .coin).edit [.removeGroups [7, 9], .flipHorizontally, .addGroups [9, 5]] := by
  obtain ⟨groups, -, -, -, swapped⟩ := edit_by_part (new .coin)
    [.removeGroups [7, 9], .addGroups [9, 5], .flipHorizontally]
  constructor
  · refine (groups 9).mpr (.inl ⟨[.removeGroups [7, 9]], [9, 5], [.flipHorizontally], rfl, ?_, ?_⟩)
    · decide
    · simp [Edit.mentions]
  · exact swapped [.removeGroups [7, 9]] (.addGroups [9, 5]) .flipHorizontally [] (by decide)

end LevelFormat.Object
