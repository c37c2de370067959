import LevelFormat.Proofs.Object.Fields

/-!
Where the trigger flags and the target group of an object lie on the wire.

The payload of an object begins behind its base record, whose length follows from the count of the
groups (`Entity.exists_payload`). A trigger has its flags there, and the first number behind them is
the target group wherever there is one (`TriggerKind.leadsWith_target`). Main statement:
`Entity.capabilities_on_wire`.
-/

namespace LevelFormat.Wire.Layout

/-- The bytes of a value begin with a number that is part of the value. -/
def LeadsWith {α : Type} (layout : Layout α) (number : α → UInt16) : Prop :=
  ∀ options found value, layout.Means options found value →
    2 ≤ found.length ∧ leadingWord options.order found = number value

namespace LeadsWith

variable {α β : Type} {layout : Layout α} {number : α → UInt16}

theorem uint16 : Layout.uint16.LeadsWith id := by
  rintro options found value ⟨length, unpacked⟩
  change found.length = 2 at length
  refine ⟨Nat.le_of_eq length.symm, ?_⟩
  rw [leadingWord, List.take_of_length_le (Nat.le_of_eq length)]
  exact Except.ok.inj unpacked

theorem pair {rest : Layout β} (leads : layout.LeadsWith number) :
    (Layout.pair layout rest).LeadsWith (number ·.1) := by
  rintro options _ value ⟨front, back, rfl, means, -⟩
  obtain ⟨long, found⟩ := leads options front value.1 means
  constructor
  · rw [List.length_append]
    exact Nat.le_add_right_of_le long
  · rw [leadingWord, List.take_append_of_le_length long]
    exact found

theorem record {parts : Parts β α} (leads : layout.LeadsWith number) :
    (Layout.record parts layout).LeadsWith fun value => number (parts.split value) :=
  fun options found value means => leads options found (parts.split value) means

end LeadsWith

end LevelFormat.Wire.Layout

namespace LevelFormat.Object

open LevelFormat.Bits (FlagByte)
open LevelFormat.Wire (Cursor Decoder Layout Options)

theorem GroupPair.leadsWith_target : GroupPair.layout.LeadsWith GroupPair.target :=
  .record (.pair .uint16)

/-- Whatever a trigger does, its target group comes before all else. -/
theorem TriggerKind.leadsWith_target {kind : TriggerKind} (targets : kind.hasTargetGroup) :
    ∃ group : kind.Action → UInt16, kind.actionLayout.LeadsWith group ∧
      ∀ action, kind.targetGroup? action = some (group action) := by
  cases kind with
  | spawn => exact ⟨Spawn.targetGroup, .record (.pair .uint16), fun _ => rfl⟩
  | stop => exact ⟨Stop.targetGroup, .record .uint16, fun _ => rfl⟩
  | rotate => exact ⟨_, .record (.pair GroupPair.leadsWith_target), fun _ => rfl⟩
  | follow => exact ⟨_, .record (.pair GroupPair.leadsWith_target), fun _ => rfl⟩
  | animation => exact ⟨Animate.targetGroup, .record (.pair .uint16), fun _ => rfl⟩
  | touch => exact ⟨Touch.targetGroup, .record (.pair .uint16), fun _ => rfl⟩
  | followPlayerY => exact ⟨FollowPlayerY.targetGroup, .record (.pair .uint16), fun _ => rfl⟩
  | onDeath => exact ⟨OnDeath.targetGroup, .record (.pair .uint16), fun _ => rfl⟩
  | collision => exact ⟨Collision.targetGroup, .record (.pair .uint16), fun _ => rfl⟩
  | _ => cases targets

variable {options : Options}

theorem Triggered.exists_flags {kind : TriggerKind} {found : List UInt8}
    {triggered : Triggered kind} (means : (layout kind).Means options found triggered) :
    ∃ byte behind, found = byte :: behind ∧ triggered.flags.bits = byte &&& 7 ∧
      kind.actionLayout.Means options behind triggered.action := by
  obtain ⟨front, behind, rfl, ⟨length, unpacked⟩, action⟩ := means
  obtain ⟨byte, rfl⟩ := List.length_eq_one_iff.mp length
  rw [Decoder.ofBytes_singleton] at unpacked
  exact ⟨byte, behind, rfl, (congrArg FlagByte.bits (Except.ok.inj unpacked)).symm, action⟩

/-- A target group is behind the flags of a trigger, or behind the first number of a pickup item. -/
theorem Kind.target_of_means {kind : Kind} {found : List UInt8} {payload : kind.Payload}
    {group : UInt16} (means : kind.payloadLayout.Means options found payload)
    (target : kind.targetGroup? payload = some group) :
    ∃ offset, (kind.isTrigger = true ∧ offset = 1 ∨ kind = .pickupItem ∧ offset = 2) ∧
      offset + 2 ≤ found.length ∧ wordAt options.order found offset = group := by
  cases kind with
  | trigger action =>
      obtain ⟨byte, behind, rfl, -, actionMeans⟩ := Triggered.exists_flags means
      have targets : action.hasTargetGroup = true := by
        rw [← action.isSome_targetGroup? payload.action]
        exact Option.isSome_of_eq_some target
      obtain ⟨number, leads, stated⟩ := TriggerKind.leadsWith_target targets
      obtain ⟨long, read⟩ := leads options behind payload.action actionMeans
      refine ⟨1, .inl ⟨rfl, rfl⟩, ?_, ?_⟩
      · rw [List.length_cons]
        omega
      · exact read.trans (Option.some.inj ((stated payload.action).symm.trans target))
  | pickupItem =>
      obtain ⟨item, rest, rfl, ⟨width, -⟩, restMeans⟩ := means
      change item.length = 2 at width
      obtain ⟨long, read⟩ := Layout.LeadsWith.uint16.pair options rest _ restMeans
      refine ⟨2, .inr ⟨rfl, rfl⟩, ?_, ?_⟩
      · rw [List.length_append]
        omega
      · rw [wordAt, List.drop_left' width]
        exact read.trans (Option.some.inj target)
  | _ => cases target

namespace Entity

variable {cursor next : Cursor} {entity : Entity}

/-- Behind the base record, whose length follows from the count of the groups, is the payload. -/
theorem exists_payload (decoded : decodeInferred options cursor = .ok entity next) :
    ∃ front back, cursor.rest = front ++ (back ++ next.rest) ∧
      front.length = 55 + 2 * groupCount options.order cursor.rest ∧
      entity.kind.payloadLayout.Means options back entity.record.payload := by
  obtain ⟨_, ⟨rests, -⟩, ⟨front, back, rfl, base, payload⟩, -⟩ :=
    (accepts_decodeInferred options _ _ _).mp decoded
  rw [List.append_assoc] at rests
  refine ⟨front, back, rests, ?_, payload⟩
  rw [(Base.length_of_means base).1, groupCount, ← Base.length_listedGroups, rests,
    Base.listedGroups_append base]

/-- An object has trigger flags exactly if it is a trigger, and a target group exactly if its kind
has one. Where it was read with a kind inferred from its id, the flags are the low three bits of the
byte behind the base record, and the target group is the number behind that byte, or in a pickup
item the second number behind the base record. -/
theorem capabilities_on_wire (decoded : decodeInferred options cursor = .ok entity next) :
    entity.trigger?.isSome = entity.kind.isTrigger ∧
    (∀ header, entity.trigger? = some header → ∃ byte,
      cursor.rest[55 + 2 * groupCount options.order cursor.rest]? = some byte ∧
        header.payload.flags.bits = byte &&& 7) ∧
    entity.targetGroup?.isSome = entity.kind.hasTargetGroup ∧
    ∀ group, entity.targetGroup? = some group → ∃ offset,
      (entity.kind.isTrigger = true ∧ offset = 56 + 2 * groupCount options.order cursor.rest ∨
        entity.kind = .pickupItem ∧ offset = 57 + 2 * groupCount options.order cursor.rest) ∧
      offset + 2 ≤ cursor.rest.length ∧ wordAt options.order cursor.rest offset = group := by
  obtain ⟨front, back, rests, length, payload⟩ := exists_payload decoded
  refine ⟨entity.isSome_trigger?, ?_, entity.kind.isSome_targetGroup? _, ?_⟩
  · intro header isHeader
    rw [← length, rests, List.getElem?_append_right (Nat.le_refl _), Nat.sub_self]
    obtain ⟨kind, record⟩ := entity
    cases kind with
    | trigger action =>
        obtain ⟨byte, behind, rfl, flags, -⟩ := Triggered.exists_flags payload
        cases isHeader
        exact ⟨byte, rfl, flags⟩
    | _ => cases isHeader
  · intro group target
    obtain ⟨offset, place, inside, read⟩ := Kind.target_of_means payload target
    refine ⟨front.length + offset, ?_, ?_, ?_⟩
    · rcases place with ⟨isTrigger, rfl⟩ | ⟨isPickup, rfl⟩
      · exact .inl ⟨isTrigger, by omega⟩
      · exact .inr ⟨isPickup, by omega⟩
    · rw [rests, List.length_append, List.length_append]
      omega
    · rw [rests, ← wordAt_drop, List.drop_left, wordAt_append options.order inside, read]

def rotateInTwoGroups : List UInt8 :=
  [5, 0x42] ++ List.replicate 49 0 ++ [0, 2, 0, 7, 0, 9, 0, 0] ++ [0xFE, 1, 2, 3, 4] ++
    List.replicate 14 0

theorem capabilities_on_wire_rotate :
    ∃ entity next header, decodeInferred ⟨.big, .utf8⟩ (.start rotateInTwoGroups) = .ok entity next ∧
      entity.trigger? = some header ∧ header.payload.flags.bits = 6 ∧
      entity.targetGroup? = some 0x0102 := by
  have accepted : ∃ entity next, decodeInferred ⟨.big, .utf8⟩ (.start rotateInTwoGroups) =
      .ok entity next ∧ entity.kind = .trigger .rotate := ⟨_, _, rfl, rfl⟩
  obtain ⟨entity, next, decoded, kind⟩ := accepted
  obtain ⟨hasHeader, flags, hasTarget, target⟩ := capabilities_on_wire decoded
  rw [kind] at hasHeader hasTarget target
  obtain ⟨header, isHeader⟩ := Option.isSome_iff_exists.mp hasHeader
  obtain ⟨group, isGroup⟩ := Option.isSome_iff_exists.mp hasTarget
  obtain ⟨byte, found, masked⟩ := flags header isHeader
  obtain ⟨offset, ⟨-, rfl⟩ | ⟨impossible, -⟩, -, read⟩ := target group isGroup
  · refine ⟨entity, next, header, decoded, isHeader, ?_, ?_⟩
    · cases found
      exact masked
    · rw [isGroup, ← read]
      rfl
  · cases impossible

end Entity

end LevelFormat.Object
