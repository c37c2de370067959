import LevelFormat.Proofs.Object.Loss

/-!
What writing objects comes to.

Only an id of another kind and a text can stop an object from being written, and they stop it at
different places: in front of the first byte, and behind the base record. `Entity.Outcome` lists the
ways in which writing ends, and `Entity.outcome_iff` says that they are all there are. A list of
objects is written if each of them is, and else fails as the first of them does
(`encodeAll_cases`). Main statement: `encoding_outcome`.
-/

namespace LevelFormat.Wire

open LevelFormat.Text (Charset)

namespace Emission

theorem ofBytes_append_fail (bytes : List UInt8) (fault : Fault) :
    ofBytes bytes ++ fail fault = ⟨bytes, some fault⟩ := by
  change (⟨bytes ++ [], some fault⟩ : Emission) = _
  rw [List.append_nil]

theorem ofBytes_append_assoc (held front : List UInt8) (second : Emission) :
    ofBytes held ++ (ofBytes front ++ second) = ofBytes (held ++ front) ++ second := by
  change (⟨held ++ (front ++ second.bytes), second.fault⟩ : Emission) = _
  rw [← List.append_assoc]
  rfl

theorem toExcept_append (first second : Emission) :
    (first ++ second).toExcept =
      first.toExcept.bind fun front => second.toExcept.map (front ++ ·) := by
  obtain ⟨front, _ | fault⟩ := first
  · obtain ⟨back, _ | fault⟩ := second
    · rfl
    · rfl
  · rfl

section

variable {charset : Charset} {value : String} {content : List UInt8} (order : Order)

theorem text_of_refused (refused : charset.encode? value = none) :
    text order charset value = fail (.malformedText value .unrepresentable) := by
  rw [text, Charset.encode, refused]

theorem text_of_long (encoded : charset.encode? value = some content)
    (long : maxCount16 < content.length) :
    text order charset value = fail (.textTooLong content.length maxCount16) := by
  rw [text, Charset.encode, encoded]
  exact if_neg (Nat.not_le.mpr long)

end

end Emission

namespace Layout

def holdsText : {α : Type} → Layout α → Bool
  | _, text => true
  | _, pair first second => first.holdsText || second.holdsText
  | _, record _ layout => layout.holdsText
  | _, empty | _, word _ | _, bytes _ | _, ids => false

/-- Where there is no text, nothing can fail. -/
theorem exists_emit {α : Type} {layout : Layout α} (noText : layout.holdsText = false)
    (options : Options) (value : α) : ∃ bytes, layout.emit options value = .ofBytes bytes := by
  induction layout with
  | empty | word | bytes | ids => exact ⟨_, rfl⟩
  | text => cases noText
  | pair first second firstWritten secondWritten =>
      rw [holdsText, Bool.or_eq_false_iff] at noText
      obtain ⟨front, firstEmitted⟩ := firstWritten noText.1 value.1
      obtain ⟨back, secondEmitted⟩ := secondWritten noText.2 value.2
      exact ⟨front ++ back, by rw [emit, firstEmitted, secondEmitted, Emission.ofBytes_append]⟩
  | record parts layout written => exact written noText (parts.split value)

end Layout

end LevelFormat.Wire

namespace LevelFormat.Object

open LevelFormat.Text (Charset)
open LevelFormat.Wire (Emission Layout Options)

theorem Kind.holdsText_payloadLayout {kind : Kind} (other : kind ≠ .text) :
    kind.payloadLayout.holdsText = false := by
  cases kind with
  | text => exact absurd rfl other
  | trigger action => cases action <;> rfl
  | _ => rfl

namespace Entity

def text? : Entity → Option String
  | ⟨.text, record⟩ => some record.payload
  | _ => none

def encode (entity : Entity) (options : Options) : Except Fault (List UInt8) :=
  (entity.emit options).toExcept

/-- The ways in which writing an object behind what is already there ends. -/
inductive Outcome (options : Options) (held : List UInt8) (entity : Entity) : Emission → Prop
  | misplaced (other : Kind.infer entity.base.id ≠ entity.kind) :
      Outcome options held entity
        ⟨held, some (.kindMismatch entity.base.id entity.kind.name
          (Kind.infer entity.base.id).name)⟩
  | unrepresentable {text : String} {base : List UInt8}
      (own : Kind.infer entity.base.id = entity.kind) (states : entity.text? = some text)
      (refused : options.charset.encode? text = none)
      (written : Base.layout.encode options entity.base = .ok base) :
      Outcome options held entity ⟨held ++ base, some (.malformedText text .unrepresentable)⟩
  | overlong {text : String} {base content : List UInt8}
      (own : Kind.infer entity.base.id = entity.kind) (states : entity.text? = some text)
      (encoded : options.charset.encode? text = some content) (long : 65535 < content.length)
      (written : Base.layout.encode options entity.base = .ok base) :
      Outcome options held entity ⟨held ++ base, some (.textTooLong content.length 65535)⟩
  | whole {bytes : List UInt8} (own : Kind.infer entity.base.id = entity.kind)
      (fits : ∀ text, entity.text? = some text →
        ∃ content, options.charset.encode? text = some content ∧ content.length ≤ 65535)
      (written : (Record.layout entity.kind).encode options entity.record = .ok bytes) :
      Outcome options held entity ⟨held ++ bytes, none⟩

variable {options : Options} {held : List UInt8} {entity : Entity} {after : Emission}

theorem emit_of_misplaced (other : Kind.infer entity.base.id ≠ entity.kind) :
    entity.emit options = .fail (.kindMismatch entity.base.id entity.kind.name
      (Kind.infer entity.base.id).name) := by
  simp only [emit, kindFault?, if_neg other]

theorem emit_of_own (own : Kind.infer entity.base.id = entity.kind) :
    entity.emit options = Base.layout.emit options entity.base ++
      entity.kind.payloadLayout.emit options entity.record.payload := by
  rw [emit, (kindFault?_eq_none_iff entity).mpr own]
  rfl

theorem emit_payload_of_text {text : String} (states : entity.text? = some text) :
    entity.kind.payloadLayout.emit options entity.record.payload =
      .text options.order options.charset text := by
  obtain ⟨kind, record⟩ := entity
  cases kind with
  | text =>
      cases states
      rfl
  | _ => cases states

theorem exists_emit_payload (options : Options) (noText : entity.text? = none) :
    ∃ bytes, entity.kind.payloadLayout.emit options entity.record.payload = .ofBytes bytes := by
  obtain ⟨kind, record⟩ := entity
  refine Layout.exists_emit (Kind.holdsText_payloadLayout ?_) options _
  rintro rfl
  cases noText

/-- A text that cannot be written leaves the base record behind. -/
theorem emit_of_text_fail {text : String} {base : List UInt8} {fault : Fault}
    (own : Kind.infer entity.base.id = entity.kind) (states : entity.text? = some text)
    (written : Base.layout.encode options entity.base = .ok base)
    (failed : Emission.text options.order options.charset text = .fail fault) :
    .ofBytes held ++ entity.emit options = ⟨held ++ base, some fault⟩ := by
  rw [emit_of_own own, (Layout.encode_eq_ok_iff _ _ _ _).mp written, emit_payload_of_text states,
    failed, Emission.ofBytes_append_assoc, Emission.ofBytes_append_fail]

theorem Outcome.eq (outcome : Outcome options held entity after) :
    .ofBytes held ++ entity.emit options = after := by
  cases outcome with
  | misplaced other => rw [emit_of_misplaced other, Emission.ofBytes_append_fail]
  | unrepresentable own states refused written =>
      exact emit_of_text_fail own states written (Emission.text_of_refused _ refused)
  | overlong own states encoded long written =>
      exact emit_of_text_fail own states written (Emission.text_of_long _ encoded long)
  | whole own fits written =>
      rw [(emit_eq_ofBytes_iff _ _ _).mpr ⟨own, (Layout.encode_eq_ok_iff _ _ _ _).mp written⟩]
      rfl

theorem outcome_of_payload {payload : List UInt8} (own : Kind.infer entity.base.id = entity.kind)
    (fits : ∀ text, entity.text? = some text →
      ∃ content, options.charset.encode? text = some content ∧ content.length ≤ 65535)
    (emitted : entity.kind.payloadLayout.emit options entity.record.payload = .ofBytes payload) :
    ∃ after, Outcome options held entity after := by
  obtain ⟨base, written⟩ := Base.exists_encode options entity.base
  rw [Layout.encode_eq_ok_iff] at written
  have record : (Record.layout entity.kind).emit options entity.record =
      .ofBytes (base ++ payload) := by
    change Base.layout.emit options entity.base ++
      entity.kind.payloadLayout.emit options entity.record.payload = _
    rw [written, emitted, Emission.ofBytes_append]
  exact ⟨_, .whole own fits ((Layout.encode_eq_ok_iff _ _ _ _).mpr record)⟩

theorem exists_outcome_of_text {text : String} (own : Kind.infer entity.base.id = entity.kind)
    (states : entity.text? = some text) : ∃ after, Outcome options held entity after := by
  obtain ⟨base, written⟩ := Base.exists_encode options entity.base
  cases encoded : options.charset.encode? text with
  | none => exact ⟨_, .unrepresentable own states encoded written⟩
  | some content =>
      by_cases short : content.length ≤ 65535
      · have emitted := (Emission.text_eq_ofBytes_iff options.order options.charset text _).mpr
          ⟨content, by rw [Charset.encode, encoded], short, rfl⟩
        refine outcome_of_payload own ?_ ((emit_payload_of_text states).trans emitted)
        intro other same
        cases states.symm.trans same
        exact ⟨content, encoded, short⟩
      · exact ⟨_, .overlong own states encoded (Nat.lt_of_not_le short) written⟩

theorem exists_outcome (options : Options) (held : List UInt8) (entity : Entity) :
    ∃ after, Outcome options held entity after := by
  by_cases own : Kind.infer entity.base.id = entity.kind
  · cases states : entity.text? with
    | none =>
        obtain ⟨payload, emitted⟩ := exists_emit_payload options states
        exact outcome_of_payload own (by simp [states]) emitted
    | some text => exact exists_outcome_of_text own states
  · exact ⟨_, .misplaced own⟩

theorem outcome_iff (options : Options) (held : List UInt8) (entity : Entity) (after : Emission) :
    .ofBytes held ++ entity.emit options = after ↔ Outcome options held entity after := by
  constructor
  · rintro rfl
    obtain ⟨after, outcome⟩ := exists_outcome options held entity
    rw [outcome.eq]
    exact outcome
  · exact Outcome.eq

end Entity

theorem encodeAll_cons (options : Options) (entity : Entity) (entities : List Entity) :
    encodeAll options (entity :: entities) =
      (entity.encode options).bind fun front => (encodeAll options entities).map (front ++ ·) :=
  Emission.toExcept_append _ _

/-- A list is written as its objects are one by one, up to the first that cannot be written. -/
theorem encodeAll_cases (options : Options) (entities : List Entity) :
    (∃ segments : List (List UInt8),
      List.Forall₂ (fun entity segment => entity.encode options = .ok segment) entities segments ∧
        encodeAll options entities = .ok segments.flatten) ∨
      ∃ before entity behind fault, entities = before ++ entity :: behind ∧
        (∀ other ∈ before, ∃ segment, other.encode options = .ok segment) ∧
          entity.encode options = .error fault ∧ encodeAll options entities = .error fault := by
  induction entities with
  | nil => exact .inl ⟨[], .nil, rfl⟩
  | cons entity entities ih =>
      rw [encodeAll_cons]
      cases first : entity.encode options with
      | error fault => exact .inr ⟨[], entity, entities, fault, rfl, by simp, first, rfl⟩
      | ok front =>
          rcases ih with ⟨segments, each, all⟩ |
            ⟨before, stop, behind, fault, rfl, each, stopped, all⟩
          · refine .inl ⟨front :: segments, .cons first each, ?_⟩
            rw [all, List.flatten_cons]
            rfl
          · refine .inr ⟨entity :: before, stop, behind, fault, rfl, ?_, stopped, ?_⟩
            · exact List.forall_mem_cons.mpr ⟨⟨front, first⟩, each⟩
            · rw [all]
              rfl

/-- Writing one object behind what is already there has the outcomes listed and no other. A list of
objects comes to the bytes of all of them if each can be written, and else to the fault of the first
that cannot. -/
theorem encoding_outcome (options : Options) :
    (∀ (held : List UInt8) (entity : Entity) (after : Emission),
      .ofBytes held ++ entity.emit options = after ↔ Entity.Outcome options held entity after) ∧
    ∀ entities : List Entity,
      (∃ segments : List (List UInt8),
        List.Forall₂ (fun entity segment => entity.encode options = .ok segment) entities
          segments ∧ encodeAll options entities = .ok segments.flatten) ∨
        ∃ before entity behind fault, entities = before ++ entity :: behind ∧
          (∀ other ∈ before, ∃ segment, other.encode options = .ok segment) ∧
            entity.encode options = .error fault ∧ encodeAll options entities = .error fault :=
  ⟨Entity.outcome_iff options, encodeAll_cases options⟩

end LevelFormat.Object
