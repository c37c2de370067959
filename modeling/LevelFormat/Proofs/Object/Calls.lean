import LevelFormat.Proofs.Object.Segments
import LevelFormat.Proofs.Wire.Locality
import Mathlib.Logic.Function.Iterate

/-!
A stream as its reader sees it, call after call.

Every call delivers an object, a fault or nothing. `Stream.call_cases` says all that a call can do;
from it follows what any number of calls can do. Main statement: `Stream.accounted`.
-/

namespace LevelFormat.Object

open LevelFormat.Wire (Cursor Options)

namespace Stream

def position (stream : Stream) : Nat := stream.cursor.position

def call (stream : Stream) : Option (Except Fault Entity) × Stream :=
  match stream.next? with
  | some (item, rest) => (some item, rest)
  | none => (none, stream)

def after (count : Nat) (stream : Stream) : Stream := (fun stream => stream.call.2)^[count] stream

def items : Nat → Stream → List (Except Fault Entity)
  | 0, _ => []
  | count + 1, stream => stream.call.1.toList ++ items count stream.call.2

variable {stream rest : Stream} {entity : Entity} {entities : List Entity} {fault : Fault}
  {item : Except Fault Entity} {count : Nat}

theorem call_of_none (ended : stream.next? = none) : stream.call = (none, stream) := by
  rw [call, ended]

theorem call_of_some (delivered : stream.next? = some (item, rest)) :
    stream.call = (some item, rest) := by
  rw [call, delivered]

theorem call_eq_none_iff : stream.call.1 = none ↔ stream.next? = none := by
  cases delivered : stream.next? with
  | none => simp [call_of_none delivered]
  | some outcome => simp [call_of_some delivered]

/-- All that a call can do: nothing at all at the end or behind a fault, deliver an object and move
over its bytes, or deliver a fault and stop. -/
theorem call_cases (stream : Stream) :
    stream.call = (none, stream) ∨
      (∃ entity rest, stream.call = (some (.ok entity), rest) ∧ stream.failed = false ∧
        rest.failed = false ∧ stream.cursor.Moves 55 rest.cursor) ∨
      ∃ fault rest, stream.call = (some (.error fault), rest) ∧ rest.failed = true := by
  cases delivered : stream.next? with
  | none => exact .inl (call_of_none delivered)
  | some outcome =>
      right
      obtain ⟨item, rest⟩ := outcome
      rw [call_of_some delivered]
      unfold next? at delivered
      split at delivered
      next => cases delivered
      next goesOn =>
        have running : stream.failed = false := by
          rw [Bool.or_eq_true, not_or, Bool.not_eq_true] at goesOn
          exact goesOn.1
        split at delivered
        next entity cursor taken =>
          cases delivered
          have moves := Entity.takes_decodeInferred stream.options _ _ _ taken
          exact .inl ⟨entity, _, rfl, running, running, moves⟩
        next fault cursor _ =>
          cases delivered
          exact .inr ⟨fault, _, rfl, rfl⟩

theorem after_succ (count : Nat) (stream : Stream) :
    stream.after (count + 1) = stream.call.2.after count :=
  Function.iterate_succ_apply _ count stream

theorem after_succ' (count : Nat) (stream : Stream) :
    stream.after (count + 1) = (stream.after count).call.2 :=
  Function.iterate_succ_apply' _ count stream

theorem after_add (first second : Nat) (stream : Stream) :
    stream.after (first + second) = (stream.after first).after second := by
  rw [after, Nat.add_comm, Function.iterate_add_apply]
  rfl

/-- A stream that delivered nothing never delivers anything again. -/
theorem after_of_ended (ended : stream.call = (none, stream)) (count : Nat) :
    stream.after count = stream :=
  Function.iterate_fixed (congrArg Prod.snd ended) count

theorem stays_of_ended {later : Nat}
    (ended : (stream.after count).call = (none, stream.after count)) (behind : count ≤ later) :
    (stream.after later).call.1 = none ∧
      (stream.after later).position = (stream.after count).position := by
  obtain ⟨further, rfl⟩ := Nat.exists_eq_add_of_le behind
  rw [after_add, after_of_ended ended]
  exact ⟨congrArg Prod.fst ended, rfl⟩

theorem items_of_ended (ended : stream.call = (none, stream)) (count : Nat) :
    stream.items count = [] := by
  induction count with
  | zero => rfl
  | succ count ih =>
      rw [items, ended]
      exact ih

theorem call_of_failed (failed : stream.failed = true) : stream.call = (none, stream) :=
  call_of_none (by rw [next?, failed, Bool.true_or, if_pos rfl])

def Within (size : Nat) (stream : Stream) : Prop :=
  stream.failed = false → stream.cursor.finish = size

theorem within_call {size : Nat} (within : stream.Within size) : stream.call.2.Within size := by
  rcases stream.call_cases with ended | ⟨entity, rest, called, running, -, moves⟩ |
    ⟨fault, rest, called, failed⟩
  · rwa [ended]
  · intro _
    obtain ⟨taken, -, inside, moved⟩ := moves
    rw [called, moved, Cursor.finish_advance inside]
    exact within running
  · intro running
    rw [called] at running
    exact absurd (failed.symm.trans running) (by decide)

theorem within_after {size : Nat} (within : stream.Within size) (count : Nat) :
    (stream.after count).Within size := by
  induction count generalizing stream with
  | zero => exact within
  | succ count ih =>
      rw [after_succ]
      exact ih (within_call within)

theorem within_start (options : Options) (bytes : List UInt8) :
    (start options bytes).Within bytes.length :=
  fun _ => Nat.zero_add bytes.length

theorem position_of_ok {size : Nat} (within : stream.Within size)
    (delivered : stream.call.1 = some (.ok entity)) :
    stream.position + 55 ≤ stream.call.2.position ∧ stream.call.2.position ≤ size := by
  rcases stream.call_cases with ended | ⟨found, rest, called, running, still, moves⟩ |
    ⟨fault, rest, called, failed⟩
  · rw [ended] at delivered
    cases delivered
  · have whole := within_call within
    obtain ⟨taken, least, -, moved⟩ := moves
    have passed : rest.cursor.position = stream.cursor.position + taken := by rw [moved]; rfl
    rw [called] at whole ⊢
    have finish : rest.cursor.position + rest.cursor.remaining = size := whole still
    simp only [position]
    omega
  · rw [called] at delivered
    cases delivered

theorem ended_of_error (delivered : stream.call.1 = some (.error fault)) :
    stream.call.2.call = (none, stream.call.2) := by
  rcases stream.call_cases with ended | ⟨entity, rest, called, -⟩ | ⟨other, rest, called, failed⟩
  · rw [ended] at delivered
    cases delivered
  · rw [called] at delivered
    cases delivered
  · rw [called]
    exact call_of_failed failed

/-- Every object takes 55 bytes or more, and a fault is the last that is delivered. -/
theorem length_items_le (count : Nat) (stream : Stream) :
    (stream.items count).length ≤ stream.cursor.remaining / 55 + 1 := by
  induction count generalizing stream with
  | zero => exact Nat.zero_le _
  | succ count ih =>
      rw [items]
      rcases stream.call_cases with ended | ⟨entity, rest, called, -, -, moves⟩ |
        ⟨fault, rest, called, failed⟩
      · rw [ended, items_of_ended ended]
        exact Nat.zero_le _
      · have shorter := moves.remaining_le
        have later := ih rest
        rw [called]
        simp only [Option.toList_some, List.singleton_append, List.length_cons]
        omega
      · rw [called, items_of_ended (call_of_failed failed)]
        exact Nat.le_add_left 1 _

/-! ### The calls and the whole list -/

theorem next?_of_call (called : stream.call = (some item, rest)) :
    stream.next? = some (item, rest) := by
  cases delivered : stream.next? with
  | none =>
      rw [call_of_none delivered] at called
      cases called
  | some outcome =>
      rw [call_of_some delivered] at called
      cases called
      rfl

theorem items_of_call (called : stream.call = (some item, rest)) (count : Nat) :
    stream.items (count + 1) = item :: rest.items count := by
  rw [items, called]
  rfl

theorem after_of_call {delivered : Option (Except Fault Entity)}
    (called : stream.call = (delivered, rest)) (count : Nat) :
    stream.after (count + 1) = rest.after count := by
  rw [after_succ, called]

/-- Calls that deliver objects move over their segments, and then stay at the end. -/
theorem after_of_segments {options : Options} {cursor : Cursor} {segments : List (List UInt8)}
    (rests : cursor.rest = segments.flatten)
    (forms : List.Forall₂ (Entity.Means options) segments entities) (count : Nat) :
    (Stream.mk options cursor false).after count =
      ⟨options, cursor.advance (segments.take count).flatten.length, false⟩ := by
  induction count generalizing cursor segments entities with
  | zero => exact congrArg (Stream.mk options · false) cursor.advance_zero.symm
  | succ count ih =>
      cases forms with
      | nil =>
          rw [after_of_ended (call_of_none (next?_eq_none_iff.mpr rests))]
          exact congrArg (Stream.mk options · false) cursor.advance_zero.symm
      | @cons found entity segments entities means forms =>
          let next : Cursor := ⟨cursor.position + found.length, segments.flatten⟩
          have spans : cursor.Spans found next := ⟨rests, rfl⟩
          have delivered := next?_eq_ok_iff.mpr ⟨found, next, spans, means, rfl⟩
          rw [after_of_call (call_of_some delivered), ih rfl forms, spans.eq_advance,
            Cursor.advance_advance, List.take_succ_cons, List.flatten_cons, List.length_append]

theorem toList_of_items (found : stream.items count = entities.map .ok)
    (ended : (stream.after count).call.1 = none) : stream.toList = .ok entities := by
  induction count generalizing stream entities with
  | zero =>
      rw [items, eq_comm, List.map_eq_nil_iff] at found
      subst found
      exact toList_of_none (call_eq_none_iff.mp ended)
  | succ count ih =>
      rcases stream.call_cases with stays | ⟨entity, rest, called, -⟩ | ⟨fault, rest, called, -⟩
      · rw [items_of_ended stays, eq_comm, List.map_eq_nil_iff] at found
        rw [found]
        exact toList_of_none (call_eq_none_iff.mp (congrArg Prod.fst stays))
      · rw [items_of_call called, eq_comm, List.map_eq_cons_iff] at found
        obtain ⟨first, others, rfl, same, found⟩ := found
        cases same
        rw [after_of_call called] at ended
        rw [toList_of_ok (next?_of_call called), ih found.symm ended]
        rfl
      · rw [items_of_call called, eq_comm, List.map_eq_cons_iff] at found
        obtain ⟨first, others, -, impossible, -⟩ := found
        cases impossible

theorem toList_of_items_error (found : stream.items count = entities.map .ok ++ [.error fault]) :
    stream.toList = .error fault := by
  induction count generalizing stream entities with
  | zero => simp [items] at found
  | succ count ih =>
      rcases stream.call_cases with stays | ⟨entity, rest, called, -⟩ | ⟨other, rest, called, -⟩
      · simp [items_of_ended stays] at found
      · rw [items_of_call called] at found
        cases entities with
        | nil => cases found
        | cons first others =>
            rw [List.map_cons, List.cons_append, List.cons.injEq] at found
            rw [toList_of_ok (next?_of_call called), ih found.2]
            rfl
      · rw [items_of_call called] at found
        cases entities with
        | nil =>
            cases (List.cons.inj found).1
            exact toList_of_error (next?_of_call called)
        | cons first others => cases (List.cons.inj found).1

/-- After enough calls a stream has either delivered objects up to the end of the buffer, or a fault
behind some objects. -/
theorem exists_items {size : Nat} (running : stream.failed = false)
    (within : stream.Within size) :
    ∃ count, ∃ entities : List Entity,
      (stream.items count = entities.map .ok ∧ (stream.after count).call.1 = none ∧
          (stream.after count).position = size) ∨
        ∃ fault, stream.items count = entities.map .ok ++ [.error fault] := by
  induction left : stream.cursor.remaining using Nat.strongRecOn generalizing stream with
  | ind left ih =>
      rcases stream.call_cases with stays | ⟨entity, rest, called, -, still, moves⟩ |
        ⟨fault, rest, called, -⟩
      · refine ⟨0, [], .inl ⟨rfl, congrArg Prod.fst stays, ?_⟩⟩
        have ended := call_eq_none_iff.mp (congrArg Prod.fst stays)
        have whole := within running
        obtain ⟨options, cursor, failed⟩ := stream
        cases running
        have empty := congrArg List.length (next?_eq_none_iff.mp ended)
        rw [Cursor.finish, Cursor.remaining, empty] at whole
        exact whole
      · have shorter := moves.remaining_le
        have kept := within_call within
        rw [called] at kept
        obtain ⟨count, entities, outcome⟩ := ih _ (by omega) still kept rfl
        refine ⟨count + 1, entity :: entities, ?_⟩
        rw [items_of_call called, after_of_call called]
        rcases outcome with ⟨delivered, ended⟩ | ⟨fault, delivered⟩
        · exact .inl ⟨congrArg (.ok entity :: ·) delivered, ended⟩
        · exact .inr ⟨fault, congrArg (.ok entity :: ·) delivered⟩
      · refine ⟨1, [], .inr ⟨fault, ?_⟩⟩
        rw [items_of_call called]
        rfl

theorem toList_eq_ok_iff_items {size : Nat} (running : stream.failed = false)
    (within : stream.Within size) :
    stream.toList = .ok entities ↔
      ∃ count, stream.items count = entities.map .ok ∧ (stream.after count).call.1 = none ∧
        (stream.after count).position = size := by
  constructor
  · intro listed
    obtain ⟨count, found, delivered | ⟨fault, failed⟩⟩ := exists_items running within
    · cases listed.symm.trans (toList_of_items delivered.1 delivered.2.1)
      exact ⟨count, delivered⟩
    · cases listed.symm.trans (toList_of_items_error failed)
  · rintro ⟨count, delivered, ended, -⟩
    exact toList_of_items delivered ended

theorem toList_eq_error_iff_items {size : Nat} (running : stream.failed = false)
    (within : stream.Within size) :
    stream.toList = .error fault ↔
      ∃ count, ∃ entities : List Entity,
        stream.items count = entities.map .ok ++ [.error fault] := by
  constructor
  · intro listed
    obtain ⟨count, found, delivered | ⟨other, failed⟩⟩ := exists_items running within
    · cases listed.symm.trans (toList_of_items delivered.1 delivered.2.1)
    · cases listed.symm.trans (toList_of_items_error failed)
      exact ⟨count, found, failed⟩
  · rintro ⟨count, entities, failed⟩
    exact toList_of_items_error failed

/-- What a reader can count on, whatever the bytes are. -/
structure Accounted (options : Options) (bytes : List UInt8) : Prop where
  advances : ∀ count entity, ((start options bytes).after count).call.1 = some (.ok entity) →
    ((start options bytes).after count).position + 55 ≤
        ((start options bytes).after (count + 1)).position ∧
      ((start options bytes).after (count + 1)).position ≤ bytes.length
  stops : ∀ count fault, ((start options bytes).after count).call.1 = some (.error fault) →
    ∀ later > count, ((start options bytes).after later).call.1 = none ∧
      ((start options bytes).after later).position =
        ((start options bytes).after (count + 1)).position
  ends : ∀ count, ((start options bytes).after count).call.1 = none →
    ∀ later ≥ count, ((start options bytes).after later).call.1 = none ∧
      ((start options bytes).after later).position = ((start options bytes).after count).position
  few : ∀ count, ((start options bytes).items count).length ≤ bytes.length / 55 + 1
  whole : ∀ entities, decodeAll options bytes = .ok entities ↔
    ∃ count, (start options bytes).items count = entities.map .ok ∧
      ((start options bytes).after count).call.1 = none ∧
      ((start options bytes).after count).position = bytes.length
  broken : ∀ fault, decodeAll options bytes = .error fault ↔
    ∃ count, ∃ entities : List Entity,
      (start options bytes).items count = entities.map .ok ++ [.error fault]

theorem accounted (options : Options) (bytes : List UInt8) : Accounted options bytes := by
  have within := within_start options bytes
  constructor
  case advances =>
    intro count entity delivered
    rw [after_succ']
    exact position_of_ok (within_after within count) delivered
  case stops =>
    intro count fault delivered later behind
    have ended := ended_of_error delivered
    rw [← after_succ'] at ended
    exact stays_of_ended ended behind
  case ends =>
    intro count ended later behind
    exact stays_of_ended (call_of_none (call_eq_none_iff.mp ended)) behind
  case few => exact fun count => length_items_le count (start options bytes)
  case whole => exact fun entities => toList_eq_ok_iff_items rfl within
  case broken => exact fun fault => toList_eq_error_iff_items rfl within

end Stream

end LevelFormat.Object
