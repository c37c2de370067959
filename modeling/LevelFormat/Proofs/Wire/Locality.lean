import LevelFormat.Proofs.Wire.Pieces

/-!
How little a decoder depends on.

A decoder does the same wherever in a buffer its bytes stand, and bytes that follow do not change
what it decided. Only where bytes are missing at the end of the buffer do more of them change
anything. `Layout.local_read` says so of every layout whose words are refused without regard to
their place.
-/

namespace LevelFormat

def Fault.shift (distance : Nat) : Fault → Fault
  | truncated offset needed remaining => truncated (offset + distance) needed remaining
  | fault => fault

def Fault.MissesAt (finish : Nat) : Fault → Prop
  | truncated offset needed remaining => offset + remaining = finish ∧ remaining < needed
  | _ => False

theorem Fault.exists_of_missesAt {finish : Nat} {fault : Fault} (misses : fault.MissesAt finish) :
    ∃ offset needed remaining, fault = truncated offset needed remaining ∧
      offset + remaining = finish ∧ remaining < needed := by
  cases fault with
  | truncated offset needed remaining => exact ⟨offset, needed, remaining, rfl, misses⟩
  | _ => cases misses

/-- Bytes that mean no text are refused with a fault that has no place. -/
theorem Text.Charset.placeless_decode (charset : Charset) (content : List UInt8) (fault : Fault)
    (refused : charset.decode content = .error fault) (distance : Nat) :
    fault.shift distance = fault := by
  unfold decode at refused
  split at refused
  next => cases refused
  next =>
    cases refused
    rfl

namespace Wire

namespace Cursor

def shift (distance : Nat) (cursor : Cursor) : Cursor :=
  ⟨cursor.position + distance, cursor.rest⟩

def extend (more : List UInt8) (cursor : Cursor) : Cursor :=
  ⟨cursor.position, cursor.rest ++ more⟩

def finish (cursor : Cursor) : Nat := cursor.position + cursor.remaining

variable {cursor : Cursor} {count : Nat}

theorem advance_shift (cursor : Cursor) (distance count : Nat) :
    (cursor.shift distance).advance count = (cursor.advance count).shift distance := by
  simp only [advance, shift, Nat.add_right_comm]

theorem remaining_le_extend (cursor : Cursor) (more : List UInt8) :
    cursor.remaining ≤ (cursor.extend more).remaining := by
  rw [remaining, remaining, extend, List.length_append]
  exact Nat.le_add_right _ _

theorem take_extend (enough : count ≤ cursor.remaining) (more : List UInt8) :
    (cursor.extend more).rest.take count = cursor.rest.take count :=
  List.take_append_of_le_length enough

theorem advance_extend (enough : count ≤ cursor.remaining) (more : List UInt8) :
    (cursor.extend more).advance count = (cursor.advance count).extend more := by
  simp only [advance, extend, List.drop_append_of_le_length enough]

theorem finish_advance (enough : count ≤ cursor.remaining) :
    (cursor.advance count).finish = cursor.finish := by
  rw [finish, finish, remaining_advance]
  simp only [advance]
  omega

end Cursor

namespace Decoder

variable {α β : Type}

def shiftOutcome (distance : Nat) :
    EStateM.Result Fault Cursor α → EStateM.Result Fault Cursor α
  | .ok value next => .ok value (next.shift distance)
  | .error fault next => .error (fault.shift distance) (next.shift distance)

/-- The decoder looks at nothing but the bytes that it takes, and at those after them only to see
that they are missing. -/
structure Local (decoder : Decoder α) : Prop where
  shift : ∀ distance cursor,
    decoder (cursor.shift distance) = shiftOutcome distance (decoder cursor)
  ok : ∀ {cursor value next}, decoder cursor = .ok value next → next.finish = cursor.finish ∧
    ∀ more, decoder (cursor.extend more) = .ok value (next.extend more)
  error : ∀ {cursor fault next}, decoder cursor = .error fault next →
    fault.MissesAt cursor.finish ∨
      ∀ more, decoder (cursor.extend more) = .error fault (next.extend more)

theorem local_pure (value : α) : (pure value : Decoder α).Local where
  shift _ _ := rfl
  ok delivered := by
    cases delivered
    exact ⟨rfl, fun _ => rfl⟩
  error failed := by cases failed

theorem bind_eq (decoder : Decoder α) (continuation : α → Decoder β) (cursor : Cursor) :
    (decoder >>= continuation) cursor =
      match decoder cursor with
      | .ok value next => continuation value next
      | .error fault next => .error fault next := by
  change EStateM.bind decoder continuation cursor = _
  unfold EStateM.bind
  cases decoder cursor with
  | ok value next => rfl
  | error fault next => rfl

theorem Local.bind {decoder : Decoder α} {continuation : α → Decoder β} (first : decoder.Local)
    (second : ∀ value, (continuation value).Local) : (decoder >>= continuation).Local where
  shift distance cursor := by
    rw [bind_eq, bind_eq, first.shift]
    cases decoder cursor with
    | ok value middle => exact (second value).shift distance middle
    | error fault middle => rfl
  ok := by
    intro cursor result finish delivered
    obtain ⟨value, middle, taken, continued⟩ := (bind_ok_iff _ _ _ _ _).mp delivered
    obtain ⟨middleFinish, taken⟩ := first.ok taken
    obtain ⟨resultFinish, continued⟩ := (second value).ok continued
    refine ⟨resultFinish.trans middleFinish, fun more => ?_⟩
    rw [bind_eq, taken more]
    exact continued more
  error := by
    intro cursor fault finish failed
    rw [bind_eq] at failed
    cases taken : decoder cursor with
    | error other middle =>
        rw [taken] at failed
        cases failed
        refine (first.error taken).imp_right fun stays more => ?_
        rw [bind_eq, stays more]
    | ok value middle =>
        rw [taken] at failed
        obtain ⟨middleFinish, taken⟩ := first.ok taken
        rw [← middleFinish]
        refine ((second value).error failed).imp_right fun stays more => ?_
        rw [bind_eq, taken more]
        exact stays more

theorem local_ofExcept {outcome : Except Fault α}
    (placeless : ∀ fault, outcome = .error fault → ∀ distance, fault.shift distance = fault) :
    (ofExcept outcome).Local := by
  cases outcome with
  | ok value => exact local_pure value
  | error fault =>
      constructor
      case shift =>
        intro distance cursor
        change EStateM.Result.error _ _ = .error (fault.shift distance) _
        rw [placeless fault rfl]
      case ok =>
        intro cursor value next delivered
        cases delivered
      case error =>
        intro cursor other next failed
        cases failed
        exact .inr fun _ => rfl

theorem peek_eq (count : Nat) (cursor : Cursor) :
    peek count cursor =
      if cursor.remaining < count then
        .error (.truncated cursor.position count cursor.remaining) cursor
      else .ok (cursor.rest.take count) cursor := by
  unfold peek
  dsimp only
  rw [List.length_take, Cursor.remaining]
  by_cases short : cursor.rest.length < count
  · rw [if_pos short, if_neg (by omega)]
  · rw [if_neg short, if_pos (by omega)]

/-- Looking at some bytes or taking them is local: it fails exactly where they are not all there. -/
theorem local_of_eq {count : Nat} {decoder : Decoder (List UInt8)} {taken : Nat}
    (within : taken ≤ count)
    (same : ∀ cursor, decoder cursor =
      if cursor.remaining < count then
        .error (.truncated cursor.position count cursor.remaining) cursor
      else .ok (cursor.rest.take count) (cursor.advance taken)) :
    decoder.Local where
  shift distance cursor := by
    have remaining : (cursor.shift distance).remaining = cursor.remaining := rfl
    rw [same, same, remaining, Cursor.advance_shift]
    split
    next => rfl
    next => rfl
  ok := by
    intro cursor bytes next delivered
    rw [same] at delivered
    split at delivered
    next => cases delivered
    next enough =>
      cases delivered
      have inside : count ≤ cursor.remaining := Nat.le_of_not_lt enough
      refine ⟨Cursor.finish_advance (Nat.le_trans within inside), fun more => ?_⟩
      have longer := cursor.remaining_le_extend more
      rw [same, if_neg (by omega), Cursor.take_extend inside,
        Cursor.advance_extend (Nat.le_trans within inside)]
  error := by
    intro cursor fault next failed
    rw [same] at failed
    split at failed
    next short =>
      cases failed
      exact .inl ⟨rfl, short⟩
    next => cases failed

theorem local_peek (count : Nat) : (peek count).Local :=
  local_of_eq (Nat.zero_le count) fun cursor => by rw [peek_eq, Cursor.advance_zero]

theorem local_take (count : Nat) : (take count).Local :=
  local_of_eq (Nat.le_refl count) (take_eq count)

theorem local_word (ω : Type) [Word ω] (order : Order) : (word ω order).Local :=
  (local_take _).bind fun _ => local_pure _

theorem local_replicateOnto {decoder : Decoder α} (here : decoder.Local) (count : Nat)
    (reversed : List α) : (replicateOnto decoder count reversed).Local := by
  induction count generalizing reversed with
  | zero => exact local_pure _
  | succ count ih => exact here.bind fun value => ih (value :: reversed)

/-- A value that took up a whole buffer leaves over all that follows the buffer. -/
theorem Local.run_append {decoder : Decoder α} (here : decoder.Local) {bytes extra : List UInt8}
    {value : α} (ran : decoder.run bytes = .ok value) (more : extra ≠ []) :
    decoder.run (bytes ++ extra) = .error (.trailingBytes extra.length) := by
  unfold run at ran
  split at ran
  next found cursor delivered =>
    split at ran
    next ended =>
      have longer : decoder (.start (bytes ++ extra)) = .ok found (cursor.extend extra) :=
        (here.ok delivered).2 extra
      have rests : (cursor.extend extra).rest = extra := by
        rw [Cursor.extend, List.isEmpty_iff.mp ended, List.nil_append]
      simp [run, longer, Cursor.isEmpty, Cursor.remaining, rests, more]
    next => cases ran
  next => cases ran

/-- A decoder that took up a whole buffer misses bytes at the end of any shorter one. -/
theorem Local.missesAt_take {decoder : Decoder α} (here : decoder.Local) {position count : Nat}
    {bytes : List UInt8} {value : α} {next : Cursor}
    (delivered : decoder ⟨position, bytes⟩ = .ok value next) (ended : next.rest = [])
    (short : count < bytes.length) :
    ∃ fault last, decoder ⟨position, bytes.take count⟩ = .error fault last ∧
      fault.MissesAt (position + count) := by
  let cut : Cursor := ⟨position, bytes.take count⟩
  have finish : cut.finish = position + count := by
    simp only [cut, Cursor.finish, Cursor.remaining, List.length_take]
    omega
  have whole : cut.extend (bytes.drop count) = ⟨position, bytes⟩ := by
    simp only [cut, Cursor.extend, List.take_append_drop]
  cases outcome : decoder cut with
  | ok found last =>
      have longer := (here.ok outcome).2 (bytes.drop count)
      rw [whole, delivered] at longer
      cases longer
      have nothing : bytes.drop count = [] := (List.append_eq_nil_iff.mp ended).2
      exact absurd (List.drop_eq_nil_iff.mp nothing) (Nat.not_le_of_lt short)
  | error fault last =>
      refine ⟨fault, last, rfl, ?_⟩
      rcases here.error outcome with misses | stays
      · rwa [finish] at misses
      · have longer := stays (bytes.drop count)
        rw [whole, delivered] at longer
        cases longer

end Decoder

def Packing.Placeless {ω α : Type} (packing : Packing ω α) : Prop :=
  ∀ word fault, packing.unpack word = .error fault → ∀ distance, fault.shift distance = fault

namespace Packing

theorem placeless_of_accepts {ω α : Type} {packing : Packing ω α}
    (accepts : ∀ word, ∃ value, packing.unpack word = .ok value) : packing.Placeless := by
  intro word fault refused
  obtain ⟨value, unpacked⟩ := accepts word
  rw [unpacked] at refused
  cases refused

theorem placeless_total {ω α : Type} (pack : α → ω) (unpack : ω → α)
    (unpack_pack : ∀ value, unpack (pack value) = value) :
    (total pack unpack unpack_pack).Placeless :=
  placeless_of_accepts fun word => ⟨unpack word, rfl⟩

@[simp]
theorem placeless_flagged15 : flagged15.Placeless :=
  placeless_of_accepts fun _ => ⟨_, rfl⟩

@[simp]
theorem placeless_low15 : low15.Placeless :=
  placeless_of_accepts fun _ => ⟨_, rfl⟩

@[simp]
theorem placeless_lowBit : lowBit.Placeless := placeless_total _ _ _

theorem placeless_enumeration (α : Type) [DecidableEq α] [Enumeration α] :
    (enumeration α).Placeless := by
  intro word fault refused distance
  change Enumeration.ofCode α word = .error fault at refused
  unfold Enumeration.ofCode at refused
  split at refused
  next => cases refused
  next =>
    cases refused
    rfl

end Packing

theorem Decoder.local_packed {ω α : Type} [Word ω] {packing : Packing ω α}
    (placeless : packing.Placeless) (order : Order) : (packed packing order).Local :=
  (local_word ω order).bind fun word => local_ofExcept (placeless word)

theorem Decoder.local_text (order : Order) (charset : Text.Charset) :
    (text order charset).Local :=
  (local_word UInt16 order).bind fun _ => (local_take _).bind fun content =>
    local_ofExcept (Text.Charset.placeless_decode charset content)

namespace Layout

def Placeless : {α : Type} → Layout α → Prop
  | _, word packing => packing.Placeless
  | _, bytes packing => packing.Placeless
  | _, pair first second => first.Placeless ∧ second.Placeless
  | _, record _ layout => layout.Placeless
  | _, empty | _, ids | _, text => True

@[simp]
theorem placeless_word {ω α : Type} [Word ω] (packing : Packing ω α) :
    (word packing).Placeless ↔ packing.Placeless := Iff.rfl

@[simp]
theorem placeless_pair {α β : Type} (first : Layout α) (second : Layout β) :
    (pair first second).Placeless ↔ first.Placeless ∧ second.Placeless := Iff.rfl

@[simp]
theorem placeless_record {α β : Type} (parts : Parts β α) (layout : Layout α) :
    (record parts layout).Placeless ↔ layout.Placeless := Iff.rfl

@[simp]
theorem placeless_uint8 : uint8.Placeless := Packing.placeless_total _ _ _

@[simp]
theorem placeless_uint16 : uint16.Placeless := Packing.placeless_total _ _ _

@[simp]
theorem placeless_int16 : int16.Placeless := Packing.placeless_total _ _ _

@[simp]
theorem placeless_int32 : int32.Placeless := Packing.placeless_total _ _ _

@[simp]
theorem placeless_bool : bool.Placeless := Packing.placeless_total _ _ _

@[simp]
theorem placeless_binary32 : binary32.Placeless := Packing.placeless_total _ _ _

@[simp]
theorem placeless_flagByte (mask : UInt8) : (flagByte mask).Placeless :=
  Packing.placeless_total _ _ _

@[simp]
theorem placeless_enumeration (α : Type) [DecidableEq α] [Enumeration α] :
    (enumeration α).Placeless :=
  Packing.placeless_enumeration α

theorem local_read {α : Type} {layout : Layout α} (placeless : layout.Placeless)
    (options : Options) : (layout.read options).Local := by
  induction layout with
  | empty => exact Decoder.local_pure ()
  | word packing => exact Decoder.local_packed placeless options.order
  | bytes packing =>
      exact (Decoder.local_word UInt8 _).bind fun _ =>
        Decoder.local_replicateOnto (Decoder.local_packed placeless _) _ _
  | ids =>
      exact (Decoder.local_word UInt16 _).bind fun _ =>
        (Decoder.local_replicateOnto (Decoder.local_word UInt16 _) _ _).bind fun _ =>
          Decoder.local_pure _
  | text => exact Decoder.local_text options.order options.charset
  | pair first second firstLocal secondLocal =>
      exact (firstLocal placeless.1).bind fun _ =>
        (secondLocal placeless.2).bind fun _ => Decoder.local_pure _
  | record parts layout here => exact (here placeless).bind fun _ => Decoder.local_pure _

end Layout

end Wire

end LevelFormat
