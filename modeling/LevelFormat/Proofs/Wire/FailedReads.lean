import LevelFormat.Proofs.Wire.Session
import LevelFormat.Wire.Field

/-!
Where a failing read leaves the reader.

A word or a block is read at once, so the reader stays in front of it if it cannot be read. A text is
read in two steps: once its length is there, the reader is behind the length whatever comes of the
content. Main statement: `Request.failed_reads`.
-/

namespace LevelFormat.Wire

namespace Decoder

variable {α β : Type}

def Stays (decoder : Decoder α) : Prop :=
  ∀ cursor fault next, decoder cursor = .error fault next → next = cursor

theorem stays_take (count : Nat) : (take count).Stays := by
  intro cursor fault next failed
  rw [take_eq] at failed
  split at failed
  next =>
    cases failed
    rfl
  next => cases failed

theorem Stays.bind_pure {decoder : Decoder α} (stays : decoder.Stays) (finish : α → β) :
    (decoder >>= fun value => pure (finish value)).Stays := by
  intro cursor fault next failed
  rw [bind_eq] at failed
  cases taken : decoder cursor with
  | ok value middle =>
      rw [taken] at failed
      cases failed
  | error other middle =>
      rw [taken] at failed
      cases failed
      exact stays cursor fault next taken

theorem stays_word (ω : Type) [Word ω] (order : Order) : (word ω order).Stays :=
  (stays_take _).bind_pure _

theorem stays_total {ω : Type} [Word ω] (pack : α → ω) (unpack : ω → α)
    (unpack_pack : ∀ value, unpack (pack value) = value) (order : Order) :
    (packed (.total pack unpack unpack_pack) order).Stays :=
  (stays_word ω order).bind_pure unpack

theorem word_eq (ω : Type) [Word ω] (order : Order) (cursor : Cursor) :
    word ω order cursor =
      if cursor.remaining < Word.width ω then
        .error (.truncated cursor.position (Word.width ω) cursor.remaining) cursor
      else .ok (Word.ofBytes order (cursor.rest.take (Word.width ω)))
        (cursor.advance (Word.width ω)) := by
  rw [word, bind_eq, take_eq]
  by_cases short : cursor.remaining < Word.width ω
  · rw [if_pos short, if_pos short]
  · rw [if_neg short, if_neg short]
    rfl

/-- Whatever is wrong with the content of a text, its length is behind the reader. -/
theorem moves_of_text_error {order : Order} {charset : Text.Charset} {cursor next : Cursor}
    {fault : Fault} (failed : text order charset cursor = .error fault next)
    (enough : 2 ≤ cursor.remaining) : cursor.Moves 2 next := by
  rw [text, bind_eq] at failed
  cases taken : word UInt16 order cursor with
  | ok length middle =>
      rw [taken] at failed
      have first := takes_word UInt16 order cursor length middle taken
      have second := ((candid_content length.toNat charset).error failed).1
      exact first.trans second
  | error other middle =>
      have width : ¬ cursor.remaining < Word.width UInt16 := Nat.not_lt_of_le enough
      rw [word_eq, if_neg width] at taken
      cases taken

end Decoder

namespace Request

def passesLength (cursor : Cursor) : Request → Bool
  | text _ _ => 2 ≤ cursor.remaining
  | scalar .. | block _ => false

variable {request : Request} {cursor next : Cursor} {fault : Fault}

theorem stays_scalar (type : Scalar) (order : Order) : (type.layout.read { order }).Stays := by
  cases type with
  | _ => exact Decoder.stays_total _ _ _ order

theorem eq_iff_of_text_error {order : Order} {charset : Text.Charset}
    (failed : Decoder.text order charset cursor = .error fault next) :
    next = cursor ↔ (text order charset).passesLength cursor = false := by
  rw [passesLength, decide_eq_false_iff_not]
  by_cases enough : 2 ≤ cursor.remaining
  · refine iff_of_false ?_ (not_not_intro enough)
    rintro rfl
    have less := (Decoder.moves_of_text_error failed enough).remaining_le
    omega
  · refine iff_of_true ?_ enough
    have short : cursor.remaining < Word.width UInt16 := Nat.lt_of_not_le enough
    rw [Decoder.text, Decoder.bind_eq, Decoder.word_eq, if_pos short] at failed
    cases failed
    rfl

theorem eq_iff_of_error (failed : request.read cursor = .error fault next) :
    next = cursor ↔ request.passesLength cursor = false := by
  cases request with
  | scalar order type => exact iff_of_true ((stays_scalar type order).bind_pure _ _ _ _ failed) rfl
  | block length => exact iff_of_true ((Decoder.stays_take length).bind_pure _ _ _ _ failed) rfl
  | text order charset =>
      rw [read, Decoder.bind_eq] at failed
      cases taken : Decoder.text order charset cursor with
      | ok content middle =>
          rw [taken] at failed
          cases failed
      | error other middle =>
          rw [taken] at failed
          cases failed
          exact eq_iff_of_text_error taken

def leavesTrace (exchange : Exchange Request Field) : Bool :=
  !exchange.failed || exchange.call.passesLength exchange.before

theorem after_of_traceless (request : Request) (cursor : Cursor)
    (traceless : leavesTrace ⟨request, cursor, request.read cursor⟩ = false) :
    Exchange.after ⟨request, cursor, request.read cursor⟩ = cursor := by
  simp only [leavesTrace, Exchange.failed, Exchange.after, Bool.or_eq_false_iff] at traceless ⊢
  obtain ⟨failed, short⟩ := traceless
  cases outcome : request.read cursor with
  | ok field next => simp [outcome] at failed
  | error fault next => exact (eq_iff_of_error outcome).mpr short

/-- A read that fails leaves the reader where it was, unless it is a text whose length is there. So
reads that fail can be left out without a change to any other, such texts excepted. -/
theorem failed_reads (cursor : Cursor) :
    (∀ request fault next, read request cursor = .error fault next →
      (next = cursor ↔ request.passesLength cursor = false)) ∧
    ∀ requests : List Request,
      session read (((session read requests cursor).filter leavesTrace).map Exchange.call) cursor =
        (session read requests cursor).filter leavesTrace :=
  ⟨fun _ _ _ failed => eq_iff_of_error failed,
    fun requests => session_filter after_of_traceless requests cursor⟩

/-- Three bytes of text are announced and two are there. The text fails behind its length, and the
word that is read next is not the one that is read without the text. -/
theorem failed_reads_missingContent :
    ¬ (∀ request cursor fault next, read request cursor = .error fault next → next = cursor) ∧
      ¬ ∀ (requests : List Request) (cursor : Cursor),
        session read (((session read requests cursor).filter (!·.failed)).map Exchange.call) cursor =
          (session read requests cursor).filter (!·.failed) := by
  constructor
  · intro all
    cases all (.text .little .utf8) (.start [0x03, 0x00, 0x05, 0x00]) _ _ rfl
  · intro all
    cases all [.text .little .utf8, .scalar .little .uint16] (.start [0x03, 0x00, 0x05, 0x00])

end Request

end LevelFormat.Wire
