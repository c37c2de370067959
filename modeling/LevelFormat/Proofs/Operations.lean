import LevelFormat.Proofs.Object.Concatenation
import LevelFormat.Proofs.Wire.Session
import LevelFormat.Save.GameVersion
import LevelFormat.Save.Progress
import LevelFormat.Wire.Field

/-!
Everything that can be asked of a reader.

Fields, values and objects are read in any order, also after faults. Main statement:
`Operation.session_sound`.
-/

namespace LevelFormat

open LevelFormat.Object (Entity Kind Record)
open LevelFormat.Save (GameVersion Progress Version)
open LevelFormat.Wire (Cursor Decoder Enumeration Exchange Field Layout Options Packing Request Word
  session)

inductive Stored : Type 1 where
  | scalar (type : Wire.Scalar)
  | text
  | setting (α : Type) [DecidableEq α] [Enumeration α]
  | flags (mask : UInt8)
  | color
  | hsv
  | curve
  | groupPair
  | record (kind : Kind)
  | version
  | gameVersion
  | progress

namespace Stored

abbrev Value : Stored → Type
  | scalar type => type.Value
  | text => String
  | setting α => α
  | flags mask => Bits.FlagByte mask
  | color => Object.Color
  | hsv => Object.Hsv
  | curve => Object.Curve
  | groupPair => Object.GroupPair
  | record kind => Record kind
  | version => Version
  | gameVersion => GameVersion
  | progress => Progress

def layout : (stored : Stored) → Layout stored.Value
  | scalar type => type.layout
  | text => .text
  | setting α => .enumeration α
  | flags mask => .flagByte mask
  | color => Object.Color.layout
  | hsv => Object.Hsv.layout
  | curve => Object.Curve.layout
  | groupPair => Object.GroupPair.layout
  | record kind => Record.layout kind
  | version => Version.layout
  | gameVersion => GameVersion.layout
  | progress => Progress.layout

theorem placeless_version : Version.layout.Placeless :=
  Packing.placeless_of_accepts fun _ => ⟨_, rfl⟩

theorem placeless (stored : Stored) : stored.layout.Placeless := by
  cases stored with
  | scalar type => cases type <;> exact Packing.placeless_total _ _ _
  | text => trivial
  | setting α => exact Packing.placeless_enumeration α
  | flags mask => exact Packing.placeless_total _ _ _
  | record kind => exact Record.placeless kind
  | version => exact placeless_version
  | gameVersion => exact placeless_version
  | progress => exact Packing.placeless_total _ _ _
  | _ => simp [layout, Object.Curve.layout, Object.GroupPair.layout]

end Stored

inductive Operation : Type 1 where
  | peek (count : Nat)
  | field (request : Request)
  | value (stored : Stored) (options : Options)
  | entity (kind : Kind) (options : Options)
  | inferred (options : Options)

namespace Operation

abbrev Answer : Operation → Type
  | peek _ => List UInt8
  | field _ => Field
  | value stored _ => stored.Value
  | entity .. | inferred _ => Entity

def read : (operation : Operation) → Decoder operation.Answer
  | peek count => Decoder.peek count
  | field request => request.read
  | value stored options => stored.layout.read options
  | entity kind options => Entity.decode kind options
  | inferred options => Entity.decodeInferred options

def perform (operation : Operation) : Decoder Unit := do
  let _ ← operation.read
  return ()

end Operation

theorem Wire.Request.candid_read (request : Request) : request.read.Candid := by
  cases request with
  | scalar order type =>
      exact (Layout.candid_read (Stored.scalar type).placeless _).bind fun _ =>
        Decoder.candid_pure _
  | block length => exact (Decoder.candid_take length).bind fun _ => Decoder.candid_pure _
  | text order charset =>
      exact (Decoder.candid_text order charset).bind fun _ => Decoder.candid_pure _

namespace Object.Entity

theorem candid_decode (kind : Kind) (options : Options) : (decode kind options).Candid :=
  (Layout.candid_read (Record.placeless kind) options).bind fun _ => Decoder.candid_pure _

theorem candid_decodeInferred (options : Options) : (decodeInferred options).Candid :=
  (Decoder.candid_peek 2).bind fun _ => candid_decode _ options

/-- Two bytes are the id whichever reader they are read with. One that sees nothing else begins at
position zero, but it has no fault to tell its position with. -/
theorem decodeInferred_eq_nested (options : Options) :
    decodeInferred options = (do
      let bytes ← Decoder.peek 2
      let id ← Decoder.ofExcept ((Decoder.word UInt16 options.order).run bytes)
      decode (Kind.infer id) options) := by
  funext cursor
  rw [decodeInferred, Decoder.bind_eq, Decoder.bind_eq, Decoder.peek_eq]
  by_cases short : cursor.remaining < 2
  · rw [if_pos short]
  · rw [if_neg short]
    have whole : (cursor.rest.take 2).length = Word.width UInt16 :=
      List.length_take_of_le (Nat.le_of_not_lt short)
    have id := ((Decoder.accepts_word UInt16 options.order).run_eq_ok_iff _ _).mpr ⟨whole, rfl⟩
    simp only [Decoder.bind_eq, id]
    rfl

end Object.Entity

namespace Operation

theorem candid_read (operation : Operation) : operation.read.Candid := by
  cases operation with
  | peek count => exact Decoder.candid_peek count
  | field request => exact request.candid_read
  | value stored options => exact Layout.candid_read stored.placeless options
  | entity kind options => exact Entity.candid_decode kind options
  | inferred options => exact Entity.candid_decodeInferred options

theorem candid_perform (operation : Operation) : operation.perform.Candid :=
  operation.candid_read.bind fun _ => Decoder.candid_pure ()

/-- The reader goes on inside its buffer, and where bytes are missing the fault says how many are left
of it, and that they are too few. -/
structure Sound (bytes : List UInt8) (exchange : Exchange Operation Unit) : Prop where
  forward : exchange.before.position ≤ exchange.after.position
  inside : exchange.after.position + exchange.after.remaining = bytes.length
  truncated : ∀ offset needed remaining next,
    exchange.result = .error (.truncated offset needed remaining) next →
      offset = exchange.after.position ∧ remaining = exchange.after.remaining ∧
        remaining < needed

/-- Whatever is asked of a reader, its position never falls and never leaves the buffer, and faults
about missing bytes are true of the place where the reader stopped. -/
theorem session_sound (bytes : List UInt8) (operations : List Operation) :
    (session perform operations (.start bytes)).map Exchange.call = operations ∧
      ((session perform operations (.start bytes)).map fun exchange =>
        exchange.after.position).Pairwise (· ≤ ·) ∧
      ∀ exchange ∈ session perform operations (.start bytes),
        Sound bytes exchange := by
  refine ⟨Wire.map_call_session operations _, ?_, fun exchange member => ?_⟩
  · rw [List.pairwise_map]
    exact (Wire.pairwise_session candid_perform operations _).imp fun moves => moves.position_le
  · obtain ⟨result, moves, step⟩ := Wire.moves_of_mem_session candid_perform member
    refine ⟨step.position_le, ?_, fun offset needed remaining next failed => ?_⟩
    · have whole := (moves.trans step).finish_eq
      simpa [Cursor.finish, Cursor.start, Cursor.remaining] using whole
    · rw [result] at failed
      have told := (exchange.call.candid_perform.error failed).2
      rw [Exchange.after, result, failed]
      exact told

end Operation

end LevelFormat
