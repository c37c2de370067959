import LevelFormat.Proofs.Wire.Writing
import LevelFormat.Wire.Field

/-!
Fields that were written one after another, and are read back.

A field is read where it was written, and the reader stops behind it (`Field.read_of_emit`). So the
reader is always where the next field was written. Main statement: `Field.readAll_emitAll`.
-/

namespace LevelFormat.Wire

theorem Decoder.Accepts.read {α : Type} {decoder : Decoder α} {means : List UInt8 → α → Prop}
    {found : List UInt8} {value : α} (accepts : decoder.Accepts means) (meant : means found value)
    (position : Nat) (rest : List UInt8) :
    decoder ⟨position, found ++ rest⟩ = .ok value ⟨position + found.length, rest⟩ :=
  (accepts _ _ _).mpr ⟨found, ⟨rfl, rfl⟩, meant⟩

namespace Field

def Fits : Field → Prop
  | text _ charset content => charset = .utf8 ∧ (Text.Utf8.encode content).length ≤ maxCount16
  | scalar .. | block _ => True

variable {field : Field} {found : List UInt8}

theorem settle_scalar (type : Scalar) (value : type.Value) : type.layout.settle value = value := by
  cases type with
  | _ => rfl

theorem exists_emit (fits : field.Fits) : ∃ bytes, field.emit = .ofBytes bytes := by
  cases field with
  | scalar order type value =>
      cases type with
      | _ => exact ⟨_, rfl⟩
  | block bytes => exact ⟨bytes, rfl⟩
  | text order charset content =>
      obtain ⟨rfl, short⟩ := fits
      exact ⟨_, (Emission.text_eq_ofBytes_iff _ _ _ _).mpr
        ⟨_, Text.Charset.encode_utf8 content, short, rfl⟩⟩

theorem read_of_emit (fits : field.Fits) (emitted : field.emit = .ofBytes found) (position : Nat)
    (rest : List UInt8) :
    field.request.read ⟨position, found ++ rest⟩ =
      .ok field ⟨position + found.length, rest⟩ := by
  cases field with
  | scalar order type value =>
      have means := Layout.means_of_emit Text.Charset.faithful_utf8 emitted
      rw [settle_scalar] at means
      exact (Decoder.bind_ok_iff _ _ _ _ _).mpr
        ⟨value, _, (type.layout.accepts_read _).read means position rest, rfl⟩
  | block bytes =>
      cases emitted
      exact (Decoder.bind_ok_iff _ _ _ _ _).mpr
        ⟨found, _, (Decoder.accepts_take _).read ⟨rfl, rfl⟩ position rest, rfl⟩
  | text order charset content =>
      obtain ⟨rfl, -⟩ := fits
      have means : Layout.text.Means ⟨order, .utf8⟩ found content :=
        Layout.means_of_emit Text.Charset.faithful_utf8 emitted
      exact (Decoder.bind_ok_iff _ _ _ _ _).mpr
        ⟨content, _, (Layout.text.accepts_read ⟨order, .utf8⟩).read means position rest, rfl⟩

theorem read_emitAll (fields : List Field) (fits : ∀ field ∈ fields, field.Fits) :
    ∃ bytes, emitAll fields = .ofBytes bytes ∧ ∀ position rest,
      (fields.map request).mapM Request.read ⟨position, bytes ++ rest⟩ =
        .ok fields ⟨position + bytes.length, rest⟩ := by
  induction fields with
  | nil => exact ⟨[], rfl, fun _ _ => rfl⟩
  | cons field fields ih =>
      obtain ⟨first, later⟩ := List.forall_mem_cons.mp fits
      obtain ⟨front, emitted⟩ := exists_emit first
      obtain ⟨back, others, readOthers⟩ := ih later
      refine ⟨front ++ back, ?_, fun position rest => ?_⟩
      · rw [emitAll, emitted, others, Emission.ofBytes_append]
      · rw [List.map_cons, List.mapM_cons, List.append_assoc, List.length_append,
          ← Nat.add_assoc, Decoder.bind_ok_iff]
        refine ⟨field, _, read_of_emit first emitted position _, ?_⟩
        rw [Decoder.bind_ok_iff]
        exact ⟨fields, _, readOthers _ rest, rfl⟩

/-- Whatever fields are written one after another, a reader that asks for the same types, orders and
lengths gets all of them back, and stops where the bytes behind them begin. -/
theorem readAll_emitAll (fields : List Field) (fits : ∀ field ∈ fields, field.Fits)
    (appended : List UInt8) :
    ∃ bytes, emitAll fields = .ofBytes bytes ∧
      (fields.map request).mapM Request.read (.start (bytes ++ appended)) =
        .ok fields ⟨bytes.length, appended⟩ := by
  obtain ⟨bytes, emitted, read⟩ := read_emitAll fields fits
  refine ⟨bytes, emitted, ?_⟩
  have whole := read 0 appended
  rwa [Nat.zero_add] at whole

def mixed : List Field := [
  .scalar .big .int16 (-2), .scalar .little .uint32 0x01020304, .block [0xFF, 0x00],
  .text .big .utf8 "é", .scalar .little .binary32 ⟨0x7FC00001⟩, .scalar .big .bool true,
  .scalar .little .int8 (-128)]

theorem readAll_emitAll_mixed :
    (∀ field ∈ mixed, field.Fits) ∧ ∃ bytes, emitAll mixed = .ofBytes bytes ∧
      (mixed.map request).mapM Request.read (.start (bytes ++ [0x2A])) =
        .ok mixed ⟨bytes.length, [0x2A]⟩ := by
  have short : (Text.Utf8.encode "é").length ≤ maxCount16 := by decide
  have fits : ∀ field ∈ mixed, field.Fits := by simp [mixed, Fits, short]
  exact ⟨fits, readAll_emitAll mixed fits [0x2A]⟩

end Field

end LevelFormat.Wire
