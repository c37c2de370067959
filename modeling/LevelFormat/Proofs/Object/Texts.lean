import LevelFormat.Proofs.Object.RoundTrip
import LevelFormat.Proofs.Text.Conformance
import LevelFormat.Proofs.Wire.Locality
import LevelFormat.Proofs.Wire.Script

/-!
Texts in encodings that need not read what they write.

An object with a text is read back with the text that the encoding makes of its own bytes, or refused
with the fault of that (`Record.decode_text_of_encode`). So the encoding alone decides whether objects
keep their texts (`Record.keepsTexts_iff`), and in a library that follows the standard it is decided by
the name of the encoding (`Record.keepsTexts_of_label`).
-/

namespace LevelFormat

open LevelFormat.Text (Charset)
open LevelFormat.Wire (Cursor Decoder Emission Layout Options Order Word maxCount16)

namespace Wire.Decoder

theorem text_of_written (order : Order) (charset : Charset) {content : List UInt8}
    (short : content.length ≤ maxCount16) (position : Nat) :
    text order charset ⟨position, Word.toBytes order (UInt16.ofNat content.length) ++ content⟩ =
      ofExcept (charset.decode content) ⟨position + 2 + content.length, []⟩ := by
  have length : (Word.toBytes order (UInt16.ofNat content.length)).length = 2 :=
    Word.length_toBytes _ _
  have counted := (accepts_word UInt16 order).read ⟨length, rfl⟩ position content
  have taken := (accepts_take content.length).read ⟨rfl, rfl⟩ (position + 2) []
  rw [List.append_nil] at taken
  rw [text, bind_eq, counted, length]
  dsimp only
  rw [toNat_ofBytes_count short, bind_eq, taken]

end Wire.Decoder

namespace Object

namespace Record

variable {order : Order} {charset : Charset}

theorem encode_text_eq_ok_iff (record : Record .text) (written : List UInt8) :
    (Record.layout .text).encode ⟨order, charset⟩ record = .ok written ↔
      ∃ front content, Base.layout.emit ⟨order, charset⟩ record.base = .ofBytes front ∧
        charset.encode record.payload = .ok content ∧ content.length ≤ maxCount16 ∧
        written = front ++ (Word.toBytes order (UInt16.ofNat content.length) ++ content) := by
  rw [Layout.encode_eq_ok_iff]
  change Base.layout.emit ⟨order, charset⟩ record.base ++
    Emission.text order charset record.payload = _ ↔ _
  rw [Emission.append_eq_ofBytes_iff]
  constructor
  · rintro ⟨front, back, rfl, first, second⟩
    obtain ⟨content, encoded, short, rfl⟩ := (Emission.text_eq_ofBytes_iff _ _ _ _).mp second
    exact ⟨front, content, first, encoded, short, rfl⟩
  · rintro ⟨front, content, first, encoded, short, rfl⟩
    exact ⟨front, _, rfl, first, (Emission.text_eq_ofBytes_iff _ _ _ _).mpr
      ⟨content, encoded, short, rfl⟩⟩

theorem read_text_eq (options : Options) (cursor : Cursor) :
    (Record.layout .text).read options cursor =
      match Base.layout.read options cursor with
      | .ok base middle =>
        match Decoder.text options.order options.charset middle with
        | .ok text next => .ok ⟨base, text⟩ next
        | .error fault next => .error fault next
      | .error fault next => .error fault next := by
  change (do
    let parts ← (do
      let base ← Base.layout.read options
      let text ← Decoder.text options.order options.charset
      return (base, text))
    return (⟨parts.1, parts.2⟩ : Record .text)) cursor = _
  rw [Decoder.bind_eq, Decoder.bind_eq]
  cases Base.layout.read options cursor with
  | error fault next => rfl
  | ok base middle =>
      dsimp only
      rw [Decoder.bind_eq]
      cases Decoder.text options.order options.charset middle <;> rfl

/-- What is read back from an object with a text is up to the encoding of the text alone. -/
theorem decode_text_of_encode {record : Record .text} {written : List UInt8}
    (encoded : (Record.layout .text).encode ⟨order, charset⟩ record = .ok written) :
    ∃ content, charset.encode record.payload = .ok content ∧ content.length ≤ maxCount16 ∧
      (Record.layout .text).decode ⟨order, charset⟩ written =
        (charset.decode content).map fun text => ⟨record.base.settle, text⟩ := by
  obtain ⟨front, content, emitted, named, short, rfl⟩ := (encode_text_eq_ok_iff _ _).mp encoded
  refine ⟨content, named, short, ?_⟩
  have base := (Base.layout.accepts_read _).read (Base.means_of_emit emitted) 0
    (Word.toBytes order (UInt16.ofNat content.length) ++ content)
  rw [Layout.decode, Decoder.run, Cursor.start, read_text_eq, base]
  dsimp only
  rw [Decoder.text_of_written order charset short]
  cases charset.decode content <;> rfl

/-- An object with a text that can be written is read back with that text. -/
def KeepsTexts (charset : Charset) : Prop :=
  ∀ order record written, (Record.layout .text).encode ⟨order, charset⟩ record = .ok written →
    (Record.layout .text).decode ⟨order, charset⟩ written =
      .ok ⟨record.base.settle, record.payload⟩

theorem keepsTexts_iff :
    KeepsTexts charset ↔ ∀ text bytes, bytes.length ≤ maxCount16 →
      charset.encode text = .ok bytes → charset.decode bytes = .ok text := by
  constructor
  · intro keeps text bytes short named
    have encoded : (Record.layout .text).encode ⟨.little, charset⟩ ⟨Base.ofId 914, text⟩ = .ok _ :=
      (encode_text_eq_ok_iff _ _).mpr ⟨_, bytes, rfl, named, short, rfl⟩
    obtain ⟨content, again, -, decoded⟩ := decode_text_of_encode encoded
    cases named.symm.trans again
    rw [keeps _ _ _ encoded] at decoded
    cases outcome : charset.decode bytes with
    | error fault =>
        rw [outcome] at decoded
        cases decoded
    | ok found =>
        rw [outcome] at decoded
        cases decoded
        rfl
  · intro faithful order record written encoded
    obtain ⟨content, named, short, decoded⟩ := decode_text_of_encode encoded
    rw [decoded, faithful _ _ short named]
    rfl

theorem not_keepsTexts (conforms : charset.Conforms) (member : charset.name ∈ Charset.losing) :
    ¬KeepsTexts charset := by
  intro keeps
  obtain ⟨text, bytes, short, written, lost⟩ := conforms.exists_lost member
  exact lost (keepsTexts_iff.mp keeps text bytes (Nat.le_trans short (by decide)) written)

/-- In a library whose encodings do what the standard lays down, the name of an encoding says whether
all texts are read back as they were written, in objects too. They are not in encodings that are
written as UTF-8, nor in those that write some characters as others. In any encoding, an object is
read back with what the encoding reads from the bytes that it wrote. -/
theorem keepsTexts_of_label {library : String → Option Charset}
    (conforms : ∀ label charset, library label = some charset → charset.Conforms)
    {label : String} (found : Charset.find library label = .ok charset) :
    (charset.name ∈ Charset.keeping → charset.Faithful ∧ KeepsTexts charset) ∧
      (charset.name ∈ Charset.losing → ¬charset.Faithful ∧ ¬KeepsTexts charset) ∧
      ∀ order record written,
        (Record.layout .text).encode ⟨order, charset⟩ record = .ok written →
          ∃ content, charset.encode record.payload = .ok content ∧
            (Record.layout .text).decode ⟨order, charset⟩ written =
              (charset.decode content).map fun text => ⟨record.base.settle, text⟩ := by
  have lawful : charset.Conforms := conforms _ _ (Charset.find_eq_ok_iff.mp found)
  refine ⟨fun member => ?_, fun member => ?_, fun order record written encoded => ?_⟩
  · have faithful := lawful.faithful member
    exact ⟨faithful, keepsTexts_iff.mpr fun text bytes _ => faithful text bytes⟩
  · exact ⟨lawful.not_faithful member, not_keepsTexts lawful member⟩
  · obtain ⟨content, named, -, decoded⟩ := decode_text_of_encode encoded
    exact ⟨content, named, decoded⟩

def latinAndUtf16 (label : String) : Option Charset :=
  if label = "latin1" then some Text.Standard.windows1252.charset
  else if label = "utf-16le" then some Text.Standard.utf16Le.charset
  else none

theorem conforms_utf16Le : Text.Standard.utf16Le.charset.Conforms where
  utf8 named := absurd named (by decide)
  utf16Le _ := rfl
  utf16Be named := absurd named (by decide)
  replacement named := absurd named (by decide)
  output _ _ := rfl
  characterwise listed := absurd listed (by decide)
  folds fold listed named := by
    have apart : ∀ fold ∈ Charset.folds, fold.name ≠ "UTF-16LE" := by decide
    exact absurd named.symm (apart fold listed)

theorem conforms_latinAndUtf16 (label : String) (charset : Charset)
    (found : latinAndUtf16 label = some charset) : charset.Conforms := by
  unfold latinAndUtf16 at found
  split at found
  · cases found
    exact Text.CodePage.conforms (by decide +kernel) (by decide)
  · split at found
    · cases found
      exact conforms_utf16Le
    · cases found

theorem keepsTexts_of_label_latinAndUtf16 :
    ∃ latin utf16, Charset.find latinAndUtf16 "latin1" = .ok latin ∧
      Charset.find latinAndUtf16 " utf-16le" = .ok utf16 ∧ KeepsTexts latin ∧ ¬KeepsTexts utf16 := by
  have latin : Charset.find latinAndUtf16 "latin1" = .ok Text.Standard.windows1252.charset :=
    Charset.find_eq_ok_iff.mpr rfl
  have utf16 : Charset.find latinAndUtf16 " utf-16le" = .ok Text.Standard.utf16Le.charset :=
    Charset.find_eq_ok_iff.mpr rfl
  refine ⟨_, _, latin, utf16, ?_, ?_⟩
  · exact ((keepsTexts_of_label conforms_latinAndUtf16 latin).1 (by decide)).2
  · exact ((keepsTexts_of_label conforms_latinAndUtf16 utf16).2.1 (by decide)).2

/-- The letter A in UTF-16 is written as one byte, which is no UTF-16. -/
theorem decode_encode_utf16Le :
    ∃ charset written, Charset.ofLabel "utf-16le" = .ok charset ∧
      charset.encode "A" = .ok [0x41] ∧
      charset.decode [0x41] = .error (.malformedText "A" .undecodable) ∧
      (Record.layout .text).encode ⟨.little, charset⟩ ⟨Base.ofId 914, "A"⟩ = .ok written ∧
      (Record.layout .text).decode ⟨.little, charset⟩ written =
        .error (.malformedText "A" .undecodable) := by
  have listed : Text.Standard.ofLabel? (String.ofList (Text.trim "utf-16le".toList)) =
      some .utf16Le := by
    decide +kernel
  refine ⟨Text.Standard.utf16Le.charset, _, Charset.find_eq_ok_iff.mpr ?_, rfl, rfl, rfl, rfl⟩
  rw [Text.catalogue, listed]
  rfl

end Record

end Object

end LevelFormat
