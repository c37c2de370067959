import LevelFormat.Proofs.Text.Fidelity
import LevelFormat.Text.Catalogue

/-!
Which encodings keep their texts, in a library that does what the web platform's standard lays down.

Encodings of one byte for each character, and of those with two-byte characters Big5 and EUC-KR, give
a character the bytes from which it is read. UTF-16 and the replacement encoding are read as their
names say and written as UTF-8. The three Japanese encodings write some characters as others. GBK and
gb18030 are in neither list: what they lose depends on the edition of their tables.
-/

namespace LevelFormat.Text

namespace Charset

def characterwise : List String := [
    "Big5", "EUC-KR", "IBM866", "ISO-8859-2", "ISO-8859-3", "ISO-8859-4", "ISO-8859-5", "ISO-8859-6",
    "ISO-8859-7", "ISO-8859-8", "ISO-8859-8-I", "ISO-8859-10", "ISO-8859-13", "ISO-8859-14",
    "ISO-8859-15", "ISO-8859-16", "KOI8-R", "KOI8-U", "macintosh", "windows-874", "windows-1250",
    "windows-1251", "windows-1252", "windows-1253", "windows-1254", "windows-1255", "windows-1256",
    "windows-1257", "windows-1258", "x-mac-cyrillic", "x-user-defined"]

def writtenAsUtf8 : List String := ["UTF-16LE", "UTF-16BE", "replacement"]

structure Fold where
  name : String
  text : String
  other : String

def folds : List Fold := [
    ⟨"EUC-JP", "¥", "\\"⟩, ⟨"EUC-JP", "‾", "~"⟩, ⟨"EUC-JP", "−", "－"⟩, ⟨"Shift_JIS", "¥", "\\"⟩,
    ⟨"Shift_JIS", "‾", "~"⟩, ⟨"Shift_JIS", "−", "－"⟩, ⟨"ISO-2022-JP", "−", "－"⟩]

theorem text_ne_other : ∀ fold ∈ folds, fold.text ≠ fold.other := by
  decide

def keeping : List String := "UTF-8" :: characterwise

def losing : List String := writtenAsUtf8 ++ folds.map Fold.name

/-- The encoding does what the standard lays down for its name, as far as it is needed here. -/
structure Conforms (charset : Charset) : Prop where
  utf8 : charset.name = "UTF-8" → charset = utf8
  utf16Le : charset.name = "UTF-16LE" → charset.decode? = Utf16.decode? .little
  utf16Be : charset.name = "UTF-16BE" → charset.decode? = Utf16.decode? .big
  replacement : charset.name = "replacement" → ∀ bytes, bytes ≠ [] → charset.decode? bytes = none
  output : charset.name ∈ writtenAsUtf8 → ∀ text, charset.encode? text = some (Utf8.encode text)
  characterwise : charset.name ∈ characterwise → ∃ code?, charset.ByCharacter code?
  folds : ∀ fold ∈ folds, charset.name = fold.name → ∃ bytes, bytes.length ≤ 8 ∧
    charset.encode? fold.text = some bytes ∧ charset.encode? fold.other = some bytes

namespace Conforms

variable {charset : Charset}

theorem faithful (conforms : charset.Conforms) (member : charset.name ∈ keeping) :
    charset.Faithful := by
  rcases List.mem_cons.mp member with named | listed
  · rw [conforms.utf8 named]
    exact faithful_utf8
  · obtain ⟨code?, lawful⟩ := conforms.characterwise listed
    exact lawful.faithful

theorem decode?_letter (conforms : charset.Conforms) (member : charset.name ∈ writtenAsUtf8) :
    charset.decode? [0x41] = none := by
  simp only [writtenAsUtf8, List.mem_cons, List.not_mem_nil, or_false] at member
  rcases member with named | named | named
  · rw [conforms.utf16Le named]
    rfl
  · rw [conforms.utf16Be named]
    rfl
  · exact conforms.replacement named [0x41] (List.cons_ne_nil _ _)

theorem exists_lost (conforms : charset.Conforms) (member : charset.name ∈ losing) :
    ∃ text bytes, bytes.length ≤ 8 ∧ charset.encode text = .ok bytes ∧
      charset.decode bytes ≠ .ok text := by
  rcases List.mem_append.mp member with listed | folded
  · refine ⟨"A", [0x41], by decide, encode_eq_ok_iff.mpr (conforms.output listed "A"), ?_⟩
    rw [ne_eq, decode_eq_ok_iff, conforms.decode?_letter listed]
    exact nofun
  · obtain ⟨fold, listed, named⟩ := List.mem_map.mp folded
    obtain ⟨bytes, short, written, alike⟩ := conforms.folds fold listed named.symm
    have other := text_ne_other fold listed
    by_cases kept : charset.decode bytes = .ok fold.text
    · refine ⟨fold.other, bytes, short, encode_eq_ok_iff.mpr alike, ?_⟩
      rw [kept]
      exact fun same => other (Except.ok.inj same)
    · exact ⟨fold.text, bytes, short, encode_eq_ok_iff.mpr written, kept⟩

theorem not_faithful (conforms : charset.Conforms) (member : charset.name ∈ losing) :
    ¬charset.Faithful := by
  intro faithful
  obtain ⟨text, bytes, -, written, lost⟩ := conforms.exists_lost member
  exact lost (faithful text bytes written)

end Conforms

end Charset

/-! ### Encodings of one byte for each character -/

theorem map_flatten_mapM {α β : Type} (step : α → Option β) (values : List α) :
    (values.mapM fun value => (step value).map fun result => [result]).map List.flatten =
      values.mapM step := by
  induction values with
  | nil => rfl
  | cons value values ih =>
      rw [List.mapM_cons, List.mapM_cons, ← ih]
      cases step value with
      | none => rfl
      | some result =>
          cases values.mapM fun value => (step value).map fun result => [result] with
          | none => rfl
          | some rest => rfl

namespace CodePage

variable {page : CodePage}

theorem char?_of_byte? (fits : page.upper.length ≤ 128) {char : Char} {byte : UInt8}
    (found : page.byte? char = some byte) : page.char? byte = some char := by
  unfold byte? at found
  unfold char?
  split at found
  next ascii =>
    cases found
    have small : (UInt8.ofNat char.toNat).toNat = char.toNat := by
      rw [UInt8.toNat_ofNat']
      omega
    rw [if_pos (by rw [UInt8.lt_iff_toNat_lt, small]; exact ascii), small, Char.ofNat_toNat]
  next =>
    obtain ⟨index, place, rfl⟩ := Option.map_eq_some_iff.mp found
    obtain ⟨inside, same, -⟩ := List.idxOf?_eq_some_iff.mp place
    have number : (UInt8.ofNat (128 + index)).toNat = 128 + index := by
      rw [UInt8.toNat_ofNat']
      omega
    have upper : ¬ UInt8.ofNat (128 + index) < 128 := by
      rw [UInt8.lt_iff_toNat_lt, number]
      exact Nat.not_lt.mpr (Nat.le_add_right 128 index)
    rw [if_neg upper, number, Nat.add_sub_cancel_left, List.getElem?_eq_getElem inside, same]
    rfl

theorem byCharacter (fits : page.upper.length ≤ 128) (name : String) :
    (Charset.mk name page.decode? page.encode?).ByCharacter
      fun char => (page.byte? char).map fun byte => [byte] where
  writes text := (map_flatten_mapM page.byte? text.toList).symm
  reads_nothing := rfl
  reads_code := by
    intro char code coded rest
    obtain ⟨byte, found, rfl⟩ := Option.map_eq_some_iff.mp coded
    change ((byte :: rest).mapM page.char?).map String.ofList = _
    rw [List.mapM_cons, char?_of_byte? fits found]
    change _ = ((rest.mapM page.char?).map String.ofList).map _
    cases rest.mapM page.char? with
    | none => rfl
    | some chars => simp

theorem conforms (fits : page.upper.length ≤ 128) {name : String}
    (member : name ∈ Charset.characterwise) :
    (Charset.mk name page.decode? page.encode?).Conforms := by
  have apart : ∀ other ∈ "UTF-8" :: Charset.losing, other ∉ Charset.characterwise := by decide
  have distinct (other : String) (listed : other ∈ "UTF-8" :: Charset.losing) : name ≠ other :=
    fun same => apart other listed (same ▸ member)
  exact {
    utf8 := fun named => absurd named (distinct _ (by decide))
    utf16Le := fun named => absurd named (distinct _ (by decide))
    utf16Be := fun named => absurd named (distinct _ (by decide))
    replacement := fun named => absurd named (distinct _ (by decide))
    output := fun listed =>
      absurd rfl (distinct name (List.mem_cons_of_mem _ (List.mem_append_left _ listed)))
    characterwise := fun _ => ⟨_, byCharacter fits name⟩
    folds := fun fold listed named =>
      absurd named (distinct fold.name
        (List.mem_cons_of_mem _ (List.mem_append_right _ (List.mem_map_of_mem listed)))) }

end CodePage

end LevelFormat.Text
