import LevelFormat.Proofs.Json.Printed
import LevelFormat.Save.VersionDocument

/-!
Versions written as JSON documents and read again.

The two members are read one after the other, each up to the character behind its number. Main
statement: `Version.ofJson_toJson`.
-/

namespace LevelFormat.Save

open LevelFormat.Json (EndsNumeral IsPlain Reader)
open LevelFormat.Number (naturalText)

namespace Version

def words (version : Version) : UInt32 × UInt8 := (version.major, UInt8.ofNat version.minor)

theorem toNat_words (version : Version) : version.words.2.toNat = version.minor := by
  change (UInt8.ofNat version.minor).toNat = version.minor
  rw [UInt8.toNat_ofNat', Nat.mod_eq_of_lt (by omega)]

theorem ofParts_words (version : Version) :
    ofParts version.words.1 version.words.2 = .ok version := by
  simp only [ofParts, toNat_words, version.minor.isLt, ↓reduceDIte]
  rfl

def majorKey : List Char := "major".toList

def minorKey : List Char := "minor".toList

theorem majorKey_plain : ∀ char ∈ majorKey, IsPlain char := by
  simp [majorKey, IsPlain]

theorem minorKey_plain : ∀ char ∈ minorKey, IsPlain char := by
  simp [minorKey, IsPlain]

theorem toList_toJson (version : Version) :
    version.toJson.toList =
      '{' :: '"' :: (majorKey ++ '"' :: ':' :: (naturalText version.major.toNat ++
        ',' :: '"' :: (minorKey ++ '"' :: ':' :: (naturalText version.minor ++ ['}'])))) := by
  simp only [toJson, String.toList_append, String.toList_ofList, List.append_assoc]
  rfl

namespace Draft

variable {draft : Draft} {rest : List Char}

theorem member_major (missing : draft.major = none) (major : UInt32) (ends : EndsNumeral rest) :
    member majorKey draft (':' :: (naturalText major.toNat ++ rest)) =
      .ok ({ draft with major := some major }, rest) := by
  change (if draft.major.isSome then _ else _ : Reader Draft) _ = _
  rw [missing, if_neg (by decide)]
  exact Reader.behind_colon (Reader.uint32_naturalText major ends) _

theorem member_minor (missing : draft.minor = none) (minor : UInt8) (ends : EndsNumeral rest) :
    member minorKey draft (':' :: (naturalText minor.toNat ++ rest)) =
      .ok ({ draft with minor := some minor }, rest) := by
  change (if draft.minor.isSome then _ else _ : Reader Draft) _ = _
  rw [missing, if_neg (by decide)]
  exact Reader.behind_colon (Reader.uint8_naturalText minor ends) _

end Draft

theorem map_member_toJson (version : Version) :
    Reader.map Draft.member {} version.toJson.toList =
      .ok (⟨some version.words.1, some version.words.2⟩, []) := by
  have comma (rest : List Char) : EndsNumeral (',' :: rest) := by
    rintro _ ⟨⟩
    decide
  have closing : EndsNumeral ['}'] := by
    rintro _ ⟨⟩
    decide
  have minor : Draft.member minorKey ⟨some version.major, none⟩
      (':' :: (naturalText version.words.2.toNat ++ ['}'])) = _ :=
    Draft.member_minor rfl version.words.2 closing
  rw [toNat_words] at minor
  rw [toList_toJson, Reader.map_of_members]
  rw [Reader.members_of_comma _ (Reader.string_of_plain majorKey_plain _)
    (Draft.member_major rfl version.major (comma _))]
  rw [List.length_append, List.length_cons, ← Nat.add_assoc]
  exact Reader.members_of_closing _ (Reader.string_of_plain minorKey_plain _) minor

theorem read_of_readParts {parts : UInt32 × UInt8} {text rest : List Char}
    (taken : readParts text = .ok (parts, rest)) :
    read text =
      match ofParts parts.1 parts.2 with
      | .ok version => .ok (version, rest)
      | .error fault => .error (.refused fault) := by
  rw [read, Reader.bind_of_ok taken]
  obtain ⟨major, minor⟩ := parts
  cases checked : ofParts major minor with
  | ok version =>
      simp only [checked]
      rfl
  | error fault =>
      simp only [checked]
      rfl

/-- A version is read back from its document, whatever its major part. -/
theorem ofJson_toJson (version : Version) : ofJson version.toJson = .ok version := by
  have parts : readParts version.toJson.toList = .ok (version.words, []) := by
    have members := version.map_member_toJson
    rw [toList_toJson] at members ⊢
    rw [readParts, Reader.bind_of_ok (Reader.peek_cons rfl _)]
    change readObject _ = _
    rw [readObject, Reader.bind_of_ok members]
    rfl
  rw [ofJson, Reader.run'_finish, read_of_readParts parts, ofParts_words]
  rfl

end Version

theorem GameVersion.ofJson_toJson (game : GameVersion) : ofJson game.toJson = .ok game := by
  rw [ofJson, toJson, Version.ofJson_toJson]
  rfl

end LevelFormat.Save
