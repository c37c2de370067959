import LevelFormat.Proofs.Save.GameNumbering
import LevelFormat.Proofs.Save.VersionDocuments

/-!
Where versions come from.

Some sources give both parts as words, and the minor one is checked. The others make the parts by
division or take them from a table, without a check. What all of them build is made of the parts with
a minor one of a single digit. Main statement: `VersionSource.built_exact`.
-/

namespace LevelFormat.Save

open LevelFormat.Json (Reader)
open LevelFormat.Wire (Layout Options)

inductive VersionSource where
  | parts (major : UInt32) (minor : UInt8)
  | value (number : UInt32)
  | text (content : String)
  | bytes (options : Options) (found : List UInt8)
  | document (content : String)

namespace VersionSource

def version? : VersionSource → Option Version
  | parts major minor => (Version.ofParts major minor).toOption
  | value number => some (.ofValue number)
  | text content => (Version.ofText content).toOption
  | bytes options found => (Version.layout.decode options found).toOption
  | document content => (Version.ofJson content).toOption

def game? : VersionSource → Option GameVersion
  | parts major minor => (GameVersion.ofParts major minor).toOption
  | value number => (GameVersion.ofValue number).toOption
  | text content => (GameVersion.ofText content).toOption
  | bytes options found => (GameVersion.layout.decode options found).toOption
  | document content => (GameVersion.ofJson content).toOption

def givesParts : VersionSource → Bool
  | parts .. | document _ => true
  | value _ | text _ | bytes .. => false

end VersionSource

/-! ### Parts before any check -/

namespace Version

def divide (value : UInt32) : UInt32 × UInt8 := (value / 10, (value % 10).toUInt8)

def documentParts (text : String) : Except Json.Fault (UInt32 × UInt8) :=
  (do
    let parts ← readParts
    Reader.finish
    return parts : Reader (UInt32 × UInt8)).run' text.toList

end Version

namespace GameVersion

def number? (value : UInt32) : Option (UInt32 × UInt8) :=
  if value = 0 then some (0, 0)
  else if value ≤ 7 then some (1, (value - 1).toUInt8)
  else if value ≤ 9 then none
  else if value = 10 then some (1, 7)
  else if value = 11 then some (1, 8)
  else some (Version.divide value)

end GameVersion

namespace VersionSource

def parts? : VersionSource → Option (UInt32 × UInt8)
  | parts major minor => some (major, minor)
  | value number => some (Version.divide number)
  | text content => (Version.readValue content).toOption.map Version.divide
  | bytes _ [byte] => some (Version.divide byte.toUInt32)
  | bytes .. => none
  | document content => (Version.documentParts content).toOption

def gameParts? : VersionSource → Option (UInt32 × UInt8)
  | value number => GameVersion.number? number
  | text content => (Version.readValue content).toOption.bind GameVersion.number?
  | source => source.parts?

end VersionSource

/-! ### What is built of them -/

namespace Version

variable {major : UInt32} {minor : UInt8} {version : Version} {fault : Fault}

theorem minor_words_le (version : Version) : version.words.2 ≤ 9 := by
  rw [UInt8.le_iff_toNat_le, toNat_words]
  exact Nat.le_of_lt_succ version.minor.isLt

/-- Parts that were used without a check would have passed it. -/
theorem map_eq_filter {α : Type} {built : Option α} {toWords : α → UInt32 × UInt8}
    {parts? : Option (UInt32 × UInt8)} (single : ∀ value, (toWords value).2 ≤ 9)
    (same : built.map toWords = parts?) : built.map toWords = parts?.filter (·.2 ≤ 9) := by
  subst same
  cases built with
  | none => rfl
  | some value => exact (if_pos (decide_eq_true (single value))).symm

theorem words_ofValue (value : UInt32) : (ofValue value).words = divide value := by
  refine Prod.ext rfl ?_
  rw [← UInt8.toNat_inj, toNat_words, divide, UInt32.toNat_toUInt8, UInt32.toNat_mod]
  simp only [ofValue, UInt32.reduceToNat]
  omega

theorem words_of_ofParts (checked : ofParts major minor = .ok version) :
    version.words = (major, minor) ∧ minor ≤ 9 := by
  unfold ofParts at checked
  split at checked
  next small =>
    cases checked
    refine ⟨Prod.ext rfl UInt8.ofNat_toNat, ?_⟩
    rw [UInt8.le_iff_toNat_le]
    exact Nat.le_of_lt_succ small
  next => cases checked

theorem lt_minor_of_ofParts (refused : ofParts major minor = .error fault) : ¬ minor ≤ 9 := by
  unfold ofParts at refused
  split at refused
  next => cases refused
  next large =>
    rw [UInt8.le_iff_toNat_le]
    exact fun small => large (Nat.lt_succ_of_le small)

theorem map_words_ofParts (major : UInt32) (minor : UInt8) :
    (ofParts major minor).toOption.map words = (some (major, minor)).filter (·.2 ≤ 9) := by
  rw [Option.filter_some]
  cases checked : ofParts major minor with
  | error fault => simp [Except.toOption, lt_minor_of_ofParts checked]
  | ok version => simp [Except.toOption, words_of_ofParts checked]

theorem map_words_ofText (text : String) :
    (ofText text).toOption.map words = (readValue text).toOption.map divide := by
  rw [ofText]
  cases readValue text with
  | error fault => rfl
  | ok value => exact congrArg some (words_ofValue value)

theorem map_words_decode (options : Options) (bytes : List UInt8) :
    (layout.decode options bytes).toOption.map words = (VersionSource.bytes options bytes).parts? := by
  match bytes with
  | [] => rfl
  | [byte] =>
      rw [(decode_singleton_eq_ok_iff options byte _).mpr rfl]
      exact congrArg some (words_ofValue _)
  | first :: second :: rest =>
      cases decoded : layout.decode options (first :: second :: rest) with
      | error fault => rfl
      | ok version =>
          have length := ((Layout.decode_eq_ok_iff _ _ _ _).mp decoded).1
          cases length

theorem map_words_ofJson (text : String) :
    (ofJson text).toOption.map words = (documentParts text).toOption.filter (·.2 ≤ 9) := by
  rw [ofJson, documentParts, Reader.run'_finish, Reader.run'_finish]
  cases taken : readParts text.toList with
  | error fault =>
      have failed : read text.toList = .error fault := Reader.bind_of_error taken
      rw [failed]
      rfl
  | ok found =>
      obtain ⟨parts, rest⟩ := found
      have checked := map_words_ofParts parts.1 parts.2
      rw [read_of_readParts taken]
      cases built : ofParts parts.1 parts.2 with
      | error fault =>
          rw [built] at checked
          change none = ((Reader.finish rest).map fun _ => parts).toOption.filter _
          cases Reader.finish rest with
          | error fault => rfl
          | ok after => exact checked
      | ok version =>
          rw [built] at checked
          change ((Reader.finish rest).map fun _ => version).toOption.map words =
            ((Reader.finish rest).map fun _ => parts).toOption.filter _
          cases Reader.finish rest with
          | error fault => rfl
          | ok after => exact checked

end Version

namespace GameVersion

theorem words_ofValue (value : UInt32) :
    (ofValue value).toOption.map (·.version.words) = number? value := by
  by_cases early : value.toNat < 12
  · have all : ∀ number < 12, (ofValue (UInt32.ofNat number)).toOption.map (·.version.words) =
        number? (UInt32.ofNat number) := by
      decide
    have same := all value.toNat early
    rwa [UInt32.ofNat_toNat] at same
  · have plain : ofValue value = .ok ⟨.ofValue value⟩ :=
      (ofValue_eq_ok_iff _ _).mpr (.inr ⟨.inr (Nat.le_of_not_lt early), rfl⟩)
    have numbered : number? value = some (Version.divide value) := by
      simp only [number?, ← UInt32.toNat_inj, UInt32.le_iff_toNat_le, UInt32.reduceToNat]
      repeat rw [if_neg (by omega)]
    rw [plain, numbered]
    exact congrArg some (Version.words_ofValue value)

theorem map_words_ofText (text : String) :
    (ofText text).toOption.map (·.version.words) =
      (Version.readValue text).toOption.bind number? := by
  rw [ofText]
  cases Version.readValue text with
  | error fault => rfl
  | ok value => exact words_ofValue value

theorem map_words_mk {ε : Type} (outcome : Except ε Version) :
    (outcome.map mk).toOption.map (·.version.words) = outcome.toOption.map Version.words := by
  cases outcome with
  | error fault => rfl
  | ok version => rfl

end GameVersion

namespace VersionSource

theorem version?_unchecked (source : VersionSource) (unchecked : source.givesParts = false) :
    source.version?.map Version.words = source.parts? := by
  cases source with
  | value number => exact congrArg some (Version.words_ofValue number)
  | text content => exact Version.map_words_ofText content
  | bytes options found => exact Version.map_words_decode options found
  | parts _ _ => cases unchecked
  | document _ => cases unchecked

theorem version?_exact (source : VersionSource) :
    source.version?.map Version.words = source.parts?.filter (·.2 ≤ 9) := by
  cases checked : source.givesParts with
  | false => exact Version.map_eq_filter Version.minor_words_le (source.version?_unchecked checked)
  | true =>
      cases source with
      | parts major minor => exact Version.map_words_ofParts major minor
      | document content => exact Version.map_words_ofJson content
      | _ => cases checked

theorem game?_unchecked (source : VersionSource) (unchecked : source.givesParts = false) :
    source.game?.map (·.version.words) = source.gameParts? := by
  cases source with
  | value number => exact GameVersion.words_ofValue number
  | text content => exact GameVersion.map_words_ofText content
  | bytes options found =>
      rw [game?, GameVersion.layout, Layout.decode_record]
      exact (GameVersion.map_words_mk _).trans (Version.map_words_decode options found)
  | parts _ _ => cases unchecked
  | document _ => cases unchecked

theorem game?_exact (source : VersionSource) :
    source.game?.map (·.version.words) = source.gameParts?.filter (·.2 ≤ 9) := by
  cases checked : source.givesParts with
  | false =>
      exact Version.map_eq_filter (fun game => game.version.minor_words_le)
        (source.game?_unchecked checked)
  | true =>
      cases source with
      | parts major minor =>
          exact (GameVersion.map_words_mk _).trans (Version.map_words_ofParts major minor)
      | document content =>
          exact (GameVersion.map_words_mk _).trans (Version.map_words_ofJson content)
      | _ => cases checked

/-- Each source builds a version of the parts that it comes to, where the minor one is a single digit,
and nothing where it is not. Of parts that nobody checks it always is. A document of a version is read
back as this version, whatever its major part. -/
theorem built_exact :
    (∀ source : VersionSource,
      source.version?.map Version.words = source.parts?.filter (·.2 ≤ 9) ∧
        source.game?.map (·.version.words) = source.gameParts?.filter (·.2 ≤ 9) ∧
        (source.givesParts = false → source.version?.map Version.words = source.parts? ∧
          source.game?.map (·.version.words) = source.gameParts?)) ∧
      ∀ version : Version, Version.ofJson version.toJson = .ok version ∧
        GameVersion.ofJson version.toJson = .ok ⟨version⟩ :=
  ⟨fun source => ⟨source.version?_exact, source.game?_exact, fun unchecked =>
      ⟨source.version?_unchecked unchecked, source.game?_unchecked unchecked⟩⟩,
    fun version => ⟨version.ofJson_toJson, GameVersion.ofJson_toJson ⟨version⟩⟩⟩

/-- The value 7 is 0.7, and 1.6 for the game. The value of the largest version is cut, its document is
not. -/
theorem built_exact_largest :
    (value 7).givesParts = false ∧
      (value 7).version?.map Version.words = some (0, 7) ∧
      (value 7).game?.map (·.version.words) = some (1, 6) ∧
      (parts 2 10).version?.map Version.words = none ∧
      Version.ofJson "\x7b\"major\":4294967295,\"minor\":9\x7d" = .ok ⟨4294967295, 9⟩ := by
  obtain ⟨-, -, unchecked⟩ := built_exact.1 (value 7)
  obtain ⟨plain, game⟩ := unchecked rfl
  have printed : Version.toJson ⟨4294967295, 9⟩ = "\x7b\"major\":4294967295,\"minor\":9\x7d" := by
    decide
  have back := (built_exact.2 ⟨4294967295, 9⟩).1
  rw [printed] at back
  exact ⟨rfl, plain, game, (built_exact.1 (parts 2 10)).1, back⟩

end VersionSource

end LevelFormat.Save
