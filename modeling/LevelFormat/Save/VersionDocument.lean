import LevelFormat.Json.Reader
import LevelFormat.Save.GameVersion

/-!
Versions as JSON documents: an object with the two parts, or an array of them.
-/

namespace LevelFormat.Save

open LevelFormat.Json (Reader)
open LevelFormat.Number (naturalText)

namespace Version

def recordTitle : String := "struct VersionData"

structure Draft where
  major : Option UInt32 := none
  minor : Option UInt8 := none

def Draft.member (key : List Char) (draft : Draft) : Reader Draft := do
  match String.ofList key with
  | "major" =>
    if draft.major.isSome then throw (.duplicateField "major")
    Reader.expect ':'
    return { draft with major := some (← Reader.uint32) }
  | "minor" =>
    if draft.minor.isSome then throw (.duplicateField "minor")
    Reader.expect ':'
    return { draft with minor := some (← Reader.uint8) }
  | _ =>
    Reader.expect ':'
    Reader.skipValue
    return draft

def Draft.parts : Draft → Except Json.Fault (UInt32 × UInt8)
  | ⟨none, _⟩ => .error (.missingField "major")
  | ⟨_, none⟩ => .error (.missingField "minor")
  | ⟨some major, some minor⟩ => .ok (major, minor)

def readArray : Reader (UInt32 × UInt8) := do
  let shortage (length : Nat) : Json.Fault :=
    .invalidLength length (recordTitle ++ " with 2 elements")
  Reader.expect '['
  let some major ← Reader.element? true Reader.uint32 | throw (shortage 0)
  let some minor ← Reader.element? false Reader.uint8 | throw (shortage 1)
  Reader.expect ']'
  return (major, minor)

def readObject : Reader (UInt32 × UInt8) := do
  let draft ← Reader.map Draft.member {}
  match draft.parts with
  | .ok parts => return parts
  | .error fault => throw fault

def readParts : Reader (UInt32 × UInt8) := do
  match ← Reader.peek with
  | some '[' => readArray
  | some '{' => readObject
  | _ => throw (.invalidType (← Reader.found) recordTitle)

def read : Reader Version := do
  let (major, minor) ← readParts
  match ofParts major minor with
  | .ok version => return version
  | .error fault => throw (.refused fault)

def ofJson (text : String) : Except Json.Fault Version :=
  (do
    let version ← read
    Reader.finish
    return version : Reader Version).run' text.toList

def toJson (version : Version) : String :=
  "\x7b\"major\":" ++ String.ofList (naturalText version.major.toNat) ++
    ",\"minor\":" ++ String.ofList (naturalText version.minor) ++ "\x7d"

end Version

namespace GameVersion

def ofJson (text : String) : Except Json.Fault GameVersion := do
  let version ← Version.ofJson text
  return ⟨version⟩

def toJson (game : GameVersion) : String := game.version.toJson

end GameVersion

end LevelFormat.Save
