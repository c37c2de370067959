import LevelFormat.Save.Version

/-!
Versions of the game.

They are versions like any other, except that the values of the earliest ones are historical: 1.0
to 1.6 have the values 1 to 7, then come 10 and 11 for 1.7 and 1.8, and 8 and 9 were never used.
-/

namespace LevelFormat.Save

open LevelFormat.Wire (Layout Parts)

structure GameVersion where
  version : Version
  deriving DecidableEq

namespace GameVersion

instance : Inhabited GameVersion := ⟨⟨default⟩⟩

def current : GameVersion := ⟨⟨2, 1⟩⟩

def ofParts (major : UInt32) (minor : UInt8) : Except Fault GameVersion := do
  let version ← Version.ofParts major minor
  return ⟨version⟩

instance : LE GameVersion where
  le first second := first.version ≤ second.version

instance : LT GameVersion where
  lt first second := first.version < second.version

instance (first second : GameVersion) : Decidable (first ≤ second) :=
  inferInstanceAs (Decidable (first.version ≤ second.version))

instance (first second : GameVersion) : Decidable (first < second) :=
  inferInstanceAs (Decidable (first.version < second.version))

/-- The versions whose value is not made of their digits. -/
def historical : List (UInt32 × Version) :=
  [(1, ⟨1, 0⟩), (2, ⟨1, 1⟩), (3, ⟨1, 2⟩), (4, ⟨1, 3⟩), (5, ⟨1, 4⟩), (6, ⟨1, 5⟩), (7, ⟨1, 6⟩),
    (10, ⟨1, 7⟩), (11, ⟨1, 8⟩)]

def unused : List UInt32 := [8, 9]

def ofValue (value : UInt32) : Except Fault GameVersion :=
  match historical.lookup value with
  | some version => .ok ⟨version⟩
  | none =>
    if value ∈ unused then .error (.invalidVersion s!"invalid game version `{value}`")
    else .ok ⟨.ofValue value⟩

def toValue (game : GameVersion) : UInt32 :=
  match historical.find? (·.2 = game.version) with
  | some (value, _) => value
  | none => game.version.toValue

def display (game : GameVersion) : String := game.version.display

def resembles (text : String) : Bool := Version.resembles text

def ofText (text : String) : Except Fault GameVersion := do
  let value ← Version.readValue text
  ofValue value

def toText (game : GameVersion) : String :=
  String.ofList (Number.naturalText game.toValue.toNat)

def parts : Parts GameVersion Version where
  split := version
  build := mk

def layout : Layout GameVersion := .record parts Version.layout

end GameVersion

end LevelFormat.Save
