import LevelFormat.Save.RecordingItem

/-!
Recorded input: items one right after another. What lies between items is skipped.
-/

namespace LevelFormat.Save

structure Recording where
  items : List RecordingItem := []
  deriving DecidableEq

namespace Recording

def scan (marks : Marks) : List Char → List RecordingItem
  | [] => []
  | char :: skipped =>
    match _found : RecordingItem.match? marks false (char :: skipped) with
    | some (item, rest) => item :: scan marks rest
    | none => scan marks skipped
termination_by text => text.length
decreasing_by
  · exact RecordingItem.length_match? _found
  · exact Nat.lt_succ_self _

def ofText (marks : Marks) (text : String) : Recording := ⟨scan marks text.toList⟩

def toText (marks : Marks) (recording : Recording) : String :=
  String.ofList (recording.items.flatMap (RecordingItem.chars marks))

end Recording

end LevelFormat.Save
