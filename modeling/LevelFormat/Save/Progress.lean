import LevelFormat.Number.Numeral
import LevelFormat.Save.Marks
import LevelFormat.Wire.Layout

/-!
Percentages reached at each checkpoint, in the order of the level.
-/

namespace LevelFormat.Save

open LevelFormat.Wire (Layout Parts)

structure Progress where
  values : List Int8 := []
  deriving DecidableEq

namespace Progress

instance : Inhabited Progress := ⟨{}⟩

def resembles (marks : Marks) (text : String) : Bool :=
  text.toList.contains marks.progressSeparator

def entry? (text : List Char) : Option Int8 :=
  match Number.integer? text with
  | some number => if -128 ≤ number && number ≤ 127 then some (Int8.ofInt number) else none
  | none => none

def ofText (marks : Marks) (text : String) : Except Fault Progress :=
  if text.isEmpty then .ok {}
  else
    match (text.toList.splitOn marks.progressSeparator).mapM entry? with
    | some values => .ok ⟨values⟩
    | none => .error (.malformedText text .progressEntry)

def toText (marks : Marks) (progress : Progress) : String :=
  String.ofList ([marks.progressSeparator].intercalate
    (progress.values.map fun value => Number.integerText value.toInt))

def parts : Parts Progress (List Int8) where
  split := values
  build := mk

def layout : Layout Progress := .record parts (.bytes .int8)

end Progress

end LevelFormat.Save
