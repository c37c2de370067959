/-!
The marks that hold a saved text together.
-/

namespace LevelFormat.Save

/-- The separators of lists and recordings, and the mark of a truth value that is set. Unless
told otherwise, these are the marks that the game itself writes. -/
structure Marks where
  progressSeparator : Char := ','
  recordingSeparator : Char := ';'
  affirmative : List Char := ['1']
  deriving DecidableEq

instance : Inhabited Marks := ⟨{}⟩

end LevelFormat.Save
