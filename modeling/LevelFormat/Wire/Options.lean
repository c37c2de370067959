import LevelFormat.Text.Catalogue
import LevelFormat.Wire.Order

/-!
What the two ends of a wire have to agree on.
-/

namespace LevelFormat.Wire

structure Options where
  order : Order := .little
  charset : Text.Charset := .utf8

instance : Inhabited Options := ⟨.little, .utf8⟩

end LevelFormat.Wire
