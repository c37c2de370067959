/-!
Powers of natural numbers.

Mathlib gives these powers an instance of its own. The library keeps to that of the core library
everywhere, so its definitions are the same terms whether or not Mathlib is loaded.
-/

namespace LevelFormat

attribute [scoped instance (2000), default_instance 20000] instPowNat

end LevelFormat
