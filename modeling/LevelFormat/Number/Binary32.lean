/-!
Single-precision numbers, held as their bits.

Equality is equality of bits, so a number that is only stored and handed on keeps its exact
form, whichever of the not-a-numbers or the two zeros it is.
-/

namespace LevelFormat.Number

structure Binary32 where
  bits : UInt32
  deriving DecidableEq

namespace Binary32

def zero : Binary32 := ⟨0⟩

def one : Binary32 := ⟨0x3F800000⟩

instance : Inhabited Binary32 := ⟨zero⟩

def add (first second : Binary32) : Binary32 :=
  ⟨(Float32.ofBits first.bits + Float32.ofBits second.bits).toBits⟩

def mul (first second : Binary32) : Binary32 :=
  ⟨(Float32.ofBits first.bits * Float32.ofBits second.bits).toBits⟩

instance : Add Binary32 := ⟨add⟩

instance : Mul Binary32 := ⟨mul⟩

end Binary32

end LevelFormat.Number
