import LevelFormat.Fault

/-!
What a writer puts out: some bytes, and a fault where it had to stop.

A fault does not take back the bytes before it, and nothing follows it.
-/

namespace LevelFormat.Wire

structure Emission where
  bytes : List UInt8 := []
  fault : Option Fault := none
  deriving DecidableEq

namespace Emission

def ofBytes (bytes : List UInt8) : Emission := ⟨bytes, none⟩

def fail (fault : Fault) : Emission := ⟨[], some fault⟩

def append (first second : Emission) : Emission :=
  match first.fault with
  | none => ⟨first.bytes ++ second.bytes, second.fault⟩
  | some _ => first

instance : Append Emission := ⟨append⟩

def ofExcept : Except Fault (List UInt8) → Emission
  | .ok bytes => ofBytes bytes
  | .error fault => fail fault

def toExcept (emission : Emission) : Except Fault (List UInt8) :=
  match emission.fault with
  | none => .ok emission.bytes
  | some fault => .error fault

end Emission

end LevelFormat.Wire
