import LevelFormat.Fault

/-!
Enumerations that are stored as one byte: the code of a value is its place in the list of all
values.

`ofCode_code` and `code_eq_of_ofCode` say that the defined codes and the values correspond.
-/

namespace LevelFormat.Wire

class Enumeration (α : Type) [DecidableEq α] where
  title : String
  all : List α
  name : α → String
  mem_all : ∀ value, value ∈ all
  nodup_all : all.Nodup
  length_all_le : all.length ≤ 256

namespace Enumeration

variable {α : Type} [DecidableEq α] [Enumeration α]

def code (value : α) : UInt8 := UInt8.ofNat ((all : List α).idxOf value)

def ofCode (α : Type) [DecidableEq α] [Enumeration α] (code : UInt8) : Except Fault α :=
  match (all : List α)[code.toNat]? with
  | some value => .ok value
  | none => .error (.invalidEnumeration (title α) code.toNat)

theorem toNat_code (value : α) : (code value).toNat = (all : List α).idxOf value := by
  have inside := List.idxOf_lt_length_of_mem (mem_all value)
  have bounded := length_all_le (α := α)
  rw [code, UInt8.toNat_ofNat']
  omega

theorem ofCode_code (value : α) : ofCode α (code value) = .ok value := by
  have inside := List.idxOf_lt_length_of_mem (mem_all value)
  rw [ofCode, toNat_code, List.getElem?_eq_getElem inside]
  simp

theorem code_eq_of_ofCode {byte : UInt8} {value : α} (decoded : ofCode α byte = .ok value) :
    code value = byte := by
  unfold ofCode at decoded
  split at decoded
  next found same =>
    obtain ⟨inside, rfl⟩ := List.getElem?_eq_some_iff.mp same
    cases decoded
    rw [← UInt8.toNat_inj, toNat_code, List.Nodup.idxOf_getElem nodup_all]
  next => cases decoded

end Enumeration

end LevelFormat.Wire
