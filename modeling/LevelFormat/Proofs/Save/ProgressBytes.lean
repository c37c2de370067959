import LevelFormat.Proofs.Wire.CountedBytes
import LevelFormat.Save.Progress

/-!
Bytes of progress lists.

A list is written as its first 255 values behind their number, and bytes are read exactly if the
first of them is the number of the others. Main statement: `Progress.layout_exact`.
-/

namespace LevelFormat.Save.Progress

open LevelFormat.Wire (Layout Options)

theorem decode_nil (options : Options) :
    layout.decode options [] = .error (.truncated 0 1 0) := rfl

theorem decode_cons (options : Options) (count : UInt8) (rest : List UInt8) :
    layout.decode options (count :: rest) =
      if rest.length < count.toNat then .error (.truncated (1 + rest.length) 1 0)
      else if count.toNat < rest.length then .error (.trailingBytes (rest.length - count.toNat))
      else .ok ⟨rest.map UInt8.toInt8⟩ := by
  have taken : (Layout.bytes .int8).decode options (count :: rest) = _ :=
    Layout.decode_bytes_cons options count rest
  rw [layout, Layout.decode_record, taken]
  by_cases short : rest.length < count.toNat
  · simp [short, Except.map]
  · by_cases long : count.toNat < rest.length
    · simp [short, long, Except.map]
    · simp [short, long, Except.map, parts]

/-- A list is written as at most 255 values. -/
theorem encode_eq (options : Options) (progress : Progress) :
    layout.encode options progress =
      .ok (UInt8.ofNat (progress.values.take 255).length ::
        (progress.values.take 255).map Int8.toUInt8) := rfl

theorem decode_of_encode (options : Options) (progress : Progress) (bytes : List UInt8)
    (written : layout.encode options progress = .ok bytes) :
    layout.decode options bytes = .ok ⟨progress.values.take 255⟩ := by
  rw [encode_eq] at written
  cases written
  have short := List.length_take_le 255 progress.values
  have count : (UInt8.ofNat (progress.values.take 255).length).toNat =
      (progress.values.take 255).length := by
    rw [UInt8.toNat_ofNat']
    omega
  have restored : ((progress.values.take 255).map Int8.toUInt8).map UInt8.toInt8 =
      progress.values.take 255 := by
    simp [Function.comp_def]
  rw [decode_cons, count, List.length_map, restored]
  simp

theorem encode_of_decode (options : Options) (bytes : List UInt8) (progress : Progress)
    (accepted : layout.decode options bytes = .ok progress) :
    layout.encode options progress = .ok bytes := by
  cases bytes with
  | nil =>
      rw [decode_nil] at accepted
      cases accepted
  | cons count rest =>
      rw [decode_cons] at accepted
      split at accepted
      next => cases accepted
      next short =>
        split at accepted
        next => cases accepted
        next long =>
          cases accepted
          have same : rest.length = count.toNat := by omega
          have below := count.toNat_lt
          have whole : rest.length ≤ 255 := by omega
          have restored : (rest.map UInt8.toInt8).map Int8.toUInt8 = rest := by
            simp [Function.comp_def]
          rw [encode_eq, List.take_of_length_le (by rw [List.length_map]; exact whole), restored,
            List.length_map, same, UInt8.ofNat_toNat]

/-- Writing cuts a list behind 255 values and loses nothing else. Bytes are read where the first
announces as many as follow it, and the values that are read from them are written as them. -/
theorem layout_exact (options : Options) :
    (∀ progress, ∃ bytes, layout.encode options progress = .ok bytes ∧
      layout.decode options bytes = .ok ⟨progress.values.take 255⟩) ∧
    layout.decode options [] = .error (.truncated 0 1 0) ∧
    (∀ count rest, layout.decode options (count :: rest) =
      if rest.length < count.toNat then .error (.truncated (1 + rest.length) 1 0)
      else if count.toNat < rest.length then .error (.trailingBytes (rest.length - count.toNat))
      else .ok ⟨rest.map UInt8.toInt8⟩) ∧
    ∀ bytes progress, layout.decode options bytes = .ok progress →
      layout.encode options progress = .ok bytes :=
  ⟨fun progress => ⟨_, rfl, decode_of_encode options progress _ rfl⟩, decode_nil options,
    decode_cons options, encode_of_decode options⟩

theorem layout_exact_negative :
    layout.decode { order := .little } [2, 10, 0xFF] = .ok ⟨[10, -1]⟩ ∧
      layout.encode { order := .little } ⟨[10, -1]⟩ = .ok [2, 10, 0xFF] :=
  have accepted : layout.decode { order := .little } [2, 10, 0xFF] = .ok ⟨[10, -1]⟩ := by rfl
  ⟨accepted, (layout_exact { order := .little }).2.2.2 _ _ accepted⟩

end LevelFormat.Save.Progress
