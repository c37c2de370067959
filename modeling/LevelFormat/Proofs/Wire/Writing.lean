import LevelFormat.Proofs.Text.Fidelity
import LevelFormat.Proofs.Wire.IdSet
import LevelFormat.Proofs.Wire.Meaning

/-!
What is written, and what it means.

The bytes of a value mean the value settled (`Layout.means_of_emit`). A value that some bytes mean
is settled already (`Layout.settle_of_means`), and with texts in UTF-8 it can be written in no more
bytes than those (`Layout.emit_of_means`).
-/

namespace LevelFormat.Wire

open LevelFormat.Text (Charset)

namespace Emission

theorem toExcept_eq_ok_iff (emission : Emission) (found : List UInt8) :
    emission.toExcept = .ok found ↔ emission = ofBytes found := by
  obtain ⟨bytes, fault⟩ := emission
  cases fault with
  | none => simp [toExcept, ofBytes]
  | some fault => simp [toExcept, ofBytes]

theorem ofBytes_append (front back : List UInt8) :
    ofBytes front ++ ofBytes back = ofBytes (front ++ back) := rfl

theorem append_eq_ofBytes_iff (first second : Emission) (found : List UInt8) :
    first ++ second = ofBytes found ↔
      ∃ front back, found = front ++ back ∧ first = ofBytes front ∧ second = ofBytes back := by
  obtain ⟨firstBytes, firstFault⟩ := first
  obtain ⟨secondBytes, secondFault⟩ := second
  change append _ _ = _ ↔ _
  cases firstFault with
  | some fault => simp [append, ofBytes]
  | none =>
      simp only [append, ofBytes, mk.injEq]
      constructor
      · rintro ⟨rfl, rfl⟩
        exact ⟨firstBytes, secondBytes, rfl, ⟨rfl, trivial⟩, rfl, rfl⟩
      · rintro ⟨front, back, rfl, ⟨rfl, -⟩, rfl, rfl⟩
        exact ⟨rfl, rfl⟩

theorem text_eq_ofBytes_iff (order : Order) (charset : Charset) (value : String)
    (found : List UInt8) :
    text order charset value = ofBytes found ↔
      ∃ content, charset.encode value = .ok content ∧ content.length ≤ maxCount16 ∧
        found = Word.toBytes order (UInt16.ofNat content.length) ++ content := by
  unfold text
  cases charset.encode value with
  | error fault => simp [fail, ofBytes]
  | ok content =>
      by_cases short : content.length ≤ maxCount16
      · simp [short, ofBytes, eq_comm]
      · simp [short, fail, ofBytes]

end Emission

namespace Layout

variable {α : Type}

theorem means_of_emit_bytes (packing : Packing UInt8 α) (options : Options) (values : List α) :
    (bytes packing).Means options
      (UInt8.ofNat (values.take maxCount8).length :: (values.take maxCount8).map packing.pack)
      ((bytes packing).settle values) := by
  refine ⟨(values.take maxCount8).map packing.pack, ?_, by rw [List.length_map], ?_⟩
  · rw [List.length_map]
    exact List.length_take_le _ _
  · rw [settle, List.forall₂_map_left_iff, List.forall₂_map_right_iff]
    exact List.forall₂_same.mpr fun value _ => packing.unpack_pack value

/-- The bytes of a value mean the value settled, if the texts in it are read back as written. -/
theorem means_of_emit {layout : Layout α} {options : Options} (faithful : options.charset.Faithful)
    {value : α} {found : List UInt8} (emitted : layout.emit options value = .ofBytes found) :
    layout.Means options found (layout.settle value) := by
  induction layout generalizing found with
  | empty =>
      cases emitted
      rfl
  | word packing =>
      cases emitted
      refine ⟨Word.length_toBytes _ _, ?_⟩
      rw [Word.ofBytes_toBytes, packing.unpack_pack]
      rfl
  | bytes packing =>
      cases emitted
      exact means_of_emit_bytes packing options value
  | ids =>
      cases emitted
      exact ⟨(value.smallest maxCount16).ids, List.length_take_le _ _, rfl,
        (IdSet.ofList_ids _).symm⟩
  | text =>
      obtain ⟨content, encoded, short, rfl⟩ :=
        (Emission.text_eq_ofBytes_iff _ _ _ _).mp emitted
      exact ⟨content, short, rfl, faithful value content encoded⟩
  | pair first second firstMeans secondMeans =>
      obtain ⟨front, back, rfl, firstEmitted, secondEmitted⟩ :=
        (Emission.append_eq_ofBytes_iff _ _ _).mp emitted
      exact ⟨front, back, rfl, firstMeans firstEmitted, secondMeans secondEmitted⟩
  | record parts layout means =>
      rw [Means, settle, parts.split_build]
      exact means emitted

theorem settle_of_means_bytes {packing : Packing UInt8 α} {options : Options} {values : List α}
    {found : List UInt8} (means : (bytes packing).Means options found values) :
    (bytes packing).settle values = values := by
  obtain ⟨codes, short, -, unpacked⟩ := means
  rw [settle, List.take_of_length_le (by rw [← unpacked.length_eq]; exact short)]
  clear short
  induction unpacked with
  | nil => rfl
  | cons single _ ih => rw [List.map_cons, ih, packing.settle_of_unpack _ _ single]

theorem settle_of_means {layout : Layout α} {options : Options} {value : α} {found : List UInt8}
    (means : layout.Means options found value) : layout.settle value = value := by
  induction layout generalizing found with
  | empty => rfl
  | word packing => exact packing.settle_of_unpack _ _ means.2
  | bytes packing => exact settle_of_means_bytes means
  | ids =>
      obtain ⟨listed, short, -, rfl⟩ := means
      exact IdSet.smallest_of_size_le (Nat.le_trans (IdSet.size_ofList_le listed) short)
  | text => rfl
  | pair first second firstSettled secondSettled =>
      obtain ⟨front, back, -, frontMeans, backMeans⟩ := means
      rw [settle, firstSettled frontMeans, secondSettled backMeans]
  | record parts layout settled =>
      rw [settle, settled means, parts.build_split]

def listsIds : {α : Type} → Layout α → Bool
  | _, ids => true
  | _, pair first second => first.listsIds || second.listsIds
  | _, record _ layout => layout.listsIds
  | _, empty | _, word _ | _, bytes _ | _, text => false

theorem length_flatMap_toBytes (order : Order) (words : List UInt16) :
    (words.flatMap (Word.toBytes order)).length = 2 * words.length := by
  induction words with
  | nil => rfl
  | cons word words ih =>
      rw [List.flatMap_cons, List.length_append, ih, Word.length_toBytes, List.length_cons,
        Decoder.width_uint16]
      omega

theorem length_written_ids (order : Order) (listed : List UInt16) :
    (Word.toBytes order (UInt16.ofNat listed.length) ++
      listed.flatMap (Word.toBytes order)).length = 2 + 2 * listed.length := by
  rw [List.length_append, length_flatMap_toBytes, Word.length_toBytes, Decoder.width_uint16]

def contentSize : {α : Type} → Layout α → Options → α → Nat
  | _, empty, _, _ | _, word _, _, _ => 0
  | _, bytes _, _, values => (values.take maxCount8).length
  | _, ids, _, set => 2 * (set.smallest maxCount16).size
  | _, text, options, value =>
    match options.charset.encode value with
    | .ok content => content.length
    | .error _ => 0
  | _, pair first second, options, value =>
    first.contentSize options value.1 + second.contentSize options value.2
  | _, record parts layout, options, value => layout.contentSize options (parts.split value)

theorem length_of_emit {layout : Layout α} {options : Options} {value : α} {written : List UInt8}
    (emitted : layout.emit options value = .ofBytes written) :
    written.length = layout.minSize + layout.contentSize options value := by
  induction layout generalizing written with
  | empty =>
      cases emitted
      rfl
  | word packing =>
      cases emitted
      exact Word.length_toBytes _ _
  | bytes packing =>
      cases emitted
      rw [List.length_cons, List.length_map, Nat.add_comm]
      rfl
  | ids =>
      cases emitted
      exact length_written_ids options.order (value.smallest maxCount16).ids
  | text =>
      obtain ⟨content, encoded, -, rfl⟩ := (Emission.text_eq_ofBytes_iff _ _ _ _).mp emitted
      rw [List.length_append, Word.length_toBytes, contentSize, encoded]
      rfl
  | pair first second firstLength secondLength =>
      obtain ⟨front, back, rfl, firstEmitted, secondEmitted⟩ :=
        (Emission.append_eq_ofBytes_iff _ _ _).mp emitted
      rw [List.length_append, firstLength firstEmitted, secondLength secondEmitted, minSize,
        contentSize]
      omega
  | record parts layout length => exact length emitted

/-- A value that some bytes mean can be written. What is written is no longer than those bytes, and
as long where no ids are listed. -/
theorem emit_of_means {layout : Layout α} {order : Order} {value : α} {found : List UInt8}
    (means : layout.Means ⟨order, .utf8⟩ found value) :
    ∃ written, layout.emit ⟨order, .utf8⟩ value = .ofBytes written ∧
      written.length ≤ found.length ∧
      (layout.listsIds = false → written.length = found.length) := by
  induction layout generalizing found with
  | empty =>
      cases means
      exact ⟨[], rfl, Nat.le_refl _, fun _ => rfl⟩
  | word packing =>
      have same : (Word.toBytes order (packing.pack value)).length = found.length := by
        rw [Word.length_toBytes, means.1]
      exact ⟨_, rfl, Nat.le_of_eq same, fun _ => same⟩
  | bytes packing =>
      obtain ⟨codes, short, rfl, unpacked⟩ := means
      have same : (UInt8.ofNat (value.take maxCount8).length ::
          (value.take maxCount8).map packing.pack).length =
            (UInt8.ofNat codes.length :: codes).length := by
        simp only [List.length_cons, List.length_map]
        rw [List.length_take, ← unpacked.length_eq, Nat.min_eq_right short]
      exact ⟨_, rfl, Nat.le_of_eq same, fun _ => same⟩
  | ids =>
      obtain ⟨listed, short, rfl, rfl⟩ := means
      have small := IdSet.size_ofList_le listed
      refine ⟨_, rfl, ?_, fun noIds => by cases noIds⟩
      rw [IdSet.smallest_of_size_le (Nat.le_trans small short)]
      change (Word.toBytes order (UInt16.ofNat (IdSet.ofList listed).ids.length) ++
        (IdSet.ofList listed).ids.flatMap (Word.toBytes order)).length ≤ _
      rw [length_written_ids, length_written_ids]
      change (IdSet.ofList listed).ids.length ≤ _ at small
      omega
  | text =>
      obtain ⟨content, short, rfl, decoded⟩ := means
      refine ⟨_, (Emission.text_eq_ofBytes_iff _ _ _ _).mpr
        ⟨content, Charset.encode_of_decode_utf8 decoded, short, rfl⟩, Nat.le_refl _, fun _ => rfl⟩
  | pair first second firstWritten secondWritten =>
      obtain ⟨front, back, rfl, frontMeans, backMeans⟩ := means
      obtain ⟨firstBytes, firstEmitted, firstLength, firstSame⟩ := firstWritten frontMeans
      obtain ⟨secondBytes, secondEmitted, secondLength, secondSame⟩ := secondWritten backMeans
      refine ⟨firstBytes ++ secondBytes, ?_, ?_, ?_⟩
      · rw [emit, firstEmitted, secondEmitted, Emission.ofBytes_append]
      · rw [List.length_append, List.length_append]
        omega
      · intro noIds
        rw [listsIds, Bool.or_eq_false_iff] at noIds
        rw [List.length_append, List.length_append, firstSame noIds.1, secondSame noIds.2]
  | record parts layout written => exact written means

theorem encode_eq_ok_iff (layout : Layout α) (options : Options) (value : α)
    (written : List UInt8) :
    layout.encode options value = .ok written ↔ layout.emit options value = .ofBytes written :=
  Emission.toExcept_eq_ok_iff _ _

theorem decode_of_encode {layout : Layout α} {options : Options}
    (faithful : options.charset.Faithful) {value : α} {written : List UInt8}
    (encoded : layout.encode options value = .ok written) :
    layout.decode options written = .ok (layout.settle value) := by
  rw [encode_eq_ok_iff] at encoded
  rw [decode_eq_ok_iff]
  exact means_of_emit faithful encoded

end Layout

end LevelFormat.Wire
