import LevelFormat.Proofs.Wire.Reading

/-!
Which bytes stand for which values.

`Layout.Means` says so without a reader or a writer, and `Layout.accepts_read` says that reading
delivers a value exactly where bytes that mean it lie in front.
-/

namespace LevelFormat.Wire

namespace Layout

/-- The bytes are a form of the value. A value may have several: a list of ids may repeat some, and
words may have bits that do not matter. -/
def Means : {α : Type} → Layout α → Options → List UInt8 → α → Prop
  | _, empty, _, found, _ => found = []
  | _, @word ω _ _ packing, options, found, value =>
    found.length = Word.width ω ∧ packing.unpack (Word.ofBytes options.order found) = .ok value
  | _, bytes packing, _, found, values =>
    ∃ codes, codes.length ≤ maxCount8 ∧ found = UInt8.ofNat codes.length :: codes ∧
      List.Forall₂ (fun code value => packing.unpack code = .ok value) codes values
  | _, ids, options, found, set =>
    ∃ listed : List UInt16, listed.length ≤ maxCount16 ∧
      found = Word.toBytes options.order (UInt16.ofNat listed.length) ++
        listed.flatMap (Word.toBytes options.order) ∧
      set = IdSet.ofList listed
  | _, text, options, found, value =>
    ∃ content, content.length ≤ maxCount16 ∧
      found = Word.toBytes options.order (UInt16.ofNat content.length) ++ content ∧
      options.charset.decode content = .ok value
  | _, pair first second, options, found, value =>
    ∃ front back, found = front ++ back ∧ first.Means options front value.1 ∧
      second.Means options back value.2
  | _, record parts layout, options, found, value => layout.Means options found (parts.split value)

end Layout

def leadingWord (order : Order) (found : List UInt8) : UInt16 := Word.ofBytes order (found.take 2)

def listedIds (order : Order) (found : List UInt8) : List UInt16 :=
  (List.range (leadingWord order found).toNat).map fun index =>
    leadingWord order (found.drop (2 + 2 * index))

theorem toNat_count {count : Nat} (short : count ≤ maxCount16) :
    (UInt16.ofNat count).toNat = count := by
  rw [UInt16.toNat_ofNat']
  simp only [maxCount16] at short
  omega

theorem leadingWord_toBytes (order : Order) (word : UInt16) (rest : List UInt8) :
    leadingWord order (Word.toBytes order word ++ rest) = word := by
  have width : (Word.toBytes order word).length = 2 := Word.length_toBytes order word
  rw [leadingWord, List.take_left' width, Word.ofBytes_toBytes]

theorem leadingWord_drop (order : Order) (words : List UInt16) (rest : List UInt8) (index : Nat)
    (inside : index < words.length) :
    leadingWord order ((words.flatMap (Word.toBytes order) ++ rest).drop (2 * index)) =
      words[index] := by
  induction words generalizing index with
  | nil => simp at inside
  | cons word words ih =>
      have width : (Word.toBytes order word).length = 2 := Word.length_toBytes order word
      rw [List.flatMap_cons, List.append_assoc]
      cases index with
      | zero => exact leadingWord_toBytes order word _
      | succ index =>
          rw [Nat.mul_succ, Nat.add_comm, ← List.drop_drop, List.drop_left' width,
            ih index (by simpa using inside)]
          rfl

theorem listedIds_eq (order : Order) (listed : List UInt16) (rest : List UInt8)
    (short : listed.length ≤ maxCount16) :
    listedIds order (Word.toBytes order (UInt16.ofNat listed.length) ++
      listed.flatMap (Word.toBytes order) ++ rest) = listed := by
  have width : (Word.toBytes order (UInt16.ofNat listed.length)).length = 2 :=
    Word.length_toBytes order _
  rw [listedIds, List.append_assoc, leadingWord_toBytes, toNat_count short]
  apply List.ext_getElem
  · simp
  · intro index _ inside
    rw [List.getElem_map, List.getElem_range, ← List.drop_drop, List.drop_left' width,
      leadingWord_drop order listed rest index inside]

namespace Decoder

theorem width_uint8 : Word.width UInt8 = 1 := rfl

theorem width_uint16 : Word.width UInt16 = 2 := rfl

theorem toNat_ofBytes_count {order : Order} {count : Nat} (bounded : count ≤ maxCount16) :
    (Word.ofBytes order (Word.toBytes order (UInt16.ofNat count)) : UInt16).toNat = count := by
  rw [Word.ofBytes_toBytes, toNat_count bounded]

theorem toNat_le_maxCount16 (count : UInt16) : count.toNat ≤ maxCount16 := by
  have bounded := count.toNat_lt
  simp only [maxCount16]
  omega

theorem accepts_words (ω : Type) [Word ω] (order : Order) (count : Nat) :
    Accepts (replicate (word ω order) count) fun found words =>
      words.length = count ∧ found = words.flatMap (Word.toBytes order) := by
  refine (accepts_replicate (accepts_word ω order) count).congr ?_
  intro found words
  refine and_congr Iff.rfl ?_
  constructor
  · rintro ⟨runs, rfl, chain⟩
    induction chain with
    | nil => rfl
    | cons single _ ih =>
        obtain ⟨length, rfl⟩ := single
        rw [List.flatten_cons, ih, List.flatMap_cons, Word.toBytes_ofBytes _ _ length]
  · rintro rfl
    refine ⟨words.map (Word.toBytes order), by rw [List.flatMap_def], ?_⟩
    rw [List.forall₂_map_left_iff]
    exact List.forall₂_same.mpr fun word _ =>
      ⟨Word.length_toBytes order word, (Word.ofBytes_toBytes order word).symm⟩

theorem accepts_ids (options : Options) :
    Accepts (Layout.ids.read options) (Layout.ids.Means options) := by
  refine ((accepts_word UInt16 options.order).bind fun count =>
    (accepts_words UInt16 options.order count.toNat).bind fun found =>
      accepts_pure (IdSet.ofList found)).congr ?_
  intro found set
  simp only [width_uint16, Layout.Means]
  constructor
  · rintro ⟨front, _, _, rfl, ⟨length, rfl⟩, back, _, listed, rfl, ⟨counted, rfl⟩, rfl, rfl⟩
    have written := Word.toBytes_ofBytes (ω := UInt16) options.order front length
    refine ⟨listed, by rw [counted]; exact toNat_le_maxCount16 _, ?_, rfl⟩
    rw [counted, UInt16.ofNat_toNat, written, List.append_nil]
  · rintro ⟨listed, bounded, rfl, rfl⟩
    exact ⟨_, _, _, rfl, ⟨Word.length_toBytes _ _, rfl⟩, _, [], listed, by simp,
      ⟨(toNat_ofBytes_count bounded).symm, rfl⟩, rfl, rfl⟩

theorem accepts_text (options : Options) :
    Accepts (Layout.text.read options) (Layout.text.Means options) := by
  refine ((accepts_word UInt16 options.order).bind fun length =>
    (accepts_take length.toNat).bind fun content =>
      accepts_ofExcept (options.charset.decode content)).congr ?_
  intro found value
  simp only [width_uint16, Layout.Means]
  constructor
  · rintro ⟨front, _, _, rfl, ⟨length, rfl⟩, content, _, _, rfl, ⟨counted, same⟩, rfl,
      decoded⟩
    rw [same] at decoded
    have written := Word.toBytes_ofBytes (ω := UInt16) options.order front length
    refine ⟨content, by rw [counted]; exact toNat_le_maxCount16 _, ?_, decoded⟩
    rw [counted, UInt16.ofNat_toNat, written, List.append_nil]
  · rintro ⟨content, bounded, rfl, decoded⟩
    exact ⟨_, _, _, rfl, ⟨Word.length_toBytes _ _, rfl⟩, content, [], content, by simp,
      ⟨(toNat_ofBytes_count bounded).symm, rfl⟩, rfl, decoded⟩

theorem toBytes_uint8 (order : Order) (byte : UInt8) : Word.toBytes order byte = [byte] := by
  cases order with
  | little => exact congrArg (· :: []) UInt8.ofNat_toNat
  | big => exact congrArg (· :: []) UInt8.ofNat_toNat

theorem ofBytes_singleton (order : Order) (byte : UInt8) :
    (Word.ofBytes order [byte] : UInt8) = byte := by
  rw [← toBytes_uint8 order, Word.ofBytes_toBytes]

theorem accepts_codes {packing : Packing UInt8 α} (order : Order) (count : Nat) :
    Accepts (replicate (packed packing order) count) fun found values =>
      values.length = count ∧
        List.Forall₂ (fun code value => packing.unpack code = .ok value) found values := by
  refine (accepts_replicate (accepts_packed packing order) count).congr ?_
  intro found values
  refine and_congr Iff.rfl ?_
  constructor
  · rintro ⟨runs, rfl, chain⟩
    induction chain with
    | nil => exact .nil
    | cons single _ ih =>
        obtain ⟨length, unpacked⟩ := single
        obtain ⟨code, rfl⟩ := List.length_eq_one_iff.mp length
        rw [ofBytes_singleton] at unpacked
        exact .cons unpacked ih
  · intro unpacked
    refine ⟨found.map fun code => [code], by rw [← List.flatMap_def, List.flatMap_singleton'], ?_⟩
    rw [List.forall₂_map_left_iff]
    refine unpacked.imp fun code value single => ⟨rfl, ?_⟩
    rw [ofBytes_singleton, single]

theorem accepts_bytes (packing : Packing UInt8 α) (options : Options) :
    Accepts ((Layout.bytes packing).read options) ((Layout.bytes packing).Means options) := by
  refine ((accepts_word UInt8 options.order).bind fun count =>
    accepts_codes options.order count.toNat).congr ?_
  intro found values
  simp only [width_uint8, Layout.Means]
  constructor
  · rintro ⟨front, codes, _, rfl, ⟨length, rfl⟩, counted, unpacked⟩
    obtain ⟨count, rfl⟩ := List.length_eq_one_iff.mp length
    rw [ofBytes_singleton, ← unpacked.length_eq] at counted
    have bounded := count.toNat_lt
    refine ⟨codes, by simp only [maxCount8]; omega, ?_, unpacked⟩
    rw [counted, UInt8.ofNat_toNat, List.singleton_append]
  · rintro ⟨codes, bounded, rfl, unpacked⟩
    refine ⟨[_], codes, _, rfl, ⟨rfl, rfl⟩, ?_, unpacked⟩
    rw [ofBytes_singleton, UInt8.toNat_ofNat', ← unpacked.length_eq]
    simp only [maxCount8] at bounded
    omega

end Decoder

namespace Layout

/-- A layout reads a value exactly where bytes that mean it lie in front, and stops behind them. -/
theorem accepts_read {α : Type} (layout : Layout α) (options : Options) :
    (layout.read options).Accepts (layout.Means options) := by
  induction layout with
  | empty =>
      refine (Decoder.accepts_pure ()).congr ?_
      intro found value
      simp [Means]
  | word packing => exact Decoder.accepts_packed packing options.order
  | bytes packing => exact Decoder.accepts_bytes packing options
  | ids => exact Decoder.accepts_ids options
  | text => exact Decoder.accepts_text options
  | pair first second firstAccepts secondAccepts =>
      refine (firstAccepts.bind fun left => secondAccepts.bind fun right =>
        Decoder.accepts_pure (left, right)).congr ?_
      intro found value
      constructor
      · rintro ⟨front, _, left, rfl, frontMeans, back, _, right, rfl, backMeans, rfl, rfl⟩
        exact ⟨front, back, by rw [List.append_nil], frontMeans, backMeans⟩
      · rintro ⟨front, back, rfl, frontMeans, backMeans⟩
        exact ⟨front, back, value.1, rfl, frontMeans, back, [], value.2, by simp, backMeans, rfl, rfl⟩
  | record parts layout accepts =>
      refine (accepts.bind fun value => Decoder.accepts_pure (parts.build value)).congr ?_
      intro found value
      constructor
      · rintro ⟨front, _, inner, rfl, frontMeans, rfl, rfl⟩
        rw [Means, List.append_nil, parts.split_build]
        exact frontMeans
      · intro means
        exact ⟨found, [], _, by simp, means, rfl, (parts.build_split value).symm⟩

theorem decode_record {α β : Type} (parts : Parts β α) (layout : Layout α) (options : Options)
    (bytes : List UInt8) :
    (record parts layout).decode options bytes = (layout.decode options bytes).map parts.build := by
  change Decoder.run (EStateM.bind (layout.read options) fun value => pure (parts.build value)) bytes = _
  rw [decode, Decoder.run, Decoder.run, EStateM.bind]
  cases layout.read options (.start bytes) with
  | error fault next => rfl
  | ok value next =>
      change (if next.isEmpty then Except.ok (parts.build value) else _) =
        Except.map parts.build (if _ then _ else _)
      cases next.isEmpty with
      | true => rfl
      | false => rfl

theorem decode_eq_ok_iff {α : Type} (layout : Layout α) (options : Options) (bytes : List UInt8)
    (value : α) : layout.decode options bytes = .ok value ↔ layout.Means options bytes value :=
  (layout.accepts_read options).run_eq_ok_iff bytes value

end Layout

end LevelFormat.Wire
