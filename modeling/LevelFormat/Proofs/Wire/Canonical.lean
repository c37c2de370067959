import LevelFormat.Proofs.Wire.Writing

/-!
Bytes that are written again as they were read.

Reading may forget something: bits that mean nothing, the order of ids, and which of many bytes
stood for true. A list of spans says of which bytes nothing is forgotten. `Layout.Spanned` ties such
a list to a layout, and is closed under the ways in which layouts are put together.
-/

namespace LevelFormat.Wire

open LevelFormat.Bits (FlagByte Flagged)
open LevelFormat.Text (Charset)

/-! ### Spans -/

/-- Some bytes on the wire, as far as reading them forgets something. Of some it forgets nothing, of
others nothing below a limit, and of ids nothing where they ascend. -/
inductive Span where
  | whole (width : Nat)
  | byteBelow (limit : Nat)
  | wordBelow (limit : Nat)
  | ids
  | text
  deriving DecidableEq

namespace Span

def boolean : Span := byteBelow 2

def width (order : Order) (found : List UInt8) : Span → Nat
  | whole width => width
  | byteBelow _ => 1
  | wordBelow _ => 2
  | ids => 2 + 2 * (leadingWord order found).toNat
  | text => 2 + (leadingWord order found).toNat

def Kept (order : Order) (found : List UInt8) : Span → Prop
  | whole _ | text => True
  | byteBelow limit => (found.headD 0).toNat < limit
  | wordBelow limit => (leadingWord order found).toNat < limit
  | ids => (listedIds order found).Pairwise (· < ·)

instance (order : Order) (found : List UInt8) : (span : Span) → Decidable (span.Kept order found)
  | whole _ | text => inferInstanceAs (Decidable True)
  | byteBelow limit => inferInstanceAs (Decidable ((found.headD 0).toNat < limit))
  | wordBelow limit => inferInstanceAs (Decidable ((leadingWord order found).toNat < limit))
  | ids => inferInstanceAs (Decidable ((listedIds order found).Pairwise (· < ·)))

end Span

def spanWidth (order : Order) : List Span → List UInt8 → Nat
  | [], _ => 0
  | span :: spans, found =>
    span.width order found + spanWidth order spans (found.drop (span.width order found))

def Kept (order : Order) : List Span → List UInt8 → Prop
  | [], _ => True
  | span :: spans, found =>
    span.Kept order found ∧ Kept order spans (found.drop (span.width order found))

instance (order : Order) :
    (spans : List Span) → (found : List UInt8) → Decidable (Kept order spans found)
  | [], _ => inferInstanceAs (Decidable True)
  | span :: spans, found =>
    have : Decidable (Kept order spans (found.drop (span.width order found))) :=
      instDecidableKept order spans _
    inferInstanceAs (Decidable (span.Kept order found ∧ _))

theorem spanWidth_append (order : Order) (front back : List Span) (found : List UInt8) :
    spanWidth order (front ++ back) found =
      spanWidth order front found +
        spanWidth order back (found.drop (spanWidth order front found)) := by
  induction front generalizing found with
  | nil => simp [spanWidth]
  | cons span front ih =>
      rw [List.cons_append, spanWidth, spanWidth, ih, List.drop_drop, Nat.add_assoc]

theorem kept_append_iff (order : Order) (front back : List Span) (found : List UInt8) :
    Kept order (front ++ back) found ↔
      Kept order front found ∧ Kept order back (found.drop (spanWidth order front found)) := by
  induction front generalizing found with
  | nil => simp [Kept, spanWidth]
  | cons span front ih =>
      rw [List.cons_append, Kept, Kept, spanWidth, ih, List.drop_drop, and_assoc]

theorem spanWidth_singleton (order : Order) (span : Span) (found : List UInt8) :
    spanWidth order [span] found = span.width order found := rfl

theorem kept_singleton_iff (order : Order) (span : Span) (found : List UInt8) :
    Kept order [span] found ↔ span.Kept order found := by
  rw [Kept, Kept, and_true]

/-! ### Words -/

def Packing.Exact {ω α : Type} (packing : Packing ω α) (word : ω) : Prop :=
  ∀ value, packing.unpack word = .ok value → packing.pack value = word

namespace Packing

variable {ω α : Type}

theorem exact_iff {packing : Packing ω α} {word : ω} {value : α}
    (unpacked : packing.unpack word = .ok value) :
    packing.Exact word ↔ packing.pack value = word := by
  constructor
  · intro exact
    exact exact value unpacked
  · intro same other again
    rw [unpacked] at again
    cases again
    exact same

theorem exact_total_iff (pack : α → ω) (unpack : ω → α)
    (unpack_pack : ∀ value, unpack (pack value) = value) (word : ω) :
    (total pack unpack unpack_pack).Exact word ↔ pack (unpack word) = word :=
  exact_iff rfl

theorem exact_total {pack : α → ω} {unpack : ω → α}
    {unpack_pack : ∀ value, unpack (pack value) = value}
    (pack_unpack : ∀ word, pack (unpack word) = word) (word : ω) :
    (total pack unpack unpack_pack).Exact word :=
  (exact_total_iff pack unpack unpack_pack word).mpr (pack_unpack word)

theorem exact_enumeration (α : Type) [DecidableEq α] [Enumeration α] (byte : UInt8) :
    (enumeration α).Exact byte :=
  fun _ unpacked => Enumeration.code_eq_of_ofCode unpacked

theorem exact_bool_iff (byte : UInt8) : bool.Exact byte ↔ byte.toNat < 2 := by
  rw [bool, exact_total_iff]
  by_cases zero : byte = 0
  · subst zero
    decide
  · have positive : byte.toNat ≠ 0 := by
      rwa [← UInt8.toNat_inj] at zero
    rw [bne_iff_ne.mpr zero, ← UInt8.toNat_inj, show true.toUInt8.toNat = 1 from rfl]
    omega

theorem and_eq_self_iff {mask : UInt8} (bits : Nat) (low : mask.toNat = 2 ^ bits - 1)
    (byte : UInt8) : byte &&& mask = byte ↔ byte.toNat < 2 ^ bits := by
  rw [← UInt8.toNat_inj, UInt8.toNat_and, low, Nat.and_two_pow_sub_one_eq_mod]
  constructor
  · intro same
    rw [← same]
    exact Nat.mod_lt _ (Nat.two_pow_pos bits)
  · exact Nat.mod_eq_of_lt

theorem exact_flagByte_iff {mask : UInt8} (bits : Nat) (low : mask.toNat = 2 ^ bits - 1)
    (byte : UInt8) : (flagByte mask).Exact byte ↔ byte.toNat < 2 ^ bits := by
  rw [flagByte, exact_total_iff, ← and_eq_self_iff bits low]
  rfl

theorem exact_lowBit_iff (byte : UInt8) : lowBit.Exact byte ↔ byte.toNat < 2 := by
  have bit : byte &&& 1 = 0 ∨ byte &&& 1 = 1 := by
    have number : (byte &&& 1).toNat = byte.toNat % 2 := by
      rw [UInt8.toNat_and]
      exact Nat.and_two_pow_sub_one_eq_mod byte.toNat 1
    rw [← UInt8.toNat_inj, ← UInt8.toNat_inj, number]
    exact Nat.mod_two_eq_zero_or_one byte.toNat
  have packed : ((FlagByte.empty 1).assign 1 ((FlagByte.ofBits 1 byte).contains 1)).bits =
      byte &&& 1 := by
    rcases bit with clear | set
    · simp only [FlagByte.ofBits, FlagByte.contains, clear]
      decide
    · simp only [FlagByte.ofBits, FlagByte.contains, set]
      decide
  rw [lowBit, exact_total_iff, packed]
  exact and_eq_self_iff 1 rfl byte

theorem exact_low15_iff (word : UInt16) : low15.Exact word ↔ word.toNat < 2 ^ 15 := by
  rw [(exact_iff rfl : low15.Exact word ↔ _)]
  change word &&& 0x7FFF &&& 0x7FFF = word ↔ _
  rw [UInt16.and_assoc, UInt16.and_self, ← UInt16.toNat_inj, toNat_and_low15]
  omega

theorem exact_flagged15 (word : UInt16) : flagged15.Exact word := by
  rw [(exact_iff rfl : flagged15.Exact word ↔ _)]
  have bounded := (Flagged.ofWord16 word).value_lt
  have again : (Flagged.ofValue (Flagged.ofWord16 word).value.toUInt16.toUInt32
      (Flagged.ofWord16 word).flag fifteen_lt : Flagged 15) = Flagged.ofWord16 word := by
    apply Flagged.ext
    · have kept := Flagged.toNat_and_valueMask
        (Flagged.ofWord16 word).value.toUInt16.toUInt32 fifteen_lt
      rw [Flagged.ofValue, ← UInt32.toNat_inj, kept, UInt16.toNat_toUInt32, UInt32.toNat_toUInt16]
      omega
    · rfl
  change Flagged.toWord16 _ = word
  rw [again, Flagged.toWord16_ofWord16]

end Packing

/-! ### Layouts -/

namespace Layout

variable {α β : Type}

/-- The spans are those of the layout: a value is written as the bytes that it was read from exactly
if they are kept. What lies behind the value is not looked at. -/
structure Spanned (layout : Layout α) (spans : List Span) : Prop where
  width : ∀ {order found value}, layout.Means ⟨order, .utf8⟩ found value → ∀ rest,
    spanWidth order spans (found ++ rest) = found.length
  kept : ∀ {order found value}, layout.Means ⟨order, .utf8⟩ found value → ∀ rest,
    layout.emit ⟨order, .utf8⟩ value = .ofBytes found ↔ Kept order spans (found ++ rest)

theorem ofBytes_inj {front back : List UInt8} :
    Emission.ofBytes front = Emission.ofBytes back ↔ front = back := by
  simp [Emission.ofBytes]

theorem emit_ids_iff {order : Order} {listed : List UInt16} (short : listed.length ≤ maxCount16) :
    ids.emit ⟨order, .utf8⟩ (IdSet.ofList listed) = .ofBytes
        (Word.toBytes order (UInt16.ofNat listed.length) ++
          listed.flatMap (Word.toBytes order)) ↔
      listed.Pairwise (· < ·) := by
  have small := Nat.le_trans (IdSet.size_ofList_le listed) short
  rw [← IdSet.ids_ofList_eq_iff, emit, IdSet.smallest_of_size_le small, ofBytes_inj]
  constructor
  · intro same
    have first := listedIds_eq order (IdSet.ofList listed).ids [] small
    have second := listedIds_eq order listed [] short
    rw [List.append_nil] at first second
    exact first.symm.trans ((congrArg (listedIds order) same).trans second)
  · intro same
    rw [IdSet.size, same]

/-- Two parts are written as their bytes exactly if each of them is: neither outgrows its own. -/
theorem emit_pair_iff {first : Layout α} {second : Layout β} {order : Order} {value : α × β}
    {front back : List UInt8} (frontMeans : first.Means ⟨order, .utf8⟩ front value.1)
    (backMeans : second.Means ⟨order, .utf8⟩ back value.2) :
    (pair first second).emit ⟨order, .utf8⟩ value = .ofBytes (front ++ back) ↔
      first.emit ⟨order, .utf8⟩ value.1 = .ofBytes front ∧
        second.emit ⟨order, .utf8⟩ value.2 = .ofBytes back := by
  obtain ⟨frontWritten, frontEmitted, frontShort, -⟩ := emit_of_means frontMeans
  obtain ⟨backWritten, backEmitted, backShort, -⟩ := emit_of_means backMeans
  rw [emit, frontEmitted, backEmitted, Emission.ofBytes_append, ofBytes_inj, ofBytes_inj,
    ofBytes_inj]
  constructor
  · intro same
    have lengths := congrArg List.length same
    rw [List.length_append, List.length_append] at lengths
    exact List.append_inj same (by omega)
  · rintro ⟨rfl, rfl⟩
    rfl

namespace Spanned

theorem empty : Layout.empty.Spanned [] where
  width := by
    rintro order found value rfl rest
    rfl
  kept := by
    rintro order found value rfl rest
    exact iff_of_true rfl trivial

theorem word {ω : Type} [Word ω] {packing : Packing ω α} {span : Span}
    (fixed : ∀ order found, span.width order found = Word.width ω)
    (exact : ∀ order word rest,
      span.Kept order (Word.toBytes order word ++ rest) ↔ packing.Exact word) :
    (Layout.word packing).Spanned [span] where
  width := by
    rintro order found value ⟨length, -⟩ rest
    rw [spanWidth_singleton, fixed, length]
  kept := by
    rintro order found value ⟨length, unpacked⟩ rest
    have written := Word.toBytes_ofBytes order found length
    rw [kept_singleton_iff, ← written, exact, Packing.exact_iff unpacked, emit, Emission.word,
      ofBytes_inj]
    constructor
    · intro same
      rw [← Word.ofBytes_toBytes order (packing.pack value), same, Word.ofBytes_toBytes]
    · intro same
      rw [same]

theorem whole {ω : Type} [Word ω] {packing : Packing ω α} (exact : ∀ word, packing.Exact word) :
    (Layout.word packing).Spanned [.whole (Word.width ω)] :=
  word (fun _ _ => rfl) fun _ word _ => iff_of_true trivial (exact word)

theorem byteBelow {packing : Packing UInt8 α} {limit : Nat}
    (exact : ∀ byte, packing.Exact byte ↔ byte.toNat < limit) :
    (Layout.word packing).Spanned [.byteBelow limit] := by
  refine word (fun _ _ => rfl) fun order byte rest => ?_
  rw [exact, Span.Kept, Decoder.toBytes_uint8]
  rfl

theorem wordBelow {packing : Packing UInt16 α} {limit : Nat}
    (exact : ∀ word, packing.Exact word ↔ word.toNat < limit) :
    (Layout.word packing).Spanned [.wordBelow limit] := by
  refine word (fun _ _ => rfl) fun order word rest => ?_
  rw [exact, Span.Kept, leadingWord_toBytes]

theorem ids : Layout.ids.Spanned [.ids] where
  width := by
    rintro order _ _ ⟨listed, short, rfl, rfl⟩ rest
    rw [length_written_ids, spanWidth_singleton, Span.width, List.append_assoc, leadingWord_toBytes,
      toNat_count short]
  kept := by
    rintro order _ _ ⟨listed, short, rfl, rfl⟩ rest
    rw [kept_singleton_iff, Span.Kept, listedIds_eq order listed rest short]
    exact emit_ids_iff short

theorem text : Layout.text.Spanned [.text] where
  width := by
    rintro order _ value ⟨content, short, rfl, -⟩ rest
    rw [spanWidth_singleton, Span.width, List.append_assoc, leadingWord_toBytes, toNat_count short,
      List.length_append, Word.length_toBytes, Decoder.width_uint16]
  kept := by
    rintro order _ value ⟨content, short, rfl, decoded⟩ rest
    refine iff_of_true ?_ ⟨trivial, trivial⟩
    exact (Emission.text_eq_ofBytes_iff _ _ _ _).mpr
      ⟨content, Charset.encode_of_decode_utf8 decoded, short, rfl⟩

variable {first : Layout α} {second : Layout β} {front back : List Span}

theorem pair (firstSpanned : first.Spanned front) (secondSpanned : second.Spanned back) :
    (Layout.pair first second).Spanned (front ++ back) where
  width := by
    rintro order _ value ⟨left, right, rfl, leftMeans, rightMeans⟩ rest
    rw [List.append_assoc, spanWidth_append, firstSpanned.width leftMeans, List.drop_left,
      secondSpanned.width rightMeans, List.length_append]
  kept := by
    rintro order _ value ⟨left, right, rfl, leftMeans, rightMeans⟩ rest
    rw [emit_pair_iff leftMeans rightMeans, List.append_assoc, kept_append_iff,
      firstSpanned.width leftMeans, List.drop_left, firstSpanned.kept leftMeans (right ++ rest),
      secondSpanned.kept rightMeans rest]

theorem record {parts : Parts β α} (spanned : first.Spanned front) :
    (Layout.record parts first).Spanned front where
  width means := spanned.width means
  kept means := spanned.kept means

theorem of_eq (spanned : first.Spanned front) (same : front = back) : first.Spanned back :=
  same ▸ spanned

theorem uint8 : Layout.uint8.Spanned [.whole 1] := whole (Packing.exact_total fun _ => rfl)

theorem uint16 : Layout.uint16.Spanned [.whole 2] := whole (Packing.exact_total fun _ => rfl)

theorem int16 : Layout.int16.Spanned [.whole 2] := whole (Packing.exact_total fun _ => rfl)

theorem int32 : Layout.int32.Spanned [.whole 4] := whole (Packing.exact_total fun _ => rfl)

theorem binary32 : Layout.binary32.Spanned [.whole 4] := whole (Packing.exact_total fun _ => rfl)

theorem bool : Layout.bool.Spanned [.boolean] := byteBelow Packing.exact_bool_iff

theorem enumeration {α : Type} [DecidableEq α] [Enumeration α] :
    (Layout.enumeration α).Spanned [.whole 1] :=
  whole (Packing.exact_enumeration α)

end Spanned

/-- Bytes that were read whole are written again exactly if the spans of the layout are kept. -/
theorem Spanned.encode_eq_iff {layout : Layout α} {spans : List Span}
    (spanned : layout.Spanned spans)
    {order : Order} {value : α} {found : List UInt8}
    (decoded : layout.decode ⟨order, .utf8⟩ found = .ok value) :
    layout.encode ⟨order, .utf8⟩ value = .ok found ↔ Kept order spans found := by
  have means := (decode_eq_ok_iff _ _ _ _).mp decoded
  have kept := spanned.kept means []
  rw [List.append_nil] at kept
  rw [encode_eq_ok_iff, kept]

end Layout

end LevelFormat.Wire
