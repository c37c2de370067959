import LevelFormat.Object.Stream
import LevelFormat.Proofs.Wire.Writing

/-!
The form of one object on the wire.

Every object begins with 51 bytes, a list of ids behind its count, and two more bytes
(`Base.shape_of_means`). Its kind follows from the id in front, so a decoder that is not told the
kind accepts exactly the objects whose id belongs to their kind (`Entity.accepts_decodeInferred`).
-/

namespace LevelFormat.Object

open LevelFormat.Wire (Cursor Decoder Emission IdSet Layout Options Order Word maxCount16)

def wordAt (order : Order) (bytes : List UInt8) (offset : Nat) : UInt16 :=
  Word.ofBytes order ((bytes.drop offset).take 2)

def Base.listedGroups (order : Order) (bytes : List UInt8) : List UInt16 :=
  (List.range (wordAt order bytes 51).toNat).map fun index => wordAt order bytes (53 + 2 * index)

theorem Hsv.length_of_means {options : Options} {found : List UInt8} {hsv : Hsv}
    (means : Hsv.layout.Means options found hsv) : found.length = 11 := by
  obtain ⟨hue, _, rfl, ⟨hueLength, -⟩, saturation, _, rfl, ⟨saturationLength, -⟩, brightness,
    checks, rfl, ⟨brightnessLength, -⟩, checksLength, -⟩ := means
  have lengths : hue.length = 2 ∧ saturation.length = 4 ∧ brightness.length = 4 ∧
      checks.length = 1 := ⟨hueLength, saturationLength, brightnessLength, checksLength⟩
  simp only [List.length_append]
  omega

namespace Base

theorem shape_of_means {options : Options} {found : List UInt8} {base : Base}
    (means : Base.layout.Means options found base) :
    ∃ head listed link, found = head ++ Word.toBytes options.order (UInt16.ofNat listed.length) ++
        listed.flatMap (Word.toBytes options.order) ++ link ∧
      head.length = 51 ∧ link.length = 2 ∧ listed.length ≤ maxCount16 ∧
      base.groups = IdSet.ofList listed ∧ Word.ofBytes options.order (head.take 2) = base.id := by
  obtain ⟨id, _, rfl, ⟨idLength, idFound⟩, x, _, rfl, ⟨xLength, -⟩, y, _, rfl, ⟨yLength, -⟩,
    rotation, _, rfl, ⟨rotationLength, -⟩, scale, _, rfl, ⟨scaleLength, -⟩, flags, _, rfl,
    ⟨flagsLength, -⟩, z, _, rfl, ⟨zLength, -⟩, editor, _, rfl, ⟨editorLength, -⟩, second, _, rfl,
    ⟨secondLength, -⟩, main, _, rfl, ⟨mainLength, -⟩, detail, _, rfl, ⟨detailLength, -⟩, mainHsv, _,
    rfl, mainMeans, detailHsv, _, rfl, detailMeans, _, link, rfl, ⟨listed, short, rfl, groups⟩,
    linkLength, -⟩ := means
  have mainHsvLength := Hsv.length_of_means mainMeans
  have detailHsvLength := Hsv.length_of_means detailMeans
  have lengths : id.length = 2 ∧ x.length = 4 ∧ y.length = 4 ∧ rotation.length = 4 ∧
      scale.length = 4 ∧ flags.length = 1 ∧ z.length = 2 ∧ editor.length = 2 ∧ second.length = 2 ∧
      main.length = 2 ∧ detail.length = 2 :=
    ⟨idLength, xLength, yLength, rotationLength, scaleLength, flagsLength, zLength, editorLength,
      secondLength, mainLength, detailLength⟩
  refine ⟨id ++ x ++ y ++ rotation ++ scale ++ flags ++ z ++ editor ++ second ++ main ++ detail ++
    mainHsv ++ detailHsv, listed, link, ?_, ?_, linkLength, short, groups, ?_⟩
  · simp only [List.append_assoc]
  · simp only [List.length_append]
    omega
  · simp only [List.append_assoc]
    rw [List.take_left' lengths.1]
    exact Except.ok.inj idFound

theorem listedGroups_eq_listedIds (order : Order) (bytes : List UInt8) :
    listedGroups order bytes = Wire.listedIds order (bytes.drop 51) := by
  refine List.map_congr_left fun index _ => ?_
  rw [wordAt, Wire.leadingWord, List.drop_drop, ← Nat.add_assoc]

theorem listedGroups_eq (order : Order) (head rest : List UInt8) (listed : List UInt16)
    (headLength : head.length = 51) (short : listed.length ≤ maxCount16) :
    listedGroups order (head ++ Word.toBytes order (UInt16.ofNat listed.length) ++
      listed.flatMap (Word.toBytes order) ++ rest) = listed := by
  rw [listedGroups_eq_listedIds, List.append_assoc, List.append_assoc,
    List.drop_left' headLength, ← List.append_assoc, Wire.listedIds_eq order listed rest short]

theorem length_listedGroups (order : Order) (bytes : List UInt8) :
    (listedGroups order bytes).length = (wordAt order bytes 51).toNat := by
  rw [listedGroups, List.length_map, List.length_range]

theorem length_listedGroups_le (order : Order) (bytes : List UInt8) :
    (listedGroups order bytes).length ≤ maxCount16 := by
  rw [length_listedGroups]
  exact Decoder.toNat_le_maxCount16 _

variable {options : Options} {found : List UInt8} {base : Base}

theorem listedGroups_append (means : Base.layout.Means options found base) (rest : List UInt8) :
    listedGroups options.order (found ++ rest) = listedGroups options.order found := by
  obtain ⟨head, listed, link, rfl, headLength, -, short, -⟩ := shape_of_means means
  rw [List.append_assoc _ link, listedGroups_eq options.order head _ listed headLength short,
    listedGroups_eq options.order head _ listed headLength short]

theorem length_of_means (means : Base.layout.Means options found base) :
    found.length = 55 + 2 * (listedGroups options.order found).length ∧
      base.groups = IdSet.ofList (listedGroups options.order found) := by
  obtain ⟨head, listed, link, rfl, headLength, linkLength, short, groups, -⟩ := shape_of_means means
  have width : (Word.toBytes options.order (UInt16.ofNat listed.length)).length = 2 :=
    Word.length_toBytes options.order _
  rw [listedGroups_eq options.order head link listed headLength short]
  refine ⟨?_, groups⟩
  simp only [List.length_append, Layout.length_flatMap_toBytes, headLength, width, linkLength]
  omega

theorem length_of_emit {written : List UInt8}
    (emitted : Base.layout.emit options base = .ofBytes written) :
    written.length = 55 + 2 * (base.groups.smallest maxCount16).size := by
  have content : Base.layout.contentSize options base =
      2 * (base.groups.smallest maxCount16).size := by
    simp [Base.layout, Hsv.layout, Layout.contentSize, Layout.uint16, Layout.int16,
      Layout.binary32, Layout.flagByte, parts]
  rw [Layout.length_of_emit emitted, content]
  rfl

end Base

namespace Entity

def Means (options : Options) (found : List UInt8) (entity : Entity) : Prop :=
  (Record.layout entity.kind).Means options found entity.record ∧
    Kind.infer entity.base.id = entity.kind

theorem accepts_decode (kind : Kind) (options : Options) :
    (Entity.decode kind options).Accepts fun found entity =>
      ∃ record, (Record.layout kind).Means options found record ∧ entity = ⟨kind, record⟩ := by
  refine (((Record.layout kind).accepts_read options).bind fun record =>
    Decoder.accepts_pure (⟨kind, record⟩ : Entity)).congr ?_
  intro found entity
  constructor
  · rintro ⟨front, _, record, rfl, means, rfl, rfl⟩
    exact ⟨record, by rwa [List.append_nil], rfl⟩
  · rintro ⟨record, means, rfl⟩
    exact ⟨found, [], record, by simp, means, rfl, rfl⟩

theorem id_of_means {kind : Kind} {options : Options} {found : List UInt8} {record : Record kind}
    (means : (Record.layout kind).Means options found record) (rest : List UInt8) :
    2 ≤ found.length ∧ Word.ofBytes options.order ((found ++ rest).take 2) = record.base.id := by
  obtain ⟨front, back, rfl, baseMeans, -⟩ := means
  obtain ⟨head, listed, link, rfl, headLength, -, -, -, id⟩ := Base.shape_of_means baseMeans
  have long : 2 ≤ head.length := by omega
  constructor
  · simp only [List.length_append]
    omega
  · simp only [List.append_assoc]
    rw [List.take_append_of_le_length long]
    exact id

theorem accepts_decodeInferred (options : Options) :
    (Entity.decodeInferred options).Accepts (Entity.Means options) := by
  intro cursor entity next
  unfold decodeInferred
  rw [Decoder.bind_ok_iff]
  simp only [Decoder.peek_ok_iff]
  constructor
  · rintro ⟨_, _, ⟨-, rfl, rfl⟩, decoded⟩
    obtain ⟨found, spans, record, means, rfl⟩ := (accepts_decode _ options _ _ _).mp decoded
    obtain ⟨-, id⟩ := id_of_means means next.rest
    rw [← spans.1] at id
    exact ⟨found, spans, means, congrArg Kind.infer id.symm⟩
  · rintro ⟨found, spans, means, inferred⟩
    obtain ⟨long, id⟩ := id_of_means means next.rest
    rw [← spans.1] at id
    refine ⟨_, cursor, ⟨?_, rfl, rfl⟩, ?_⟩
    · rw [Cursor.remaining, spans.1, List.length_append]
      omega
    · rw [id]
      change decode (Kind.infer entity.base.id) options cursor = _
      rw [inferred, accepts_decode _ options cursor entity next]
      exact ⟨found, spans, entity.record, means, rfl⟩

end Entity

end LevelFormat.Object
