import LevelFormat.Proofs.Save.RecordingRoundTrip

/-!
Items with other text between them.

Every item begins with a digit or with the first character of a mark, so a scan passes over text that
holds neither (`Recording.scan_of_inert`). An item in front of such text is found as it was written
unless the text begins with a separator, which the item would take for its own. Main statement:
`Recording.ofText_scattered`.
-/

namespace LevelFormat.Save

variable {marks : Marks} {item : RecordingItem}

def Marks.Opens (marks : Marks) (char : Char) : Prop :=
  char.isDigit = true ∨ marks.affirmative.head? = some char

theorem Marks.not_opens_default {char : Char} (noDigit : char.isDigit = false) :
    ¬ Marks.Opens {} char := by
  rintro (digit | mark)
  · rw [noDigit] at digit
    cases digit
  · cases mark
    cases noDigit

namespace RecordingItem

theorem afterMark?_of_not_opens {char : Char} (inert : ¬ marks.Opens char) (rest : List Char) :
    afterMark? marks (char :: rest) = none := by
  rw [Option.eq_none_iff_forall_ne_some]
  intro behind marked
  obtain ⟨nonempty, same⟩ := afterMark?_eq_some_iff.mp marked
  obtain ⟨first, more, mark⟩ := List.exists_cons_of_ne_nil nonempty
  rw [mark, List.cons_append, List.cons.injEq] at same
  exact inert (.inr (by rw [mark, same.1, List.head?_cons]))

theorem match?_of_not_opens {char : Char} (inert : ¬ marks.Opens char) (whole : Bool)
    (rest : List Char) : match? marks whole (char :: rest) = none := by
  have noDigit : ¬ char.isDigit = true := fun digit => inert (.inl digit)
  have noTimestamp : timestamp? (char :: rest) = none := by
    rw [timestamp?, List.takeWhile_cons_of_neg noDigit]
    rfl
  rw [match?, afterMark?_of_not_opens inert, Option.bind_none, body?, noTimestamp]
  rfl

/-- An item is evident if it is found wherever it stands in front of no separator. -/
def Evident (marks : Marks) (item : RecordingItem) : Prop :=
  ∀ behind, afterSeparator? marks behind = none →
    match? marks false (item.chars marks ++ behind) = some (item, behind)

theorem evident_default (printable : item.Printable)
    (marked : ¬ (item.previous = false ∧ item.timestamp = .one)) : item.Evident {} :=
  fun _ closed => match?_of_clear printable closed
    fun ambiguous => marked ⟨ambiguous.1, ambiguous.2.1⟩

end RecordingItem

namespace Recording

open RecordingItem (Printable afterSeparator? chars)

theorem scan_of_inert {between : List Char} (inert : ∀ char ∈ between, ¬ marks.Opens char)
    (rest : List Char) : scan marks (between ++ rest) = scan marks rest := by
  induction between with
  | nil => rfl
  | cons char between ih =>
      have unmatched := RecordingItem.match?_of_not_opens (inert char List.mem_cons_self) false
        (between ++ rest)
      rw [List.cons_append, scan_of_unmatched unmatched,
        ih fun other member => inert other (.tail char member)]

def scattered (marks : Marks) (parts : List (RecordingItem × String)) : List Char :=
  parts.flatMap fun part => part.1.chars marks ++ part.2.toList

/-- An item and the text behind it, of which nothing is taken for an item or a part of one. -/
structure Separate (marks : Marks) (part : RecordingItem × String) : Prop where
  printable : part.1.Printable
  evident : part.1.Evident marks
  inert : ∀ char ∈ part.2.toList, ¬ marks.Opens char
  closed : part.2.toList.head? ≠ some marks.recordingSeparator

variable {parts : List (RecordingItem × String)}

theorem afterSeparator?_scattered (distinct : marks.Distinct) {between : List Char}
    (closed : between.head? ≠ some marks.recordingSeparator)
    (separate : ∀ part ∈ parts, Separate marks part) :
    afterSeparator? marks (between ++ scattered marks parts) = none := by
  cases between with
  | cons char between => exact if_neg fun same => closed (congrArg some same)
  | nil =>
      cases parts with
      | nil => rfl
      | cons part parts =>
          rw [List.nil_append, scattered, List.flatMap_cons, List.append_assoc]
          exact RecordingItem.afterSeparator?_chars distinct
            (separate part List.mem_cons_self).printable _

theorem scan_scattered (distinct : marks.Distinct)
    (separate : ∀ part ∈ parts, Separate marks part) :
    scan marks (scattered marks parts) = parts.map Prod.fst := by
  induction parts with
  | nil => exact scan.eq_1 marks
  | cons part parts ih =>
      obtain ⟨-, evident, inert, closed⟩ := separate part List.mem_cons_self
      have later (other : RecordingItem × String) (member : other ∈ parts) : Separate marks other :=
        separate other (.tail part member)
      have found := evident _ (afterSeparator?_scattered distinct closed later)
      rw [scattered, List.flatMap_cons, List.append_assoc]
      rw [scattered] at found ih
      rw [scan_of_match? found, scan_of_inert inert, ih later, List.map_cons]

theorem separate_default {part : RecordingItem × String} (printable : part.1.Printable)
    (marked : ¬ (part.1.previous = false ∧ part.1.timestamp = .one))
    (noDigit : ∀ char ∈ part.2.toList, char.isDigit = false)
    (closed : part.2.toList.head? ≠ some ';') : Separate {} part where
  printable := printable
  evident := RecordingItem.evident_default printable marked
  inert char member := Marks.not_opens_default (noDigit char member)
  closed := closed

theorem toList_join_parts (marks : Marks) (parts : List (RecordingItem × String)) :
    (String.join (parts.map fun part => part.1.toText marks ++ part.2)).toList =
      scattered marks parts := by
  simp [scattered, RecordingItem.toText, List.flatMap_def, Function.comp_def]

/-- With the marks of the game, the items of a text are those written in it if what stands between
them holds no digit and, behind an item, does not begin with a separator. Only items that begin like
a mark without a previous state are left out, which may be read in another way. -/
theorem ofText_scattered (front : String) (parts : List (RecordingItem × String))
    (printable : ∀ part ∈ parts,
      part.1.timestamp.isFinite = true ∧ part.1.timestamp.isNegative = false)
    (marked : ∀ part ∈ parts, ¬ (part.1.previous = false ∧ part.1.timestamp = .one))
    (inFront : ∀ char ∈ front.toList, char.isDigit = false)
    (between : ∀ part ∈ parts, ∀ char ∈ part.2.toList, char.isDigit = false)
    (closed : ∀ part ∈ parts, part.2.toList.head? ≠ some ';') :
    ofText {} (front ++ String.join (parts.map fun part => part.1.toText {} ++ part.2)) =
      ⟨parts.map Prod.fst⟩ := by
  have separate (part : RecordingItem × String) (member : part ∈ parts) : Separate {} part :=
    separate_default (printable part member) (marked part member) (between part member)
      (closed part member)
  have inert (char : Char) (member : char ∈ front.toList) : ¬ Marks.Opens {} char :=
    Marks.not_opens_default (inFront char member)
  rw [ofText, String.toList_append, toList_join_parts, scan_of_inert inert,
    scan_scattered Marks.distinct_default separate]

def scatteredParts : List (RecordingItem × String) :=
  [(⟨.one, true, true, true⟩, ".;;é"), (⟨.zero, false, true, false⟩, ""),
    (⟨.zero, true, false, false⟩, ".")]

theorem ofText_scattered_points :
    ofText {} ";.é1;1;1;;.;;é0;1;1;0;;." =
      ⟨[⟨.one, true, true, true⟩, ⟨.zero, false, true, false⟩, ⟨.zero, true, false, false⟩]⟩ := by
  have text : ";.é1;1;1;;.;;é0;1;1;0;;." = ";.é" ++ String.join (scatteredParts.map fun part =>
      part.1.toText {} ++ part.2) := by
    decide +kernel
  rw [text]
  exact ofText_scattered ";.é" scatteredParts (by decide) (by decide) (by simp)
    (by simp [scatteredParts]) (by decide)

end Recording

end LevelFormat.Save
