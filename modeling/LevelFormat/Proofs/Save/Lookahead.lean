import LevelFormat.Proofs.Save.Spelling

/-!
Items and the text behind them.

Reading an item looks at nothing behind it but what would still be a part of it. So an item that is
found in front of some text is also found where it stands alone, and is all that is found there:
`RecordingItem.match?_alone`.
-/

namespace LevelFormat.Save.RecordingItem

variable {marks : Marks} {text rest more : List Char}

theorem afterSeparator?_append_iff :
    afterSeparator? marks (text ++ more) = some (rest ++ more) ↔
      afterSeparator? marks text = some rest := by
  rw [afterSeparator?_eq_some_iff, afterSeparator?_eq_some_iff, ← List.cons_append,
    List.append_left_inj]

theorem afterMark?_append_iff :
    afterMark? marks (text ++ more) = some (rest ++ more) ↔ afterMark? marks text = some rest := by
  rw [afterMark?_eq_some_iff, afterMark?_eq_some_iff, ← List.cons_append, ← List.append_assoc,
    List.append_left_inj]

theorem timestamp?_append_iff {digits : List Char × List Char} (nonempty : rest ≠ []) :
    timestamp? (text ++ more) = some (digits, rest ++ more) ↔
      timestamp? text = some (digits, rest) := by
  obtain ⟨front, back⟩ := digits
  obtain ⟨stop, tail, rfl⟩ := List.exists_cons_of_ne_nil nonempty
  have stops (fraction : Option (List Char)) :
      Stops fraction (stop :: tail ++ more) ↔ Stops fraction (stop :: tail) := Iff.rfl
  simp only [timestamp?_eq_some_iff, stops, ← List.append_assoc, List.append_left_inj]

theorem next?_of_append {next : Bool}
    (found : next? marks (text ++ more) = some (next, rest ++ more)) :
    next? marks text = some (next, rest) := by
  unfold next? at found
  split at found
  next marked =>
    cases found
    rw [next?, afterMark?_append_iff.mp marked]
  next unmarked =>
    obtain ⟨_, separated, same⟩ := Option.map_eq_some_iff.mp found
    cases same
    have alone : afterMark? marks text = none := by
      rw [Option.eq_none_iff_forall_ne_some]
      intro behind marked
      rw [← afterMark?_append_iff, unmarked] at marked
      cases marked
    rw [next?, alone, afterSeparator?_append_iff.mp separated]
    rfl

theorem isSome_next?_append (more : List Char) {next : Bool}
    (found : next? marks text = some (next, rest)) :
    (next? marks (text ++ more)).isSome := by
  unfold next? at found ⊢
  split at found
  next marked =>
    rw [afterMark?_append_iff.mpr marked]
    rfl
  next =>
    obtain ⟨_, separated, same⟩ := Option.map_eq_some_iff.mp found
    split
    next => rfl
    next =>
      rw [afterSeparator?_append_iff.mpr separated]
      rfl

theorem secondary?_alone {secondary : Bool}
    (found : secondary? marks false (text ++ more) = some (secondary, more)) :
    secondary? marks true text = some (secondary, []) := by
  unfold secondary? at found
  split at found
  next separated =>
    cases found
    have separator : afterSeparator? marks (text ++ more) = some ([] ++ more) :=
      (Option.filter_eq_some_iff.mp separated).1
    rw [secondary?, afterSeparator?_append_iff.mp separator]
    rfl
  next =>
    simp only [mayEnd, Bool.not_false, Bool.true_or, ↓reduceIte, Option.some.injEq, Prod.mk.injEq,
      List.append_left_eq_self] at found
    obtain ⟨rfl, rfl⟩ := found
    rfl

theorem body?_alone {previous : Bool} {item : RecordingItem}
    (found : body? marks false previous (text ++ more) = some (item, more)) :
    body? marks true previous text = some (item, []) := by
  obtain ⟨front, back, stamped, separated, next, marked, secondary, first, second, third, fourth,
    rfl⟩ := body?_eq_some_iff.mp found
  obtain rfl := eq_of_secondary? fourth
  obtain rfl : separated = (if next then marks.affirmative else []) ++ marks.recordingSeparator ::
      (if secondary then [marks.recordingSeparator] else []) ++ more := by
    rw [eq_of_next? third]
    simp
  obtain rfl := afterSeparator?_eq_some_iff.mp second
  exact body?_eq_some_iff.mpr ⟨front, back, _, _, next, _, secondary,
    (timestamp?_append_iff (List.cons_ne_nil _ _)).mp first, afterSeparator?_append_iff.mp second,
    next?_of_append third, secondary?_alone fourth, rfl⟩

theorem isSome_body?_append (more : List Char) {previous : Bool} {item : RecordingItem}
    (found : body? marks true previous text = some (item, rest)) :
    (body? marks false previous (text ++ more)).isSome := by
  obtain ⟨front, back, stamped, separated, next, marked, secondary, first, second, third, -, -⟩ :=
    body?_eq_some_iff.mp found
  have nonempty : stamped ≠ [] := by
    rw [afterSeparator?_eq_some_iff.mp second]
    exact List.cons_ne_nil _ _
  obtain ⟨⟨next, marked⟩, stated⟩ := Option.isSome_iff_exists.mp (isSome_next?_append more third)
  obtain ⟨⟨secondary, behind⟩, ended⟩ :=
    Option.isSome_iff_exists.mp (isSome_secondary? marks marked)
  rw [Option.isSome_iff_exists]
  exact ⟨(⟨_, previous, next, secondary⟩, behind), body?_eq_some_iff.mpr ⟨front, back, _, _, next,
    _, secondary, (timestamp?_append_iff nonempty).mpr first,
    afterSeparator?_append_iff.mpr second, stated, ended, rfl⟩⟩

/-- An item in front of some text is also the item that stands there alone. -/
theorem match?_alone {item : RecordingItem}
    (found : match? marks false (text ++ more) = some (item, more)) :
    match? marks true text = some (item, []) := by
  unfold match? at found
  split at found
  next marked =>
    cases found
    obtain ⟨behind, mark, inner⟩ := Option.bind_eq_some_iff.mp marked
    obtain ⟨spelling, -, -, rfl⟩ := exists_spelling_body inner
    rw [match?, afterMark?_append_iff.mp mark, Option.bind_some, body?_alone inner]
  next unmarked =>
    have alone : (afterMark? marks text).bind (body? marks true true) = none := by
      rw [Option.bind_eq_none_iff]
      intro behind mark
      rw [Option.eq_none_iff_forall_ne_some]
      intro inner started
      have goesOn := isSome_body?_append more started
      rw [afterMark?_append_iff.mpr mark, Option.bind_some] at unmarked
      rw [unmarked] at goesOn
      cases goesOn
    rw [match?, alone]
    exact body?_alone found

end LevelFormat.Save.RecordingItem
