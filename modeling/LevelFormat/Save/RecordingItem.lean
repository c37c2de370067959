import LevelFormat.Fault
import LevelFormat.Number.Shortest
import LevelFormat.Save.Marks

/-!
One change of recorded input.

An item is a timestamp and the state after it, each with a separator behind. In front may stand
the state before, and behind one more separator for the second player.

`length_match?` says that reading an item makes the text shorter.
-/

namespace LevelFormat.Save

open LevelFormat.Number (Binary64 Decimal)

structure RecordingItem where
  timestamp : Binary64 := .zero
  previous : Bool := false
  next : Bool := false
  secondary : Bool := false
  deriving DecidableEq

namespace RecordingItem

instance : Inhabited RecordingItem := ⟨{}⟩

/-! ### Writing -/

def chars (marks : Marks) (item : RecordingItem) : List Char :=
  let separator := [marks.recordingSeparator]
  (if item.previous then marks.affirmative ++ separator else []) ++
    item.timestamp.text ++ separator ++
    (if item.next then marks.affirmative else []) ++ separator ++
    (if item.secondary then separator else [])

def toText (marks : Marks) (item : RecordingItem) : String := String.ofList (item.chars marks)

/-! ### Reading -/

def afterSeparator? (marks : Marks) : List Char → Option (List Char)
  | char :: rest => if char = marks.recordingSeparator then some rest else none
  | [] => none

def afterMark? (marks : Marks) (text : List Char) : Option (List Char) :=
  if marks.affirmative ≠ [] && marks.affirmative.isPrefixOf text then
    afterSeparator? marks (text.drop marks.affirmative.length)
  else none

/-- The digits of a timestamp in front of and behind its point, and the text behind them. At
least one digit is needed in front. -/
def timestamp? (text : List Char) : Option ((List Char × List Char) × List Char) :=
  if (text.takeWhile Char.isDigit).isEmpty then none
  else
    match text.dropWhile Char.isDigit with
    | '.' :: rest =>
      some ((text.takeWhile Char.isDigit, rest.takeWhile Char.isDigit),
        rest.dropWhile Char.isDigit)
    | rest => some ((text.takeWhile Char.isDigit, []), rest)

def next? (marks : Marks) (text : List Char) : Option (Bool × List Char) :=
  match afterMark? marks text with
  | some rest => some (true, rest)
  | none => (afterSeparator? marks text).map (false, ·)

def mayEnd (whole : Bool) (rest : List Char) : Bool := !whole || rest.isEmpty

def secondary? (marks : Marks) (whole : Bool) (text : List Char) : Option (Bool × List Char) :=
  match (afterSeparator? marks text).filter (mayEnd whole) with
  | some rest => some (true, rest)
  | none => if mayEnd whole text then some (false, text) else none

def body? (marks : Marks) (whole previous : Bool) (text : List Char) :
    Option (RecordingItem × List Char) := do
  let ((front, back), rest) ← timestamp? text
  let rest ← afterSeparator? marks rest
  let (next, rest) ← next? marks rest
  let (secondary, rest) ← secondary? marks whole rest
  return (⟨(Decimal.ofDigits front back).toBinary64, previous, next, secondary⟩, rest)

/-- The item at the front of a text, and the text behind it. A mark in front is read as the
previous state where that leads to an item, and otherwise as a timestamp. -/
def match? (marks : Marks) (whole : Bool) (text : List Char) :
    Option (RecordingItem × List Char) :=
  match (afterMark? marks text).bind (body? marks whole true) with
  | some found => some found
  | none => body? marks whole false text

def ofText (marks : Marks) (text : String) : Except Fault RecordingItem :=
  match match? marks true text.toList with
  | some (item, _) => .ok item
  | none => .error (.malformedText text .recordingItem)

/-! ### The text behind an item is shorter -/

theorem length_afterSeparator? {marks : Marks} {text rest : List Char}
    (found : afterSeparator? marks text = some rest) : rest.length < text.length := by
  unfold afterSeparator? at found
  split at found
  next char tail =>
    split at found
    next => cases found; exact Nat.lt_succ_self _
    next => cases found
  next => cases found

theorem length_afterMark? {marks : Marks} {text rest : List Char}
    (found : afterMark? marks text = some rest) : rest.length < text.length := by
  unfold afterMark? at found
  split at found
  next =>
    have shorter := length_afterSeparator? found
    rw [List.length_drop] at shorter
    omega
  next => cases found

theorem length_timestamp? {text rest : List Char} {digits : List Char × List Char}
    (found : timestamp? text = some (digits, rest)) : rest.length ≤ text.length := by
  have dropped (chars : List Char) : (chars.dropWhile Char.isDigit).length ≤ chars.length :=
    (List.dropWhile_sublist _).length_le
  unfold timestamp? at found
  split at found
  next => cases found
  next =>
    split at found
    next tail point =>
      cases found
      have inner := dropped tail
      have outer := dropped text
      rw [point, List.length_cons] at outer
      omega
    next => cases found; exact dropped text

theorem length_next? {marks : Marks} {text rest : List Char} {next : Bool}
    (found : next? marks text = some (next, rest)) : rest.length < text.length := by
  unfold next? at found
  split at found
  next marked => cases found; exact length_afterMark? marked
  next =>
    obtain ⟨_, separated, same⟩ := Option.map_eq_some_iff.mp found
    cases same
    exact length_afterSeparator? separated

theorem length_secondary? {marks : Marks} {whole secondary : Bool} {text rest : List Char}
    (found : secondary? marks whole text = some (secondary, rest)) :
    rest.length ≤ text.length := by
  unfold secondary? at found
  split at found
  next separated =>
    cases found
    exact Nat.le_of_lt (length_afterSeparator? (Option.filter_eq_some_iff.mp separated).1)
  next =>
    split at found
    next => cases found; exact Nat.le_refl _
    next => cases found

theorem length_body? {marks : Marks} {whole previous : Bool} {text rest : List Char}
    {item : RecordingItem} (found : body? marks whole previous text = some (item, rest)) :
    rest.length < text.length := by
  simp only [body?, Option.bind_eq_bind, Option.bind_eq_some_iff, Option.pure_def,
    Option.some.injEq, Prod.mk.injEq] at found
  obtain ⟨⟨_, _⟩, stamped, _, separated, ⟨_, _⟩, nextFound, ⟨_, _⟩, secondFound, _, same⟩ := found
  dsimp only at separated nextFound secondFound same
  subst same
  have first := length_timestamp? stamped
  have second := length_afterSeparator? separated
  have third := length_next? nextFound
  have fourth := length_secondary? secondFound
  omega

theorem length_match? {marks : Marks} {whole : Bool} {text rest : List Char}
    {item : RecordingItem} (found : match? marks whole text = some (item, rest)) :
    rest.length < text.length := by
  unfold match? at found
  split at found
  next marked =>
    cases found
    obtain ⟨_, front, inner⟩ := Option.bind_eq_some_iff.mp marked
    have first := length_afterMark? front
    have second := length_body? inner
    omega
  next => exact length_body? found

end RecordingItem

end LevelFormat.Save
