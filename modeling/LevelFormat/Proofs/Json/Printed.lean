import LevelFormat.Json.Reader
import LevelFormat.Proofs.Number.Numerals

/-!
Documents in the form in which they are printed, read from the front.

A string without escapes is read up to its closing quotation mark, and a whole number up to the first
character that cannot go on with it (`Reader.string_of_plain`, `Reader.natural_naturalText`). The
members of a map are read one by one, up to the closing bracket.
-/

namespace LevelFormat.Json

open LevelFormat.Number (denotes_naturalText isDigit_of_mem_naturalText naturalText unpadded)

variable {number : Nat} {rest : List Char}

/-! ### Strings -/

def IsPlain (char : Char) : Prop := char ≠ '"' ∧ char ≠ '\\' ∧ ¬ char < ' '

theorem piecesOnto?_plain {text : List Char} (plain : ∀ char ∈ text, IsPlain char)
    (reversed : List Piece) (rest : List Char) :
    piecesOnto? reversed (text ++ '"' :: rest) =
      some (reversed.reverse ++ text.map Piece.char, rest) := by
  induction text generalizing reversed with
  | nil => simp [piecesOnto?]
  | cons char text ih =>
      obtain ⟨⟨noQuote, noEscape, visible⟩, others⟩ := List.forall_mem_cons.mp plain
      have kept : piecesOnto? reversed (char :: (text ++ '"' :: rest)) =
          piecesOnto? (.char char :: reversed) (text ++ '"' :: rest) := by
        rw [piecesOnto?, if_neg visible]
        · exact noQuote
        · exact fun _ _ _ _ _ same _ => noEscape same
        · exact fun _ _ same _ => noEscape same
      rw [List.cons_append, kept, ih others]
      simp

theorem charsOnto?_plain (text reversed : List Char) :
    charsOnto? reversed (text.map Piece.char) = some (reversed.reverse ++ text) := by
  induction text generalizing reversed with
  | nil => simp [charsOnto?]
  | cons char text ih =>
      rw [List.map_cons, charsOnto?, ih]
      simp

/-! ### Numerals -/

def EndsNumeral (rest : List Char) : Prop :=
  ∀ char ∈ rest.head?, char.isDigit = false ∧ char ≠ '.' ∧ char ≠ 'e' ∧ char ≠ 'E'

theorem digits?_naturalText (number : Nat) (ends : EndsNumeral rest) :
    digits? (naturalText number ++ rest) = some (naturalText number, rest) := by
  have stops : rest.takeWhile Char.isDigit = [] ∧ rest.dropWhile Char.isDigit = rest := by
    cases rest with
    | nil => simp
    | cons char rest =>
        have noDigit := (ends char rfl).1
        simp [noDigit]
  have taken : (naturalText number ++ rest).takeWhile Char.isDigit = naturalText number := by
    rw [List.takeWhile_append_of_pos fun _ => isDigit_of_mem_naturalText, stops.1, List.append_nil]
  have left : (naturalText number ++ rest).dropWhile Char.isDigit = rest := by
    rw [List.dropWhile_append_of_pos fun _ => isDigit_of_mem_naturalText, stops.2]
  rw [digits?, taken, left]
  split
  next none => exact absurd none (Number.naturalText_ne_nil number)
  next => rfl

/-- A printed number has no zeros in front. -/
theorem naturalText_ne_zero_cons (number : Nat) (char : Char) (rest : List Char) :
    naturalText number ≠ '0' :: char :: rest := by
  intro padded
  have printed := Number.naturalText_of_denotes (denotes_naturalText number)
  rw [padded, unpadded] at printed
  have shorter := ((char :: rest).dropWhile_sublist (· = '0')).length_le
  split at printed
  next => simp at printed
  next digits =>
    have same := congrArg List.length printed
    simp only [List.dropWhile_cons, decide_true, if_true, List.length_cons] at same shorter
    omega

theorem whole?_naturalText (number : Nat) (ends : EndsNumeral rest) :
    whole? (naturalText number ++ rest) = some (naturalText number, rest) := by
  rw [whole?, digits?_naturalText number ends]
  split
  next padded =>
    simp only [Option.some.injEq, Prod.mk.injEq] at padded
    exact absurd padded.1 (naturalText_ne_zero_cons number _ _)
  next => rfl

theorem fraction?_of_endsNumeral (ends : EndsNumeral rest) : fraction? rest = some ([], rest) := by
  unfold fraction?
  split
  next => exact absurd rfl (ends _ rfl).2.1
  next => rfl

theorem exponent?_of_endsNumeral (ends : EndsNumeral rest) : exponent? rest = some (none, rest) := by
  unfold exponent?
  split
  next => exact absurd rfl (ends _ rfl).2.2.1
  next => exact absurd rfl (ends _ rfl).2.2.2
  next => rfl

theorem exists_naturalText_eq_cons (number : Nat) :
    ∃ digit others, naturalText number = digit :: others ∧ digit.isDigit = true := by
  obtain ⟨digit, others, same⟩ := List.exists_cons_of_ne_nil (Number.naturalText_ne_nil number)
  exact ⟨digit, others, same, isDigit_of_mem_naturalText (same ▸ List.mem_cons_self)⟩

theorem numeral?_naturalText (number : Nat) (ends : EndsNumeral rest) :
    numeral? (naturalText number ++ rest) = some (⟨false, naturalText number, [], none⟩, rest) := by
  have unsigned : sign (naturalText number ++ rest) = (false, naturalText number ++ rest) := by
    obtain ⟨digit, others, same, isDigit⟩ := exists_naturalText_eq_cons number
    have noMinus : digit ≠ '-' := by
      rintro rfl
      cases isDigit
    rw [same, List.cons_append]
    simp [sign, noMinus]
  simp [numeral?, unsigned, whole?_naturalText number ends, fraction?_of_endsNumeral ends,
    exponent?_of_endsNumeral ends]

/-- As long as the number that they make fits into 64 bits, no digit is left over. -/
theorem appendDigits_of_lt {digits : List Char} {significand : Nat}
    (small : Nat.ofDigitChars 10 digits significand < 2 ^ 64) :
    appendDigits significand digits = (Nat.ofDigitChars 10 digits significand, 0) := by
  induction digits generalizing significand with
  | nil => rfl
  | cons digit digits ih =>
      rw [Nat.ofDigitChars_cons] at small ⊢
      have longer : 10 * significand + (digit.toNat - '0'.toNat) ≤
          Nat.ofDigitChars 10 digits (10 * significand + (digit.toNat - '0'.toNat)) := by
        rw [Nat.ofDigitChars_eq_ofDigitChars_zero]
        exact Nat.le_add_right_of_le (Nat.le_mul_of_pos_left _ (Nat.pow_pos (by decide)))
      rw [appendDigits, if_pos (by omega), ih small]

theorem value?_naturalText (small : number < 2 ^ 64) :
    Numeral.value? ⟨false, naturalText number, [], none⟩ = some (.integer number) := by
  have value : Nat.ofDigitChars 10 (naturalText number) 0 = number :=
    Nat.ofDigitChars_ten_toDigits
  have whole : appendDigits 0 (naturalText number) = (number, 0) := by
    rw [appendDigits_of_lt (by rwa [value]), value]
  simp [Numeral.value?, whole]

namespace Reader

variable {α β : Type} {text : List Char} {char : Char}

theorem bind_of_ok {reader : Reader α} {next : α → Reader β} {value : α}
    (taken : reader text = .ok (value, rest)) : (reader >>= next) text = next value rest := by
  change (reader text >>= fun found => next found.1 found.2) = _
  rw [taken]
  rfl

theorem bind_of_error {reader : Reader α} {next : α → Reader β} {fault : Fault}
    (failed : reader text = .error fault) : (reader >>= next) text = .error fault := by
  change (reader text >>= fun found => next found.1 found.2) = _
  rw [failed]
  rfl

/-- A document is read from its front, and nothing may be left behind what was read. -/
theorem run'_finish (reader : Reader α) (text : List Char) :
    (do let value ← reader; finish; return value : Reader α).run' text =
      match reader text with
      | .ok (value, rest) => (finish rest).map fun _ => value
      | .error fault => .error fault := by
  rw [StateT.run']
  cases taken : reader text with
  | error fault =>
      rw [bind_of_error taken]
      rfl
  | ok found =>
      obtain ⟨value, rest⟩ := found
      rw [bind_of_ok taken]
      change _ = (finish rest).map fun _ => value
      cases finished : finish rest with
      | error fault =>
          rw [bind_of_error finished]
          rfl
      | ok after =>
          rw [bind_of_ok finished]
          rfl

theorem peek_cons (visible : isBlank char = false) (rest : List Char) :
    peek (char :: rest) = .ok (some char, char :: rest) := by
  change Except.ok (((char :: rest).dropWhile isBlank).head?, (char :: rest).dropWhile isBlank) = _
  simp [visible]

theorem expect_cons (visible : isBlank char = false) (rest : List Char) :
    expect char (char :: rest) = .ok ((), rest) := by
  rw [expect, bind_of_ok (peek_cons visible rest), if_pos rfl]
  rfl

theorem string_of_plain (plain : ∀ char ∈ text, IsPlain char) (rest : List Char) :
    string ('"' :: (text ++ '"' :: rest)) = .ok (text, rest) := by
  rw [string, bind_of_ok (expect_cons rfl _)]
  simp [word, pieces?, piecesOnto?_plain plain, chars?, charsOnto?_plain]

theorem number_naturalText (small : number < 2 ^ 64) (ends : EndsNumeral rest) :
    Reader.number (naturalText number ++ rest) = .ok (.integer number, rest) := by
  simp [Reader.number, word, numeral?_naturalText number ends, value?_naturalText small]

theorem found_of_isDigit (digit : char.isDigit = true) (rest : List Char) :
    found (char :: rest) = Reader.number (char :: rest) := by
  have visible : isBlank char = false := by
    by_contra blank
    simp only [isBlank, Bool.not_eq_false, Bool.or_eq_true, decide_eq_true_eq] at blank
    rcases blank with ((rfl | rfl) | rfl) | rfl <;> cases digit
  rw [found, bind_of_ok (peek_cons visible rest)]
  generalize same : some char = front
  split
  case h_7 => rfl
  all_goals
    cases same
    cases digit

/-- A printed number is read as itself, up to the limit. -/
theorem natural_naturalText {limit : Nat} (expected : String) (inside : number ≤ limit)
    (fits : limit < 2 ^ 64) (ends : EndsNumeral rest) :
    natural limit expected (naturalText number ++ rest) = .ok (number, rest) := by
  have taken : found (naturalText number ++ rest) = .ok (.integer number, rest) := by
    obtain ⟨digit, others, same, isDigit⟩ := exists_naturalText_eq_cons number
    have read := number_naturalText (Nat.lt_of_le_of_lt inside fits) ends
    rw [same, List.cons_append] at read ⊢
    rw [found_of_isDigit isDigit, read]
  rw [natural, bind_of_ok taken]
  simp [inside]
  rfl

theorem uint32_naturalText (value : UInt32) (ends : EndsNumeral rest) :
    uint32 (naturalText value.toNat ++ rest) = .ok (value, rest) := by
  have inside : value.toNat ≤ 2 ^ 32 - 1 := Nat.le_of_lt_succ value.toNat_lt
  rw [uint32, bind_of_ok (natural_naturalText "u32" inside (by decide) ends), UInt32.ofNat_toNat]
  rfl

theorem uint8_naturalText (value : UInt8) (ends : EndsNumeral rest) :
    uint8 (naturalText value.toNat ++ rest) = .ok (value, rest) := by
  have inside : value.toNat ≤ 2 ^ 8 - 1 := Nat.le_of_lt_succ value.toNat_lt
  rw [uint8, bind_of_ok (natural_naturalText "u8" inside (by decide) ends), UInt8.ofNat_toNat]
  rfl

/-! ### Members -/

theorem behind_colon {value : Reader α} {found : α} (taken : value text = .ok (found, rest))
    (keep : α → β) :
    (do expect ':'; return keep (← value) : Reader β) (':' :: text) = .ok (keep found, rest) := by
  rw [bind_of_ok (expect_cons rfl text), bind_of_ok taken]
  rfl

section Members

variable {member : List Char → α → Reader α} {key middle : List Char} {before after : α}

theorem members_of_comma (steps : Nat) (named : string text = .ok (key, middle))
    (taken : member key before middle = .ok (after, ',' :: rest)) :
    members member (steps + 1) before text = members member steps after rest := by
  rw [members, bind_of_ok named, bind_of_ok taken, bind_of_ok (peek_cons rfl rest),
    if_neg (by decide), bind_of_ok (expect_cons rfl rest)]

theorem members_of_closing (steps : Nat) (named : string text = .ok (key, middle))
    (taken : member key before middle = .ok (after, '}' :: rest)) :
    members member (steps + 1) before text = .ok (after, rest) := by
  rw [members, bind_of_ok named, bind_of_ok taken, bind_of_ok (peek_cons rfl rest), if_pos rfl]
  rfl

theorem map_of_members (rest : List Char) :
    map member before ('{' :: '"' :: rest) =
      members member (rest.length + 1) before ('"' :: rest) := by
  rw [map, bind_of_ok (expect_cons rfl _), bind_of_ok (peek_cons rfl _), if_neg (by decide)]
  rfl

end Members

end Reader

end LevelFormat.Json
