import LevelFormat.Number.Numeral
import Mathlib.Data.Nat.Digits.Defs

/-!
Numerals and the numbers they stand for.

`Denotes` gives a numeral its number by the places of its digits. Exactly such texts are read, as that
number (`natural?_eq_some_iff`, and `integer?_eq_some_iff` for those with a sign). A number that was
read is printed as its numeral without the zeros in front (`naturalText_of_denotes`).
-/

namespace LevelFormat.Number

variable {text : List Char} {number : Nat} {char : Char}

def digitValue (char : Char) : Nat := char.toNat - '0'.toNat

/-- The text is digits, one at least, and the number is what they make with ten to the place of each. -/
structure Denotes (text : List Char) (number : Nat) : Prop where
  some : text ≠ []
  digits : ∀ char ∈ text, '0' ≤ char ∧ char ≤ '9'
  value : number = Nat.ofDigits 10 (text.reverse.map digitValue)

theorem isDigit_iff : char.isDigit = true ↔ '0' ≤ char ∧ char ≤ '9' := by
  simp only [Char.isDigit, Bool.and_eq_true, decide_eq_true_eq]
  exact Iff.rfl

theorem isNumeral_iff : isNumeral text = true ↔
    text ≠ [] ∧ ∀ char ∈ text, '0' ≤ char ∧ char ≤ '9' := by
  simp [isNumeral, ← isDigit_iff]

theorem ofDigitChars_eq_ofDigits (text : List Char) :
    Nat.ofDigitChars 10 text 0 = Nat.ofDigits 10 (text.reverse.map digitValue) := by
  induction text with
  | nil => rfl
  | cons first rest ih =>
      rw [Nat.ofDigitChars_cons, Nat.ofDigitChars_eq_ofDigitChars_zero, ih, List.reverse_cons,
        List.map_append, Nat.ofDigits_append]
      simp [digitValue]
      omega

theorem natural?_eq_some_iff : natural? text = some number ↔ Denotes text number := by
  unfold natural?
  by_cases numeral : isNumeral text = true
  · obtain ⟨nonempty, digits⟩ := isNumeral_iff.mp numeral
    rw [if_pos numeral, Option.some.injEq, ofDigitChars_eq_ofDigits, eq_comm]
    exact ⟨fun value => ⟨nonempty, digits, value⟩, Denotes.value⟩
  · rw [if_neg numeral]
    refine iff_of_false nofun ?_
    intro denotes
    exact numeral (isNumeral_iff.mpr ⟨denotes.some, denotes.digits⟩)

theorem natural?_eq_none_iff : natural? text = none ↔ ∀ number, ¬ Denotes text number := by
  simp only [← natural?_eq_some_iff, Option.eq_none_iff_forall_ne_some, ne_eq]

theorem Denotes.unique {other : Nat} (denotes : Denotes text number) (again : Denotes text other) :
    number = other := by
  rw [denotes.value, again.value]

theorem isDigit_of_mem_naturalText (member : char ∈ naturalText number) : char.isDigit = true :=
  Nat.isDigit_of_mem_toDigits (by decide) (by decide) member

theorem denotes_naturalText (number : Nat) : Denotes (naturalText number) number :=
  natural?_eq_some_iff.mp (natural?_naturalText number)

/-! ### Zeros in front -/

def unpadded (text : List Char) : List Char :=
  match text.dropWhile (· = '0') with
  | [] => ['0']
  | digits => digits

theorem digitChar_digitValue (digit : '0' ≤ char ∧ char ≤ '9') :
    digitValue char < 10 ∧ Nat.digitChar (digitValue char) = char := by
  obtain ⟨lower, upper⟩ : 48 ≤ char.toNat ∧ char.toNat ≤ 57 := digit
  have small : digitValue char < 10 := by
    change char.toNat - 48 < 10
    omega
  refine ⟨small, ?_⟩
  rw [← Char.toNat_inj, Nat.toNat_digitChar_of_lt_ten small]
  change 48 + (char.toNat - 48) = char.toNat
  omega

/-- Digits behind a positive number are the last digits of the larger one. -/
theorem naturalText_ofDigitChars (digits : ∀ char ∈ text, '0' ≤ char ∧ char ≤ '9')
    (positive : 0 < number) :
    naturalText (Nat.ofDigitChars 10 text number) = naturalText number ++ text := by
  induction text generalizing number with
  | nil => simp
  | cons first rest ih =>
      obtain ⟨firstDigit, restDigits⟩ := List.forall_mem_cons.mp digits
      obtain ⟨small, same⟩ := digitChar_digitValue firstDigit
      have longer : naturalText (10 * number + digitValue first) = naturalText number ++ [first] := by
        rw [naturalText, naturalText, ← Nat.toDigits_append_toDigits (by decide) positive small,
          Nat.toDigits_of_lt_base small, same]
      rw [Nat.ofDigitChars_cons]
      change naturalText (Nat.ofDigitChars 10 rest (10 * number + digitValue first)) = _
      rw [ih restDigits (by omega), longer, List.append_assoc, List.singleton_append]

theorem naturalText_of_head_ne_zero {first : Char} {rest : List Char}
    (digits : ∀ char ∈ first :: rest, '0' ≤ char ∧ char ≤ '9') (nonzero : first ≠ '0') :
    naturalText (Nat.ofDigitChars 10 (first :: rest) 0) = first :: rest := by
  obtain ⟨firstDigit, restDigits⟩ := List.forall_mem_cons.mp digits
  obtain ⟨small, same⟩ := digitChar_digitValue firstDigit
  have positive : 0 < digitValue first := by
    apply Nat.pos_of_ne_zero
    intro zero
    rw [zero] at same
    exact nonzero same.symm
  have printed := naturalText_ofDigitChars restDigits positive
  rw [naturalText, naturalText, Nat.toDigits_of_lt_base small, same] at printed
  simpa [naturalText, Nat.ofDigitChars_cons, digitValue] using printed

theorem ofDigitChars_dropWhile (text : List Char) :
    Nat.ofDigitChars 10 (text.dropWhile (· = '0')) 0 = Nat.ofDigitChars 10 text 0 := by
  induction text with
  | nil => rfl
  | cons first rest ih =>
      by_cases zero : first = '0'
      · simp [zero, ih, Nat.ofDigitChars_cons]
      · simp [zero]

theorem naturalText_of_denotes (denotes : Denotes text number) :
    naturalText number = unpadded text := by
  have digits : ∀ char ∈ text.dropWhile (· = '0'), '0' ≤ char ∧ char ≤ '9' :=
    fun char member => denotes.digits char ((List.dropWhile_sublist _).subset member)
  rw [denotes.value, ← ofDigitChars_eq_ofDigits, ← ofDigitChars_dropWhile, unpadded]
  split
  next none =>
    rw [none]
    rfl
  next _ some =>
    obtain ⟨first, rest, split⟩ := List.exists_cons_of_ne_nil some
    have nonzero : first ≠ '0' := by
      have stops := List.head?_dropWhile_not (· = '0') text
      simpa [split] using stops
    rw [split] at digits ⊢
    exact naturalText_of_head_ne_zero digits nonzero

/-! ### Signs -/

inductive DenotesInteger : List Char → Int → Prop
  | unsigned {text : List Char} {number : Nat} :
    Denotes text number → DenotesInteger text number
  | plus {text : List Char} {number : Nat} :
    Denotes text number → DenotesInteger ('+' :: text) number
  | minus {text : List Char} {number : Nat} :
    Denotes text number → DenotesInteger ('-' :: text) (-number)

theorem Denotes.head_ne {sign : Char} (denotes : Denotes (sign :: text) number) :
    sign ≠ '+' ∧ sign ≠ '-' := by
  have digit := denotes.digits sign List.mem_cons_self
  constructor
  · rintro rfl
    exact absurd digit (by decide)
  · rintro rfl
    exact absurd digit (by decide)

theorem map_natural?_eq_some_iff {value : Nat → Int} {integer : Int} :
    (natural? text).map value = some integer ↔ ∃ number, Denotes text number ∧ value number = integer := by
  simp only [Option.map_eq_some_iff, natural?_eq_some_iff]

theorem integer?_minus (text : List Char) :
    integer? ('-' :: text) = (natural? text).map fun number : Nat => -(number : Int) := by
  cases found : natural? text with
  | none => simp [integer?, found]
  | some number => simp [integer?, found]

theorem integer?_eq_some_iff {integer : Int} :
    integer? text = some integer ↔ DenotesInteger text integer := by
  unfold integer?
  split
  next rest =>
    rw [map_natural?_eq_some_iff]
    constructor
    · rintro ⟨number, denotes, rfl⟩
      exact .plus denotes
    · intro signed
      cases signed with
      | unsigned denotes => exact absurd rfl denotes.head_ne.1
      | plus denotes => exact ⟨_, denotes, rfl⟩
  next rest =>
    change integer? ('-' :: rest) = _ ↔ _
    rw [integer?_minus, map_natural?_eq_some_iff]
    constructor
    · rintro ⟨number, denotes, rfl⟩
      exact .minus denotes
    · intro signed
      cases signed with
      | unsigned denotes => exact absurd rfl denotes.head_ne.2
      | minus denotes => exact ⟨_, denotes, rfl⟩
  next noPlus noMinus =>
    rw [map_natural?_eq_some_iff]
    constructor
    · rintro ⟨number, denotes, rfl⟩
      exact .unsigned denotes
    · intro signed
      cases signed with
      | unsigned denotes => exact ⟨_, denotes, rfl⟩
      | plus _ => exact absurd rfl (noPlus _)
      | minus _ => exact absurd rfl (noMinus _)

theorem denotesInteger_integerText (integer : Int) :
    DenotesInteger (integerText integer) integer := by
  have denotes := denotes_naturalText integer.natAbs
  unfold integerText
  by_cases negative : integer < 0
  · have signed := DenotesInteger.minus denotes
    rw [if_pos negative]
    rwa [show -(integer.natAbs : Int) = integer by omega] at signed
  · have unsigned := DenotesInteger.unsigned denotes
    rw [if_neg negative]
    rwa [show (integer.natAbs : Int) = integer by omega] at unsigned

theorem mem_integerText {integer : Int} (member : char ∈ integerText integer) :
    char.isDigit = true ∨ char = '-' := by
  unfold integerText at member
  split at member
  next =>
    rcases List.mem_cons.mp member with rfl | digit
    · exact .inr rfl
    · exact .inl (isDigit_of_mem_naturalText digit)
  next => exact .inl (isDigit_of_mem_naturalText member)

theorem integerText_ne_nil (integer : Int) : integerText integer ≠ [] := by
  unfold integerText
  split
  next => exact List.cons_ne_nil _ _
  next => exact naturalText_ne_nil _

end LevelFormat.Number
