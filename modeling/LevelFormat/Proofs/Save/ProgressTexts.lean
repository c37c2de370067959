import LevelFormat.Proofs.Number.Numerals
import LevelFormat.Proofs.Text.Fidelity
import LevelFormat.Save.Progress

/-!
Texts of progress lists.

A text that is not empty is cut at the separators, and is read exactly if every part is a numeral of a
small integer. What is printed has such parts, provided that the separator stands in no number. Main
statement: `Progress.text_exact`.
-/

namespace LevelFormat.Save

open LevelFormat.Number (DenotesInteger integer?_eq_some_iff integerText integerText_ne_nil
  denotesInteger_integerText mem_integerText)

/-! ### Parts of a text -/

structure Separated (separator : Char) (text : List Char) (parts : List (List Char)) : Prop where
  nonempty : parts ≠ []
  free : ∀ part ∈ parts, separator ∉ part
  joined : text = [separator].intercalate parts

variable {separator : Char} {text : List Char} {parts : List (List Char)}

theorem separator_not_mem_part (text : List Char) :
    ∀ part ∈ text.splitOn separator, separator ∉ part := by
  induction text with
  | nil => simp
  | cons char text ih =>
      obtain ⟨first, rest, split⟩ := List.exists_cons_of_ne_nil (List.splitOn_ne_nil separator text)
      rw [split, List.forall_mem_cons] at ih
      rw [List.splitOn_cons_eq_if_modifyHead, split, List.modifyHead_cons]
      by_cases here : (char == separator) = true
      · simpa [here] using ih
      · have other : separator ≠ char := by
          intro same
          exact here (beq_iff_eq.mpr same.symm)
        simpa [here, other] using ih

theorem separated_iff : Separated separator text parts ↔ text.splitOn separator = parts := by
  constructor
  · rintro ⟨nonempty, free, rfl⟩
    exact List.splitOn_intercalate separator free nonempty
  · rintro rfl
    exact ⟨List.splitOn_ne_nil separator text, separator_not_mem_part text,
      (List.intercalate_splitOn separator).symm⟩

theorem separator_mem_intercalate_iff (free : ∀ part ∈ parts, separator ∉ part) :
    separator ∈ [separator].intercalate parts ↔ 2 ≤ parts.length := by
  match parts with
  | [] => simp
  | [part] => simpa using free
  | first :: second :: rest =>
      rw [List.intercalate_cons_cons]
      simp

namespace Progress

variable {marks : Marks} {text : String} {progress : Progress}

theorem entry?_eq_some_iff {part : List Char} {value : Int8} :
    entry? part = some value ↔ DenotesInteger part value.toInt := by
  rw [← integer?_eq_some_iff]
  unfold entry?
  cases Number.integer? part with
  | none => exact iff_of_false nofun nofun
  | some number =>
      simp only [Option.some.injEq, Bool.and_eq_true, decide_eq_true_eq]
      by_cases small : -128 ≤ number ∧ number ≤ 127
      · have same : (Int8.ofInt number).toInt = number :=
          Int8.toInt_ofInt_of_le (by omega) (by omega)
        rw [if_pos small, Option.some.injEq, ← Int8.toInt_inj, same]
      · have lower := value.le_toInt
        have upper := value.toInt_lt
        rw [if_neg small]
        refine iff_of_false nofun ?_
        rintro rfl
        omega

theorem entry?_eq_none_iff {part : List Char} :
    entry? part = none ↔ ∀ number, DenotesInteger part number → number < -128 ∨ 127 < number := by
  constructor
  · intro refused number denotes
    by_contra small
    have same : (Int8.ofInt number).toInt = number :=
      Int8.toInt_ofInt_of_le (by omega) (by omega)
    rw [← same, ← entry?_eq_some_iff, refused] at denotes
    cases denotes
  · intro large
    cases found : entry? part with
    | none => rfl
    | some value =>
        have lower := value.le_toInt
        have upper := value.toInt_lt
        have outside := large _ (entry?_eq_some_iff.mp found)
        omega

theorem mapM_entry?_iff {parts : List (List Char)} {values : List Int8} :
    parts.mapM entry? = some values ↔
      List.Forall₂ (fun part value => DenotesInteger part value.toInt) parts values := by
  simp only [Text.mapM_eq_some_iff, entry?_eq_some_iff]

def Lists (marks : Marks) (text : String) (values : List Int8) : Prop :=
  text = "" ∧ values = [] ∨
    text ≠ "" ∧ ∃ parts, Separated marks.progressSeparator text.toList parts ∧
      List.Forall₂ (fun part value => DenotesInteger part value.toInt) parts values

def Spoiled (marks : Marks) (text : String) : Prop :=
  text ≠ "" ∧ ∃ parts, Separated marks.progressSeparator text.toList parts ∧
    ∃ part ∈ parts, ∀ number, DenotesInteger part number → number < -128 ∨ 127 < number

theorem ofText_empty (marks : Marks) : ofText marks "" = .ok {} := rfl

theorem ofText_of_ne_empty (marks : Marks) (nonempty : text ≠ "") :
    ofText marks text =
      match (text.toList.splitOn marks.progressSeparator).mapM entry? with
      | some values => .ok ⟨values⟩
      | none => .error (.malformedText text .progressEntry) := by
  rw [ofText]
  exact if_neg (by simpa using nonempty)

theorem lists_iff_of_ne_empty (nonempty : text ≠ "") {values : List Int8} :
    Lists marks text values ↔
      (text.toList.splitOn marks.progressSeparator).mapM entry? = some values := by
  simp only [Lists, nonempty, false_and, ne_eq, not_false_eq_true, true_and, false_or,
    separated_iff, exists_eq_left', mapM_entry?_iff]

theorem ofText_eq_ok_iff : ofText marks text = .ok progress ↔ Lists marks text progress.values := by
  obtain ⟨values⟩ := progress
  by_cases empty : text = ""
  · rw [empty, ofText_empty]
    simp [Lists, eq_comm]
  · rw [ofText_of_ne_empty marks empty, lists_iff_of_ne_empty empty]
    cases (text.toList.splitOn marks.progressSeparator).mapM entry? with
    | none => simp
    | some found => simp

theorem mapM_entry?_eq_none_iff {parts : List (List Char)} :
    parts.mapM entry? = none ↔ ∃ part ∈ parts, entry? part = none := by
  induction parts with
  | nil => simp
  | cons part parts ih =>
      rw [List.mapM_cons, List.exists_mem_cons_iff, ← ih]
      cases entry? part with
      | none => simp
      | some value => cases parts.mapM entry? <;> simp

theorem ofText_eq_error_iff {fault : Fault} : ofText marks text = .error fault ↔
    Spoiled marks text ∧ fault = .malformedText text .progressEntry := by
  by_cases empty : text = ""
  · rw [empty, ofText_empty]
    simp [Spoiled]
  · have spoiled : Spoiled marks text ↔
        (text.toList.splitOn marks.progressSeparator).mapM entry? = none := by
      simp only [Spoiled, ne_eq, empty, not_false_eq_true, true_and, separated_iff,
        exists_eq_left', mapM_entry?_eq_none_iff, entry?_eq_none_iff]
    rw [ofText_of_ne_empty marks empty, spoiled]
    cases (text.toList.splitOn marks.progressSeparator).mapM entry? with
    | none => simp [eq_comm]
    | some found => simp

/-! ### Printed lists -/

theorem toList_toText (marks : Marks) (progress : Progress) :
    (toText marks progress).toList = [marks.progressSeparator].intercalate
      (progress.values.map fun value => integerText value.toInt) :=
  String.toList_ofList

theorem separator_not_mem_integerText (noDigit : marks.progressSeparator.isDigit = false)
    (noSign : marks.progressSeparator ≠ '-') (progress : Progress) :
    ∀ part ∈ progress.values.map fun value => integerText value.toInt,
      marks.progressSeparator ∉ part := by
  intro part member inside
  obtain ⟨value, -, rfl⟩ := List.mem_map.mp member
  rcases mem_integerText inside with digit | sign
  · rw [noDigit] at digit
    cases digit
  · exact noSign sign

theorem toText_eq_empty_iff (marks : Marks) (progress : Progress) :
    toText marks progress = "" ↔ progress.values = [] := by
  rw [← String.toList_inj, toList_toText]
  match progress.values with
  | [] => simp
  | [value] => simpa using integerText_ne_nil value.toInt
  | first :: second :: rest =>
      rw [List.map_cons, List.map_cons, List.intercalate_cons_cons]
      simp

theorem lists_toText (noDigit : marks.progressSeparator.isDigit = false)
    (noSign : marks.progressSeparator ≠ '-') (progress : Progress) :
    Lists marks (toText marks progress) progress.values := by
  by_cases empty : progress.values = []
  · exact .inl ⟨(toText_eq_empty_iff marks progress).mpr empty, empty⟩
  · refine .inr ⟨fun none => empty ((toText_eq_empty_iff marks progress).mp none), _,
      ⟨by simpa using empty, separator_not_mem_integerText noDigit noSign progress,
        toList_toText marks progress⟩, ?_⟩
    rw [List.forall₂_map_left_iff, List.forall₂_same]
    exact fun value _ => denotesInteger_integerText value.toInt

theorem resembles_toText_iff (noDigit : marks.progressSeparator.isDigit = false)
    (noSign : marks.progressSeparator ≠ '-') (progress : Progress) :
    resembles marks (toText marks progress) = true ↔ 2 ≤ progress.values.length := by
  rw [resembles, List.contains_iff_mem, toList_toText,
    separator_mem_intercalate_iff (separator_not_mem_integerText noDigit noSign progress),
    List.length_map]

/-- With a separator that is no digit and not the minus sign, every list is read back from its text,
and its text looks like a list exactly if there are two values or more. With any separator, a text is
read exactly if it is empty or all of its parts are small integers, as the list of these, and is
malformed if some part is not. -/
theorem text_exact (marks : Marks) :
    (marks.progressSeparator.isDigit = false → marks.progressSeparator ≠ '-' → ∀ progress,
      ofText marks (toText marks progress) = .ok progress ∧
        (resembles marks (toText marks progress) = true ↔ 2 ≤ progress.values.length)) ∧
      ∀ text,
        (∀ progress, ofText marks text = .ok progress ↔ Lists marks text progress.values) ∧
        ∀ fault, ofText marks text = .error fault ↔
          Spoiled marks text ∧ fault = .malformedText text .progressEntry := by
  refine ⟨fun noDigit noSign progress => ⟨?_, resembles_toText_iff noDigit noSign progress⟩,
    fun text => ⟨fun progress => ofText_eq_ok_iff, fun fault => ofText_eq_error_iff⟩⟩
  exact ofText_eq_ok_iff.mpr (lists_toText noDigit noSign progress)

/-- Numbers are printed without the plus sign, so it can separate them. -/
theorem text_exact_plus :
    '+'.isDigit = false ∧ '+' ≠ '-' ∧
      ofText { progressSeparator := '+' } "-128+7" = .ok ⟨[-128, 7]⟩ ∧
      resembles { progressSeparator := '+' } "-128+7" = true := by
  have printed : toText { progressSeparator := '+' } ⟨[-128, 7]⟩ = "-128+7" := by decide
  have noDigit : '+'.isDigit = false := by decide
  have noSign : '+' ≠ '-' := by decide
  obtain ⟨back, several⟩ := (text_exact { progressSeparator := '+' }).1 noDigit noSign ⟨[-128, 7]⟩
  rw [printed] at back several
  exact ⟨noDigit, noSign, back, several.mpr (by decide)⟩

end Progress

end LevelFormat.Save
