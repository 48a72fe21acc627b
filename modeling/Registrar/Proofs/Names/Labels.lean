import Registrar.Proofs.Text.Splitting
import Registrar.Proofs.Text.Trimming
import Registrar.Records.Domain

/-!
# Names and their labels

A name is cleaned before it is read: white space goes from both of its ends, and then the points at
the second one. What is left has to be the text of a domain, in which the first label ends at the
first point and is not empty (`parse_eq_ok_iff`). A cleaned name does not end in a point, so there
is always something behind that point; but it may begin with the next one (`Gapped`).
-/

namespace Registrar.DomainName

open Text

variable {s : String} {d : DomainName} {front rest : List Char}

/-! ## Cleaned names -/

theorem getLast?_clean_ne (s : String) : (clean s).getLast? ≠ some '.' := fun last => by
  simpa using dropEndWhile_getLast? _ _ last

theorem rest_ne_nil_of_clean (whole : clean s = front ++ '.' :: rest) : rest ≠ [] := by
  rintro rfl
  exact getLast?_clean_ne s (by rw [whole, List.getLast?_concat])

theorem toList_text (d : DomainName) :
    d.text.toList = d.sld.toList ++ '.' :: d.tld.toList := by
  simp [text]

theorem split_of_not_mem (h : '.' ∉ clean s) :
    split s = .error (.noTld (String.ofList (clean s))) := by
  have none_left : (clean s).dropWhile (· != '.') = [] :=
    List.dropWhile_eq_nil_iff.2 (bne_of_not_mem h)
  simp only [split, none_left]

theorem split_of_first (plain : '.' ∉ front) (whole : clean s = front ++ '.' :: rest) :
    split s = if front = [] then .error (.emptyLabel (String.ofList (clean s)))
      else .ok ⟨String.ofList front, String.ofList rest⟩ := by
  have behind : rest.isEmpty = false := List.isEmpty_eq_false_iff.2 (rest_ne_nil_of_clean whole)
  simp only [split, whole, takeWhile_of_first plain, dropWhile_of_first plain, behind,
    Bool.or_false, List.isEmpty_iff]

/-! ## Names that are read -/

theorem split_eq_ok_iff :
    split s = .ok d ↔ '.' ∉ d.sld.toList ∧ d.sld ≠ "" ∧ clean s = d.text.toList := by
  rw [toList_text]
  constructor
  · intro h
    by_cases pointed : '.' ∈ clean s
    · obtain ⟨front, rest, whole, plain⟩ := List.eq_append_cons_of_mem pointed
      rw [split_of_first plain whole] at h
      split_ifs at h with empty
      cases h
      refine ⟨by simpa using plain, ?_, by simpa using whole⟩
      exact fun e => empty (by simpa using congrArg String.toList e)
    · rw [split_of_not_mem pointed] at h
      cases h
  · rintro ⟨plain, given, whole⟩
    have front : d.sld.toList ≠ [] := fun e => given (String.toList_eq_nil_iff.1 e)
    rw [split_of_first plain whole, if_neg front, String.ofList_toList, String.ofList_toList]

/-- A name is read as the domain whose text it is once it is clean. -/
theorem parse_eq_ok_iff :
    parse s = .ok d ↔ '.' ∉ d.sld.toList ∧ d.sld ≠ "" ∧ clean s = d.text.toList := by
  rw [← split_eq_ok_iff, parse]
  cases split s <;> simp

/-- A name that is not read is a fault of the caller's. -/
theorem parse_eq_ok_or_refused (s : String) :
    (∃ d, parse s = .ok d) ∨ ∃ reason, parse s = .error (.invalidInput reason) := by
  rw [parse]
  cases split s with
  | ok d => exact .inl ⟨d, rfl⟩
  | error fault => exact .inr ⟨fault.message, rfl⟩

/-! ## Labels -/

/-- What the points of a cleaned name divide it into. -/
def labels (s : String) : List (List Char) :=
  (clean s).splitOn '.'

/-- The labels on both sides of the first point are not empty. -/
def Parted (s : String) : Prop :=
  ∃ first second others, labels s = first :: second :: others ∧ first ≠ [] ∧ second ≠ []

/-- A label is there, but behind it there are several points in a row. -/
def Gapped (s : String) : Prop :=
  ∃ first others, labels s = first :: [] :: others ∧ first ≠ []

theorem parse_eq_ok_iff_labels :
    parse s = .ok d ↔ ∃ second others, labels s = d.sld.toList :: second :: others ∧
      d.sld.toList ≠ [] ∧ d.tld.toList = ['.'].intercalate (second :: others) := by
  rw [parse_eq_ok_iff, toList_text]
  simp only [labels, splitOn_eq_cons_cons_iff, ne_eq, String.toList_eq_nil_iff]
  constructor
  · rintro ⟨plain, given, whole⟩
    cases parts : d.tld.toList.splitOn '.' with
    | nil => exact absurd parts (List.splitOn_ne_nil '.' _)
    | cons second others =>
      refine ⟨second, others, ⟨plain, d.tld.toList, whole, parts⟩, given, ?_⟩
      rw [← parts, List.intercalate_splitOn]
  · rintro ⟨second, others, ⟨plain, rest, whole, parts⟩, given, tld⟩
    refine ⟨plain, given, ?_⟩
    rw [whole, tld, ← parts, List.intercalate_splitOn]

theorem exists_parse_iff :
    (∃ d, parse s = .ok d) ↔ ∃ first second others, labels s = first :: second :: others ∧
      first ≠ [] := by
  constructor
  · rintro ⟨d, h⟩
    obtain ⟨second, others, parts, given, -⟩ := parse_eq_ok_iff_labels.1 h
    exact ⟨_, second, others, parts, given⟩
  · rintro ⟨first, second, others, parts, given⟩
    refine ⟨⟨.ofList first, .ofList (['.'].intercalate (second :: others))⟩, ?_⟩
    exact parse_eq_ok_iff_labels.2 ⟨second, others, by simpa using parts, by simpa using given,
      by simp⟩

/-- Names whose labels are both there are read, and so are those with a gap. -/
theorem exists_parse_iff_parted_or_gapped : (∃ d, parse s = .ok d) ↔ Parted s ∨ Gapped s := by
  rw [exists_parse_iff]
  constructor
  · rintro ⟨first, second, others, parts, given⟩
    cases second with
    | nil => exact .inr ⟨first, others, parts, given⟩
    | cons c second => exact .inl ⟨first, c :: second, others, parts, given, List.cons_ne_nil _ _⟩
  · rintro (⟨first, second, others, parts, given, -⟩ | ⟨first, others, parts, given⟩)
    · exact ⟨first, second, others, parts, given⟩
    · exact ⟨first, [], others, parts, given⟩

theorem not_parted_of_gapped (h : Gapped s) : ¬ Parted s := by
  obtain ⟨first, others, parts, -⟩ := h
  rintro ⟨first', second, others', parts', -, given⟩
  rw [parts] at parts'
  cases parts'
  exact given rfl

end Registrar.DomainName
