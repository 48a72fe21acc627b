import Mathlib.Data.List.DropRight
import Mathlib.Data.List.TakeWhile
import Registrar.Text.Blank

/-!
# Trimmed texts

Trimming takes white space from the ends of a text and nothing else: what is not white space stays
(`mem_trimChars_iff`), white space alone leaves nothing (`trimChars_eq_nil_iff`), and a trimmed text
is left as it is (`trim_trim`).
-/

namespace Registrar.Text

variable {c : Char} {cs lead tail : List Char}

theorem dropEndWhile_append {p : Char → Bool} (h : ∀ c ∈ tail, p c = true) :
    dropEndWhile p (cs ++ tail) = dropEndWhile p cs := by
  have all : ∀ c ∈ tail.reverse, p c = true := fun c hc => h c (List.mem_reverse.1 hc)
  unfold dropEndWhile
  rw [List.reverse_append, List.dropWhile_append_of_pos all]

theorem trimChars_append_blank (h : ∀ c ∈ tail, isBlank c = true) :
    trimChars (cs ++ tail) = trimChars cs := by
  unfold trimChars
  rw [List.dropWhile_append]
  split
  case isTrue nothing =>
    rw [List.isEmpty_iff.1 nothing, List.dropWhile_eq_nil_iff.2 h]
  case isFalse => exact dropEndWhile_append h

/-- What is dropped at the end of a text would be trimmed anyway. -/
theorem trimChars_dropEndWhile {p : Char → Bool} (h : ∀ {c}, p c = true → isBlank c = true)
    (cs : List Char) : trimChars (dropEndWhile p cs) = trimChars cs := by
  have split : dropEndWhile p cs ++ cs.rtakeWhile p = cs := List.rdropWhile_append_rtakeWhile ..
  have blank : ∀ c ∈ cs.rtakeWhile p, isBlank c = true := fun c hc => h (List.mem_rtakeWhile_imp hc)
  rw [← trimChars_append_blank blank, split]

theorem trimChars_blank_append (h : ∀ c ∈ lead, isBlank c = true) :
    trimChars (lead ++ cs) = trimChars cs := by
  unfold trimChars
  rw [List.dropWhile_append_of_pos h]

theorem dropWhile_eq_self {p : Char → Bool} (h : ∀ c ∈ cs.head?, p c = false) :
    cs.dropWhile p = cs := by
  cases cs with
  | nil => rfl
  | cons c cs => exact List.dropWhile_cons_of_neg (by simp [h c rfl])

theorem dropEndWhile_eq_self {p : Char → Bool} (h : ∀ c ∈ cs.getLast?, p c = false) :
    dropEndWhile p cs = cs := by
  rw [dropEndWhile, dropWhile_eq_self (by rwa [List.head?_reverse]), List.reverse_reverse]

/-- A text without white space at its ends is left as it is. -/
theorem trimChars_eq_self_of_ends (first : ∀ c ∈ cs.head?, isBlank c = false)
    (last : ∀ c ∈ cs.getLast?, isBlank c = false) : trimChars cs = cs := by
  rw [trimChars, dropWhile_eq_self first, dropEndWhile_eq_self last]

/-- A text without white space is left as it is. -/
theorem trimChars_eq_self (h : ∀ c ∈ cs, isBlank c = false) : trimChars cs = cs :=
  trimChars_eq_self_of_ends (fun c hc => h c (List.mem_of_mem_head? hc)) fun c hc =>
    h c (List.mem_of_mem_getLast? hc)

/-- What trimming takes is white space around what it leaves. -/
theorem exists_append_trimChars (cs : List Char) :
    ∃ lead tail, cs = lead ++ trimChars cs ++ tail ∧ (∀ c ∈ lead, isBlank c = true) ∧
      ∀ c ∈ tail, isBlank c = true := by
  refine ⟨cs.takeWhile isBlank, (cs.dropWhile isBlank).rtakeWhile isBlank, ?_,
    fun c hc => List.mem_takeWhile_imp hc, fun c hc => List.mem_rtakeWhile_imp hc⟩
  have behind : trimChars cs ++ (cs.dropWhile isBlank).rtakeWhile isBlank = cs.dropWhile isBlank :=
    List.rdropWhile_append_rtakeWhile
  rw [List.append_assoc, behind, List.takeWhile_append_dropWhile]

theorem length_dropEndWhile_le (p : Char → Bool) (cs : List Char) :
    (dropEndWhile p cs).length ≤ cs.length :=
  (List.rdropWhile_prefix p cs).length_le

theorem length_trimChars_le (cs : List Char) : (trimChars cs).length ≤ cs.length :=
  (length_dropEndWhile_le isBlank _).trans (List.dropWhile_suffix isBlank).length_le

theorem not_isBlank_of_head?_trimChars (h : (trimChars cs).head? = some c) : isBlank c = false := by
  obtain ⟨blank, whole⟩ : trimChars cs <+: cs.dropWhile isBlank := List.rdropWhile_prefix isBlank _
  have first := List.head?_dropWhile_not isBlank cs
  rw [← whole, List.head?_append, h] at first
  exact first

theorem trimChars_trimChars (cs : List Char) : trimChars (trimChars cs) = trimChars cs :=
  calc trimChars (trimChars cs)
    _ = trimChars (cs.dropWhile isBlank) := trimChars_dropEndWhile id _
    _ = trimChars cs := by rw [trimChars, List.dropWhile_idempotent, trimChars]

theorem trim_trim (s : String) : trim (trim s) = trim s := by
  unfold trim
  rw [String.toList_ofList, trimChars_trimChars]

theorem trimChars_eq_nil_iff (cs : List Char) : trimChars cs = [] ↔ ∀ c ∈ cs, isBlank c = true :=
  calc trimChars cs = []
    _ ↔ (cs.dropWhile isBlank).rdropWhile isBlank = [] := Iff.rfl
    _ ↔ (cs.dropWhile isBlank).dropWhile isBlank = [] := by
      rw [List.rdropWhile_eq_nil_iff, List.dropWhile_eq_nil_iff]
    _ ↔ ∀ c ∈ cs, isBlank c = true := by
      rw [List.dropWhile_idempotent, List.dropWhile_eq_nil_iff]

theorem isBlankText_trim (s : String) : isBlankText (trim s) = isBlankText s := by
  unfold isBlankText trim
  rw [String.toList_ofList, trimChars_trimChars]

theorem mem_dropWhile_iff {p : Char → Bool} (h : p c = false) : c ∈ cs.dropWhile p ↔ c ∈ cs := by
  induction cs with
  | nil => rfl
  | cons d cs ih =>
    cases hd : p d with
    | true =>
      have other : c ≠ d := fun e => by simp [← e, h] at hd
      rw [List.dropWhile_cons_of_pos hd, ih, List.mem_cons, or_iff_right other]
    | false => rw [List.dropWhile_cons_of_neg (by simp [hd])]

/-- What is not white space stays. -/
theorem mem_trimChars_iff (h : isBlank c = false) : c ∈ trimChars cs ↔ c ∈ cs := by
  rw [trimChars, dropEndWhile, List.mem_reverse, mem_dropWhile_iff h, List.mem_reverse,
    mem_dropWhile_iff h]

theorem mem_trim_iff (h : isBlank c = false) (s : String) : c ∈ (trim s).toList ↔ c ∈ s.toList := by
  rw [trim, String.toList_ofList, mem_trimChars_iff h]

end Registrar.Text
