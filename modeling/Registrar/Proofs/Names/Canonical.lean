import Registrar.Proofs.Names.Labels

/-!
# The text of a domain

A domain has one text, and the names that are read as the domain are that text with points behind it
and white space around both (`DomainName.pads_of_parse`). The text is read as the domain again, with
any such padding, unless it ends in white space. That is so when white space stood in front of the
points of the name (`HidesBlank`): it was not at the end when white space was trimmed.

Main statement: `DomainName.parses_back_iff`.
-/

namespace Registrar.DomainName

open Text

/-- The name with points behind it and white space around both. -/
def Pads (s name : String) : Prop :=
  ∃ lead n tail, s.toList = lead ++ (name.toList ++ List.replicate n '.') ++ tail ∧
    (∀ c ∈ lead, isBlank c = true) ∧ ∀ c ∈ tail, isBlank c = true

/-- White space stands in front of the points at the end of a name. -/
def HidesBlank (s : String) : Prop :=
  ∃ front blank n tail, s.toList = (front ++ blank :: List.replicate (n + 1) '.') ++ tail ∧
    isBlank blank = true ∧ ∀ c ∈ tail, isBlank c = true

variable {s name : String} {d : DomainName}

/-! ## Padding -/

theorem isBlank_point : isBlank '.' = false := by decide

theorem dropEndWhile_replicate (cs : List Char) (n : ℕ) :
    dropEndWhile (· == '.') (cs ++ List.replicate n '.') = dropEndWhile (· == '.') cs :=
  dropEndWhile_append fun c hc => by simp [List.eq_of_mem_replicate hc]

theorem getLast?_append_replicate (cs : List Char) (n : ℕ) :
    (cs ++ List.replicate n '.').getLast? = if n = 0 then cs.getLast? else some '.' := by
  cases n with
  | zero => simp
  | succ n => simp [List.getLast?_append, List.getLast?_replicate]

theorem length_clean_le (s : String) : (clean s).length ≤ (trimChars s.toList).length :=
  length_dropEndWhile_le _ _

theorem not_isBlank_of_head?_clean {c : Char} (h : (clean s).head? = some c) :
    isBlank c = false := by
  obtain ⟨points, whole⟩ : clean s <+: trimChars s.toList := List.rdropWhile_prefix _ _
  have first : (trimChars s.toList).head? = some c := by
    rw [← whole, List.head?_append, h]
    rfl
  exact not_isBlank_of_head?_trimChars first

/-- Cleaning a name takes its padding, and nothing else. -/
theorem exists_append_clean (s : String) :
    ∃ lead n tail, s.toList = lead ++ (clean s ++ List.replicate n '.') ++ tail ∧
      (∀ c ∈ lead, isBlank c = true) ∧ ∀ c ∈ tail, isBlank c = true := by
  obtain ⟨lead, tail, around, blank, blank'⟩ := exists_append_trimChars s.toList
  have points : ∀ c ∈ (trimChars s.toList).rtakeWhile (· == '.'), c = '.' := fun c hc => by
    simpa using List.mem_rtakeWhile_imp hc
  have behind : clean s ++ (trimChars s.toList).rtakeWhile (· == '.') = trimChars s.toList :=
    List.rdropWhile_append_rtakeWhile
  rw [List.eq_replicate_of_mem points] at behind
  exact ⟨lead, _, tail, by rw [behind]; exact around, blank, blank'⟩

theorem pads_of_parse (h : parse s = .ok d) : Pads s d.text := by
  obtain ⟨lead, n, tail, around, blank, blank'⟩ := exists_append_clean s
  rw [(parse_eq_ok_iff.1 h).2.2] at around
  exact ⟨lead, n, tail, around, blank, blank'⟩

/-- A name that begins and ends in a label is what is left of it when it is padded. -/
theorem clean_of_pads (first : ∀ c ∈ name.toList.head?, isBlank c = false)
    (last : ∀ c ∈ name.toList.getLast?, isBlank c = false)
    (ends : name.toList.getLast? ≠ some '.') (given : name ≠ "") (h : Pads s name) :
    clean s = name.toList := by
  obtain ⟨lead, n, tail, around, blank, blank'⟩ := h
  obtain ⟨c, cs, hname⟩ := List.exists_cons_of_ne_nil (mt String.toList_eq_nil_iff.1 given)
  have trimmed : trimChars s.toList = name.toList ++ List.replicate n '.' := by
    rw [around, trimChars_append_blank blank', trimChars_blank_append blank]
    refine trimChars_eq_self_of_ends ?_ ?_
    · rw [hname] at first ⊢
      exact first
    · rw [getLast?_append_replicate]
      split
      · exact last
      · exact fun c hc => Option.some.inj hc ▸ isBlank_point
  rw [clean, trimmed, dropEndWhile_replicate]
  refine dropEndWhile_eq_self fun c hc => ?_
  rw [beq_eq_false_iff_ne]
  rintro rfl
  exact ends hc

/-! ## White space in front of points -/

section

variable {lead front tail : List Char} {blank : Char} {n : ℕ}

/-- White space that is followed by points stays if there is a label in front of it. -/
theorem getLast?_clean_of_hidden (given : clean s ≠ [])
    (around : s.toList = (front ++ blank :: List.replicate (n + 1) '.') ++ tail)
    (hblank : isBlank blank = true) (blank' : ∀ c ∈ tail, isBlank c = true) :
    (clean s).getLast? = some blank := by
  have other : (blank == '.') = false := by
    rw [beq_eq_false_iff_ne]
    rintro rfl
    exact absurd hblank (by rw [isBlank_point]; decide)
  have split : front ++ blank :: List.replicate (n + 1) '.' =
      front ++ [blank] ++ List.replicate (n + 1) '.' := by simp
  by_cases nothing : ∀ c ∈ front, isBlank c = true
  · -- Without a label nothing is left at all: the white space goes first, and then the points.
    have spaces : ∀ c ∈ front ++ [blank], isBlank c = true :=
      List.forall_mem_append.2 ⟨nothing, by simpa using hblank⟩
    have trimmed : trimChars s.toList = [] ++ List.replicate (n + 1) '.' := by
      rw [around, trimChars_append_blank blank', split, trimChars_blank_append spaces,
        trimChars_eq_self fun c hc => List.eq_of_mem_replicate hc ▸ isBlank_point, List.nil_append]
    rw [clean, trimmed, dropEndWhile_replicate] at given
    exact absurd rfl given
  · have label : (front.dropWhile isBlank).isEmpty = false :=
      List.isEmpty_eq_false_iff.2 fun e => nothing (List.dropWhile_eq_nil_iff.1 e)
    have trimmed : trimChars s.toList =
        front.dropWhile isBlank ++ [blank] ++ List.replicate (n + 1) '.' := by
      rw [around, trimChars_append_blank blank', split, trimChars, List.append_assoc,
        List.dropWhile_append, label, if_neg Bool.false_ne_true, ← List.append_assoc,
        dropEndWhile_eq_self]
      rw [getLast?_append_replicate, if_neg n.succ_ne_zero]
      exact fun c hc => Option.some.inj hc ▸ isBlank_point
    rw [clean, trimmed, dropEndWhile_replicate, dropEndWhile_eq_self, List.getLast?_concat]
    rw [List.getLast?_concat]
    exact fun c hc => Option.some.inj hc ▸ other

/-- White space that is not followed by points goes, with all that stands behind it. -/
theorem length_clean_le_of_blank (around : s.toList = lead ++ (front ++ [blank]) ++ tail)
    (spaces : ∀ c ∈ lead, isBlank c = true) (hblank : isBlank blank = true)
    (blank' : ∀ c ∈ tail, isBlank c = true) : (clean s).length ≤ front.length :=
  calc (clean s).length
    _ ≤ (trimChars s.toList).length := length_clean_le s
    _ = (trimChars front).length := by
      rw [around, trimChars_append_blank blank', trimChars_blank_append spaces,
        trimChars_append_blank (by simpa using hblank)]
    _ ≤ front.length := length_trimChars_le front

/-- White space at the end of a clean name had points behind it. -/
theorem hidesBlank_of_getLast? (last : (clean s).getLast? = some blank)
    (hblank : isBlank blank = true) : HidesBlank s := by
  obtain ⟨front, whole⟩ := List.getLast?_eq_some_iff.1 last
  obtain ⟨lead, n, tail, around, spaces, blank'⟩ := exists_append_clean s
  rw [whole] at around
  cases n with
  | succ n => exact ⟨lead ++ front, blank, n, tail, by rw [around]; simp, hblank, blank'⟩
  | zero =>
    rw [List.replicate_zero, List.append_nil] at around
    have shorter := length_clean_le_of_blank around spaces hblank blank'
    rw [whole, List.length_append, List.length_singleton] at shorter
    omega

theorem hidesBlank_iff (given : clean s ≠ []) :
    HidesBlank s ↔ ∃ blank, (clean s).getLast? = some blank ∧ isBlank blank = true := by
  constructor
  · rintro ⟨front, blank, n, tail, around, hblank, blank'⟩
    exact ⟨blank, getLast?_clean_of_hidden given around hblank blank', hblank⟩
  · rintro ⟨blank, last, hblank⟩
    exact hidesBlank_of_getLast? last hblank

end

/-! ## Reading a text again -/

theorem text_ne_empty (d : DomainName) : d.text ≠ "" := by
  rw [Ne, ← String.toList_eq_nil_iff, toList_text]
  simp

theorem clean_ne_nil_of_parse (h : parse s = .ok d) : clean s ≠ [] := by
  rw [(parse_eq_ok_iff.1 h).2.2]
  exact mt String.toList_eq_nil_iff.1 (text_ne_empty d)

theorem parse_of_pads (h : parse s = .ok d) (hidden : ¬ HidesBlank s) {s' : String}
    (pads : Pads s' d.text) : parse s' = .ok d := by
  obtain ⟨plain, given, whole⟩ := parse_eq_ok_iff.1 h
  rw [hidesBlank_iff (clean_ne_nil_of_parse h)] at hidden
  refine parse_eq_ok_iff.2 ⟨plain, given, clean_of_pads ?_ ?_ ?_ (text_ne_empty d) pads⟩
  · exact fun c hc => not_isBlank_of_head?_clean (whole ▸ hc)
  · exact fun c hc => Bool.eq_false_iff.2 fun blank => hidden ⟨c, whole ▸ hc, blank⟩
  · exact whole ▸ getLast?_clean_ne s

/-- White space at the end of a text is trimmed when the text is read. -/
theorem not_hidesBlank_of_parse_text (h : parse s = .ok d) (again : parse d.text = .ok d) :
    ¬ HidesBlank s := by
  have whole := (parse_eq_ok_iff.1 h).2.2
  have same := (parse_eq_ok_iff.1 again).2.2
  rw [hidesBlank_iff (clean_ne_nil_of_parse h)]
  rintro ⟨blank, last, hblank⟩
  rw [whole] at last
  obtain ⟨front, text⟩ := List.getLast?_eq_some_iff.1 last
  have around : d.text.toList = [] ++ (front ++ [blank]) ++ [] := by simpa using text
  have shorter := length_clean_le_of_blank around nofun hblank nofun
  rw [same, text, List.length_append, List.length_singleton] at shorter
  omega

/-- The text of a domain is read as the domain again, whatever points stand behind it and whatever
white space stands around both, if the name that the domain was read from has no white space in
front of the points at its end; otherwise its text is not read as the same domain. -/
theorem parses_back_iff (h : parse s = .ok d) :
    Pads s d.text ∧ (parse d.text = .ok d ↔ ¬ HidesBlank s) ∧
      (¬ HidesBlank s → ∀ s', Pads s' d.text → parse s' = .ok d) := by
  refine ⟨pads_of_parse h, ⟨not_hidesBlank_of_parse_text h, fun hidden => ?_⟩,
    fun hidden s' => parse_of_pads h hidden⟩
  exact parse_of_pads h hidden ⟨[], 0, [], by simp, nofun, nofun⟩

/-- A name with points and white space at its end is read as its text is. -/
theorem parses_back_of_padded :
    let d : DomainName := ⟨"shop", "example.com"⟩
    parse " shop.example.com..\t" = .ok d ∧ ¬ HidesBlank " shop.example.com..\t" ∧
    d.text = "shop.example.com" ∧ parse d.text = .ok d ∧ parse "\nshop.example.com. " = .ok d := by
  intro d
  have read : parse " shop.example.com..\t" = .ok d := by decide +kernel
  have hidden : ¬ HidesBlank " shop.example.com..\t" := by
    rw [hidesBlank_iff (by decide +kernel)]
    rintro ⟨blank, last, hblank⟩
    have end_ : (clean " shop.example.com..\t").getLast? = some 'm' := by decide +kernel
    rw [end_] at last
    cases last
    exact absurd hblank (by decide)
  have other : Pads "\nshop.example.com. " d.text :=
    ⟨['\n'], 1, [' '], by decide +kernel, List.forall_mem_singleton.2 (by decide),
      List.forall_mem_singleton.2 (by decide)⟩
  obtain ⟨-, again, padded⟩ := parses_back_iff read
  exact ⟨read, hidden, by decide +kernel, again.2 hidden, padded hidden _ other⟩

/-- White space in front of a last point is kept, and goes when the text is read; if it is all that
is left behind the first point, the text is not read at all. -/
theorem hidden_blank_is_kept :
    parse "example.com ." = .ok ⟨"example", "com "⟩ ∧
    parse (DomainName.mk "example" "com ").text = .ok ⟨"example", "com"⟩ ∧
    parse "example. ." = .ok ⟨"example", " "⟩ ∧
    ∃ reason, parse (DomainName.mk "example" " ").text = .error (.invalidInput reason) :=
  ⟨by decide +kernel, by decide +kernel, by decide +kernel,
    "domain name \"example\" has no TLD", by decide +kernel⟩

end Registrar.DomainName
