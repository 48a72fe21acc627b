import Registrar.Text.Split

/-!
# Texts in parts

A text that is cut at each occurrence of a mark is its parts with the mark between them, none of
which holds the mark. So the first part is what stands in front of the first mark
(`splitOn_eq_cons_cons_iff`), and the parts of one text are the last parts of another one if that
text stands at its end, behind a mark (`splitOn_suffix_iff`).
-/

namespace Registrar.Text

variable {mark : Char} {cs ds front rest : List Char}

/-! ## The first mark -/

theorem bne_of_not_mem (plain : mark ∉ cs) : ∀ c ∈ cs, (c != mark) = true := fun c hc => by
  rw [bne_iff_ne]
  exact fun e => plain (e ▸ hc)

theorem takeWhile_of_first (plain : mark ∉ front) :
    (front ++ mark :: rest).takeWhile (· != mark) = front := by
  rw [List.takeWhile_append_of_pos (bne_of_not_mem plain), List.takeWhile_cons_of_neg (by simp),
    List.append_nil]

theorem dropWhile_of_first (plain : mark ∉ front) :
    (front ++ mark :: rest).dropWhile (· != mark) = mark :: rest := by
  rw [List.dropWhile_append_of_pos (bne_of_not_mem plain), List.dropWhile_cons_of_neg (by simp)]

/-! ## Parts -/

theorem splitOn_eq (mark : Char) (cs : List Char) : splitOn mark cs = cs.splitOn mark := by
  induction cs with
  | nil => rfl
  | cons c cs ih =>
    rw [List.splitOn_cons_eq_if_modifyHead, splitOn, ih]
    simp only [beq_iff_eq]
    split
    · rfl
    · cases parts : cs.splitOn mark with
      | nil => exact absurd parts (List.splitOn_ne_nil mark cs)
      | cons p ps => rfl

theorem not_mem_of_mem_parts {part : List Char} (h : part ∈ cs.splitOn mark) : mark ∉ part := by
  rw [← splitOn_eq] at h
  exact not_mem_of_mem_splitOn h

/-- The parts of a list that was put together are those of its entries. -/
theorem splitOn_intercalate {entries : List (List Char)} (h : entries ≠ []) :
    ([mark].intercalate entries).splitOn mark = entries.flatMap (·.splitOn mark) := by
  induction entries with
  | nil => exact absurd rfl h
  | cons e entries ih =>
    cases entries with
    | nil => rw [List.intercalate_singleton, List.flatMap_singleton]
    | cons e' entries =>
      rw [List.intercalate_cons_cons, List.append_assoc, List.singleton_append,
        List.splitOn_append_cons_self, ih (List.cons_ne_nil e' entries), ← List.flatMap_cons]

theorem intercalate_append {ps qs : List (List Char)} (hp : ps ≠ []) (hq : qs ≠ []) :
    [mark].intercalate (ps ++ qs) = [mark].intercalate ps ++ mark :: [mark].intercalate qs := by
  induction ps with
  | nil => exact absurd rfl hp
  | cons p ps ih =>
    cases ps with
    | nil =>
      rw [List.singleton_append, List.intercalate_cons_of_ne_nil hq, List.intercalate_singleton,
        List.append_assoc, List.singleton_append]
    | cons p' ps =>
      rw [List.cons_append, List.intercalate_cons_of_ne_nil (by simp), ih (List.cons_ne_nil p' ps),
        List.intercalate_cons_cons, List.append_assoc, List.append_assoc, List.append_assoc]

/-- There are several parts if there is a mark; the first one ends there. -/
theorem splitOn_eq_cons_cons_iff {part : List Char} {parts : List (List Char)} :
    cs.splitOn mark = front :: part :: parts ↔
      mark ∉ front ∧ ∃ rest, cs = front ++ mark :: rest ∧ rest.splitOn mark = part :: parts := by
  constructor
  · intro h
    have plain : ∀ p ∈ front :: part :: parts, mark ∉ p := fun p hp =>
      not_mem_of_mem_parts (h ▸ hp)
    refine ⟨plain front List.mem_cons_self, [mark].intercalate (part :: parts), ?_, ?_⟩
    · calc cs
        _ = [mark].intercalate (cs.splitOn mark) := (List.intercalate_splitOn mark).symm
        _ = front ++ mark :: [mark].intercalate (part :: parts) := by
          rw [h, List.intercalate_cons_cons, List.append_assoc, List.singleton_append]
    · exact List.splitOn_intercalate mark (fun p hp => plain p (List.mem_cons_of_mem _ hp))
        (List.cons_ne_nil part parts)
  · rintro ⟨plain, rest, rfl, hrest⟩
    rw [List.splitOn_append_cons_self_of_not_mem plain, hrest]

theorem splitOn_inj (h : ds.splitOn mark = cs.splitOn mark) : ds = cs :=
  calc ds
    _ = [mark].intercalate (ds.splitOn mark) := (List.intercalate_splitOn mark).symm
    _ = cs := by rw [h, List.intercalate_splitOn]

/-- A text that stands at the end of another one, behind a mark, has its last parts. -/
theorem splitOn_suffix_iff :
    ds.splitOn mark <:+ cs.splitOn mark ↔ cs = ds ∨ (mark :: ds) <:+ cs := by
  constructor
  · rintro ⟨before, h⟩
    cases before with
    | nil => exact .inl (splitOn_inj h).symm
    | cons p ps =>
      refine .inr ⟨[mark].intercalate (p :: ps), Eq.symm ?_⟩
      calc cs
        _ = [mark].intercalate (cs.splitOn mark) := (List.intercalate_splitOn mark).symm
        _ = [mark].intercalate (p :: ps) ++ mark :: ds := by
          rw [← h, intercalate_append (List.cons_ne_nil p ps) (List.splitOn_ne_nil mark ds),
            List.intercalate_splitOn]
  · rintro (rfl | ⟨before, rfl⟩)
    · exact List.suffix_rfl
    · rw [List.splitOn_append_cons_self]
      exact List.suffix_append _ _

end Registrar.Text
