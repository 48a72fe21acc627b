/-!
# Cutting texts

`splitOn` cuts a text at each occurrence of a character. The parts never hold the character, and
putting it between them gives the text back.
-/

namespace Registrar.Text

/-- Cuts a text at each occurrence of a character. -/
def splitOn (mark : Char) : List Char → List (List Char)
  | [] => [[]]
  | c :: cs =>
    if c = mark then [] :: splitOn mark cs
    else
      match splitOn mark cs with
      | [] => [[c]]
      | p :: ps => (c :: p) :: ps

theorem splitOn_ne_nil (mark : Char) (cs : List Char) : splitOn mark cs ≠ [] := by
  cases cs with
  | nil => simp [splitOn]
  | cons c cs =>
    simp only [splitOn]
    split
    · simp
    · split <;> simp

/-- The mark between the parts gives the text back. -/
theorem intercalate_splitOn (mark : Char) (cs : List Char) :
    List.intercalate [mark] (splitOn mark cs) = cs := by
  induction cs with
  | nil => rfl
  | cons c cs ih =>
    simp only [splitOn]
    split
    · next h =>
      cases hs : splitOn mark cs with
      | nil => exact absurd hs (splitOn_ne_nil mark cs)
      | cons p ps =>
        rw [hs] at ih
        simp [List.intercalate, List.intersperse, h] at ih ⊢
        exact ih
    · next h =>
      cases hs : splitOn mark cs with
      | nil => exact absurd hs (splitOn_ne_nil mark cs)
      | cons p ps =>
        rw [hs] at ih
        cases ps with
        | nil => simpa [List.intercalate, List.intersperse] using ih
        | cons q qs => simpa [List.intercalate, List.intersperse] using ih

/-- No part holds the mark. -/
theorem not_mem_of_mem_splitOn {mark : Char} {cs part : List Char} (h : part ∈ splitOn mark cs) :
    mark ∉ part := by
  induction cs generalizing part with
  | nil => simp_all [splitOn]
  | cons c cs ih =>
    simp only [splitOn] at h
    split at h
    · rcases List.mem_cons.1 h with rfl | h
      · simp
      · exact ih h
    · next hc =>
      split at h
      · rw [List.mem_singleton.1 h, List.mem_singleton]
        exact fun e => hc e.symm
      · next p ps hs =>
        rcases List.mem_cons.1 h with rfl | h
        · have hp := ih (hs ▸ List.mem_cons_self)
          rw [List.mem_cons, not_or]
          exact ⟨fun e => hc e.symm, hp⟩
        · exact ih (hs ▸ List.mem_cons_of_mem _ h)

/-- What stands before the first occurrence of a character, and what stands after it if it occurs.
-/
def cut (mark : Char) (cs : List Char) : List Char × Option (List Char) :=
  match cs.dropWhile (· != mark) with
  | [] => (cs, none)
  | _ :: rest => (cs.takeWhile (· != mark), some rest)

end Registrar.Text
