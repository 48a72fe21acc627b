import Registrar.Proofs.Decimal.Doubles
import Registrar.Proofs.Xml.Shadowing
import Registrar.Wire.Value

/-!
# Amounts of money

What the text of an amount says (`Says`): nothing was charged if there is none or if it is blank,
and otherwise what it says as a double, which may be an infinity or no number at all. Such an
amount is finite if and only if the text is a number that a double can hold (`Bounded`). A field of
an amount is read beside its text (`mirrors_amountOr`): what the text says, or a fault if it says
nothing.
-/

namespace Registrar.Wire

open Xml Double Decimal

/-- What an amount says, by its text if there is one. -/
inductive Says : Option String → Float → Prop
  | absent : Says none 0.0
  | blank {text : String} (empty : Text.trim text = "") : Says (some text) 0.0
  | written {text : String} {x : Float} (filled : Text.trim text ≠ "")
      (denotes : Denotes (Text.trim text) x) : Says (some text) x

/-- The text is neither blank nor anything that can be taken for a double. -/
def Illegible (t : Option String) : Prop := ∀ x, ¬Says t x

/-- Nothing, or a number that a double can hold. -/
def Bounded : Option String → Prop
  | none => True
  | some text => Text.trim text = "" ∨ ∃ q, Spells (Text.trim text) q ∧ |q| < limit

section

variable {t : Option String} {x y : Float} {p : ℚ}

/-- An amount is finite if and only if its text is bounded. -/
theorem Says.isFinite_iff (h : Says t x) : x.isFinite = true ↔ Bounded t := by
  have nothing : (0.0 : Float).isFinite = true := (Double.isFinite_iff 0.0).2 ⟨0, number?_zero⟩
  cases h with
  | absent => exact iff_of_true nothing trivial
  | blank empty => exact iff_of_true nothing (.inl empty)
  | written filled denotes =>
    rw [denotes.isFinite_iff]
    exact ⟨.inr, fun bounded => bounded.resolve_left filled⟩

/-- A number is below an amount if that has no end or is a larger number. -/
theorem Says.le_iff (h : Says t x) (hy : number? y = some p) :
    y ≤ x ↔ (∃ text ∈ t, Endless (Text.trim text)) ∨ ∃ q, number? x = some q ∧ p ≤ q := by
  have nothing : y ≤ 0.0 ↔ ∃ q, number? 0.0 = some q ∧ p ≤ q := by
    rw [le_iff_number hy number?_zero, number?_zero]
    exact ⟨fun le => ⟨0, rfl, le⟩, fun ⟨_, same, le⟩ => Option.some.inj same ▸ le⟩
  cases h with
  | absent =>
    rw [nothing]
    exact ⟨.inr, fun h => h.resolve_left nofun⟩
  | blank empty =>
    rw [nothing]
    refine ⟨.inr, fun h => h.resolve_left ?_⟩
    rintro ⟨text, same, endless⟩
    cases same
    exact not_endless_empty (empty ▸ endless)
  | written filled denotes =>
    rw [denotes.le_iff hy]
    refine or_congr_left ⟨fun endless => ⟨_, rfl, endless⟩, ?_⟩
    rintro ⟨text, same, endless⟩
    cases same
    exact endless

end

/-! ## Texts and what is read -/

/-- What was read is what the text says; where nothing could be read, it says nothing. -/
def Told (t : Option String) : Option Float → Prop
  | some x => Says t x
  | none => Illegible t

theorem shadows_amount (raw : List Char) :
    Shadows (fun text o => Told (some text) o) (plainText raw) (amount raw).toOption := by
  unfold amount
  cases plainText raw with
  | error fault => rfl
  | ok text =>
    dsimp only [bind, Except.bind]
    by_cases empty : Text.trim text = ""
    · rw [if_pos (String.isEmpty_iff.2 empty)]
      exact .blank empty
    · rw [if_neg (mt String.isEmpty_iff.1 empty)]
      cases read : readFloat (Text.trim text) with
      | ok x => exact .written empty (denotes_of_readFloat read)
      | error fault =>
        rintro x (_ | blank | ⟨-, denotes⟩)
        · exact empty blank
        · obtain ⟨y, given⟩ := denotes.exists_readFloat
          cases read.symm.trans given

/-- The text of an amount attribute, if there is one. -/
def amountText (names : List String) : Fields (Option String) :=
  optionalAttribute names plainText

/-- An amount attribute and its text. -/
theorem mirrors_amountOr (names : List String) :
    Fields.Mirrors Told (amountText names) (amountOr names) := by
  refine (mirrors_optionalAttribute shadows_amount).map_right ?_
  rintro (_ | text) (_ | _ | x) here
  · exact here.elim
  · exact .absent
  · exact here.elim
  · exact here
  · exact here.elim
  · exact here

end Registrar.Wire
