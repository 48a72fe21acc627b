/-!
# Whole numbers

`readWhole` reads an unsigned decimal literal up to a bound. One plus sign may lead; the digits are
taken from the left, so of two faults the one further left is reported.
-/

namespace Registrar.Decimal

/-- Why a text is no whole number. -/
inductive WholeFault
  | empty
  | badDigit
  | tooLarge
  deriving DecidableEq, Repr

def WholeFault.message : WholeFault → String
  | .empty => "cannot parse integer from empty string"
  | .badDigit => "invalid digit found in string"
  | .tooLarge => "number too large to fit in target type"

/-- The value of a decimal digit of ASCII. -/
def digit? (c : Char) : Option Nat :=
  if c.isDigit then some (c.toNat - 48) else none

/-- Appends the digits `cs` to the number `acc`. -/
def appendDigits (max : Nat) : Nat → List Char → Except WholeFault Nat
  | acc, [] => .ok acc
  | acc, c :: cs =>
    match digit? c with
    | none => .error .badDigit
    | some d => if acc * 10 + d ≤ max then appendDigits max (acc * 10 + d) cs else .error .tooLarge

/-- Reads a whole number of at most `max`. -/
def readWhole (max : Nat) (cs : List Char) : Except WholeFault Nat :=
  match cs with
  | [] => .error .empty
  | ['+'] => .error .badDigit
  | '+' :: rest => appendDigits max 0 rest
  | _ => appendDigits max 0 cs

/-- The largest 32-bit and 64-bit unsigned numbers. -/
def max32 : Nat := 4294967295
def max64 : Nat := 18446744073709551615

/-- Decimal digits of a number. -/
def digits (n : Nat) : List Char :=
  Nat.toDigits 10 n

/-- Decimal digits of a number, with zeros before them up to a width. -/
def padded (width n : Nat) : List Char :=
  let ds := digits n
  List.replicate (width - ds.length) '0' ++ ds

/-- The decimal text of a number. -/
def wholeText (n : Nat) : String :=
  String.ofList (digits n)

theorem digits_ne_nil (n : Nat) : digits n ≠ [] :=
  Nat.toDigits_ne_nil

theorem isDigit_of_mem_digits {n : Nat} {c : Char} (h : c ∈ digits n) : c.isDigit = true :=
  Nat.isDigit_of_mem_toDigits (by decide) (by decide) h

/-- The digits tell the number. -/
theorem digits_inj {m n : Nat} (h : digits m = digits n) : m = n := by
  rw [digits, digits] at h
  rw [← Nat.ofDigitChars_ten_toDigits (n := m), h, Nat.ofDigitChars_ten_toDigits]

theorem wholeText_inj {m n : Nat} (h : wholeText m = wholeText n) : m = n :=
  digits_inj (String.ofList_injective h)

theorem appendDigits_le {max acc : Nat} {cs : List Char} {n : Nat} (ha : acc ≤ max)
    (h : appendDigits max acc cs = .ok n) : n ≤ max := by
  induction cs generalizing acc with
  | nil => simp only [appendDigits, Except.ok.injEq] at h; omega
  | cons c cs ih =>
    simp only [appendDigits] at h
    split at h
    · simp at h
    · split at h
      · exact ih ‹_› h
      · simp at h

/-- A number that was read keeps its bound. -/
theorem readWhole_le {max : Nat} {cs : List Char} {n : Nat} (h : readWhole max cs = .ok n) :
    n ≤ max := by
  unfold readWhole at h
  split at h
  · simp at h
  · simp at h
  · exact appendDigits_le (Nat.zero_le _) h
  · exact appendDigits_le (Nat.zero_le _) h

end Registrar.Decimal
