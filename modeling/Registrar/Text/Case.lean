/-!
# Letter case

Case is folded for the letters of ASCII alone; every other character stays as it is. `sameFolded` is
the comparison of keys, names and statuses.
-/

namespace Registrar.Text

/-- Lower-cases the ASCII letters. -/
def lower (s : String) : String :=
  s.map Char.toLower

/-- Upper-cases the ASCII letters. -/
def upper (s : String) : String :=
  s.map Char.toUpper

/-- Whether two texts agree up to the case of ASCII letters. -/
def sameFolded (a b : String) : Bool :=
  lower a == lower b

theorem sameFolded_refl (a : String) : sameFolded a a = true := by
  simp [sameFolded]

end Registrar.Text
