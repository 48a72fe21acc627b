import Registrar.Decimal.Literal

/-!
# How numbers are spelled

The texts that `readWhole` and `Literal.read` accept, given by their parts. A whole number is
digits, with a plus before them if one likes. A number with places is a `Sign` and a `Magnitude`, in
which digits stand on at least one side of an optional point and a `Power` of ten may follow. Main
statements: `readWhole_eq_ok_iff`, and `Literal.read_eq_finite_iff` with its companions for the
names of infinity and of no number.
-/

namespace Registrar.Decimal

/-- Digits, and at least one of them. -/
def IsDigits (cs : List Char) : Prop := cs ≠ [] ∧ ∀ c ∈ cs, c.isDigit = true

instance (cs : List Char) : Decidable (IsDigits cs) :=
  inferInstanceAs (Decidable (cs ≠ [] ∧ ∀ c ∈ cs, c.isDigit = true))

theorem isDigits_digits (n : Nat) : IsDigits (digits n) :=
  ⟨digits_ne_nil n, fun _ => isDigit_of_mem_digits⟩

theorem isDigits_iff {cs : List Char} :
    IsDigits cs ↔ (cs.isEmpty || !cs.all Char.isDigit) = false := by
  simp [IsDigits]

theorem ofDigits_eq (cs : List Char) : ofDigits cs = Nat.ofDigitChars 10 cs 0 := by
  unfold ofDigits Nat.ofDigitChars
  congr 1
  funext n c
  rw [Nat.mul_comm]
  rfl

/-! ## Whole numbers -/

theorem le_ofDigitChars (cs : List Char) (acc : Nat) : acc ≤ Nat.ofDigitChars 10 cs acc := by
  rw [Nat.ofDigitChars_eq_ofDigitChars_zero]
  have grows : acc ≤ 10 ^ cs.length * acc := Nat.le_mul_of_pos_left acc (Nat.pow_pos (by decide))
  omega

/-- Digits are read as long as the number that they are part of is small enough. -/
theorem appendDigits_eq_ok_iff {max acc n : Nat} {cs : List Char} (start : acc ≤ max) :
    appendDigits max acc cs = .ok n ↔
      (∀ c ∈ cs, c.isDigit = true) ∧ Nat.ofDigitChars 10 cs acc = n ∧ n ≤ max := by
  induction cs generalizing acc with
  | nil =>
    simp only [appendDigits, Except.ok.injEq, List.not_mem_nil, false_implies, implies_true,
      true_and, Nat.ofDigitChars_nil]
    omega
  | cons c cs ih =>
    have so_far : acc * 10 + (c.toNat - 48) = 10 * acc + (c.toNat - '0'.toNat) := by
      rw [Nat.mul_comm]
      rfl
    rw [List.forall_mem_cons, Nat.ofDigitChars_cons, ← so_far]
    cases digit : c.isDigit with
    | false => simp [appendDigits, digit?, digit]
    | true =>
      have grows := le_ofDigitChars cs (acc * 10 + (c.toNat - 48))
      rw [appendDigits, digit?, if_pos digit]
      dsimp only
      by_cases small : acc * 10 + (c.toNat - 48) ≤ max
      · rw [if_pos small, ih small]
        simp
      · rw [if_neg small]
        constructor
        · rintro ⟨⟩
        · rintro ⟨-, rfl, bound⟩
          omega

/-- A whole number is at least one digit, with a plus before them or not. -/
theorem readWhole_eq_ok_iff {max n : Nat} {cs : List Char} :
    readWhole max cs = .ok n ↔
      ∃ ds, IsDigits ds ∧ (cs = ds ∨ cs = '+' :: ds) ∧ Nat.ofDigitChars 10 ds 0 = n ∧ n ≤ max := by
  have no_sign {ds : List Char} : ¬IsDigits ('+' :: ds) := by simp [IsDigits]
  have read {cs : List Char} : appendDigits max 0 cs = .ok n ↔
      (∀ c ∈ cs, c.isDigit = true) ∧ Nat.ofDigitChars 10 cs 0 = n ∧ n ≤ max :=
    appendDigits_eq_ok_iff (Nat.zero_le max)
  unfold readWhole
  split
  case h_1 =>
    simp only [reduceCtorEq, false_iff]
    rintro ⟨ds, given, same | same, -, -⟩
    · exact given.1 same.symm
    · exact nomatch same
  case h_2 =>
    simp only [reduceCtorEq, false_iff, List.cons.injEq, true_and]
    rintro ⟨ds, given, rfl | rfl, -, -⟩
    · exact no_sign given
    · exact given.1 rfl
  case h_3 rest more =>
    have some_digit : rest ≠ [] := fun none => more (by rw [none])
    rw [read]
    constructor
    · rintro ⟨digits, value, bound⟩
      exact ⟨rest, ⟨some_digit, digits⟩, .inr rfl, value, bound⟩
    · rintro ⟨ds, given, rfl | same, value, bound⟩
      · exact (no_sign given).elim
      · cases same
        exact ⟨given.2, value, bound⟩
  case h_4 some_digit _ unsigned =>
    rw [read]
    constructor
    · rintro ⟨digits, value, bound⟩
      exact ⟨cs, ⟨fun none => some_digit none, digits⟩, .inl rfl, value, bound⟩
    · rintro ⟨ds, given, rfl | rfl, value, bound⟩
      · exact ⟨given.2, value, bound⟩
      · exact (unsigned ds rfl).elim

theorem readWhole_digits {max n : Nat} (h : n ≤ max) : readWhole max (digits n) = .ok n :=
  readWhole_eq_ok_iff.2
    ⟨digits n, isDigits_digits n, .inl rfl, Nat.ofDigitChars_ten_toDigits, h⟩

/-! ## Numbers with places -/

/-- How a sign is written. -/
inductive Sign
  | unwritten
  | plus
  | minus
  deriving DecidableEq, Repr

namespace Sign

def chars : Sign → List Char
  | unwritten => []
  | plus => ['+']
  | minus => ['-']

def negative (s : Sign) : Bool := s = minus

/-- A sign is told from what follows it. -/
theorem splitSign_chars (s : Sign) {cs : List Char}
    (unsigned : ∀ c ∈ cs.head?, c ≠ '-' ∧ c ≠ '+') :
    splitSign (s.chars ++ cs) = (s.negative, cs) := by
  cases s with
  | plus | minus => rfl
  | unwritten =>
    show splitSign cs = (false, cs)
    unfold splitSign
    split
    · exact ((unsigned '-' rfl).1 rfl).elim
    · exact ((unsigned '+' rfl).2 rfl).elim
    · rfl

theorem exists_of_splitSign (cs : List Char) :
    ∃ s : Sign, cs = s.chars ++ (splitSign cs).2 ∧ (splitSign cs).1 = s.negative := by
  unfold splitSign
  split
  · exact ⟨.minus, rfl, rfl⟩
  · exact ⟨.plus, rfl, rfl⟩
  · exact ⟨.unwritten, rfl, rfl⟩

end Sign

/-- A power of ten as it is written behind a number. -/
structure Power where
  capital : Bool
  sign : Sign
  digits : List Char
  spelled : IsDigits digits

namespace Power

def chars (p : Power) : List Char :=
  (if p.capital then 'E' else 'e') :: (p.sign.chars ++ p.digits)

def exponent (p : Power) : Int :=
  if p.sign.negative then -(Nat.ofDigitChars 10 p.digits 0 : Int)
  else Nat.ofDigitChars 10 p.digits 0

end Power

/-- The exponent part of a number is empty or a power of ten. -/
theorem readExponent_eq_some_iff {cs : List Char} {e : Int} :
    readExponent cs = some e ↔
      ∃ p? : Option Power, cs = p?.elim [] Power.chars ∧ e = p?.elim 0 Power.exponent := by
  have unsigned {ds : List Char} (given : IsDigits ds) : ∀ c ∈ ds.head?, c ≠ '-' ∧ c ≠ '+' := by
    intro c first
    have digit := given.2 c (List.mem_of_mem_head? first)
    constructor <;> rintro rfl <;> exact nomatch digit
  constructor
  · intro read
    unfold readExponent at read
    split at read
    case h_1 =>
      cases read
      exact ⟨none, rfl, rfl⟩
    case h_2 c cs =>
      split at read
      case isFalse => exact nomatch read
      case isTrue letter =>
        obtain ⟨sign, text, negative⟩ := Sign.exists_of_splitSign cs
        dsimp only at read
        split at read
        case isTrue => exact nomatch read
        case isFalse spelled =>
          rw [Option.some.injEq, ofDigits_eq, negative] at read
          let p : Power := ⟨c == 'E', sign, _, isDigits_iff.2 (Bool.eq_false_iff.2 spelled)⟩
          refine ⟨some p, ?_, read.symm⟩
          show c :: cs = (if c == 'E' then 'E' else 'e') :: (sign.chars ++ _)
          rw [← text]
          simp only [Bool.or_eq_true, beq_iff_eq] at letter
          rcases letter with rfl | rfl <;> rfl
  · rintro ⟨none | p, rfl, rfl⟩
    · rfl
    · have split := p.sign.splitSign_chars (unsigned p.spelled)
      have letter (b : Bool) :
          ((if b then 'E' else 'e') == 'e' || (if b then 'E' else 'e') == 'E') = true := by
        cases b <;> rfl
      show readExponent p.chars = some p.exponent
      unfold readExponent Power.chars
      dsimp only
      rw [if_pos (letter _), split]
      dsimp only
      rw [if_neg (by rw [isDigits_iff.1 p.spelled]; exact Bool.false_ne_true), ofDigits_eq]
      rfl

/-- A number without its sign: digits around an optional point, then an optional power of ten. -/
structure Magnitude where
  whole : List Char
  /-- What stands behind the point, if there is one. -/
  fraction? : Option (List Char)
  power? : Option Power
  spelled : IsDigits (whole ++ fraction?.getD [])

namespace Magnitude

def fraction (m : Magnitude) : List Char := m.fraction?.getD []

def chars (m : Magnitude) : List Char :=
  m.whole ++ (m.fraction?.elim [] ('.' :: ·) ++ m.power?.elim [] Power.chars)

/-- The number with a sign: its digits, with the point moved behind them. -/
def literal (m : Magnitude) (negative : Bool) : Literal :=
  .finite negative (Nat.ofDigitChars 10 (m.whole ++ m.fraction) 0)
    (m.power?.elim 0 Power.exponent - m.fraction.length)

variable (m : Magnitude)

theorem isDigit_of_mem_whole {c : Char} (h : c ∈ m.whole) : c.isDigit = true :=
  m.spelled.2 c (List.mem_append_left _ h)

theorem isDigit_of_mem_fraction {c : Char} (h : c ∈ m.fraction) : c.isDigit = true :=
  m.spelled.2 c (List.mem_append_right _ h)

/-- A number starts with a digit or the point. -/
theorem head_chars : ∀ c ∈ m.chars.head?, c.isDigit = true ∨ c = '.' := by
  intro c first
  unfold chars at first
  cases whole : m.whole with
  | cons d ds =>
    rw [whole, List.cons_append, List.head?_cons, Option.mem_some_iff] at first
    exact .inl (m.isDigit_of_mem_whole (whole ▸ first ▸ List.mem_cons_self))
  | nil =>
    have spelled := m.spelled
    cases fraction : m.fraction? with
    | none => simp [whole, fraction, IsDigits] at spelled
    | some ds =>
      rw [whole, fraction] at first
      exact .inr (Option.mem_some_iff.1 first).symm

/-- Neither a digit nor a point starts a power of ten. -/
theorem head_power :
    ∀ c ∈ (m.power?.elim [] Power.chars).head?, c.isDigit = false ∧ c ≠ '.' := by
  intro c first
  cases power : m.power? with
  | none =>
    rw [power] at first
    exact nomatch first
  | some p =>
    rw [power] at first
    have letter : (if p.capital then 'E' else 'e') = c := Option.mem_some_iff.1 first
    rw [← letter]
    cases p.capital <;> decide

theorem head_fraction :
    ∀ c ∈ (m.fraction?.elim [] ('.' :: ·) ++ m.power?.elim [] Power.chars).head?,
      c.isDigit = false := by
  intro c first
  cases fraction : m.fraction? with
  | none =>
    rw [fraction] at first
    exact (m.head_power c first).1
  | some ds =>
    rw [fraction] at first
    have point : '.' = c := Option.mem_some_iff.1 first
    rw [← point]
    decide

theorem chars_ne_nil : m.chars ≠ [] := by
  intro none
  have spelled := m.spelled
  unfold chars at none
  rw [List.append_eq_nil_iff, List.append_eq_nil_iff] at none
  obtain ⟨whole, fraction, -⟩ := none
  rw [whole] at spelled
  cases fraction? : m.fraction? with
  | none => simp [fraction?, IsDigits] at spelled
  | some ds => simp [fraction?] at fraction

end Magnitude

/-- Digits are told from what follows them. -/
theorem span_digits {ds rest : List Char} (digits : ∀ c ∈ ds, c.isDigit = true)
    (other : ∀ c ∈ rest.head?, c.isDigit = false) :
    (ds ++ rest).takeWhile Char.isDigit = ds ∧ (ds ++ rest).dropWhile Char.isDigit = rest := by
  rw [List.takeWhile_append_of_pos digits, List.dropWhile_append_of_pos digits]
  cases rest with
  | nil => simp
  | cons c cs =>
    have no_digit := other c rfl
    simp [no_digit]

theorem isDigit_of_mem_takeWhile {cs : List Char} {c : Char} (h : c ∈ cs.takeWhile Char.isDigit) :
    c.isDigit = true :=
  List.all_eq_true.1 List.all_takeWhile c h

/-- The digits behind a point, if there is one, and what follows them. -/
def afterPoint : List Char → List Char × List Char
  | '.' :: more => (more.takeWhile Char.isDigit, more.dropWhile Char.isDigit)
  | rest => ([], rest)

theorem afterPoint_eq_self {cs : List Char} (no_point : ∀ more, cs ≠ '.' :: more) :
    afterPoint cs = ([], cs) := by
  unfold afterPoint
  split
  case h_1 more => exact (no_point more rfl).elim
  case h_2 => rfl

theorem exists_of_afterPoint (cs : List Char) :
    ∃ fraction? : Option (List Char), cs = fraction?.elim [] ('.' :: ·) ++ (afterPoint cs).2 ∧
      (afterPoint cs).1 = fraction?.getD [] ∧ ∀ c ∈ fraction?.getD [], c.isDigit = true := by
  unfold afterPoint
  split
  case h_1 more =>
    refine ⟨some (more.takeWhile Char.isDigit), ?_, rfl, fun c => isDigit_of_mem_takeWhile⟩
    show '.' :: more = '.' :: (_ ++ _)
    rw [List.takeWhile_append_dropWhile]
  case h_2 => exact ⟨none, rfl, rfl, by simp⟩

theorem afterPoint_append {fraction? : Option (List Char)} {rest : List Char}
    (digits : ∀ c ∈ fraction?.getD [], c.isDigit = true)
    (other : ∀ c ∈ rest.head?, c.isDigit = false ∧ c ≠ '.') :
    afterPoint (fraction?.elim [] ('.' :: ·) ++ rest) = (fraction?.getD [], rest) := by
  cases fraction? with
  | some ds =>
    have behind := span_digits digits fun c first => (other c first).1
    exact Prod.ext behind.1 behind.2
  | none =>
    refine afterPoint_eq_self fun more (text : rest = '.' :: more) => ?_
    rw [text] at other
    exact (other '.' rfl).2 rfl

namespace Literal

theorem readMagnitude_eq (negative : Bool) (cs : List Char) :
    readMagnitude negative cs =
      if (cs.takeWhile Char.isDigit).isEmpty &&
          (afterPoint (cs.dropWhile Char.isDigit)).1.isEmpty then none
      else (readExponent (afterPoint (cs.dropWhile Char.isDigit)).2).map fun e =>
        .finite negative
          (ofDigits (cs.takeWhile Char.isDigit ++ (afterPoint (cs.dropWhile Char.isDigit)).1))
          (e - (afterPoint (cs.dropWhile Char.isDigit)).1.length) := by
  unfold readMagnitude
  dsimp only
  generalize cs.dropWhile Char.isDigit = rest
  split
  case h_1 => rfl
  case h_2 no_point => rw [afterPoint_eq_self fun more => no_point more]

/-- What is read as a number without sign is a magnitude. -/
theorem readMagnitude_eq_some_iff {negative : Bool} {cs : List Char} {l : Literal} :
    readMagnitude negative cs = some l ↔
      ∃ m : Magnitude, m.chars = cs ∧ m.literal negative = l := by
  rw [readMagnitude_eq]
  constructor
  · intro read
    split at read
    case isTrue => exact nomatch read
    case isFalse some_digit =>
      obtain ⟨fraction?, text, fraction, digits⟩ :=
        exists_of_afterPoint (cs.dropWhile Char.isDigit)
      obtain ⟨e, exponent, rfl⟩ := Option.map_eq_some_iff.1 read
      obtain ⟨power?, tail, rfl⟩ := readExponent_eq_some_iff.1 exponent
      rw [fraction] at some_digit ⊢
      have spelled : IsDigits (cs.takeWhile Char.isDigit ++ fraction?.getD []) := by
        refine ⟨fun none => some_digit ?_, fun c h => ?_⟩
        · rw [List.append_eq_nil_iff] at none
          rw [none.1, none.2]
          rfl
        · exact (List.mem_append.1 h).elim isDigit_of_mem_takeWhile (digits c)
      refine ⟨⟨_, fraction?, power?, spelled⟩, ?_, ?_⟩
      · show cs.takeWhile Char.isDigit ++ (_ ++ _) = cs
        rw [← tail, ← text, List.takeWhile_append_dropWhile]
      · rw [ofDigits_eq]
        rfl
  · rintro ⟨m, rfl, rfl⟩
    have behind := m.head_power
    have parts := span_digits (fun c => m.isDigit_of_mem_whole) m.head_fraction
    have point := afterPoint_append (fun c => m.isDigit_of_mem_fraction) behind
    have some_digit : ¬(m.whole.isEmpty && m.fraction.isEmpty) = true := by
      have spelled := m.spelled.1
      rw [Ne, List.append_eq_nil_iff] at spelled
      simpa [Magnitude.fraction] using spelled
    unfold Magnitude.chars
    rw [parts.1, parts.2, point]
    show (if (m.whole.isEmpty && m.fraction.isEmpty) = true then none else _) = _
    rw [if_neg some_digit, readExponent_eq_some_iff.2 ⟨m.power?, rfl, rfl⟩, ofDigits_eq]
    rfl

/-- A number is none of the names of infinity and of no number, whatever the case. -/
theorem lower_chars_ne (m : Magnitude) {name : String}
    (letter : ∃ c ∈ name.toList.head?, c.isDigit = false ∧ c ≠ '.') :
    (String.ofList (m.chars.map Char.toLower) == name) = false := by
  rw [beq_eq_false_iff_ne]
  rintro rfl
  obtain ⟨c, first, other⟩ := letter
  rw [String.toList_ofList, List.head?_map, Option.mem_def, Option.map_eq_some_iff] at first
  obtain ⟨d, first, rfl⟩ := first
  rcases m.head_chars d first with digit | rfl
  · have same : d.toLower = d := by
      simp only [Char.isDigit, Bool.and_eq_true, decide_eq_true_eq] at digit
      exact dif_neg fun upper => absurd (UInt32.le_trans upper.1 digit.2) (by decide)
    rw [same, digit] at other
    exact absurd other.1 (by decide)
  · exact other.2 rfl

end Literal

/-! ## Names in the place of a number -/

/-- A sign and one of these names, whatever the case of its letters. -/
def IsNamed (names : List String) (s : Sign) (cs : List Char) : Prop :=
  ∃ word, cs = s.chars ++ word ∧ String.ofList (word.map Char.toLower) ∈ names

instance (names : List String) (s : Sign) (cs : List Char) : Decidable (IsNamed names s cs) :=
  decidable_of_iff (s.chars <+: cs ∧
      String.ofList ((cs.drop s.chars.length).map Char.toLower) ∈ names) <| by
    constructor
    · rintro ⟨⟨word, rfl⟩, named⟩
      exact ⟨word, rfl, by rwa [List.drop_left] at named⟩
    · rintro ⟨word, rfl, named⟩
      exact ⟨⟨word, rfl⟩, by rwa [List.drop_left]⟩

/-- A name starts with a letter, so its sign is told from it. -/
theorem IsNamed.splitSign {names : List String} {s : Sign} {cs : List Char}
    (letters : ∀ name ∈ names, name.toList.head?.any (fun c => c != '-' && c != '+') = true)
    (h : IsNamed names s cs) :
    cs ≠ [] ∧ (splitSign cs).1 = s.negative ∧
      String.ofList ((splitSign cs).2.map Char.toLower) ∈ names := by
  obtain ⟨word, rfl, named⟩ := h
  obtain ⟨c, first, unsigned⟩ := (Option.any_eq_true _ _).1 (letters _ named)
  rw [String.toList_ofList, List.head?_map, Option.map_eq_some_iff] at first
  obtain ⟨d, first, rfl⟩ := first
  rw [Bool.and_eq_true, bne_iff_ne, bne_iff_ne] at unsigned
  have split : Decimal.splitSign (s.chars ++ word) = (s.negative, word) := by
    refine s.splitSign_chars fun c' first' => ?_
    obtain rfl : d = c' := Option.some.inj (first.symm.trans first')
    constructor <;> rintro rfl
    · exact unsigned.1 rfl
    · exact unsigned.2 rfl
  refine ⟨fun none => ?_, by rw [split], by rwa [split]⟩
  rw [(List.append_eq_nil_iff.1 none).2] at first
  cases first

namespace Literal

/-- What is read is a name or a magnitude, behind a sign. -/
theorem cases_of_read {cs : List Char} {l : Literal} (h : read cs = .ok l) :
    ∃ s : Sign, IsNamed ["nan"] s cs ∧ l = .undefined ∨
      IsNamed ["inf", "infinity"] s cs ∧ l = .infinite s.negative ∨
      ∃ m : Magnitude, cs = s.chars ++ m.chars ∧ l = m.literal s.negative := by
  obtain ⟨s, text, sign⟩ := Sign.exists_of_splitSign cs
  refine ⟨s, ?_⟩
  unfold read at h
  split at h
  case isTrue => exact nomatch h
  dsimp only at h
  split at h
  case isTrue named =>
    cases h
    exact .inl ⟨⟨_, text, by simpa using named⟩, rfl⟩
  split at h
  case isTrue named =>
    cases h
    exact .inr (.inl ⟨⟨_, text, by simpa using named⟩, by rw [sign]⟩)
  split at h
  case h_2 => exact nomatch h
  case h_1 magnitude =>
    cases h
    obtain ⟨m, chars, literal⟩ := readMagnitude_eq_some_iff.1 magnitude
    exact .inr (.inr ⟨m, by rw [chars, ← text], by rw [← sign, literal]⟩)

/-- A text is read as a finite number if and only if it is a sign and a magnitude. -/
theorem read_eq_finite_iff {cs : List Char} {negative : Bool} {n : Nat} {e : Int} :
    read cs = .ok (.finite negative n e) ↔
      ∃ (s : Sign) (m : Magnitude), cs = s.chars ++ m.chars ∧
        m.literal s.negative = .finite negative n e := by
  constructor
  · intro spelled
    obtain ⟨s, ⟨-, other⟩ | ⟨-, other⟩ | ⟨m, text, literal⟩⟩ := cases_of_read spelled
    · exact nomatch other
    · exact nomatch other
    · exact ⟨s, m, text, literal.symm⟩
  · rintro ⟨s, m, rfl, literal⟩
    have unsigned : ∀ c ∈ m.chars.head?, c ≠ '-' ∧ c ≠ '+' := by
      intro c first
      rcases m.head_chars c first with digit | rfl
      · constructor <;> rintro rfl <;> exact nomatch digit
      · decide
    have given : ¬(s.chars ++ m.chars).isEmpty = true := by
      rw [List.isEmpty_iff, List.append_eq_nil_iff]
      exact fun none => m.chars_ne_nil none.2
    unfold read
    rw [if_neg given, s.splitSign_chars unsigned]
    dsimp only
    rw [lower_chars_ne m ⟨'n', rfl, by decide⟩, lower_chars_ne m ⟨'i', rfl, by decide⟩,
      lower_chars_ne m ⟨'i', rfl, by decide⟩, readMagnitude_eq_some_iff.2 ⟨m, rfl, rfl⟩, literal]
    rfl

/-- A text is read as infinite if and only if it names infinity. -/
theorem read_eq_infinite_iff {cs : List Char} {negative : Bool} :
    read cs = .ok (.infinite negative) ↔
      ∃ s : Sign, IsNamed ["inf", "infinity"] s cs ∧ s.negative = negative := by
  constructor
  · intro spelled
    obtain ⟨s, ⟨-, other⟩ | ⟨named, same⟩ | ⟨m, -, other⟩⟩ := cases_of_read spelled
    · exact nomatch other
    · cases same
      exact ⟨s, named, rfl⟩
    · exact nomatch other
  · rintro ⟨s, named, rfl⟩
    obtain ⟨given, sign, named⟩ := named.splitSign (by decide)
    unfold read
    rw [if_neg (by rwa [List.isEmpty_iff])]
    dsimp only
    rw [sign]
    simp only [List.mem_cons, List.not_mem_nil, or_false] at named
    rcases named with name | name <;> rw [name] <;> rfl

/-- A text is read as no number if and only if it says so. -/
theorem read_eq_undefined_iff {cs : List Char} :
    read cs = .ok .undefined ↔ ∃ s : Sign, IsNamed ["nan"] s cs := by
  constructor
  · intro spelled
    obtain ⟨s, ⟨named, -⟩ | ⟨-, other⟩ | ⟨m, -, other⟩⟩ := cases_of_read spelled
    · exact ⟨s, named⟩
    · exact nomatch other
    · exact nomatch other
  · rintro ⟨s, named⟩
    obtain ⟨given, -, named⟩ := named.splitSign (by decide)
    unfold read
    rw [if_neg (by rwa [List.isEmpty_iff])]
    dsimp only
    rw [List.mem_singleton.1 named]
    rfl

end Literal

end Registrar.Decimal
