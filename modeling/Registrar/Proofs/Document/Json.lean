import Registrar.Document.Json
import Registrar.Proofs.Decimal.Numerals

/-!
# JSON that is read back

What `Json.text` writes for a value is read by `Json.read?` as that value, if the value `IsPlain`:
without doubles, dates and unreadable parts, and with integers of 64 bits. Main statement:
`Json.read?_text`.
-/

namespace Registrar.Document

/-- A value of texts, flags and integers of 64 bits, in lists and tables. -/
inductive Value.IsPlain : Value → Prop
  | null : IsPlain .null
  | bool (b : Bool) : IsPlain (.bool b)
  | integer {n : Int} (low : -9223372036854775808 ≤ n) (high : n ≤ Decimal.max64) :
    IsPlain (.integer n)
  | text (s : String) : IsPlain (.text s)
  | list {items : List Value} (plain : ∀ v ∈ items, IsPlain v) : IsPlain (.list items)
  | table {entries : List (String × Value)} (plain : ∀ e ∈ entries, IsPlain e.2) :
    IsPlain (.table entries)

namespace Json

/-! ## Texts -/

/-- The code unit as which a character is read back. -/
def unitOf (c : Char) : Char ⊕ Nat :=
  if c.toNat < 0x20 ∧ c ∉ ['\x08', '\x0c', '\n', '\r', '\t'] then .inr c.toNat else .inl c

/-- The four digits of a control character tell it. -/
theorem exists_unitText {n : Nat} (h : n < 0x20) :
    ∃ a b c d, unitText n = [a, b, c, d] ∧ unit? a b c d = some n := by
  have all : ((List.range 0x20).all fun n =>
      let ds := unitText n
      ds == [ds.getD 0 '0', ds.getD 1 '0', ds.getD 2 '0', ds.getD 3 '0'] &&
        unit? (ds.getD 0 '0') (ds.getD 1 '0') (ds.getD 2 '0') (ds.getD 3 '0') == some n) =
      true := by
    decide +kernel
  have one := List.all_eq_true.1 all n (List.mem_range.2 h)
  rw [Bool.and_eq_true] at one
  exact ⟨_, _, _, _, eq_of_beq one.1, eq_of_beq one.2⟩

/-- A character is written behind a backslash, by its number or as it is. -/
theorem escapeChar_cases (c : Char) :
    (∃ letter, letter ≠ 'u' ∧ escapeChar c = ['\\', letter] ∧ shortEscape? letter = some c ∧
      unitOf c = .inl c) ∨
    (escapeChar c = '\\' :: 'u' :: unitText c.toNat ∧ c.toNat < 0x20 ∧ unitOf c = .inr c.toNat) ∨
    (escapeChar c = [c] ∧ c ≠ '"' ∧ c ≠ '\\' ∧ ¬c.toNat < 0x20 ∧ unitOf c = .inl c) := by
  by_cases short : c ∈ ['"', '\\', '\x08', '\x0c', '\n', '\r', '\t']
  · simp only [List.mem_cons, List.not_mem_nil, or_false] at short
    refine .inl ?_
    rcases short with rfl | rfl | rfl | rfl | rfl | rfl | rfl <;>
      exact ⟨_, by decide, rfl, rfl, rfl⟩
  · simp only [List.mem_cons, List.not_mem_nil, or_false, not_or] at short
    obtain ⟨quote, backslash, b, f, n, r, t⟩ := short
    have rest : escapeChar c = if c.toNat < 0x20 then '\\' :: 'u' :: unitText c.toNat else [c] := by
      simp [escapeChar, quote, backslash, b, f, n, r, t]
    by_cases control : c.toNat < 0x20
    · refine .inr (.inl ⟨by rw [rest, if_pos control], control, if_pos ⟨control, ?_⟩⟩)
      simp [b, f, n, r, t]
    · exact .inr (.inr ⟨by rw [rest, if_neg control], quote, backslash, control,
        if_neg fun unit => control unit.1⟩)

theorem units_short {letter c : Char} (h : letter ≠ 'u') (spelled : shortEscape? letter = some c)
    (cs : List Char) :
    units ('\\' :: letter :: cs) = (units cs).map fun (us, rest) => (.inl c :: us, rest) := by
  rw [units]
  · rw [spelled]; rfl
  · rintro a b c' d more rfl
    exact fun _ => h rfl

theorem units_plain {c : Char} (quote : c ≠ '"') (backslash : c ≠ '\\') (control : ¬c.toNat < 0x20)
    (cs : List Char) : units (c :: cs) = (units cs).map fun (us, rest) => (.inl c :: us, rest) := by
  rw [units]
  · simp [control, backslash]
  · exact quote
  · exact fun _ _ _ _ _ same _ => backslash same
  · exact fun _ _ same _ => backslash same

theorem units_unit {n : Nat} {a b c d : Char} (spelled : unit? a b c d = some n) (cs : List Char) :
    units ('\\' :: 'u' :: a :: b :: c :: d :: cs) =
      (units cs).map fun (us, rest) => (.inr n :: us, rest) := by
  rw [units, spelled]
  rfl

/-- Control characters are no halves of surrogate pairs. -/
theorem ofUnits_control {u : Nat} (h : u < 0x20) (us : List (Char ⊕ Nat)) :
    ofUnits (.inr u :: us) = (ofUnits us).map (Char.ofNat u :: ·) := by
  have high : ¬(0xD800 ≤ u && u < 0xE000) = true := by simp; omega
  have first : ¬(0xD800 ≤ u && u < 0xDC00) = true := by simp; omega
  have second : ¬(0xDC00 ≤ u && u < 0xE000) = true := by simp; omega
  match us with
  | [] => exact if_neg high
  | .inl c :: us => exact if_neg high
  | .inr v :: us => rw [ofUnits, if_neg first, if_neg second]

theorem units_escapeChar (c : Char) (cs : List Char) :
    units (escapeChar c ++ cs) = (units cs).map fun (us, rest) => (unitOf c :: us, rest) := by
  rcases escapeChar_cases c with ⟨letter, other, text, spelled, unit⟩ | ⟨text, control, unit⟩ |
    ⟨text, quote, backslash, control, unit⟩
  · rw [text, unit]
    exact units_short other spelled cs
  · obtain ⟨a, b, d, e, digits, spelled⟩ := exists_unitText control
    rw [text, unit, digits]
    exact units_unit spelled cs
  · rw [text, unit]
    exact units_plain quote backslash control cs

theorem units_escape (cs rest : List Char) :
    units (cs.flatMap escapeChar ++ '"' :: rest) = some (cs.map unitOf, rest) := by
  induction cs with
  | nil => rfl
  | cons c cs ih =>
    rw [List.flatMap_cons, List.append_assoc, units_escapeChar, ih]
    rfl

theorem ofUnits_unitOf (cs : List Char) : ofUnits (cs.map unitOf) = some cs := by
  induction cs with
  | nil => rfl
  | cons c cs ih =>
    rw [List.map_cons]
    rcases escapeChar_cases c with ⟨-, -, -, -, unit⟩ | ⟨-, control, unit⟩ | ⟨-, -, -, -, unit⟩
    · rw [unit, ofUnits, ih, Option.map_some]
    · rw [unit, ofUnits_control control, ih, Option.map_some, Char.ofNat_toNat]
    · rw [unit, ofUnits, ih, Option.map_some]

theorem splitText?_escape (s : String) (rest : List Char) :
    splitText? (s.toList.flatMap escapeChar ++ '"' :: rest) = some (some s, rest) := by
  unfold splitText?
  rw [units_escape, Option.map_some]
  dsimp only
  rw [ofUnits_unitOf, Option.map_some, String.ofList_toList]

/-! ## Numbers -/

/-- What may follow a value: nothing, or the mark behind an item or an entry. -/
def Ends (rest : List Char) : Prop := ∀ c ∈ rest.head?, c = ',' ∨ c = ']' ∨ c = '\x7d'

theorem fill_of_le {n : Nat} {cs : List Char} (h : Nat.ofDigitChars 10 cs n ≤ Decimal.max64) :
    fill n cs = (Nat.ofDigitChars 10 cs n, []) := by
  induction cs generalizing n with
  | nil => rfl
  | cons c cs ih =>
    rw [Nat.ofDigitChars_cons] at h ⊢
    have small : 10 * n + (c.toNat - 48) ≤ Decimal.max64 :=
      Nat.le_trans (Decimal.le_ofDigitChars cs _) h
    show (if 10 * n + (c.toNat - 48) ≤ Decimal.max64 then fill (10 * n + (c.toNat - 48)) cs
      else (n, c :: cs)) = _
    rw [if_pos small]
    exact ih h

/-- A number of more than one digit does not start with a zero. -/
theorem head_digits {n : Nat} (h : n ≠ 0) : (Decimal.digits n).head? ≠ some '0' := by
  induction n using Nat.strongRecOn with
  | ind n ih =>
    unfold Decimal.digits
    by_cases small : n < 10
    · rw [Nat.toDigits_of_lt_base small]
      have all : ∀ n < 10, n ≠ 0 → some (Nat.digitChar n) ≠ some '0' := by decide
      exact all n small h
    · rw [Nat.toDigits_of_base_le (by decide) (by omega), List.head?_append,
        Option.or_of_isSome (by simp [Nat.toDigits_ne_nil])]
      exact ih (n / 10) (by omega) (by omega)

theorem head?_digits_append {n : Nat} {c : Char} {rest cs : List Char}
    (h : Decimal.digits n ++ rest = c :: cs) : (Decimal.digits n).head? = some c := by
  obtain ⟨d, ds, text⟩ := List.exists_cons_of_ne_nil (Decimal.digits_ne_nil n)
  rw [text, List.cons_append, List.cons.injEq] at h
  rw [text, h.1]
  rfl

theorem head_of_ends {rest : List Char} (ends : Ends rest) :
    ∀ c ∈ rest.head?, c.isDigit = false ∧ c ≠ '.' ∧ c ≠ 'e' ∧ c ≠ 'E' := by
  intro c first
  rcases ends c first with rfl | rfl | rfl <;> decide

theorem splitWhole?_digits (n : Nat) {rest : List Char} (ends : Ends rest) :
    splitWhole? (Decimal.digits n ++ rest) = some (Decimal.digits n, rest) := by
  have other := fun c first => (head_of_ends ends c first).1
  have parts := Decimal.span_digits (fun c => (Decimal.isDigits_digits n).2 c) other
  have given : ¬(Decimal.digits n).isEmpty = true := by
    simpa using Decimal.digits_ne_nil n
  by_cases zero : n = 0
  · subst zero
    have alone : ¬rest.head?.any Char.isDigit = true := by
      cases first : rest.head? with
      | none => simp
      | some c => simp [other c first]
    exact if_neg alone
  · unfold splitWhole?
    split
    case h_1 rest' text =>
      exact (head_digits zero (head?_digits_append text)).elim
    case h_2 =>
      dsimp only
      rw [parts.1, parts.2, if_neg given]

theorem splitFraction?_of_ends {rest : List Char} (ends : Ends rest) :
    splitFraction? rest = some (none, rest) := by
  unfold splitFraction?
  split
  case h_1 => exact ((head_of_ends ends '.' rfl).2.1 rfl).elim
  case h_2 => rfl

theorem splitExponent?_of_ends {rest : List Char} (ends : Ends rest) :
    splitExponent? rest = some (none, rest) := by
  unfold splitExponent?
  split
  case h_1 c cs =>
    have letter := (head_of_ends ends c rfl).2.2
    rw [if_neg (by simpa using letter)]
  case h_2 => rfl

theorem splitNumber?_integerChars (n : Int) {rest : List Char} (ends : Ends rest) :
    splitNumber? (integerChars n ++ rest) =
      some (⟨decide (n < 0), Decimal.digits n.natAbs, none, none⟩, rest) := by
  have whole := splitWhole?_digits n.natAbs ends
  have fraction := splitFraction?_of_ends ends
  have exponent := splitExponent?_of_ends ends
  unfold splitNumber? integerChars
  by_cases negative : n < 0
  · rw [if_pos negative, decide_eq_true negative]
    simp [whole, fraction, exponent]
  · rw [if_neg negative, decide_eq_false negative]
    dsimp only
    split
    case h_1 cs text =>
      have first := List.mem_of_mem_head? (head?_digits_append text)
      exact nomatch Decimal.isDigit_of_mem_digits first
    case h_2 => simp [whole, fraction, exponent]

theorem numberValue_integer {n : Int} (low : -9223372036854775808 ≤ n) (high : n ≤ Decimal.max64) :
    numberValue ⟨decide (n < 0), Decimal.digits n.natAbs, none, none⟩ = .integer n := by
  have value : Nat.ofDigitChars 10 (Decimal.digits n.natAbs) 0 = n.natAbs :=
    Nat.ofDigitChars_ten_toDigits
  unfold Decimal.max64 at high
  have fits : n.natAbs ≤ Decimal.max64 := by
    unfold Decimal.max64
    omega
  have filled := fill_of_le (value.symm ▸ fits)
  rw [value] at filled
  unfold numberValue
  dsimp only
  rw [filled]
  dsimp only
  by_cases negative : n < 0
  · have within : ¬(n.natAbs = 0 || 9223372036854775808 < n.natAbs) = true := by
      simp only [Bool.or_eq_true, decide_eq_true_eq]
      omega
    rw [decide_eq_true negative, if_neg (by decide), if_neg (by decide), if_neg within]
    congr 1
    omega
  · rw [decide_eq_false negative, if_neg (by decide), if_pos (by decide)]
    congr 1
    omega

/-! ## Values -/

theorem itemChars_cons_cons (v w : Value) (vs : List Value) :
    itemChars (v :: w :: vs) = chars v ++ ',' :: itemChars (w :: vs) := by
  rw [itemChars]
  exact List.cons_ne_nil w vs

theorem entryChars_cons_cons (k : String) (v : Value) (e : String × Value)
    (es : List (String × Value)) :
    entryChars ((k, v) :: e :: es) =
      textChars k ++ ':' :: chars v ++ ',' :: entryChars (e :: es) := by
  rw [entryChars]
  exact List.cons_ne_nil e es

theorem skipBlanks_cons {c : Char} (h : isBlank c = false) (cs : List Char) :
    skipBlanks (c :: cs) = c :: cs :=
  List.dropWhile_cons_of_neg (by rw [h]; exact Bool.false_ne_true)

/-- A sign or a digit. -/
def StartsNumber (c : Char) : Prop := c = '-' ∨ c.isDigit = true

theorem exists_integerChars_eq_cons (n : Int) :
    ∃ c cs, integerChars n = c :: cs ∧ StartsNumber c := by
  unfold integerChars
  split
  · exact ⟨'-', _, rfl, .inl rfl⟩
  · obtain ⟨c, cs, text⟩ := List.exists_cons_of_ne_nil (Decimal.digits_ne_nil n.natAbs)
    exact ⟨c, cs, text, .inr (Decimal.isDigit_of_mem_digits (text ▸ List.mem_cons_self))⟩

theorem StartsNumber.not_isBlank {c : Char} (h : StartsNumber c) : isBlank c = false := by
  have blank : ∀ b ∈ [' ', '\n', '\t', '\r'], c ≠ b := by
    rintro b hb rfl
    rcases h with rfl | digit
    · exact absurd hb (by decide)
    · simp only [List.mem_cons, List.not_mem_nil, or_false] at hb
      rcases hb with rfl | rfl | rfl | rfl <;> exact nomatch digit
  simpa [isBlank, and_assoc] using blank

theorem value_number {c : Char} (h : StartsNumber c) (fuel : Nat) (cs : List Char) :
    value (fuel + 1) (c :: cs) =
      (splitNumber? (c :: cs)).map fun (t, rest) => (numberValue t, rest) := by
  have other {d : Char} (hd : ¬StartsNumber d) {ds : List Char} : c :: cs ≠ d :: ds := by
    rintro same
    cases same
    exact hd h
  rw [value, skipBlanks_cons h.not_isBlank]
  split
  case h_7 => rfl
  all_goals
    rename_i text
    exact (other (by unfold StartsNumber; decide) text).elim

/-- A value starts with a character that is no blank and closes no list. -/
theorem exists_chars_eq_cons {v : Value} (plain : v.IsPlain) :
    ∃ c cs, chars v = c :: cs ∧ isBlank c = false ∧ c ≠ ']' := by
  cases plain with
  | null => exact ⟨'n', _, rfl, rfl, by decide⟩
  | bool b =>
    cases b
    · exact ⟨'f', _, rfl, rfl, by decide⟩
    · exact ⟨'t', _, rfl, rfl, by decide⟩
  | text s => exact ⟨'"', _, rfl, rfl, by decide⟩
  | @list items _ => exact ⟨'[', itemChars items ++ [']'], by rw [chars]; rfl, rfl, by decide⟩
  | @table entries _ =>
    exact ⟨'\x7b', entryChars entries ++ ['\x7d'], by rw [chars]; rfl, rfl, by decide⟩
  | @integer n low high =>
    obtain ⟨c, cs, text, number⟩ := exists_integerChars_eq_cons n
    refine ⟨c, cs, text, number.not_isBlank, ?_⟩
    rintro rfl
    exact absurd number (by unfold StartsNumber; decide)

/-- The value is read back in front of what may follow it, with fuel for its text. -/
def Reads (v : Value) : Prop :=
  ∀ (fuel : Nat) (rest : List Char), Ends rest → 2 * (chars v).length ≤ fuel →
    value fuel (chars v ++ rest) = some (v, rest)

theorem ends_comma (cs : List Char) : Ends (',' :: cs) := fun _ first =>
  .inl (Option.mem_some_iff.1 first).symm

theorem ends_bracket (cs : List Char) : Ends (']' :: cs) := fun _ first =>
  .inr (.inl (Option.mem_some_iff.1 first).symm)

theorem ends_brace (cs : List Char) : Ends ('\x7d' :: cs) := fun _ first =>
  .inr (.inr (Option.mem_some_iff.1 first).symm)

theorem items_chars {vs : List Value} (given : vs ≠ []) (reads : ∀ v ∈ vs, Reads v) (fuel : Nat)
    (rest : List Char) (enough : 2 * (itemChars vs).length + 1 ≤ fuel) :
    items fuel (itemChars vs ++ ']' :: rest) = some (vs, rest) := by
  obtain ⟨fuel, rfl⟩ : ∃ n, fuel = n + 1 := ⟨fuel - 1, by omega⟩
  match vs with
  | [v] =>
    have one : itemChars [v] = chars v := by rw [itemChars]
    rw [one] at enough ⊢
    have read := reads v List.mem_cons_self fuel _ (ends_bracket rest) (by omega)
    rw [items, read]
    rfl
  | v :: w :: vs =>
    have reads' : ∀ x ∈ w :: vs, Reads x := fun x hx => reads x (List.mem_cons_of_mem v hx)
    rw [itemChars_cons_cons] at enough ⊢
    rw [List.length_append, List.length_cons] at enough
    have read := reads v List.mem_cons_self fuel _
      (ends_comma (itemChars (w :: vs) ++ ']' :: rest)) (by omega)
    have more := items_chars (List.cons_ne_nil w vs) reads' fuel rest (by omega)
    rw [items, List.append_assoc, List.cons_append, read]
    show (items fuel _).map _ = _
    rw [more]
    rfl

/-- A key is read back, up to the colon behind it. -/
theorem entries_key (k : String) (fuel : Nat) (cs : List Char) :
    entries (fuel + 1) (textChars k ++ ':' :: cs) = (value fuel cs).bind fun (v, rest) =>
      match skipBlanks rest with
      | ',' :: rest => (entries fuel rest).map fun (es, rest) => ((some k, v) :: es, rest)
      | '\x7d' :: rest => some ([(some k, v)], rest)
      | _ => none := by
  have key : textChars k ++ ':' :: cs =
      '"' :: (k.toList.flatMap escapeChar ++ '"' :: ':' :: cs) := by
    simp [textChars]
  rw [key, entries, skipBlanks_cons (by decide)]
  show (splitText? _).bind _ = _
  rw [splitText?_escape]
  rfl

theorem entries_chars {es : List (String × Value)} (given : es ≠ []) (reads : ∀ e ∈ es, Reads e.2)
    (fuel : Nat) (rest : List Char) (enough : 2 * (entryChars es).length + 1 ≤ fuel) :
    entries fuel (entryChars es ++ '\x7d' :: rest) =
      some (es.map fun e => (some e.1, e.2), rest) := by
  obtain ⟨fuel, rfl⟩ : ∃ n, fuel = n + 1 := ⟨fuel - 1, by omega⟩
  match es with
  | [(k, v)] =>
    have one : entryChars [(k, v)] = textChars k ++ ':' :: chars v := by rw [entryChars]
    rw [one] at enough ⊢
    rw [List.length_append, List.length_cons] at enough
    have read := reads (k, v) List.mem_cons_self fuel _ (ends_brace rest) (by dsimp only; omega)
    rw [List.append_assoc, List.cons_append, entries_key, read]
    rfl
  | (k, v) :: e :: es =>
    have reads' : ∀ x ∈ e :: es, Reads x.2 := fun x hx => reads x (List.mem_cons_of_mem _ hx)
    rw [entryChars_cons_cons] at enough ⊢
    rw [List.length_append, List.length_append, List.length_cons, List.length_cons] at enough
    have read := reads (k, v) List.mem_cons_self fuel _
      (ends_comma (entryChars (e :: es) ++ '\x7d' :: rest)) (by dsimp only; omega)
    have more := entries_chars (List.cons_ne_nil e es) reads' fuel rest (by omega)
    simp only [List.append_assoc, List.cons_append]
    rw [entries_key, read]
    show (entries fuel _).map _ = _
    rw [more]
    rfl

theorem tableValue_entries (es : List (String × Value)) :
    tableValue (es.map fun e => (some e.1, e.2)) = .table es := by
  have all : (es.map fun e => (some e.1, e.2)).mapM (fun e => e.1.map (·, e.2)) = some es := by
    induction es with
    | nil => rfl
    | cons e es ih =>
      rw [List.map_cons, List.mapM_cons, ih]
      rfl
  unfold tableValue
  split
  case h_1 found => exact congrArg _ (Option.some.inj (found.symm.trans all))
  case h_2 missing => exact nomatch missing.symm.trans all

/-- A list that is not empty does not start with its end. -/
theorem exists_itemChars_eq_cons {v : Value} (plain : v.IsPlain) (vs : List Value) :
    ∃ c cs, itemChars (v :: vs) = c :: cs ∧ isBlank c = false ∧ c ≠ ']' := by
  obtain ⟨c, cs, text, first⟩ := exists_chars_eq_cons plain
  cases vs with
  | nil => exact ⟨c, cs, by rw [itemChars, text], first⟩
  | cons w vs =>
    refine ⟨c, cs ++ ',' :: itemChars (w :: vs), ?_, first⟩
    rw [itemChars_cons_cons, text]
    rfl

theorem exists_entryChars_eq_cons (e : String × Value) (es : List (String × Value)) :
    ∃ cs, entryChars (e :: es) = '"' :: cs := by
  cases es with
  | nil => exact ⟨_, by rw [entryChars, textChars]; rfl⟩
  | cons e' es => exact ⟨_, by rw [entryChars_cons_cons, textChars]; rfl⟩

theorem value_bracket (fuel : Nat) (cs : List Char) :
    value (fuel + 1) ('[' :: cs) =
      match skipBlanks cs with
      | ']' :: rest => some (.list [], rest)
      | rest => (items fuel rest).map fun (vs, rest) => (.list vs, rest) := by
  rw [value]
  rfl

theorem value_brace (fuel : Nat) (cs : List Char) :
    value (fuel + 1) ('\x7b' :: cs) =
      match skipBlanks cs with
      | '\x7d' :: rest => some (.table [], rest)
      | rest => (entries fuel rest).map fun (es, rest) => (tableValue es, rest) := by
  rw [value]
  rfl

theorem value_quote (fuel : Nat) (cs : List Char) :
    value (fuel + 1) ('"' :: cs) =
      (splitText? cs).map fun (s, rest) => (textValue s, rest) := by
  rw [value]
  rfl

theorem value_list {items : List Value} (plain : ∀ v ∈ items, v.IsPlain)
    (reads : ∀ v ∈ items, Reads v) {fuel : Nat} (rest : List Char)
    (enough : 2 * (itemChars items).length + 1 ≤ fuel) :
    value (fuel + 1) ('[' :: (itemChars items ++ ']' :: rest)) = some (.list items, rest) := by
  rw [value_bracket]
  cases items with
  | nil => rw [itemChars]; rfl
  | cons v vs =>
    have read := items_chars (List.cons_ne_nil v vs) reads fuel rest enough
    obtain ⟨c, cs, text, visible, other⟩ := exists_itemChars_eq_cons (plain v List.mem_cons_self) vs
    rw [text, List.cons_append] at read ⊢
    rw [skipBlanks_cons visible]
    split
    case h_1 same => cases same; exact (other rfl).elim
    case h_2 => rw [read]; rfl

theorem value_table {entries : List (String × Value)} (reads : ∀ e ∈ entries, Reads e.2)
    {fuel : Nat} (rest : List Char) (enough : 2 * (entryChars entries).length + 1 ≤ fuel) :
    value (fuel + 1) ('\x7b' :: (entryChars entries ++ '\x7d' :: rest)) =
      some (.table entries, rest) := by
  rw [value_brace]
  cases entries with
  | nil => rw [entryChars]; rfl
  | cons e es =>
    have read := entries_chars (List.cons_ne_nil e es) reads fuel rest enough
    obtain ⟨cs, text⟩ := exists_entryChars_eq_cons e es
    rw [text, List.cons_append] at read ⊢
    rw [skipBlanks_cons (by decide)]
    show (Json.entries fuel _).map _ = _
    rw [read, Option.map_some]
    exact congrArg (fun v => some (v, rest)) (tableValue_entries (e :: es))

/-- A plain value is read back. The fuel goes down by one for a value and for each of its items. -/
theorem reads_of_isPlain {v : Value} (plain : v.IsPlain) : Reads v := by
  have enter {v : Value} (plain : v.IsPlain) (read : ∀ fuel rest, Ends rest →
      2 * (chars v).length ≤ fuel + 1 → value (fuel + 1) (chars v ++ rest) = some (v, rest)) :
      Reads v := by
    intro fuel rest ends enough
    obtain ⟨c, cs, text, -⟩ := exists_chars_eq_cons plain
    have some_char : 0 < (chars v).length := by rw [text]; exact Nat.succ_pos _
    obtain ⟨fuel, rfl⟩ : ∃ n, fuel = n + 1 := ⟨fuel - 1, by omega⟩
    exact read fuel rest ends enough
  induction plain with
  | null =>
    refine enter .null fun fuel rest _ _ => ?_
    rw [chars, value]
    rfl
  | bool b =>
    refine enter (.bool b) fun fuel rest _ _ => ?_
    cases b <;> (rw [chars, value]; rfl)
  | text s =>
    refine enter (.text s) fun fuel rest _ _ => ?_
    have text : chars (.text s) ++ rest = '"' :: (s.toList.flatMap escapeChar ++ '"' :: rest) := by
      rw [chars]
      simp [textChars]
    rw [text, value_quote, splitText?_escape]
    rfl
  | @integer n low high =>
    refine enter (.integer low high) fun fuel rest ends _ => ?_
    obtain ⟨c, cs, text, number⟩ := exists_integerChars_eq_cons n
    have split := splitNumber?_integerChars n ends
    rw [chars]
    rw [text, List.cons_append] at split ⊢
    rw [value_number number, split, Option.map_some]
    exact congrArg (fun v => some (v, rest)) (numberValue_integer low high)
  | @list items plain reads =>
    refine enter (.list plain) fun fuel rest _ enough => ?_
    have text : chars (.list items) = '[' :: (itemChars items ++ [']']) := by
      rw [chars]
      rfl
    rw [text, List.length_cons, List.length_append, List.length_singleton] at enough
    rw [text, List.cons_append, List.append_assoc]
    exact value_list plain reads rest (by omega)
  | @table entries plain reads =>
    refine enter (.table plain) fun fuel rest _ enough => ?_
    have text : chars (.table entries) = '\x7b' :: (entryChars entries ++ ['\x7d']) := by
      rw [chars]
      rfl
    rw [text, List.length_cons, List.length_append, List.length_singleton] at enough
    rw [text, List.cons_append, List.append_assoc]
    exact value_table reads rest (by omega)

/-- What is written for a plain value is read back as that value. -/
theorem read?_text {v : Value} (plain : v.IsPlain) : read? (text v) = some v := by
  have read := reads_of_isPlain plain (2 * (chars v).length + 2) [] (fun _ first => nomatch first)
    (by omega)
  rw [List.append_nil] at read
  unfold read? text
  rw [String.length_ofList, String.toList_ofList, read]
  rfl

end Json

end Registrar.Document
