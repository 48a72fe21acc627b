import Mathlib.Data.List.Forall2
import Registrar.Records.Host

/-!
# Names in any letter case

Names are compared by folding both of them. `SameLetters` says character by character what that
comes to: the characters are equal, or they are one letter of ASCII in its two cases. A record of a
host set is found at such a name if it is of the right type (`HostRecord.StandsAt`).

Main statements: `sameFolded_iff`, `HostRecord.isAt_iff`.
-/

namespace Registrar

namespace Text

/-- The characters are equal, or both are the letter at the same place of the alphabet. -/
def SameLetter (c d : Char) : Prop :=
  c = d ∨ ∃ k < 26, c.toNat ∈ [65 + k, 97 + k] ∧ d.toNat ∈ [65 + k, 97 + k]

/-- The texts are equal up to the case of letters of ASCII. -/
def SameLetters (a b : String) : Prop := List.Forall₂ SameLetter a.toList b.toList

theorem toNat_toLower (c : Char) :
    c.toLower.toNat = if 65 ≤ c.toNat ∧ c.toNat ≤ 90 then c.toNat + 32 else c.toNat := by
  by_cases upper : c.val ≥ 'A'.val ∧ c.val ≤ 'Z'.val
  · have bounds : 65 ≤ c.toNat ∧ c.toNat ≤ 90 := ⟨upper.1, upper.2⟩
    have lower : c.toLower.val = c.val + 32 := congrArg Char.val (dif_pos upper)
    rw [if_pos bounds]
    show c.toLower.val.toNat = c.val.toNat + 32
    rw [lower, UInt32.toNat_add]
    exact Nat.mod_eq_of_lt (Nat.lt_of_le_of_lt (Nat.add_le_add_right bounds.2 32) (by decide))
  · have same : c.toLower = c := dif_neg upper
    rw [same, if_neg fun bounds => upper ⟨bounds.1, bounds.2⟩]

theorem toLower_eq_iff (c d : Char) : c.toLower = d.toLower ↔ SameLetter c d := by
  rw [← Char.toNat_inj, toNat_toLower, toNat_toLower, SameLetter, ← Char.toNat_inj]
  simp only [List.mem_cons, List.not_mem_nil, or_false]
  constructor
  · intro same
    by_cases equal : c.toNat = d.toNat
    · exact .inl equal
    -- One of the two is folded: it is a capital, and the other one its small letter.
    · by_cases capital : 65 ≤ c.toNat ∧ c.toNat ≤ 90
      · exact .inr ⟨c.toNat - 65, by split at same <;> split at same <;> omega⟩
      · exact .inr ⟨d.toNat - 65, by split at same <;> split at same <;> omega⟩
  · rintro (equal | ⟨k, hk, hc, hd⟩)
    · rw [equal]
    · split <;> split <;> omega

theorem sameFolded_iff (a b : String) : sameFolded a b = true ↔ SameLetters a b := by
  rw [sameFolded, beq_iff_eq, lower, lower, ← String.toList_inj, String.toList_map,
    String.toList_map, ← List.forall₂_eq_eq_eq, List.forall₂_map_left_iff,
    List.forall₂_map_right_iff, SameLetters]
  simp only [toLower_eq_iff]

end Text

namespace HostRecord

/-- The record has this name, in any letter case, and this type. -/
structure StandsAt (r : HostRecord) (name : String) (recordType : RecordType) : Prop where
  name : Text.SameLetters r.name name
  type : r.recordType = recordType

variable {r : HostRecord} {name : String} {recordType : RecordType}

theorem isAt_iff : r.isAt name recordType = true ↔ r.StandsAt name recordType := by
  rw [isAt, Bool.and_eq_true, Text.sameFolded_iff, beq_iff_eq]
  exact ⟨fun ⟨name, type⟩ => ⟨name, type⟩, fun h => ⟨h.name, h.type⟩⟩

instance : Decidable (r.StandsAt name recordType) := decidable_of_iff _ isAt_iff

variable (hosts : List HostRecord)

theorem any_isAt_iff :
    hosts.any (·.isAt name recordType) = true ↔ ∃ r ∈ hosts, r.StandsAt name recordType := by
  simp only [List.any_eq_true, isAt_iff]

theorem not_any_isAt_iff :
    ¬hosts.any (·.isAt name recordType) = true ↔ ∀ r ∈ hosts, ¬r.StandsAt name recordType := by
  rw [any_isAt_iff]
  exact ⟨fun none r hr found => none ⟨r, hr, found⟩, fun none ⟨r, hr, found⟩ => none r hr found⟩

theorem filter_isAt :
    hosts.filter (fun r => !r.isAt name recordType) =
      hosts.filter fun r => ¬r.StandsAt name recordType := by
  refine List.filter_congr fun r _ => ?_
  rw [Bool.eq_iff_iff, Bool.not_eq_true', ← Bool.not_eq_true, isAt_iff, decide_eq_true_iff]

end HostRecord

end Registrar
