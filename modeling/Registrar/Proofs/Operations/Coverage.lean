import Registrar.Proofs.Operations.Lookups
import Registrar.Proofs.Text.Splitting

/-!
# The domains that a certificate covers

A certificate covers the name it was issued for and the names above it. Names are compared label by
label, so a domain is not covered by a name that merely ends in the same letters (`Covers`); the
wildcards in front of the certificate's name do not count, and neither does the case of letters.
The certificates for a domain are those of the account's list that cover it, in its order.

Main statement: `lists_covering`.
-/

namespace Registrar

open Dialogue Text

namespace Certificate

variable {host bare : List Char}

/-! ## Wildcards -/

/-- `bare` is what stands behind all wildcard labels at the front of the host. -/
structure IsBare (host bare : List Char) : Prop where
  behind : ∃ n, host = (List.replicate n ['*', '.']).flatten ++ bare
  none_left : ¬ ['*', '.'] <+: bare

theorem isBare_dropWildcards (host : List Char) : IsBare host (dropWildcards host) := by
  induction host using dropWildcards.induct with
  | case1 cs ih =>
    obtain ⟨⟨n, whole⟩, none_left⟩ := ih
    refine ⟨⟨n + 1, ?_⟩, none_left⟩
    rw [List.replicate_succ, List.flatten_cons, List.append_assoc, dropWildcards, ← whole]
    rfl
  | case2 cs plain =>
    rw [dropWildcards.eq_2 cs plain]
    exact ⟨⟨0, rfl⟩, fun ⟨rest, h⟩ => plain rest h.symm⟩

theorem dropWildcards_eq_self (h : ¬ ['*', '.'] <+: bare) : dropWildcards bare = bare :=
  dropWildcards.eq_2 bare fun rest e => h ⟨rest, e.symm⟩

theorem isBare_iff : IsBare host bare ↔ bare = dropWildcards host := by
  constructor
  · rintro ⟨⟨n, rfl⟩, none_left⟩
    -- On the number of wildcards: the first one is dropped in one step, whatever follows it.
    induction n with
    | zero => exact (dropWildcards_eq_self none_left).symm
    | succ n ih => exact ih
  · rintro rfl
    exact isBare_dropWildcards host

/-! ## Labels -/

/-- The labels of a name, with its letters in lower case. -/
def lowerLabels (name : List Char) : List (List Char) :=
  (name.map Char.toLower).splitOn '.'

/-- The labels of the domain are the last ones of the host, or all of them. -/
def Covers (host domain : String) : Prop :=
  ∃ bare, IsBare host.toList bare ∧ bare ≠ [] ∧ trimChars domain.toList ≠ [] ∧
    lowerLabels (trimChars domain.toList) <:+ lowerLabels bare

theorem hostCovers_iff (host domain : String) :
    hostCovers host domain = true ↔ Covers host domain := by
  simp only [Covers, isBare_iff, exists_eq_left, lowerLabels, splitOn_suffix_iff]
  simp [hostCovers, and_assoc]

instance (host domain : String) : Decidable (Covers host domain) :=
  decidable_of_iff _ (hostCovers_iff host domain)

-- The end of a label is no label.
example : ¬ Covers "www.badexample.com" "example.com" ∧
    Covers "*.*.WWW.example.com" " Example.com " := by
  decide +kernel

end Certificate

open Certificate

/-! ## Certificates for a domain -/

section

variable (c : Client) (domain : String)

theorem runs_certificatesForDomain_of_blank (blank : isBlankText domain = true)
    {events : List Client.Event} {answer : Except Failure (List Certificate)} :
    Runs (c.certificatesForDomain domain).run events answer ↔
      events = [] ∧ answer = .error (.invalidInput "domain must not be empty") := by
  have refused : Lookup.command (.certificate domain) =
      .error (.invalidInput "domain must not be empty") := by
    simp only [Lookup.command, if_pos blank]
  rw [Lookup.run_certificatesForDomain, Lookup.run_ask_of_error c _ refused]
  exact runs_done_iff

theorem runs_certificatesForDomain_of_not_blank (given : ¬ isBlankText domain = true)
    {events : List Client.Event} {answer : Except Failure (List Certificate)} :
    Runs (c.certificatesForDomain domain).run events answer ↔
      ∃ listed, Runs c.listCertificates.run events listed ∧
        answer = listed.map fun certificates => certificates.filter (·.covers domain) := by
  have asked : Lookup.command (.certificate domain) = .ok (.new "namecheap.ssl.getList") := by
    simp only [Lookup.command, if_neg given]
  rw [Lookup.run_certificatesForDomain, Lookup.run_ask_of_ok c _ asked, runs_andThen_iff]
  constructor
  · rintro ⟨before, after, listed, rfl, run, rest⟩
    obtain ⟨rfl, rfl⟩ := runs_done_iff.1 rest
    exact ⟨listed, by rwa [List.append_nil], rfl⟩
  · rintro ⟨listed, run, rfl⟩
    exact ⟨events, [], listed, (List.append_nil events).symm, run, .done _⟩

/-- A certificate covers a domain if and only if the labels of the domain are the last ones of the
certificate's name. The certificates for a domain are those of the list that cover it, each where it
stands there; a failure of the list is their failure, and for a blank domain nothing is asked. -/
theorem lists_covering :
    (∀ certificate : Certificate,
      certificate.covers domain = true ↔ Covers certificate.hostName domain) ∧
    ∀ events answer, Runs (c.certificatesForDomain domain).run events answer ↔
      if isBlankText domain then
        events = [] ∧ answer = .error (.invalidInput "domain must not be empty")
      else ∃ listed, Runs c.listCertificates.run events listed ∧
        answer = listed.map fun certificates =>
          certificates.filter fun certificate => Covers certificate.hostName domain := by
  have covers (certificate : Certificate) :
      certificate.covers domain = true ↔ Covers certificate.hostName domain :=
    hostCovers_iff certificate.hostName domain
  refine ⟨covers, fun events answer => ?_⟩
  have same : (fun certificate : Certificate => certificate.covers domain) =
      fun certificate => decide (Covers certificate.hostName domain) :=
    funext fun certificate => by rw [Bool.eq_iff_iff, decide_eq_true_iff, covers]
  rw [← same]
  split
  case isTrue blank => exact runs_certificatesForDomain_of_blank c domain blank
  case isFalse given => exact runs_certificatesForDomain_of_not_blank c domain given

end

end Registrar
