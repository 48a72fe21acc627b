import Registrar.Proofs.Names.Matching
import Registrar.Proofs.Operations.Coverage
import Registrar.Proofs.Text.Trimming

/-!
# The name that a certificate was issued for

Of the two names that are compared, the certificate's loses its wildcards and the one that is asked
for its white space. So a certificate covers the very name it was issued for if that name
`StandsAsIs`: there is nothing to drop from it on either side. Main statement:
`finds_own_name_iff`; a wildcard certificate is the exception (`wildcard_misses_own_name`).
-/

namespace Registrar

open Dialogue Text

namespace Text

theorem not_isBlank_of_letter {c : Char} (lo : 65 ≤ c.toNat) (hi : c.toNat ≤ 122) :
    isBlank c = false := by
  simp only [isBlank, Bool.or_eq_false_iff, Bool.and_eq_false_iff, decide_eq_false_iff_not,
    beq_eq_false_iff_ne, ne_eq]
  omega

theorem isBlank_toLower (c : Char) : isBlank c.toLower = isBlank c := by
  by_cases upper : 65 ≤ c.toNat ∧ c.toNat ≤ 90
  · have code : c.toLower.toNat = c.toNat + 32 := by rw [toNat_toLower, if_pos upper]
    rw [not_isBlank_of_letter (by omega) (by omega), not_isBlank_of_letter (by omega) (by omega)]
  · have same : c.toLower = c := by rw [← Char.toNat_inj, toNat_toLower, if_neg upper]
    rw [same]

end Text

/-- There is a name, without white space around it and without a wildcard in front. -/
structure StandsAsIs (name : List Char) : Prop where
  given : name ≠ []
  trimmed : trimChars name = name
  bare : ¬ ['*', '.'] <+: name

instance (name : List Char) : Decidable (StandsAsIs name) :=
  decidable_of_iff (name ≠ [] ∧ trimChars name = name ∧ ¬ ['*', '.'] <+: name)
    ⟨fun ⟨given, trimmed, bare⟩ => ⟨given, trimmed, bare⟩,
      fun ⟨given, trimmed, bare⟩ => ⟨given, trimmed, bare⟩⟩

namespace Certificate

variable {host : List Char}

theorem dropWildcards_suffix (host : List Char) : dropWildcards host <:+ host := by
  obtain ⟨⟨n, whole⟩, -⟩ := isBare_dropWildcards host
  exact ⟨_, whole.symm⟩

/-- The two names end in the same character, which is visible in the one that was trimmed. -/
theorem not_isBlank_getLast (given : trimChars host ≠ [])
    (ends : (trimChars host).map Char.toLower <:+ (dropWildcards host).map Char.toLower) :
    ∀ c ∈ host.getLast?, isBlank c = false := by
  have named : (trimChars host).map Char.toLower ≠ [] := by simpa using given
  have bare : dropWildcards host ≠ [] := fun e => ends.ne_nil named (by rw [e, List.map_nil])
  have suffix := dropWildcards_suffix host
  have last := ends.getLast named
  rw [List.getLast_map, List.getLast_map, suffix.getLast bare] at last
  intro c hc
  rw [List.getLast?_eq_some_getLast (suffix.ne_nil bare)] at hc
  obtain rfl := Option.some_inj.1 hc
  rw [← isBlank_toLower, ← last, isBlank_toLower]
  exact dropEndWhile_getLast? isBlank _ (List.getLast?_eq_some_getLast given)

/-- A text that is visible at its end is trimmed at its front only. -/
theorem trimChars_eq_dropWhile (last : ∀ c ∈ host.getLast?, isBlank c = false) :
    trimChars host = host.dropWhile isBlank := by
  refine dropEndWhile_eq_self fun c hc => last c ?_
  rcases (List.dropWhile_suffix isBlank (l := host)) with ⟨blank, whole⟩
  rw [← whole]
  exact List.mem_getLast?_append_of_mem_getLast? hc

/-- Without its wildcards a name is shorter than with them, and they are not blank. -/
theorem not_wildcard_of_length_le (front : trimChars host = host.dropWhile isBlank)
    (shorter : (trimChars host).length ≤ (dropWildcards host).length) : ¬['*', '.'] <+: host := by
  rintro ⟨rest, rfl⟩
  have visible : isBlank '*' = false := by decide
  have kept : trimChars (['*', '.'] ++ rest) = ['*', '.'] ++ rest := by
    rw [front]
    exact List.dropWhile_cons_of_neg (by rw [visible]; exact Bool.false_ne_true)
  have behind : (dropWildcards rest).length ≤ rest.length := (dropWildcards_suffix rest).length_le
  rw [kept] at shorter
  change rest.length + 2 ≤ (dropWildcards rest).length at shorter
  omega

/-- There is only white space in front of a trimmed name, so no point. -/
theorem not_below_trimmed (front : trimChars host = host.dropWhile isBlank) :
    ¬ '.' :: (trimChars host).map Char.toLower <:+ host.map Char.toLower := by
  rintro ⟨before, below⟩
  have whole : host.takeWhile isBlank ++ trimChars host = host := by
    rw [front, List.takeWhile_append_dropWhile]
  have lead : before ++ ['.'] = (host.takeWhile isBlank).map Char.toLower := by
    have same : before ++ ['.'] ++ (trimChars host).map Char.toLower =
        (host.takeWhile isBlank).map Char.toLower ++ (trimChars host).map Char.toLower := by
      rw [← List.append_cons, below, ← List.map_append, whole]
    exact List.append_cancel_right same
  have point : '.' ∈ (host.takeWhile isBlank).map Char.toLower := by
    rw [← lead]
    exact List.mem_append_right _ List.mem_cons_self
  obtain ⟨c, hc, lower⟩ := List.mem_map.1 point
  have blank := List.mem_takeWhile_imp hc
  rw [← isBlank_toLower, lower] at blank
  exact absurd blank (by decide)

theorem standsAsIs_of_covers (given : trimChars host ≠ [])
    (ends : (dropWildcards host).map Char.toLower = (trimChars host).map Char.toLower ∨
      '.' :: (trimChars host).map Char.toLower <:+ (dropWildcards host).map Char.toLower) :
    StandsAsIs host := by
  have suffix : (trimChars host).map Char.toLower <:+ (dropWildcards host).map Char.toLower := by
    rcases ends with same | below
    · rw [same]
    · exact (List.suffix_cons ..).trans below
  have front := trimChars_eq_dropWhile (not_isBlank_getLast given suffix)
  have shorter := suffix.length_le
  rw [List.length_map, List.length_map] at shorter
  have bare := not_wildcard_of_length_le front shorter
  rw [dropWildcards_eq_self bare] at ends
  rcases ends with same | below
  · have size := congrArg List.length same
    rw [List.length_map, List.length_map] at size
    have trimmed : trimChars host <:+ host := by
      rw [front]
      exact List.dropWhile_suffix _
    exact ⟨fun e => given (by rw [e]; rfl), trimmed.eq_of_length size.symm, bare⟩
  · exact (not_below_trimmed front below).elim

theorem hostCovers_self_iff (host : String) :
    hostCovers host host = true ↔ StandsAsIs host.toList := by
  constructor
  · intro h
    simp only [hostCovers, Bool.and_eq_true, Bool.or_eq_true, Bool.not_eq_true', beq_iff_eq,
      List.isEmpty_eq_false_iff, ne_eq, List.map_eq_nil_iff, List.isSuffixOf_iff_suffix] at h
    exact standsAsIs_of_covers h.1.2 h.2
  · rintro ⟨given, trimmed, bare⟩
    simp [hostCovers, dropWildcards_eq_self bare, trimmed, given]

end Certificate

open Certificate

/-! ## Looking for that name -/

theorem runs_certificateExists {c : Client} {domain : String}
    (given : ¬ isBlankText domain = true) {events : List Client.Event} {listed : List Certificate}
    (run : Runs c.listCertificates.run events (.ok listed)) :
    Runs (c.certificateExists domain).run events (.ok (listed.any (·.covers domain))) := by
  have found : Runs (c.certificatesForDomain domain).run events
      (.ok (listed.filter (·.covers domain))) :=
    (runs_certificatesForDomain_of_not_blank c domain given).2 ⟨.ok listed, run, rfl⟩
  unfold Client.certificateExists
  rw [Client.run_bind_pure]
  refine runs_andThen_iff.2 ⟨events, [], _, (List.append_nil events).symm, found, ?_⟩
  refine runs_done_iff.2 ⟨rfl, congrArg Except.ok ?_⟩
  rw [Bool.eq_iff_iff]
  simp

/-- A certificate covers the name it was issued for if and only if that name stands as it is. So
asking for the name of a listed certificate is answered with yes if it does, and else if another
certificate of the list covers it. -/
theorem finds_own_name_iff (c : Client) (certificate : Certificate) :
    (certificate.covers certificate.hostName = true ↔ StandsAsIs certificate.hostName.toList) ∧
    ∀ {events listed}, Runs c.listCertificates.run events (.ok listed) → certificate ∈ listed →
      isBlankText certificate.hostName = false →
      ∃ answer, Runs (c.certificateExists certificate.hostName).run events (.ok answer) ∧
        (answer = true ↔ StandsAsIs certificate.hostName.toList ∨
          ∃ other ∈ listed, other ≠ certificate ∧
            Covers other.hostName certificate.hostName) := by
  have own : certificate.covers certificate.hostName = true ↔
      StandsAsIs certificate.hostName.toList := hostCovers_self_iff certificate.hostName
  refine ⟨own, fun {events listed} run mem given => ?_⟩
  refine ⟨_, runs_certificateExists (by rw [given]; exact Bool.false_ne_true) run, ?_⟩
  rw [List.any_eq_true]
  constructor
  · rintro ⟨other, hother, covers⟩
    by_cases same : other = certificate
    · exact .inl (own.1 (same ▸ covers))
    · exact .inr ⟨other, hother, same, (hostCovers_iff _ _).1 covers⟩
  · rintro (stands | ⟨other, hother, -, covers⟩)
    · exact ⟨certificate, mem, own.2 stands⟩
    · exact ⟨other, hother, (hostCovers_iff _ _).2 covers⟩

/-! ### A list of two certificates -/

namespace TwoIssued

def client : Client :=
  .ofSettings (.new ⟨"user", "key", "user", "10.0.0.1"⟩ : Settings ℚ) fun _ => 0

def wildcard : Certificate := ⟨1, "*.example.com", "", "", "", "", false, "", 0⟩

def plain : Certificate := ⟨2, "WWW.Example.org", "", "", "", "", false, "", 0⟩

def body : String :=
  "<ApiResponse Status=\"OK\"><CommandResponse><SSLGetListResult>" ++
    "<SSL CertificateID=\"1\" HostName=\"*.example.com\"/>" ++
    "<SSL CertificateID=\"2\" HostName=\"WWW.Example.org\"/>" ++
    "</SSLGetListResult></CommandResponse></ApiResponse>"

def events : List Client.Event := client.served (.new "namecheap.ssl.getList") ⟨200, body, none⟩

theorem runs_listCertificates :
    Runs client.listCertificates.run events (.ok [wildcard, plain]) := by
  have decoded : Envelope.decode body 200 = .ok ⟨none, [], body⟩ := by decide +kernel
  have held : Envelope.payload certificateListFields.reader ⟨none, [], body⟩ =
      .ok [wildcard, plain] := by decide +kernel
  exact Client.runs_served (by decide) decoded held

end TwoIssued

open TwoIssued

/-- A plain name is found, in the letter case in which it is listed. -/
theorem finds_plain_name :
    Runs client.listCertificates.run events (.ok [wildcard, plain]) ∧ plain ∈ [wildcard, plain] ∧
      isBlankText plain.hostName = false ∧
      ∃ answer, Runs (client.certificateExists plain.hostName).run events (.ok answer) ∧
        answer = true := by
  have mem : plain ∈ [wildcard, plain] := by decide
  have given : isBlankText plain.hostName = false := by decide +kernel
  obtain ⟨answer, run, tells⟩ :=
    (finds_own_name_iff client plain).2 runs_listCertificates mem given
  exact ⟨runs_listCertificates, mem, given, answer, run, tells.2 (.inl (by decide +kernel))⟩

/-- A wildcard certificate is not found under the name it is listed with. -/
theorem wildcard_misses_own_name :
    Runs client.listCertificates.run events (.ok [wildcard, plain]) ∧ wildcard ∈ [wildcard, plain] ∧
      isBlankText wildcard.hostName = false ∧ wildcard.covers wildcard.hostName = false ∧
      Runs (client.certificateExists wildcard.hostName).run events (.ok false) := by
  have given : isBlankText wildcard.hostName = false := by decide +kernel
  have missed : [wildcard, plain].any (·.covers wildcard.hostName) = false := by decide +kernel
  have run := runs_certificateExists (by rw [given]; exact Bool.false_ne_true) runs_listCertificates
  rw [missed] at run
  exact ⟨runs_listCertificates, List.mem_cons_self, given, by decide +kernel, run⟩

-- White space in front of a listed name is kept there and dropped from the name that is asked for.
example : hostCovers " example.com" " example.com" = false := by decide +kernel

end Registrar
