import Registrar.Operations.Domains
import Registrar.Proofs.Operations.Runs
import Registrar.Proofs.Wire.Queries

/-!
# What a registration asks for

A registration names the domain and the years, which are checked first, and then sets the further
parameters of its caller, key by key. Those under keys of their own follow, each key once and with
its last value (`furtherPairs`). One under the key of the domain or of the years takes the place of
what was checked, so the registrar is asked for the checked domain and years if and only if the last
such parameters repeat them (`Repeats`).

Main statement: `registers_iff`.
-/

namespace Registrar

open Dialogue

/-- The value that is given last under a key, or else the one that was there before. -/
def lastGiven (extra : List (String × String)) (key before : String) : String :=
  (extra.reverse.lookup key).getD before

/-- Each further key once, with its last value; neither those of the domain and the years nor those
that every request fills in itself. -/
def furtherPairs (extra : List (String × String)) : List (String × String) :=
  ((extra.map Prod.fst).filter fun k =>
    k != "DomainName" && k != "Years" && !Request.isReserved k).eraseDups.filterMap fun k =>
      (extra.reverse.lookup k).map (k, ·)

/-- The request asks for the domain and the years, and the further parameters follow. -/
structure Request.Registers (r : Request) (c : Credentials) (d : DomainName) (years : ℕ)
    (extra : List (String × String)) : Prop where
  query : r.query = credentialPairs c "namecheap.domains.create" ++
    ("DomainName", d.text) :: ("Years", Decimal.wholeText years) :: furtherPairs extra

/-- The further parameters leave the domain and the years as they are. -/
structure Repeats (extra : List (String × String)) (d : DomainName) (years : ℕ) : Prop where
  domain : lastGiven extra "DomainName" d.text = d.text
  years : lastGiven extra "Years" (Decimal.wholeText years) = Decimal.wholeText years

section

variable {d : DomainName} {years : ℕ} {extra : List (String × String)}

theorem lastGiven_of_not_mem {key before : String} (h : key ∉ extra.map Prod.fst) :
    lastGiven extra key before = before := by
  have absent : extra.reverse.lookup key = none := by
    refine List.lookup_eq_none_iff.2 fun p hp => ?_
    rw [bne_iff_ne]
    rintro rfl
    exact h (List.mem_map_of_mem (List.mem_reverse.1 hp))
  rw [lastGiven, absent, Option.getD_none]

theorem repeats_of_not_mem (domain : "DomainName" ∉ extra.map Prod.fst)
    (years' : "Years" ∉ extra.map Prod.fst) : Repeats extra d years :=
  ⟨lastGiven_of_not_mem domain, lastGiven_of_not_mem years'⟩

theorem eraseDups_ownKeys (ks : List String) :
    ("DomainName" :: "Years" :: ks).eraseDups = "DomainName" :: "Years" ::
      (ks.filter fun k => k != "DomainName" && k != "Years").eraseDups := by
  rw [List.eraseDups_cons, List.filter_cons_of_pos (by decide), List.eraseDups_cons,
    List.filter_filter]
  exact congrArg (fun others => _ :: _ :: List.eraseDups others)
    (List.filter_congr fun k _ => Bool.and_comm ..)

/-- The two parameters of every registration. -/
def ownPairs (d : DomainName) (years : ℕ) : List (String × String) :=
  [("DomainName", d.text), ("Years", Decimal.wholeText years)]

theorem createDomain_eq (d : DomainName) (years : ℕ) (extra : List (String × String)) :
    Command.createDomain d years extra =
      (Command.new "namecheap.domains.create").setAll (ownPairs d years ++ extra) :=
  rfl

theorem lookup_of_own {key before : String}
    (own : (ownPairs d years).reverse.lookup key = some before) :
    (ownPairs d years ++ extra).reverse.lookup key = some (lastGiven extra key before) := by
  rw [List.reverse_append, List.lookup_append, own, lastGiven]
  cases extra.reverse.lookup key <;> rfl

theorem lookup_of_other {key : String} (other : key ≠ "DomainName" ∧ key ≠ "Years") :
    (ownPairs d years ++ extra).reverse.lookup key = extra.reverse.lookup key := by
  have free : (ownPairs d years).reverse.lookup key = none := by
    simpa [ownPairs, List.lookup_eq_none_iff] using other.symm
  rw [List.reverse_append, List.lookup_append, free, Option.or_none]

/-- The parameters of a registration: its own two stand first, with the values given last. -/
theorem params_createDomain (d : DomainName) (years : ℕ) (extra : List (String × String)) :
    (Command.createDomain d years extra).params =
      ("DomainName", lastGiven extra "DomainName" d.text) ::
      ("Years", lastGiven extra "Years" (Decimal.wholeText years)) ::
      ((extra.map Prod.fst).filter fun k => k != "DomainName" && k != "Years").eraseDups.filterMap
        fun k => (extra.reverse.lookup k).map (k, ·) := by
  have keys : (ownPairs d years ++ extra).map Prod.fst =
      "DomainName" :: "Years" :: extra.map Prod.fst := rfl
  have domain : (ownPairs d years ++ extra).reverse.lookup "DomainName" =
      some (lastGiven extra "DomainName" d.text) := lookup_of_own rfl
  have term : (ownPairs d years ++ extra).reverse.lookup "Years" =
      some (lastGiven extra "Years" (Decimal.wholeText years)) := lookup_of_own rfl
  rw [createDomain_eq, Command.params_setAll_new, keys, eraseDups_ownKeys]
  simp only [List.filterMap_cons, domain, term, Option.map_some]
  refine congrArg (fun others => _ :: _ :: others) (List.filterMap_congr fun k hk => ?_)
  have other : k ≠ "DomainName" ∧ k ≠ "Years" := by
    simpa using (List.mem_filter.1 (List.mem_eraseDups.1 hk)).2
  rw [lookup_of_other other]

theorem query_createDomain (c : Credentials) (endpoint : String) :
    (Request.ofCommand (.createDomain d years extra) c endpoint).query =
      Request.credentialPairs c "namecheap.domains.create" ++
        ("DomainName", lastGiven extra "DomainName" d.text) ::
        ("Years", lastGiven extra "Years" (Decimal.wholeText years)) :: furtherPairs extra := by
  have name : (Command.createDomain d years extra).name = "namecheap.domains.create" :=
    Command.name_setAll ..
  have free : Request.isReserved "DomainName" = false ∧ Request.isReserved "Years" = false := by
    decide +kernel
  rw [Request.ofCommand, name, params_createDomain]
  simp only [List.filter_cons, free, Bool.not_false, if_true]
  rw [filter_filterMap_keys fun k => !Request.isReserved k, ← eraseDups_filter, List.filter_filter]
  simp only [furtherPairs, Bool.and_comm]

theorem registers_ofCommand_iff (c : Credentials) (endpoint : String) :
    (Request.ofCommand (.createDomain d years extra) c endpoint).Registers c d years extra ↔
      Repeats extra d years := by
  constructor
  · rintro ⟨query⟩
    rw [query_createDomain] at query
    simp only [List.append_cancel_left_eq, List.cons.injEq, Prod.mk.injEq, true_and,
      and_true] at query
    exact ⟨query.1, query.2⟩
  · rintro ⟨domain, same⟩
    exact ⟨by rw [query_createDomain, domain, same]⟩

/-- A registration sends its command once the name is read and the years are some, and nothing
before. -/
theorem sends_createDomainWith (c : Client) (name : String) (years : ℕ)
    (extra : List (String × String)) :
    (c.createDomainWith name years extra).Sends fun r => ∃ d, DomainName.parse name = .ok d ∧
      0 < years ∧ r = .ofCommand (.createDomain d years extra) c.credentials c.endpoint := by
  cases parsed : DomainName.parse name with
  | error f =>
    have refused : (c.createDomainWith name years extra).run = .done (.error f) :=
      Operation.run_bind_of_error (congrArg Dialogue.done parsed)
    rw [Operation.Sends, refused]
    trivial
  | ok d =>
    have read : (Client.parseDomain name).run = .done (.ok d) := congrArg Dialogue.done parsed
    rw [Operation.Sends, Client.createDomainWith, Operation.run_bind_of_ok read]
    rcases Nat.eq_zero_or_pos years with rfl | pos
    · exact trivial
    · refine (Operation.silent_requirePositive "years" years).sends.bind fun _ => ?_
      refine ((Operation.sends_run c _ _).mono ?_).bind fun done => ?_
      · exact fun r asked => ⟨d, rfl, pos, asked⟩
      · exact ((Operation.silent_requireDone ..).sends).bind fun _ =>
          (Operation.silent_pure done).sends

/-- A registration of a name that can be read is done if the registrar says so at once. -/
theorem exists_runs_createDomainWith {c : Client} {name : String} (hw : 0 < c.waits)
    (parsed : DomainName.parse name = .ok d) (pos : 0 < years) (extra : List (String × String)) :
    ∃ r done, Runs (c.createDomainWith name years extra).run
      (c.served (.createDomain d years extra) r) (.ok done) := by
  -- The answer holds an amount, a floating-point number, so it is not compared as a whole.
  let reader := (Xml.requiredChild ["DomainCreateResult"] DomainRegistration.fields.reader).reader
  let body := "<ApiResponse Status=\"OK\"><CommandResponse>" ++
    "<DomainCreateResult Domain=\"example.com\" Registered=\"true\"/>" ++
    "</CommandResponse></ApiResponse>"
  have decoded : Envelope.decode body 200 = .ok ⟨none, [], body⟩ := by decide +kernel
  have holds : (Envelope.payload reader ⟨none, [], body⟩).toOption.any (·.registered) = true := by
    decide +kernel
  cases held : Envelope.payload reader ⟨none, [], body⟩ with
  | error verdict =>
    rw [held] at holds
    cases holds
  | ok done =>
    rw [held] at holds
    have registered : done.registered = true := holds
    have given : (Client.requirePositive "years" years).run = .done (.ok ()) := by
      rw [Client.requirePositive, if_neg pos.ne']
      rfl
    refine ⟨⟨200, body, none⟩, done, ?_⟩
    refine Operation.runs_bind_of_ok (congrArg Dialogue.done parsed) ?_
    refine Operation.runs_bind_of_ok given (Client.runs_run_bind hw decoded held ?_)
    rw [Client.requireDone, registered]
    rfl

/-- Every request of a registration names the domain that was read and the years, which are some,
unless a further parameter stands under their keys: then that one is sent, and so the request asks
for the domain and the years that were checked if and only if such parameters repeat them. The other
parameters follow, each key once with its last value. -/
theorem registers_iff (c : Client) (name : String) (years : ℕ) (extra : List (String × String))
    {events : List Client.Event} {answer : Except Failure DomainRegistration}
    (run : Runs (c.createDomainWith name years extra).run events answer) :
    ∀ x ∈ Client.traffic events, ∃ d, DomainName.parse name = .ok d ∧ 0 < years ∧
      x.1.query = Request.credentialPairs c.credentials "namecheap.domains.create" ++
        ("DomainName", lastGiven extra "DomainName" d.text) ::
        ("Years", lastGiven extra "Years" (Decimal.wholeText years)) :: furtherPairs extra ∧
      (x.1.Registers c.credentials d years extra ↔ Repeats extra d years) := by
  intro x sent
  obtain ⟨d, parsed, pos, asked⟩ := (sends_createDomainWith c name years extra).of_runs run x sent
  rw [asked]
  exact ⟨d, parsed, pos, query_createDomain .., registers_ofCommand_iff ..⟩

end

/-- A contact that is given twice is sent once, behind the domain and the year that were checked. -/
theorem registers_with_contact :
    let s : Settings ℚ := .new ⟨"user", "key", "user", "10.0.0.1"⟩
    let c : Client := .ofSettings s fun _ => 0
    let d : DomainName := ⟨"example", "com"⟩
    let extra := [("RegistrantCity", "A"), ("RegistrantCity", "B")]
    furtherPairs extra = [("RegistrantCity", "B")] ∧
    ∃ events done, Runs (c.createDomainWith "example.com" 1 extra).run events (.ok done) ∧
      ∃ x ∈ Client.traffic events, x.1.Registers c.credentials d 1 extra := by
  intro s c d extra
  have parsed : DomainName.parse "example.com" = .ok d := by decide +kernel
  have able : 0 < c.waits := by decide
  obtain ⟨r, done, run⟩ := exists_runs_createDomainWith able parsed Nat.one_pos extra
  refine ⟨by decide +kernel, _, done, run, _, List.mem_singleton_self _, ?_⟩
  obtain ⟨d', parsed', -, -, asks⟩ :=
    registers_iff c "example.com" 1 extra run _ (List.mem_singleton_self _)
  cases parsed.symm.trans parsed'
  exact asks.2 (repeats_of_not_mem (by decide) (by decide))

/-- A domain and a term among the further parameters take the place of those that were checked. -/
theorem further_domain_is_registered :
    let s : Settings ℚ := .new ⟨"user", "key", "user", "10.0.0.1"⟩
    let c : Client := .ofSettings s fun _ => 0
    let d : DomainName := ⟨"example", "com"⟩
    let extra := [("DomainName", "example.org"), ("Years", "10")]
    DomainName.parse "example.com" = .ok d ∧
    ∃ events done, Runs (c.createDomainWith "example.com" 1 extra).run events (.ok done) ∧
      ∃ x ∈ Client.traffic events, x.1.get? "DomainName" = some "example.org" ∧
        x.1.get? "Years" = some "10" ∧ ¬ x.1.Registers c.credentials d 1 extra := by
  intro s c d extra
  have parsed : DomainName.parse "example.com" = .ok d := by decide +kernel
  have able : 0 < c.waits := by decide
  obtain ⟨r, done, run⟩ := exists_runs_createDomainWith able parsed Nat.one_pos extra
  let request := Request.ofCommand (.createDomain d 1 extra) c.credentials c.endpoint
  have replaced : request.get? "DomainName" = some "example.org" ∧
      request.get? "Years" = some "10" := by decide +kernel
  refine ⟨parsed, _, done, run, _, List.mem_singleton_self _, replaced.1, replaced.2,
    fun asked => ?_⟩
  have repeated : Repeats extra d 1 := (registers_ofCommand_iff ..).1 asked
  exact absurd repeated.domain (by decide +kernel)

end Registrar
