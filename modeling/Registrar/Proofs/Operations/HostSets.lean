import Registrar.Operations.Hosts
import Registrar.Proofs.Operations.Runs
import Registrar.Proofs.Wire.Queries

/-!
# How a host set is written

A record is written as numbered parameters, one for each of its fields. `Request.Writes` says that a
request holds the parameters of these records and no others. Keys are told apart by what stands
before the number and by the number (`HostField.key_inj`), so that none overwrites another one or a
key of the command itself. Main statement: `writes_of_setHosts`.
-/

namespace Registrar

/-- A field of a record that is written. -/
inductive HostField
  | name
  | type
  | address
  | ttl
  | mxPref
  deriving DecidableEq

namespace HostField

def all : List HostField := [name, type, address, ttl, mxPref]

def stem : HostField → String
  | name => "HostName"
  | type => "RecordType"
  | address => "Address"
  | ttl => "TTL"
  | mxPref => "MXPref"

/-- The key of the field of the record at a position. -/
def key (f : HostField) (position : Nat) : String := f.stem ++ Decimal.wholeText position

/-- What is written of a record. -/
def of (r : HostRecord) : HostField → Option String
  | name => some r.name
  | type => some r.recordType.text
  | address => some r.address
  | ttl => r.ttl.map Decimal.wholeText
  | mxPref => if r.recordType = .mx then some (Decimal.wholeText (r.mxPref.getD 10)) else none

end HostField

/-- The request replaces the host set of a domain by these records. Their positions count from one;
where there is no record, there is no field of one. -/
structure Request.Writes (r : Request) (d : DomainName) (hosts : List HostRecord) : Prop where
  command : r.get? "Command" = some "namecheap.domains.dns.setHosts"
  sld : r.get? "SLD" = some d.sld
  tld : r.get? "TLD" = some d.tld
  field : ∀ i f, r.get? (HostField.key f (i + 1)) = hosts[i]?.bind fun host => f.of host
  /-- No key is sent twice. -/
  distinct : (r.query.map Prod.fst).Nodup

/-! ## Keys -/

/-- A digit stands in the key. -/
def IsNumbered (key : String) : Prop := key.toList.any Char.isDigit = true

instance (key : String) : Decidable (IsNumbered key) :=
  inferInstanceAs (Decidable (key.toList.any Char.isDigit = true))

namespace HostField

theorem toList_key (f : HostField) (n : Nat) :
    (f.key n).toList = f.stem.toList ++ Decimal.digits n := by
  rw [key, String.toList_append, Decimal.wholeText, String.toList_ofList]

/-- A key is its stem and its number: there are no digits in a stem. -/
theorem splits_key (f : HostField) (n : Nat) :
    (f.key n).toList.takeWhile (!·.isDigit) = f.stem.toList ∧
      (f.key n).toList.dropWhile (!·.isDigit) = Decimal.digits n := by
  have letters : ∀ c ∈ f.stem.toList, (!c.isDigit) = true := by
    refine List.all_eq_true.1 ?_
    cases f <;> decide
  obtain ⟨c, cs, hc⟩ := List.exists_cons_of_ne_nil (Decimal.digits_ne_nil n)
  have digit : c.isDigit = true := Decimal.isDigit_of_mem_digits (n := n) (by simp [hc])
  rw [toList_key, List.takeWhile_append_of_pos letters, List.dropWhile_append_of_pos letters, hc]
  simp [digit]

theorem key_inj {f g : HostField} {m n : Nat} (h : f.key m = g.key n) : f = g ∧ m = n := by
  have hstem : f.stem.toList = g.stem.toList := by
    rw [← (splits_key f m).1, h, (splits_key g n).1]
  have hdigits : Decimal.digits m = Decimal.digits n := by
    rw [← (splits_key f m).2, h, (splits_key g n).2]
  constructor
  · revert hstem
    cases f <;> cases g <;> decide
  · exact Decimal.digits_inj hdigits

theorem isNumbered_key (f : HostField) (n : Nat) : IsNumbered (f.key n) := by
  obtain ⟨c, cs, hc⟩ := List.exists_cons_of_ne_nil (Decimal.digits_ne_nil n)
  have mem : c ∈ Decimal.digits n := by simp [hc]
  refine List.any_eq_true.2 ⟨c, ?_, Decimal.isDigit_of_mem_digits mem⟩
  rw [toList_key]
  exact List.mem_append_right _ mem

end HostField

theorem toLower_of_isDigit {c : Char} (h : c.isDigit = true) : c.toLower = c := by
  unfold Char.isDigit at h
  unfold Char.toLower
  simp only [Bool.and_eq_true, decide_eq_true_eq] at h
  rw [dif_neg]
  rintro ⟨upper, -⟩
  exact absurd (UInt32.le_trans upper h.2) (by decide)

/-- A command may set any key with a digit. -/
theorem not_isReserved_of_isNumbered {key : String} (h : IsNumbered key) :
    Request.isReserved key = false := by
  have lower : IsNumbered (Text.lower key) := by
    obtain ⟨c, hc, digit⟩ := List.any_eq_true.1 h
    refine List.any_eq_true.2 ⟨c, ?_, digit⟩
    rw [Text.lower, String.toList_map]
    exact List.mem_map.2 ⟨c, hc, toLower_of_isDigit digit⟩
  have plain : ∀ k ∈ Request.reservedKeys, ¬IsNumbered (Text.lower k) := by decide +kernel
  unfold Request.isReserved
  rw [List.any_eq_false]
  intro k hk same
  rw [Text.sameFolded, beq_iff_eq] at same
  exact plain k hk (same ▸ lower)

/-! ## The parameters of a host set -/

namespace Command

variable {n : Nat} {r : HostRecord} {hosts : List HostRecord} {key value : String}

theorem hostPairs_eq (n : Nat) (r : HostRecord) :
    hostPairs n r = HostField.all.filterMap fun f => (f.of r).map (f.key n, ·) := by
  unfold hostPairs
  by_cases hmx : r.recordType = .mx <;> cases httl : r.ttl <;>
    simp [HostField.all, HostField.of, HostField.key, HostField.stem, hmx, httl,
      standardPreference]

theorem mem_hostPairs_iff :
    (key, value) ∈ hostPairs n r ↔ ∃ f : HostField, key = f.key n ∧ f.of r = some value := by
  have complete (f : HostField) : f ∈ HostField.all := by cases f <;> decide
  simp only [hostPairs_eq, List.mem_filterMap, complete, true_and, Option.map_eq_some_iff,
    Prod.mk.injEq]
  constructor
  · rintro ⟨f, v, hv, rfl, rfl⟩
    exact ⟨f, rfl, hv⟩
  · rintro ⟨f, rfl, hv⟩
    exact ⟨f, value, hv, rfl, rfl⟩

theorem mem_hostSetPairs_iff :
    (key, value) ∈ hostSetPairs n hosts ↔
      ∃ i r, hosts[i]? = some r ∧ ∃ f : HostField, key = f.key (n + i) ∧ f.of r = some value := by
  induction hosts generalizing n with
  | nil => simp [hostSetPairs]
  | cons r rs ih =>
    rw [hostSetPairs, List.mem_append, mem_hostPairs_iff, ih]
    constructor
    · rintro (⟨f, hkey, hv⟩ | ⟨i, r', hr, f, hkey, hv⟩)
      · exact ⟨0, r, rfl, f, hkey, hv⟩
      · exact ⟨i + 1, r', hr, f, by rw [hkey]; congr 1; omega, hv⟩
    · rintro ⟨_ | i, r', hr, f, hkey, hv⟩
      · cases hr
        exact .inl ⟨f, hkey, hv⟩
      · exact .inr ⟨i, r', hr, f, by rw [hkey]; congr 1; omega, hv⟩

theorem isNumbered_of_mem_hostSetPairs (h : key ∈ (hostSetPairs n hosts).map Prod.fst) :
    IsNumbered key := by
  obtain ⟨⟨key, value⟩, hp, rfl⟩ := List.mem_map.1 h
  obtain ⟨i, r, -, f, rfl, -⟩ := mem_hostSetPairs_iff.1 hp
  exact f.isNumbered_key _

theorem nodup_hostPairs (n : Nat) (r : HostRecord) : ((hostPairs n r).map Prod.fst).Nodup := by
  rw [hostPairs_eq, List.map_filterMap]
  refine List.Nodup.filterMap (fun f g key hf hg => ?_) (by decide : HostField.all.Nodup)
  simp only [Option.map_map, Option.mem_def, Option.map_eq_some_iff] at hf hg
  obtain ⟨_, -, rfl⟩ := hf
  obtain ⟨_, -, h⟩ := hg
  exact (HostField.key_inj h).1.symm

theorem nodup_hostSetPairs (n : Nat) (hosts : List HostRecord) :
    ((hostSetPairs n hosts).map Prod.fst).Nodup := by
  induction hosts generalizing n with
  | nil => exact .nil
  | cons r rs ih =>
    rw [hostSetPairs, List.map_append, List.nodup_append]
    refine ⟨nodup_hostPairs n r, ih (n + 1), ?_⟩
    rintro _ ha _ hb rfl
    obtain ⟨⟨key, value⟩, hp, rfl⟩ := List.mem_map.1 ha
    obtain ⟨⟨key', value'⟩, hp', same⟩ := List.mem_map.1 hb
    obtain ⟨f, rfl, -⟩ := mem_hostPairs_iff.1 hp
    obtain ⟨i, _, -, g, rfl, -⟩ := mem_hostSetPairs_iff.1 hp'
    have := (HostField.key_inj same).2
    omega

/-- The parameter that goes with mail exchangers. -/
def mailPairs (hosts : List HostRecord) : List (String × String) :=
  if hosts.any (·.recordType == .mx) then [("EmailType", "MX")] else []

/-- The parameters of the command that replaces a host set. -/
def hostParams (d : DomainName) (hosts : List HostRecord) : List (String × String) :=
  [("SLD", d.sld), ("TLD", d.tld)] ++ hostSetPairs 1 hosts ++ mailPairs hosts

theorem eq_of_mem_mailPairs (h : (key, value) ∈ mailPairs hosts) : key = "EmailType" := by
  unfold mailPairs at h
  split at h
  · cases List.mem_singleton.1 h
    rfl
  · cases h

theorem not_isNumbered_of_plain {key : String} (h : key ∈ ["SLD", "TLD", "EmailType"]) :
    ¬IsNumbered key := by
  revert key
  decide +kernel

/-- No key is there twice. -/
theorem nodup_hostParams (d : DomainName) (hosts : List HostRecord) :
    ((hostParams d hosts).map Prod.fst).Nodup := by
  have keys : (hostParams d hosts).map Prod.fst =
      ["SLD", "TLD"] ++ (hostSetPairs 1 hosts).map Prod.fst ++ (mailPairs hosts).map Prod.fst := by
    simp [hostParams]
  have mail : ∀ key ∈ (mailPairs hosts).map Prod.fst, key = "EmailType" := by
    rintro _ hk
    obtain ⟨⟨key, value⟩, hp, rfl⟩ := List.mem_map.1 hk
    exact eq_of_mem_mailPairs hp
  -- A key of a record has a number, and no other key has one.
  rw [keys, List.nodup_append, List.nodup_append]
  refine ⟨⟨by decide, nodup_hostSetPairs 1 hosts, ?_⟩, ?_, ?_⟩
  · rintro key plain _ numbered rfl
    exact not_isNumbered_of_plain (List.mem_append_left ["EmailType"] plain)
      (isNumbered_of_mem_hostSetPairs numbered)
  · unfold mailPairs
    split <;> simp
  · rintro key hk _ hm rfl
    obtain rfl := mail _ hm
    rcases List.mem_append.1 hk with plain | numbered
    · revert plain
      decide
    · exact not_isNumbered_of_plain (by decide) (isNumbered_of_mem_hostSetPairs numbered)

theorem params_of_setHosts {d : DomainName} {command : Command}
    (h : setHosts d hosts = .ok command) : command.params = hostParams d hosts := by
  have distinct := nodup_hostParams d hosts
  have start : (onHosts "namecheap.domains.dns.setHosts" d).params =
      [("SLD", d.sld), ("TLD", d.tld)] := by
    simp [onHosts, new, set, setIn]
  have set : ((onHosts "namecheap.domains.dns.setHosts" d).setAll (hostSetPairs 1 hosts)).params =
      [("SLD", d.sld), ("TLD", d.tld)] ++ hostSetPairs 1 hosts := by
    rw [params_setAll, start]
    rw [start]
    rw [hostParams, List.map_append, List.nodup_append] at distinct
    exact distinct.1
  unfold setHosts at h
  split at h
  · cases h
  · cases h
    by_cases mx : hosts.any (·.recordType == .mx) = true
    · have mail : mailPairs hosts = [("EmailType", "MX")] := if_pos mx
      rw [hostParams, mail, List.map_append, List.nodup_append, ← set] at distinct
      rw [if_pos mx, hostParams, mail, ← set]
      exact setIn_of_not_mem fun mem => distinct.2.2 _ mem _ List.mem_cons_self rfl
    · rw [if_neg mx, set, hostParams, mailPairs, if_neg mx, List.append_nil]

/-- The keys with a number are those of the records. -/
theorem mem_hostSetPairs_of_isNumbered {d : DomainName} (numbered : IsNumbered key) :
    (key, value) ∈ hostParams d hosts ↔ (key, value) ∈ hostSetPairs 1 hosts := by
  constructor
  · intro h
    have plain (mem : key ∈ ["SLD", "TLD", "EmailType"]) : (key, value) ∈ hostSetPairs 1 hosts :=
      (not_isNumbered_of_plain mem numbered).elim
    rcases List.mem_append.1 h with h | h
    · rcases List.mem_append.1 h with h | h
      · simp only [List.mem_cons, List.not_mem_nil, or_false, Prod.mk.injEq] at h
        rcases h with ⟨rfl, -⟩ | ⟨rfl, -⟩ <;> exact plain (by decide)
      · exact h
    · obtain rfl := eq_of_mem_mailPairs h
      exact plain (by decide)
  · intro h
    exact List.mem_append_left _ (List.mem_append_right _ h)

section

variable {d : DomainName} {command : Command}

theorem distinct_of_setHosts (h : setHosts d hosts = .ok command) : command.Distinct := by
  rw [Distinct, params_of_setHosts h]
  exact nodup_hostParams d hosts

theorem get?_of_setHosts (h : setHosts d hosts = .ok command) :
    command.get? key = some value ↔ (key, value) ∈ hostParams d hosts := by
  rw [(distinct_of_setHosts h).get?_eq_some_iff, params_of_setHosts h]

/-- The fields of a record stand under its position; where there is no record, there is none. -/
theorem get?_key_of_setHosts (h : setHosts d hosts = .ok command) (i : Nat) (f : HostField) :
    command.get? (f.key (i + 1)) = hosts[i]?.bind fun host => f.of host := by
  refine Option.ext fun value => ?_
  rw [get?_of_setHosts h, mem_hostSetPairs_of_isNumbered (f.isNumbered_key (i + 1)),
    mem_hostSetPairs_iff, Option.bind_eq_some_iff]
  constructor
  · rintro ⟨j, host, hj, g, hkey, hv⟩
    obtain ⟨rfl, hi⟩ := HostField.key_inj hkey
    obtain rfl : i = j := by omega
    exact ⟨host, hj, hv⟩
  · rintro ⟨host, hi, hv⟩
    exact ⟨i, host, hi, f, by rw [Nat.add_comm], hv⟩

theorem get?_sld_of_setHosts (h : setHosts d hosts = .ok command) :
    command.get? "SLD" = some d.sld := by
  simp [get?_of_setHosts h, hostParams]

theorem get?_tld_of_setHosts (h : setHosts d hosts = .ok command) :
    command.get? "TLD" = some d.tld := by
  simp [get?_of_setHosts h, hostParams]

end

end Command

/-- The command that replaces a host set writes these records. -/
theorem writes_of_setHosts {d : DomainName} {hosts : List HostRecord} {command : Command}
    (h : Command.setHosts d hosts = .ok command) (c : Credentials) (endpoint : String) :
    (Request.ofCommand command c endpoint).Writes d hosts where
  command := by rw [Request.get?_command, Command.name_of_setHosts h]
  sld := by
    rw [Request.get?_ofCommand c endpoint (by decide +kernel), Command.get?_sld_of_setHosts h]
  tld := by
    rw [Request.get?_ofCommand c endpoint (by decide +kernel), Command.get?_tld_of_setHosts h]
  field i f := by
    rw [Request.get?_ofCommand c endpoint
        (not_isReserved_of_isNumbered (f.isNumbered_key (i + 1))), Command.get?_key_of_setHosts h]
  distinct := Request.nodup_query c endpoint (Command.distinct_of_setHosts h)

end Registrar
