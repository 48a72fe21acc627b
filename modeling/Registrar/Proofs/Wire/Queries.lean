import Registrar.Proofs.Wire.Parameters
import Registrar.Wire.Request

/-!
# What a request sends for a command

A command that was built key by key has each key once, where it was first set, with the value that
was set last (`Command.params_setAll_new`). A request sends the credentials and the name of its
command, and then those parameters whose keys are spelled like none of these, whatever the case of
their letters: `Request.Carries`.

Main statement: `carries_ofCommand`.
-/

namespace Registrar

/-! ## Requests -/

namespace Request

/-- The request presents the caller and the command, and then sends the parameters of the command
in their order, but none under a key that is spelled like one of the first. -/
structure Carries (r : Request) (command : Command) (c : Credentials) : Prop where
  query : r.query =
    [("ApiUser", c.apiUser), ("ApiKey", c.apiKey), ("UserName", c.username),
      ("ClientIp", c.clientIp), ("Command", command.name)] ++
    command.params.filter fun p =>
      ["ApiUser", "ApiKey", "UserName", "ClientIp", "Command"].all fun k =>
        Text.lower k != Text.lower p.1
  /-- A reserved key is sent once in all spellings together, and with the caller's value. -/
  once : ∀ key, isReserved key = true →
    ∃ p ∈ credentialPairs c command.name, r.query.filter (Text.sameFolded key ·.1) = [p]
  /-- No key is sent twice. -/
  distinct : (r.query.map Prod.fst).Nodup

variable {key key' : String}

theorem isReserved_iff : isReserved key = true ↔ ∃ k ∈ reservedKeys, Text.sameFolded k key = true :=
  List.any_eq_true

/-- Whether a key is reserved does not depend on the case of its letters. -/
theorem isReserved_congr (h : Text.sameFolded key key' = true) :
    isReserved key = isReserved key' := by
  rw [Text.sameFolded, beq_iff_eq] at h
  simp only [isReserved, Text.sameFolded, h]

theorem filter_of_nodup_map {ps : List (String × String)} {p : String × String}
    (h : (ps.map (Text.lower ·.1)).Nodup) (mem : p ∈ ps) :
    ps.filter (Text.sameFolded p.1 ·.1) = [p] := by
  induction ps with
  | nil => cases mem
  | cons q ps ih =>
    obtain ⟨new, rest⟩ := List.nodup_cons.1 h
    have others {p : String × String} (hp : p ∈ ps) : Text.lower p.1 ≠ Text.lower q.1 :=
      fun e => new (List.mem_map.2 ⟨p, hp, e⟩)
    obtain rfl | mem := List.mem_cons.1 mem
    · rw [List.filter_cons_of_pos (by exact Text.sameFolded_refl p.1), List.filter_eq_nil_iff.2]
      intro x hx
      simpa [Text.sameFolded] using (others hx).symm
    · rw [List.filter_cons_of_neg, ih rest mem]
      simpa [Text.sameFolded] using others mem

/-- Of the pairs that introduce a command, one has a key. -/
theorem exists_filter_credentialPairs (c : Credentials) (name : String)
    (h : isReserved key = true) :
    ∃ p ∈ credentialPairs c name,
      (credentialPairs c name).filter (Text.sameFolded key ·.1) = [p] := by
  obtain ⟨k, mem, same⟩ := isReserved_iff.1 h
  have keys : reservedKeys = (credentialPairs c name).map Prod.fst := rfl
  have distinct : ((credentialPairs c name).map (Text.lower ·.1)).Nodup := by
    change (reservedKeys.map Text.lower).Nodup
    decide +kernel
  rw [keys] at mem
  obtain ⟨p, hp, rfl⟩ := List.mem_map.1 mem
  refine ⟨p, hp, ?_⟩
  rw [← filter_of_nodup_map distinct hp]
  rw [Text.sameFolded, beq_iff_eq] at same
  simp only [Text.sameFolded, same]

section

variable {command : Command} (c : Credentials) (endpoint : String)

theorem not_isReserved_of_mem {p : String × String}
    (h : p ∈ command.params.filter fun p => !isReserved p.1) : isReserved p.1 = false := by
  simpa using List.of_mem_filter h

/-- What a command sets under a key of its own is sent. -/
theorem get?_ofCommand (h : isReserved key = false) :
    (ofCommand command c endpoint).get? key = command.get? key := by
  have absent : (credentialPairs c command.name).lookup key = none := by
    refine List.lookup_eq_none_iff.2 fun p hp => ?_
    rw [bne_iff_ne]
    rintro rfl
    have reserved := isReserved_iff.2 ⟨p.1, List.mem_map_of_mem hp, Text.sameFolded_refl p.1⟩
    rw [h] at reserved
    cases reserved
  rw [get?, ofCommand, List.lookup_append, absent, Option.none_or]
  exact lookup_filter (fun k => !isReserved k) (by simpa using h)

/-- A request sends no key twice if there is none in its command. -/
theorem nodup_query (h : command.Distinct) :
    ((ofCommand command c endpoint).query.map Prod.fst).Nodup := by
  rw [ofCommand, List.map_append, List.nodup_append]
  refine ⟨by change reservedKeys.Nodup; decide, h.sublist (List.filter_sublist.map Prod.fst), ?_⟩
  rintro key hk _ hp rfl
  obtain ⟨q, hq, rfl⟩ := List.mem_map.1 hp
  have free := not_isReserved_of_mem hq
  rw [isReserved_iff.2 ⟨q.1, hk, Text.sameFolded_refl _⟩] at free
  cases free

end

/-- What a request sends for a command that was built key by key. -/
theorem carries_ofCommand (name : String) (sets : List (String × String)) (c : Credentials)
    (endpoint : String) :
    let command := (Command.new name).setAll sets
    (ofCommand command c endpoint).Carries command c ∧ command.name = name ∧
      command.params =
        (sets.map Prod.fst).eraseDups.filterMap fun k => (sets.reverse.lookup k).map (k, ·) := by
  intro command
  have distinct : command.Distinct := (Command.distinct_new name).setAll sets
  refine ⟨⟨?_, fun key reserved => ?_, nodup_query c endpoint distinct⟩,
    Command.name_setAll _ _, Command.params_setAll_new name sets⟩
  · have plain (p : String × String) : (!isReserved p.1) =
        ["ApiUser", "ApiKey", "UserName", "ClientIp", "Command"].all fun k =>
          Text.lower k != Text.lower p.1 := by
      simp [isReserved, reservedKeys, Text.sameFolded, bne]
    simp only [ofCommand, plain]
    rfl
  · obtain ⟨p, mem, one⟩ := exists_filter_credentialPairs c command.name reserved
    refine ⟨p, mem, ?_⟩
    rw [ofCommand, List.filter_append, one, List.filter_eq_nil_iff.2, List.append_nil]
    intro q hq same
    rw [isReserved_congr same, not_isReserved_of_mem hq] at reserved
    cases reserved

end Request

end Registrar
