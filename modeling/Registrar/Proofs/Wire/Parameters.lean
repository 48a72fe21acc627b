import Mathlib.Data.List.Nodup
import Registrar.Wire.Command

/-!
# The parameters of a command

A command that is built by one `set` after another has each key once, where it was set first, with
the value that was set last. That no key is there twice (`Command.Distinct`) is kept by every `set`;
with it a value that is found under a key is the one that stands beside it in the list.

Main statements: `Command.params_setAll_new` and `Command.keeps_setAll`.
-/

namespace Registrar

/-! ## Keys and values -/

section

variable {key value : String} {ps : List (String × String)}

/-- Of keys that stand once, each has the value that stands beside it. -/
theorem lookup_eq_some_iff_of_nodup {α : Type} {value : α} {ps : List (String × α)}
    (h : (ps.map Prod.fst).Nodup) : ps.lookup key = some value ↔ (key, value) ∈ ps := by
  induction ps with
  | nil => simp
  | cons p ps ih =>
    obtain ⟨k, v⟩ := p
    rw [List.map_cons, List.nodup_cons] at h
    by_cases hk : key = k
    · subst hk
      have absent : (key, value) ∉ ps := fun mem => h.1 (List.mem_map.2 ⟨_, mem, rfl⟩)
      simp [absent, eq_comm]
    · have other : (key == k) = false := by simpa using hk
      simp [List.lookup_cons, other, ih h.2, hk]

/-- Pairs whose keys stand once are these keys, each with its value. -/
theorem filterMap_lookup (h : (ps.map Prod.fst).Nodup) :
    (ps.map Prod.fst).filterMap (fun k => (ps.lookup k).map (k, ·)) = ps := by
  have pair : ∀ p ∈ ps, (ps.lookup p.1).map (p.1, ·) = some p := fun p mem => by
    rw [(lookup_eq_some_iff_of_nodup h).2 mem]
    rfl
  rw [List.filterMap_map]
  exact (List.filterMap_congr pair).trans List.filterMap_some

/-- Pairs that are dropped for their keys are not missed under other keys. -/
theorem lookup_filter (keep : String → Bool) (h : keep key = true) :
    (ps.filter fun p => keep p.1).lookup key = ps.lookup key := by
  induction ps with
  | nil => rfl
  | cons p ps ih =>
    obtain ⟨k, v⟩ := p
    by_cases hk : key = k
    · rw [List.filter_cons_of_pos (hk ▸ h), hk, List.lookup_cons_self, List.lookup_cons_self]
    · have other : (key == k) = false := by simpa using hk
      rw [List.lookup_cons, other, ← ih, List.filter_cons]
      split
      · rw [List.lookup_cons, other]
      · rfl

theorem eraseDups_eq_self {ks : List String} (h : ks.Nodup) : ks.eraseDups = ks := by
  induction ks with
  | nil => rfl
  | cons k ks ih =>
    obtain ⟨new, rest⟩ := List.nodup_cons.1 h
    have kept : ks.filter (fun b => !b == k) = ks :=
      List.filter_eq_self.2 fun b mem => by
        have : b ≠ k := fun e => new (e ▸ mem)
        simpa using this
    rw [List.eraseDups_cons, kept, ih rest]

/-- Keys that stand in front already add nothing. -/
theorem eraseDups_append_cons_of_mem {ks rest : List String} (h : key ∈ ks) :
    (ks ++ key :: rest).eraseDups = (ks ++ rest).eraseDups := by
  rw [List.eraseDups_append, List.eraseDups_append]
  congr 2
  simp [List.removeAll, h]

/-- A key is kept or not wherever it stands. -/
theorem eraseDups_filter (keep : String → Bool) :
    ∀ ks : List String, (ks.filter keep).eraseDups = ks.eraseDups.filter keep
  | [] => rfl
  | k :: ks => by
    have shorter : (ks.filter (!· == k)).length < ks.length + 1 :=
      Nat.lt_succ_of_le (List.length_filter_le _ _)
    rw [List.eraseDups_cons]
    cases kept : keep k with
    | true =>
      rw [List.filter_cons_of_pos kept, List.filter_cons_of_pos kept, List.eraseDups_cons,
        List.filter_comm, eraseDups_filter keep (ks.filter (!· == k))]
    | false =>
      have others : (ks.filter (!· == k)).filter keep = ks.filter keep := by
        rw [List.filter_filter]
        refine List.filter_congr fun x _ => ?_
        by_cases same : x = k
        · rw [same, kept, Bool.false_and]
        · simp [same]
      rw [List.filter_cons_of_neg (by simp [kept]), List.filter_cons_of_neg (by simp [kept]),
        ← eraseDups_filter keep (ks.filter (!· == k)), others]
  termination_by ks => ks.length

theorem filter_filterMap_keys (keep : String → Bool) (value : String → Option String)
    (ks : List String) :
    (ks.filterMap fun k => (value k).map (k, ·)).filter (fun p => keep p.1) =
      (ks.filter keep).filterMap fun k => (value k).map (k, ·) := by
  rw [List.filter_filterMap, List.filterMap_filter]
  refine List.filterMap_congr fun k _ => ?_
  cases value k <;> cases kept : keep k <;> simp [kept]

end

/-! ## Commands built key by key -/

namespace Command

variable {c : Command} {key value : String} {ps pairs : List (String × String)}

theorem setIn_of_not_mem (h : key ∉ ps.map Prod.fst) :
    setIn key value ps = ps ++ [(key, value)] := by
  induction ps with
  | nil => rfl
  | cons p ps ih =>
    rw [List.map_cons, List.mem_cons, not_or] at h
    rw [setIn, if_neg fun e => h.1 e.symm, ih h.2, List.cons_append]

/-- Pairs of new keys come last, in their order. -/
theorem params_setAll (h : ((c.params ++ pairs).map Prod.fst).Nodup) :
    (c.setAll pairs).params = c.params ++ pairs := by
  induction pairs generalizing c with
  | nil => exact (List.append_nil _).symm
  | cons p pairs ih =>
    have new : p.1 ∉ c.params.map Prod.fst := by
      rw [List.map_append, List.nodup_append] at h
      exact fun mem => h.2.2 _ mem _ List.mem_cons_self rfl
    have set : (c.set p.1 p.2).params = c.params ++ [p] := setIn_of_not_mem new
    have rest := ih (c := c.set p.1 p.2)
    rw [set, List.append_assoc, List.singleton_append] at rest
    exact rest h

/-- No key is there twice. -/
def Distinct (c : Command) : Prop := (c.params.map Prod.fst).Nodup

theorem distinct_new (name : String) : (new name).Distinct := List.nodup_nil

theorem Distinct.set (h : c.Distinct) (key value : String) : (c.set key value).Distinct := by
  unfold Distinct Command.set
  rw [map_fst_setIn]
  split
  · exact h
  · next absent =>
    refine List.nodup_append.2 ⟨h, List.nodup_singleton key, ?_⟩
    rintro _ mem _ here rfl
    exact absent (List.mem_singleton.1 here ▸ mem)

theorem Distinct.setAll (h : c.Distinct) (pairs : List (String × String)) :
    (c.setAll pairs).Distinct := by
  induction pairs generalizing c with
  | nil => exact h
  | cons p pairs ih => exact ih (h.set p.1 p.2)

theorem Distinct.get?_eq_some_iff (h : c.Distinct) :
    c.get? key = some value ↔ (key, value) ∈ c.params :=
  lookup_eq_some_iff_of_nodup h

/-- A key stands where it was first set. -/
theorem Distinct.keys_setAll (h : c.Distinct) (pairs : List (String × String)) :
    (c.setAll pairs).params.map Prod.fst =
      (c.params.map Prod.fst ++ pairs.map Prod.fst).eraseDups := by
  induction pairs generalizing c with
  | nil =>
    rw [List.map_nil, List.append_nil, eraseDups_eq_self h]
    rfl
  | cons p pairs ih =>
    have rest := ih (h.set p.1 p.2)
    rw [Command.set, map_fst_setIn] at rest
    rw [List.map_cons]
    refine rest.trans ?_
    split
    · next mem => exact (eraseDups_append_cons_of_mem mem).symm
    · rw [List.append_assoc, List.singleton_append]

/-- A key has the value that was set last. -/
theorem get?_setAll (c : Command) (pairs : List (String × String)) (key : String) :
    (c.setAll pairs).get? key = (pairs.reverse.lookup key).or (c.get? key) := by
  induction pairs generalizing c with
  | nil => rfl
  | cons p pairs ih =>
    rw [List.reverse_cons, List.lookup_append, Option.or_assoc]
    refine (ih (c.set p.1 p.2)).trans (congrArg _ ?_)
    obtain ⟨k, v⟩ := p
    by_cases same : key = k
    · rw [same, get?_set_self, List.lookup_cons_self, Option.some_or]
    · have other : (key == k) = false := by simpa using same
      rw [get?_set_ne c same, List.lookup_cons, other]
      rfl

/-- The parameters of a command that was built key by key. -/
theorem params_setAll_new (name : String) (sets : List (String × String)) :
    ((new name).setAll sets).params =
      (sets.map Prod.fst).eraseDups.filterMap fun k => (sets.reverse.lookup k).map (k, ·) := by
  have distinct := (distinct_new name).setAll sets
  have keys := (distinct_new name).keys_setAll sets
  have values (key : String) :
      ((new name).setAll sets).params.lookup key = sets.reverse.lookup key := by
    refine (get?_setAll (new name) sets key).trans ?_
    rw [show (new name).get? key = none from rfl, Option.or_none]
  rw [← filterMap_lookup distinct, keys]
  simp only [values]
  rfl

/-! ### Setting what is there -/

/-- A value that is found under a key is put back where it stands. -/
theorem setIn_of_lookup (h : ps.lookup key = some value) : setIn key value ps = ps := by
  induction ps with
  | nil => cases h
  | cons p ps ih =>
    obtain ⟨k, v⟩ := p
    by_cases same : k = key
    · rw [same, List.lookup_cons_self, Option.some.injEq] at h
      rw [setIn, if_pos same, h]
    · have other : (key == k) = false := by simpa using fun e => same e.symm
      rw [List.lookup_cons, other] at h
      rw [setIn, if_neg same, ih h]

theorem set_of_get? (h : c.get? key = some value) : c.set key value = c := by
  rw [set, setIn_of_lookup h]

/-! ### A sequence of calls -/

/-- A key is set to this value, and then no more. -/
def SetLast (calls : List (String × String)) (key value : String) : Prop :=
  ∃ before after, calls = before ++ (key, value) :: after ∧ key ∉ after.map Prod.fst

/-- The value that was set last is the first one from behind. -/
theorem lookup_reverse_iff {calls : List (String × String)} :
    calls.reverse.lookup key = some value ↔ SetLast calls key value := by
  rw [List.lookup_eq_some_iff]
  constructor
  · rintro ⟨after, before, backwards, others⟩
    refine ⟨before.reverse, after.reverse, ?_, fun later => ?_⟩
    · rw [← List.reverse_reverse calls, backwards, List.reverse_append, List.reverse_cons,
        List.append_assoc, List.singleton_append]
    · obtain ⟨p, mem, rfl⟩ := List.mem_map.1 later
      simpa using others p (List.mem_reverse.1 mem)
  · rintro ⟨before, after, rfl, last⟩
    refine ⟨after.reverse, before.reverse, ?_, fun p mem => ?_⟩
    · rw [List.reverse_append, List.reverse_cons, List.append_assoc, List.singleton_append]
    · have : key ≠ p.1 := fun e => last (List.mem_map.2 ⟨p, List.mem_reverse.1 mem, e.symm⟩)
      simpa using this

/-- What a command holds after these calls, one after the other. -/
structure Keeps (c : Command) (name : String) (calls : List (String × String)) : Prop where
  named : c.name = name
  /-- The keys are those that were set, in the order in which each was set first. -/
  keys : c.params.map Prod.fst = (calls.map Prod.fst).eraseDups
  distinct : (c.params.map Prod.fst).Nodup
  /-- The value beside a key is the one that was set last. -/
  values : ∀ key value, (key, value) ∈ c.params ↔ SetLast calls key value
  found : ∀ key value, c.get? key = some value ↔ (key, value) ∈ c.params
  /-- A key that has a value already may be set to it once more. -/
  again : ∀ key value, (key, value) ∈ c.params → c.set key value = c
  repeated : ∀ key value, (c.set key value).set key value = c.set key value

/-- What any sequence of calls makes of a new command. -/
theorem keeps_setAll (name : String) (calls : List (String × String)) :
    ((new name).setAll calls).Keeps name calls := by
  have distinct := (distinct_new name).setAll calls
  have last (key value : String) :
      ((new name).setAll calls).get? key = some value ↔ SetLast calls key value := by
    rw [get?_setAll, show (new name).get? key = none from rfl, Option.or_none, lookup_reverse_iff]
  have found (key value : String) : ((new name).setAll calls).get? key = some value ↔
      (key, value) ∈ ((new name).setAll calls).params := distinct.get?_eq_some_iff
  exact {
    named := name_setAll _ _
    keys := (distinct_new name).keys_setAll calls
    distinct
    values := fun key value => (found key value).symm.trans (last key value)
    found
    again := fun key value mem => set_of_get? ((found key value).2 mem)
    repeated := fun key value => set_of_get? (get?_set_self _ key value) }

/-- A key that is set again keeps its place. -/
example : ((new "ping").setAll [("a", "1"), ("b", "2"), ("a", "3")]).params =
    [("a", "3"), ("b", "2")] := rfl

end Command

end Registrar
