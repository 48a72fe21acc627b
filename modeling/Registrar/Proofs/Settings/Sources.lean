import Registrar.Proofs.Settings.Validity
import Registrar.Settings.Source

/-!
# One source of settings

Settings are loaded from the environment if its credentials are complete, and else from the first
file that is found; each source is looked at alone, and what it gives is validated. The places for
files are numbered by how near they are (`Settings.place?`), so that the first file is the one with
no file at a nearer place. Main statement: `Settings.load_one_source`.
-/

namespace Registrar

/-! ## Variables -/

namespace Environment

/-- The variable is set, and not to white space alone. -/
def IsSet (env : Environment) (key : String) : Prop :=
  ∃ value, env key = some value ∧ Text.HasInk value

def credentialKeys : List String :=
  ["NAMECHEAP_API_USER", "NAMECHEAP_API_KEY", "NAMECHEAP_USERNAME", "NAMECHEAP_CLIENT_IP"]

def optionalKeys : List String :=
  ["NAMECHEAP_SANDBOX", "NAMECHEAP_BASE_URL", "NAMECHEAP_RATE_LIMIT_RPS",
    "NAMECHEAP_RATE_LIMIT_BURST"]

/-- All credentials are set. -/
def IsComplete (env : Environment) : Prop := ∀ key ∈ credentialKeys, env.IsSet key

variable {env env' : Environment} {key : String}

theorem value?_eq_some_iff {text : String} :
    env.value? key = some text ↔
      ∃ value, env key = some value ∧ Text.HasInk value ∧ Text.trim value = text := by
  have visible (value : String) : (!(Text.trim value).isEmpty) = true ↔ Text.HasInk value := by
    rw [← Text.isBlankText_eq_false_iff, Bool.not_eq_true', Text.isBlankText, Text.trim]
    simp [Bool.eq_false_iff]
  unfold value?
  rw [Option.filter_eq_some_iff]
  constructor
  · rintro ⟨found, given⟩
    obtain ⟨value, set, rfl⟩ := Option.map_eq_some_iff.1 found
    exact ⟨value, set, (visible value).1 given, rfl⟩
  · rintro ⟨value, set, given, rfl⟩
    exact ⟨Option.map_eq_some_iff.2 ⟨value, set, rfl⟩, (visible value).2 given⟩

theorem exists_value?_iff : (∃ text, env.value? key = some text) ↔ env.IsSet key := by
  simp only [value?_eq_some_iff]
  constructor
  · rintro ⟨-, value, set, visible, -⟩
    exact ⟨value, set, visible⟩
  · rintro ⟨value, set, visible⟩
    exact ⟨Text.trim value, value, set, visible, rfl⟩

instance : Decidable (env.IsSet key) :=
  decidable_of_iff ((env.value? key).isSome = true) <| by
    rw [Option.isSome_iff_exists, exists_value?_iff]

instance : Decidable env.IsComplete :=
  inferInstanceAs (Decidable (∀ key ∈ credentialKeys, env.IsSet key))

theorem value?_congr (same : env' key = env key) : env'.value? key = env.value? key := by
  unfold value?
  rw [same]

end Environment

/-! ## Places -/

/-- The directory so many steps above a route. -/
def Route.above? (r : Route) : Nat → Option Route
  | 0 => some r
  | n + 1 => r.parent?.bind (above? · n)

theorem Route.upwards_eq (r : Route) (n : Nat) :
    r.upwards n = (List.range n).filterMap r.above? := by
  induction n generalizing r with
  | zero => rfl
  | succ n ih =>
    rw [List.range_succ_eq_map, List.filterMap_cons_some (by rfl), List.filterMap_map]
    unfold Route.upwards
    refine congrArg (r :: ·) ?_
    cases up : r.parent? with
    | none =>
      have nothing : r.above? ∘ Nat.succ = fun _ => none := by
        funext n
        simp [Route.above?, up]
      rw [nothing, List.filterMap_none]
    | some above =>
      have next : r.above? ∘ Nat.succ = above.above? := by
        funext n
        simp [Route.above?, up]
      rw [next]
      exact ih above

namespace Settings

/-- The places for settings files, nearest first: two in a directory, then two in the one above. -/
def place? (start : Route) (n : Nat) : Option Route :=
  (start.above? (n / 2)).map (·.within (if n % 2 = 0 then "registrar.toml" else "registrar.json"))

/-- There is a file with these contents at one of the six places, and none at a nearer one. -/
def IsFirstFile (tree : FileTree) (start route : Route) (contents : String) : Prop :=
  ∃ n < 6, place? start n = some route ∧ tree.contents? route = some contents ∧
    ∀ m < n, ∀ nearer, place? start m = some nearer → tree.contents? nearer = none

theorem candidates_eq (start : Route) :
    candidates start = (List.range 6).filterMap (place? start) := by
  unfold candidates
  rw [Route.upwards_eq]
  have here : start.above? 0 = some start := rfl
  cases up : start.above? 1 <;> cases top : start.above? 2 <;>
    simp [List.range_succ, place?, fileNames, here, up, top]

/-- The search finds the first file and no other. -/
theorem search?_eq_some_iff {tree : FileTree} {start route : Route} :
    search? tree start = some route ↔ ∃ contents, IsFirstFile tree start route contents := by
  unfold search?
  rw [candidates_eq, List.find?_filterMap, Option.bind_eq_some_iff]
  simp only [List.find?_range_eq_some, List.mem_range]
  constructor
  · rintro ⟨n, ⟨holds, bound, none_⟩, placed⟩
    rw [placed, Option.any_some, Option.isSome_iff_exists] at holds
    obtain ⟨contents, there⟩ := holds
    refine ⟨contents, n, bound, placed, there, fun m hm nearer hn => ?_⟩
    have lacks := none_ m hm
    rw [hn, Option.any_some] at lacks
    simpa using lacks
  · rintro ⟨contents, n, bound, placed, there, none_⟩
    refine ⟨n, ⟨?_, bound, fun m hm => ?_⟩, placed⟩
    · rw [placed, Option.any_some, there]
      rfl
    · cases hn : place? start m with
      | none => rfl
      | some nearer => rw [Option.any_some, none_ m hm nearer hn]; rfl

theorem search?_eq_none_iff {tree : FileTree} {start : Route} :
    search? tree start = none ↔
      ∀ n < 6, ∀ route, place? start n = some route → tree.contents? route = none := by
  unfold search?
  rw [candidates_eq, List.find?_eq_none]
  simp only [List.mem_filterMap, List.mem_range]
  constructor
  · intro h n hn route placed
    simpa using h route ⟨n, hn, placed⟩
  · rintro h route ⟨n, hn, placed⟩
    rw [h n hn route placed]
    exact Bool.false_ne_true

theorem fromSearch_of_isFirstFile {tree : FileTree} {start route : Route} {contents : String}
    (first : IsFirstFile tree start route contents) :
    fromSearch tree start = parse contents route := by
  have found := search?_eq_some_iff.2 ⟨contents, first⟩
  obtain ⟨n, -, -, there, -⟩ := first
  unfold fromSearch
  simp only [found, there, Option.getD_some]

/-! ## The environment -/

/-- The credentials of an environment are its four variables. -/
theorem credentialsOf_eq_ok_iff {env : Environment} {c : Credentials} :
    credentialsOf env = .ok c ↔
      env.value? "NAMECHEAP_API_USER" = some c.apiUser ∧
        env.value? "NAMECHEAP_API_KEY" = some c.apiKey ∧
        env.value? "NAMECHEAP_USERNAME" = some c.username ∧
        env.value? "NAMECHEAP_CLIENT_IP" = some c.clientIp := by
  obtain ⟨user, key, name, ip⟩ := c
  unfold credentialsOf
  cases hu : env.value? "NAMECHEAP_API_USER" <;> cases hk : env.value? "NAMECHEAP_API_KEY" <;>
    cases hn : env.value? "NAMECHEAP_USERNAME" <;> cases hi : env.value? "NAMECHEAP_CLIENT_IP" <;>
    simp [hu, hk, hn, hi, bind, Except.bind, pure, Except.pure]

theorem isComplete_iff {env : Environment} :
    env.IsComplete ↔ ∃ c, credentialsOf env = .ok c := by
  simp only [credentialsOf_eq_ok_iff]
  constructor
  · intro complete
    have given (key : String) (h : key ∈ Environment.credentialKeys) :=
      Environment.exists_value?_iff.2 (complete key h)
    obtain ⟨user, hu⟩ := given "NAMECHEAP_API_USER" (by decide)
    obtain ⟨key, hk⟩ := given "NAMECHEAP_API_KEY" (by decide)
    obtain ⟨name, hn⟩ := given "NAMECHEAP_USERNAME" (by decide)
    obtain ⟨ip, hi⟩ := given "NAMECHEAP_CLIENT_IP" (by decide)
    exact ⟨⟨user, key, name, ip⟩, hu, hk, hn, hi⟩
  · rintro ⟨c, user, key, name, ip⟩ k hk
    simp only [Environment.credentialKeys, List.mem_cons, List.not_mem_nil, or_false] at hk
    rcases hk with rfl | rfl | rfl | rfl
    · exact Environment.exists_value?_iff.1 ⟨_, user⟩
    · exact Environment.exists_value?_iff.1 ⟨_, key⟩
    · exact Environment.exists_value?_iff.1 ⟨_, name⟩
    · exact Environment.exists_value?_iff.1 ⟨_, ip⟩

theorem fromEnvironment_of_ok {env : Environment} {c : Credentials}
    (h : credentialsOf env = .ok c) : fromEnvironment env = withEnvironment c env := by
  unfold fromEnvironment
  rw [h]
  rfl

/-! ## Loading -/

/-- What a source gives, if it is valid. -/
def validated (source : Except SourceFault (Settings Float)) : Except Failure (Settings Float) :=
  match source with
  | .error fault => .error fault.toFailure
  | .ok s => s.validate.map fun _ => s

theorem validated_eq_ok_iff {source : Except SourceFault (Settings Float)} {s : Settings Float} :
    validated source = .ok s ↔ source = .ok s ∧ s.validate = .ok () := by
  cases source with
  | error fault => simp [validated]
  | ok t =>
    simp only [validated, Except.ok.injEq]
    cases accepted : t.validate with
    | error f =>
      simp only [Except.map, false_iff, not_and, reduceCtorEq]
      rintro rfl
      simp [accepted]
    | ok =>
      simp only [Except.map, Except.ok.injEq]
      constructor
      · rintro rfl
        exact ⟨rfl, accepted⟩
      · exact And.left

theorem validated_eq (source : Except SourceFault (Settings Float)) :
    (do
      let s ← source.mapError SourceFault.toFailure
      s.validate
      return s) = validated source := by
  cases source with
  | error fault => rfl
  | ok s =>
    show (s.validate.bind fun _ => Except.ok s) = s.validate.map fun _ => s
    cases s.validate <;> rfl

section

variable {env env' : Environment} (tree : FileTree) (start : Route)

theorem load_of_complete (complete : env.IsComplete) :
    load env tree start = validated (fromEnvironment env) := by
  obtain ⟨c, hc⟩ := isComplete_iff.1 complete
  rw [fromEnvironment_of_ok hc, ← validated_eq]
  unfold load
  rw [hc]

theorem load_of_not_complete (incomplete : ¬env.IsComplete) :
    load env tree start = validated (fromSearch tree start) := by
  cases h : credentialsOf env with
  | ok c => exact absurd (isComplete_iff.2 ⟨c, h⟩) incomplete
  | error fault =>
    rw [← validated_eq]
    unfold load
    rw [h]

/-- What is loaded depends on the eight variables alone. -/
theorem load_congr
    (same : ∀ key ∈ Environment.credentialKeys ++ Environment.optionalKeys, env' key = env key) :
    load env' tree start = load env tree start := by
  have value (key : String) (h : key ∈ Environment.credentialKeys ++ Environment.optionalKeys) :
      env'.value? key = env.value? key := Environment.value?_congr (same key h)
  have user := value "NAMECHEAP_API_USER" (by decide)
  have apiKey := value "NAMECHEAP_API_KEY" (by decide)
  have name := value "NAMECHEAP_USERNAME" (by decide)
  have ip := value "NAMECHEAP_CLIENT_IP" (by decide)
  have rate := value "NAMECHEAP_RATE_LIMIT_RPS" (by decide)
  have burst := value "NAMECHEAP_RATE_LIMIT_BURST" (by decide)
  have address := value "NAMECHEAP_BASE_URL" (by decide)
  have sandbox := same "NAMECHEAP_SANDBOX" (by decide)
  have credentials : credentialsOf env' = credentialsOf env := by
    simp only [credentialsOf, user, apiKey, name, ip]
  have rest (c : Credentials) : withEnvironment c env' = withEnvironment c env := by
    simp only [withEnvironment, requestRateOf, burstOf, Environment.isOn, rate, burst, address,
      sandbox]
  unfold load
  simp only [credentials, rest]

/-- With complete credentials the settings are those of the environment, validated, whatever the
files are. Without them they are those of the first file, validated, whatever the variables are, and
a failure of the configuration if there is no file. Settings that are loaded come from one of the
two sources as a whole. -/
theorem load_one_source (env : Environment) :
    (env.IsComplete → load env tree start = validated (fromEnvironment env) ∧
      ∀ tree' start', load env tree' start' = load env tree start) ∧
    (¬env.IsComplete →
      (∀ route contents, IsFirstFile tree start route contents →
        load env tree start = validated (parse contents route)) ∧
      ((∀ n < 6, ∀ route, place? start n = some route → tree.contents? route = none) →
        load env tree start = .error SourceFault.nothingFound.toFailure) ∧
      ∀ env' : Environment, ¬env'.IsComplete → load env' tree start = load env tree start) ∧
    (∀ env' : Environment,
      (∀ key ∈ Environment.credentialKeys ++ Environment.optionalKeys, env' key = env key) →
        load env' tree start = load env tree start) ∧
    ∀ s, load env tree start = .ok s → s.validate = .ok () ∧
      (env.IsComplete ∧ fromEnvironment env = .ok s ∨
        ¬env.IsComplete ∧ ∃ route contents, IsFirstFile tree start route contents ∧
          parse contents route = .ok s) := by
  refine ⟨fun complete => ?_, fun incomplete => ?_, fun env' => load_congr tree start, ?_⟩
  · refine ⟨load_of_complete tree start complete, fun tree' start' => ?_⟩
    rw [load_of_complete tree' start' complete, load_of_complete tree start complete]
  · refine ⟨fun route contents first => ?_, fun nowhere => ?_, fun env' incomplete' => ?_⟩
    · rw [load_of_not_complete tree start incomplete, fromSearch_of_isFirstFile first]
    · rw [load_of_not_complete tree start incomplete, fromSearch, search?_eq_none_iff.2 nowhere]
      rfl
    · rw [load_of_not_complete tree start incomplete, load_of_not_complete tree start incomplete']
  · intro s loaded
    by_cases complete : env.IsComplete
    · rw [load_of_complete tree start complete, validated_eq_ok_iff] at loaded
      exact ⟨loaded.2, .inl ⟨complete, loaded.1⟩⟩
    · rw [load_of_not_complete tree start complete, validated_eq_ok_iff] at loaded
      refine ⟨loaded.2, .inr ⟨complete, ?_⟩⟩
      cases found : search? tree start with
      | none =>
        rw [fromSearch, found] at loaded
        cases loaded.1
      | some route =>
        obtain ⟨contents, first⟩ := search?_eq_some_iff.1 found
        rw [fromSearch_of_isFirstFile first] at loaded
        exact ⟨route, contents, first, loaded.1⟩

end

/-! ### A file in the directory above -/

namespace Shadowed

def tree : FileTree
  | [] | ["home"] => some .directory
  | ["registrar.json"] => some (.file "{}")
  | _ => none

def full : Environment
  | "NAMECHEAP_API_USER" | "NAMECHEAP_USERNAME" => some " owner"
  | "NAMECHEAP_API_KEY" => some "key"
  | "NAMECHEAP_CLIENT_IP" => some "10.0.0.1"
  | _ => none

/-- The same variables, but for a blank key. -/
def partly : Environment := fun key => if key = "NAMECHEAP_API_KEY" then some " " else full key

end Shadowed

open Shadowed in
/-- Complete credentials hide an unreadable file, incomplete ones do not. -/
theorem load_of_shadowed :
    full.IsComplete ∧ ¬partly.IsComplete ∧ IsFirstFile tree ["home"] ["registrar.json"] "{}" ∧
      load full tree ["home"] = validated (fromEnvironment full) ∧
      load partly tree ["home"] = .error SourceFault.json.toFailure := by
  have complete : full.IsComplete := by decide +kernel
  have incomplete : ¬partly.IsComplete := by decide +kernel
  have first : IsFirstFile tree ["home"] ["registrar.json"] "{}" := by
    have nowhere : ∀ m < 3, (place? ["home"] m).bind tree.contents? = none := by decide +kernel
    refine ⟨3, by decide, by decide +kernel, by decide +kernel, fun m hm nearer placed => ?_⟩
    have lacks := nowhere m hm
    rwa [placed, Option.bind_some] at lacks
  have unreadable : parse "{}" ["registrar.json"] = .error .json := by decide +kernel
  have shown := ((load_one_source tree ["home"] partly).2.1 incomplete).1 _ _ first
  rw [unreadable] at shown
  exact ⟨complete, incomplete, first, ((load_one_source tree ["home"] full).1 complete).1, shown⟩

end Settings

end Registrar
