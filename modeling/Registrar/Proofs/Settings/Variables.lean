import Registrar.Proofs.Decimal.Numerals
import Registrar.Proofs.Settings.Sources

/-!
# What the variables ask for

Besides the credentials, four variables of the environment are read, and each has a form of its own:
a word for the switch, the address of a server, a rate and a burst. `Settings.AskedBy` says which
settings an environment asks for, with the default for each variable that is not set. Main
statement: `Settings.load_of_variables`. An address, a rate or a burst out of form is a failure; a
switch out of form is taken for one that is not set.
-/

namespace Registrar

/-! ## Forms -/

namespace Environment

section

variable {α : Type}

/-- The variable is set, but to nothing of this form. -/
def Garbles (env : Environment) (key : String) (Form : String → α → Prop) : Prop :=
  ∃ value, env key = some value ∧ Text.HasInk value ∧ ∀ a, ¬Form (Text.trim value) a

/-- The variable spells `a`, or it is not set and `a` is the default. -/
def Spells (env : Environment) (key : String) (Form : String → α → Prop) (default a : α) : Prop :=
  (∃ value, env key = some value ∧ Text.HasInk value ∧ Form (Text.trim value) a) ∨
    ¬env.IsSet key ∧ a = default

/-- The variables but one. -/
def without (env : Environment) (key : String) : Environment := fun k =>
  if k = key then none else env k

variable {env : Environment} {key : String} {Form : String → α → Prop} {default a : α}

theorem garbles_iff :
    env.Garbles key Form ↔ ∃ text, env.value? key = some text ∧ ∀ a, ¬Form text a := by
  unfold Garbles
  constructor
  · rintro ⟨value, set, visible, other⟩
    exact ⟨_, value?_eq_some_iff.2 ⟨value, set, visible, rfl⟩, other⟩
  · rintro ⟨text, found, other⟩
    obtain ⟨value, set, visible, rfl⟩ := value?_eq_some_iff.1 found
    exact ⟨value, set, visible, other⟩

theorem spells_iff :
    env.Spells key Form default a ↔
      match env.value? key with
      | some text => Form text a
      | none => a = default := by
  have set : (∃ text, env.value? key = some text) ↔ env.IsSet key := exists_value?_iff
  unfold Spells
  cases found : env.value? key with
  | none =>
    have unset : ¬env.IsSet key := by simp [← set, found]
    have nothing :
        ¬∃ value, env key = some value ∧ Text.HasInk value ∧ Form (Text.trim value) a := by
      rintro ⟨value, there, visible, -⟩
      exact unset ⟨value, there, visible⟩
    simp [unset, nothing]
  | some text =>
    obtain ⟨value, there, visible, rfl⟩ := value?_eq_some_iff.1 found
    have isSet : env.IsSet key := ⟨value, there, visible⟩
    simp [isSet, there, visible]

/-- A variable is out of form, or it spells something. -/
theorem not_garbles_iff : ¬env.Garbles key Form ↔ ∃ a, env.Spells key Form default a := by
  simp only [garbles_iff, spells_iff]
  cases env.value? key <;> simp

end

/-- The words for yes and for no. -/
def yesWords : List String := ["1", "true", "yes", "on"]
def noWords : List String := ["0", "false", "no", "off"]

end Environment

namespace Settings

/-- A word for yes or for no, in any case. -/
def IsSwitch (text : String) (on : Bool) : Prop :=
  Text.lower text ∈ if on then Environment.yesWords else Environment.noWords

instance (text : String) (on : Bool) : Decidable (IsSwitch text on) :=
  inferInstanceAs (Decidable (_ ∈ if on then Environment.yesWords else Environment.noWords))

/-- An address of the web, as it is. -/
def IsServer (text : String) (url? : Option String) : Prop :=
  IsWebAddress text ∧ url? = some text

/-- A finite rate at which a bucket may be refilled. -/
def IsRate (text : String) (rate : Float) : Prop :=
  ∃ (s : Decimal.Sign) (m : Decimal.Magnitude), text.toList = s.chars ++ m.chars ∧
    (m.literal s.negative).toFloat = rate ∧ rate.isFinite = true ∧ BucketLimit.slowestRefill ≤ rate

/-- A whole number of 32 bits that is not zero. -/
def IsBurst (text : String) (burst : Nat) : Prop :=
  ∃ ds, Decimal.IsDigits ds ∧ (text.toList = ds ∨ text.toList = '+' :: ds) ∧
    Nat.ofDigitChars 10 ds 0 = burst ∧ 1 ≤ burst ∧ burst ≤ Decimal.max32

/-- The settings that an environment asks for: what its variables spell, but for a switch out of
form, which is off. -/
structure AskedBy (env : Environment) (s : Settings Float) : Prop where
  credentials : credentialsOf env = .ok s.credentials
  sandbox : env.Spells "NAMECHEAP_SANDBOX" IsSwitch false s.endpoint.sandbox ∨
    env.Garbles "NAMECHEAP_SANDBOX" IsSwitch ∧ s.endpoint.sandbox = false
  address : env.Spells "NAMECHEAP_BASE_URL" IsServer none s.endpoint.baseUrl
  rate : env.Spells "NAMECHEAP_RATE_LIMIT_RPS" IsRate 2 s.rateLimit.requestsPerSecond
  burst : env.Spells "NAMECHEAP_RATE_LIMIT_BURST" IsBurst 5 s.rateLimit.burst
  rest : s.breaker = .standard ∧ s.retry = .standard ∧ s.http = .standard

section

variable {env : Environment}

/-- A text of no finite number is read as a rate that is not finite, if at all. -/
theorem readFloat_eq_ok_iff {text : String} {rate : Float} (finite : rate.isFinite = true) :
    Decimal.readFloat text = .ok rate ↔
      ∃ (s : Decimal.Sign) (m : Decimal.Magnitude), text.toList = s.chars ++ m.chars ∧
        (m.literal s.negative).toFloat = rate := by
  have infinite (negative : Bool) :
      (Decimal.Literal.infinite negative).toFloat.isFinite = false := by
    cases negative <;> decide +kernel
  have undefined : Decimal.Literal.undefined.toFloat.isFinite = false := by decide +kernel
  unfold Decimal.readFloat
  constructor
  · intro read
    cases spelled : Decimal.Literal.read text.toList with
    | error fault => simp [spelled, Except.map] at read
    | ok literal =>
      rw [spelled] at read
      obtain rfl : literal.toFloat = rate := Except.ok.inj read
      cases literal with
      | infinite negative => exact nomatch finite.symm.trans (infinite negative)
      | undefined => exact nomatch finite.symm.trans undefined
      | finite negative n e =>
        obtain ⟨s, m, chars, literal⟩ := Decimal.Literal.read_eq_finite_iff.1 spelled
        exact ⟨s, m, chars, by rw [literal]⟩
  · rintro ⟨s, m, chars, rfl⟩
    rw [Decimal.Literal.read_eq_finite_iff.2 ⟨s, m, chars, rfl⟩]
    rfl

/-- A rate is accepted if and only if it is spelled. -/
theorem requestRateOf_iff {rate : Float} :
    (requestRateOf env = .ok rate ∧
      (Quantity.isFinite rate && Quantity.le BucketLimit.slowestRefill rate) = true) ↔
      env.Spells "NAMECHEAP_RATE_LIMIT_RPS" IsRate 2 rate := by
  have accepted : (Quantity.isFinite rate && Quantity.le BucketLimit.slowestRefill rate) = true ↔
      rate.isFinite = true ∧ BucketLimit.slowestRefill ≤ rate := by
    rw [Bool.and_eq_true]
    exact and_congr Iff.rfl decide_eq_true_iff
  have standard : (RateLimit.standard : RateLimit Float).requestsPerSecond = 2 := by decide +kernel
  rw [Environment.spells_iff, accepted]
  unfold requestRateOf
  cases env.value? "NAMECHEAP_RATE_LIMIT_RPS" with
  | none =>
    dsimp only
    rw [standard, Except.ok.injEq]
    constructor
    · rintro ⟨rfl, -⟩
      rfl
    · rintro rfl
      exact ⟨rfl, by decide +kernel, by decide +kernel⟩
  | some text =>
    dsimp only
    unfold IsRate
    have mapped : (Decimal.readFloat text).mapError SourceFault.requestRate = .ok rate ↔
        Decimal.readFloat text = .ok rate := by
      cases Decimal.readFloat text <;> simp [Except.mapError]
    rw [mapped]
    constructor
    · rintro ⟨read, finite, fast⟩
      obtain ⟨s, m, chars, value⟩ := (readFloat_eq_ok_iff finite).1 read
      exact ⟨s, m, chars, value, finite, fast⟩
    · rintro ⟨s, m, chars, value, finite, fast⟩
      exact ⟨(readFloat_eq_ok_iff finite).2 ⟨s, m, chars, value⟩, finite, fast⟩

theorem burstOf_iff {burst : Nat} :
    (burstOf env = .ok burst ∧ burst ≠ 0) ↔
      env.Spells "NAMECHEAP_RATE_LIMIT_BURST" IsBurst 5 burst := by
  rw [Environment.spells_iff]
  unfold burstOf
  cases env.value? "NAMECHEAP_RATE_LIMIT_BURST" with
  | none =>
    show Except.ok 5 = Except.ok burst ∧ burst ≠ 0 ↔ burst = 5
    rw [Except.ok.injEq]
    omega
  | some text =>
    have mapped :
        (Decimal.readWhole Decimal.max32 text.toList).mapError SourceFault.burst = .ok burst ↔
          Decimal.readWhole Decimal.max32 text.toList = .ok burst := by
      cases Decimal.readWhole Decimal.max32 text.toList <;> simp [Except.mapError]
    dsimp only
    unfold IsBurst
    rw [mapped, Decimal.readWhole_eq_ok_iff]
    constructor
    · rintro ⟨⟨ds, digits, chars, value, bound⟩, positive⟩
      exact ⟨ds, digits, chars, value, Nat.pos_of_ne_zero positive, bound⟩
    · rintro ⟨ds, digits, chars, value, positive, bound⟩
      exact ⟨⟨ds, digits, chars, value, bound⟩, Nat.ne_of_gt positive⟩

theorem baseUrl_iff {url? : Option String} :
    (url? = env.value? "NAMECHEAP_BASE_URL" ∧ url?.filter (!isWebUrl ·) = none) ↔
      env.Spells "NAMECHEAP_BASE_URL" IsServer none url? := by
  rw [Environment.spells_iff, filter_baseUrl_eq_none_iff]
  unfold IsServer
  cases env.value? "NAMECHEAP_BASE_URL" with
  | none =>
    constructor
    · exact And.left
    · rintro rfl
      exact ⟨rfl, by simp⟩
  | some text =>
    constructor
    · rintro ⟨rfl, web⟩
      exact ⟨web text rfl, rfl⟩
    · rintro ⟨web, rfl⟩
      exact ⟨rfl, by simpa using web⟩

/-- Credentials of an environment are never blank. -/
theorem blankField?_eq_none_of_credentialsOf {c : Credentials} (h : credentialsOf env = .ok c) :
    c.blankField? = none := by
  have visible {key text : String} (found : env.value? key = some text) : Text.HasInk text := by
    obtain ⟨value, -, ink, rfl⟩ := Environment.value?_eq_some_iff.1 found
    rwa [← Text.isBlankText_eq_false_iff, Text.isBlankText_trim, Text.isBlankText_eq_false_iff]
  obtain ⟨user, key, name, ip⟩ := credentialsOf_eq_ok_iff.1 h
  exact (Credentials.blankField?_eq_none_iff c).2
    ⟨visible user, visible key, visible name, visible ip⟩

theorem fromEnvironment_eq_ok_iff {s : Settings Float} :
    fromEnvironment env = .ok s ↔
      credentialsOf env = .ok s.credentials ∧
        requestRateOf env = .ok s.rateLimit.requestsPerSecond ∧
        burstOf env = .ok s.rateLimit.burst ∧ s.endpoint.sandbox = env.isOn "NAMECHEAP_SANDBOX" ∧
        s.endpoint.baseUrl = env.value? "NAMECHEAP_BASE_URL" ∧
        s.breaker = .standard ∧ s.retry = .standard ∧ s.http = .standard := by
  obtain ⟨c, ⟨sandbox, url?⟩, ⟨rate, burst⟩, breaker, retry, http⟩ := s
  unfold fromEnvironment withEnvironment
  cases credentialsOf env with
  | error fault => simp [bind, Except.bind]
  | ok given =>
    cases requestRateOf env with
    | error fault => simp [bind, Except.bind]
    | ok rate' =>
      cases burstOf env with
      | error fault => simp [bind, Except.bind]
      | ok burst' =>
        simp only [bind, Except.bind, pure, Except.pure, Except.ok.injEq, Settings.new,
          Settings.mk.injEq, EndpointSettings.mk.injEq, RateLimit.mk.injEq]
        constructor
        · rintro ⟨rfl, ⟨rfl, rfl⟩, ⟨rfl, rfl⟩, rfl, rfl, rfl⟩
          exact ⟨rfl, rfl, rfl, rfl, rfl, rfl, rfl, rfl⟩
        · rintro ⟨rfl, rfl, rfl, rfl, rfl, rfl, rfl, rfl⟩
          exact ⟨rfl, ⟨rfl, rfl⟩, ⟨rfl, rfl⟩, rfl, rfl, rfl⟩

theorem isOn_eq (key : String) :
    env.isOn key =
      (env.value? key).any fun text => Environment.yesWords.contains (Text.lower text) := by
  unfold Environment.isOn Environment.value?
  cases env key with
  | none => rfl
  | some value =>
    rw [Option.map_some, Option.any_some]
    cases blank : (Text.trim value).isEmpty with
    | true =>
      rw [Option.filter_some_neg (by simp [blank]), String.isEmpty_iff.1 blank]
      decide +kernel
    | false => rw [Option.filter_some_pos (by simp [blank]), Option.any_some]; rfl

/-- The switch is on if and only if it is a word for yes. -/
theorem isOn_iff {on : Bool} :
    on = env.isOn "NAMECHEAP_SANDBOX" ↔
      env.Spells "NAMECHEAP_SANDBOX" IsSwitch false on ∨
        env.Garbles "NAMECHEAP_SANDBOX" IsSwitch ∧ on = false := by
  have apart : ∀ word ∈ Environment.noWords, word ∉ Environment.yesWords := by decide
  rw [isOn_eq, Environment.spells_iff, Environment.garbles_iff]
  cases env.value? "NAMECHEAP_SANDBOX" with
  | none => simp
  | some text =>
    have garbled : (∃ t, some text = some t ∧ ∀ a, ¬IsSwitch t a) ↔
        Text.lower text ∉ Environment.noWords ∧ Text.lower text ∉ Environment.yesWords := by
      simp [IsSwitch]
    rw [garbled, Option.any_some]
    dsimp only [IsSwitch]
    by_cases yes : Text.lower text ∈ Environment.yesWords
    · have not_no : Text.lower text ∉ Environment.noWords := fun no => apart _ no yes
      cases on <;> simp [yes, not_no]
    · by_cases no : Text.lower text ∈ Environment.noWords <;> cases on <;> simp [yes, no]

/-- With complete credentials exactly the settings that the environment asks for are loaded. -/
theorem load_eq_ok_iff (tree : FileTree) (start : Route) (complete : env.IsComplete)
    {s : Settings Float} : load env tree start = .ok s ↔ AskedBy env s := by
  have sections : ∀ {s : Settings Float}, s.breaker = .standard → s.retry = .standard →
      s.http = .standard →
      s.breaker.maxFailures ≠ 0 ∧ s.breaker.resetTimeoutSecs ≠ 0 ∧
        s.retry.maxAttempts ≠ 0 ∧ ¬s.retry.maxDelayMs < s.retry.baseDelayMs ∧
        (Quantity.isFinite s.retry.backoffFactor &&
          Quantity.le Quantity.one s.retry.backoffFactor) = true ∧
        (Quantity.le Quantity.zero s.retry.jitterFraction &&
          Quantity.le s.retry.jitterFraction Quantity.one) = true ∧
        s.http.attemptTimeoutSecs ≠ 0 := by
    intro s breaker retry http
    rw [breaker, retry, http]
    decide +kernel
  rw [load_of_complete tree start complete, validated_eq_ok_iff, fromEnvironment_eq_ok_iff,
    validate_eq_ok_iff, fault?_eq_none_iff]
  constructor
  · rintro ⟨⟨given, rate, burst, sandbox, url, standard⟩, -, web, fast, some_burst, -⟩
    exact ⟨given, isOn_iff.1 sandbox, baseUrl_iff.1 ⟨url, web⟩, requestRateOf_iff.1 ⟨rate, fast⟩,
      burstOf_iff.1 ⟨burst, some_burst⟩, standard⟩
  · rintro ⟨given, sandbox, address, rate, burst, standard⟩
    obtain ⟨url, web⟩ := baseUrl_iff.2 address
    obtain ⟨rate, fast⟩ := requestRateOf_iff.2 rate
    obtain ⟨burst, some_burst⟩ := burstOf_iff.2 burst
    exact ⟨⟨given, rate, burst, isOn_iff.2 sandbox, url, standard⟩,
      blankField?_eq_none_of_credentialsOf given, web, fast, some_burst,
      sections standard.1 standard.2.1 standard.2.2⟩

/-- Whatever keeps settings from being loaded is a failure of the configuration. -/
theorem exists_config_of_load (tree : FileTree) (start : Route) {f : Failure}
    (h : load env tree start = .error f) : ∃ message, f = .config message := by
  have refused (source : Except SourceFault (Settings Float)) (h : validated source = .error f) :
      ∃ message, f = .config message := by
    cases source with
    | error fault => exact ⟨_, (Except.error.inj h).symm⟩
    | ok s =>
      unfold validated validate at h
      cases fault : s.fault? with
      | none => simp [fault, Except.map] at h
      | some fault' =>
        simp only [fault, Except.map, Except.error.injEq] at h
        exact ⟨_, h.symm⟩
  by_cases complete : env.IsComplete
  · exact refused _ (load_of_complete tree start complete ▸ h)
  · exact refused _ (load_of_not_complete tree start complete ▸ h)

/-- A switch out of form is off, like one that is not set. -/
theorem load_without_switch (tree : FileTree) (start : Route)
    (garbled : env.Garbles "NAMECHEAP_SANDBOX" IsSwitch) :
    load env tree start = load (env.without "NAMECHEAP_SANDBOX") tree start := by
  obtain ⟨value, set, -, other⟩ := garbled
  have off : env.isOn "NAMECHEAP_SANDBOX" = false := by
    unfold Environment.isOn
    rw [set, Option.any_some]
    simpa [IsSwitch, Environment.yesWords] using other true
  have off' : (env.without "NAMECHEAP_SANDBOX").isOn "NAMECHEAP_SANDBOX" = false := rfl
  have same (key : String) (h : key ≠ "NAMECHEAP_SANDBOX") :
      (env.without "NAMECHEAP_SANDBOX").value? key = env.value? key :=
    Environment.value?_congr (if_neg h)
  have credentials : credentialsOf (env.without "NAMECHEAP_SANDBOX") = credentialsOf env := by
    unfold credentialsOf
    simp only [same _ (by decide : "NAMECHEAP_API_USER" ≠ "NAMECHEAP_SANDBOX"),
      same _ (by decide : "NAMECHEAP_API_KEY" ≠ "NAMECHEAP_SANDBOX"),
      same _ (by decide : "NAMECHEAP_USERNAME" ≠ "NAMECHEAP_SANDBOX"),
      same _ (by decide : "NAMECHEAP_CLIENT_IP" ≠ "NAMECHEAP_SANDBOX")]
  have others (c : Credentials) :
      withEnvironment c (env.without "NAMECHEAP_SANDBOX") = withEnvironment c env := by
    unfold withEnvironment requestRateOf burstOf
    simp only [off, off', same _ (by decide : "NAMECHEAP_RATE_LIMIT_RPS" ≠ "NAMECHEAP_SANDBOX"),
      same _ (by decide : "NAMECHEAP_RATE_LIMIT_BURST" ≠ "NAMECHEAP_SANDBOX"),
      same _ (by decide : "NAMECHEAP_BASE_URL" ≠ "NAMECHEAP_SANDBOX")]
  unfold load
  simp only [credentials, others]

/-- With complete credentials an address, a rate or a burst out of form is a failure of the
configuration, whatever the other variables and the files are. If all three are in form, the
settings are loaded that the variables ask for. A switch out of form is no failure: it is taken for
a switch that is not set. -/
theorem load_of_variables (env : Environment) (tree : FileTree) (start : Route)
    (complete : env.IsComplete) :
    ((env.Garbles "NAMECHEAP_BASE_URL" IsServer ∨ env.Garbles "NAMECHEAP_RATE_LIMIT_RPS" IsRate ∨
        env.Garbles "NAMECHEAP_RATE_LIMIT_BURST" IsBurst) ↔
      ∃ message, load env tree start = .error (.config message)) ∧
    (∀ s, load env tree start = .ok s ↔ AskedBy env s) ∧
    (env.Garbles "NAMECHEAP_SANDBOX" IsSwitch →
      load env tree start = load (env.without "NAMECHEAP_SANDBOX") tree start) := by
  refine ⟨⟨fun garbled => ?_, ?_⟩, fun s => load_eq_ok_iff tree start complete,
    load_without_switch tree start⟩
  · cases loaded : load env tree start with
    | error f =>
      obtain ⟨message, rfl⟩ := exists_config_of_load tree start loaded
      exact ⟨message, rfl⟩
    | ok s =>
      have asked := (load_eq_ok_iff tree start complete).1 loaded
      rcases garbled with garbled | garbled | garbled
      · exact (Environment.not_garbles_iff.2 ⟨_, asked.address⟩ garbled).elim
      · exact (Environment.not_garbles_iff.2 ⟨_, asked.rate⟩ garbled).elim
      · exact (Environment.not_garbles_iff.2 ⟨_, asked.burst⟩ garbled).elim
  · rintro ⟨message, refused⟩
    by_contra formed
    rw [not_or, not_or] at formed
    obtain ⟨c, given⟩ := isComplete_iff.1 complete
    obtain ⟨url?, address⟩ := Environment.not_garbles_iff.1 formed.1
    obtain ⟨rate, spelledRate⟩ := Environment.not_garbles_iff.1 formed.2.1
    obtain ⟨burst, spelledBurst⟩ := Environment.not_garbles_iff.1 formed.2.2
    have loaded : load env tree start =
        .ok ⟨c, ⟨env.isOn "NAMECHEAP_SANDBOX", url?⟩, ⟨rate, burst⟩, .standard, .standard,
          .standard⟩ :=
      (load_eq_ok_iff tree start complete).2
        ⟨given, isOn_iff.1 rfl, address, spelledRate, spelledBurst, rfl, rfl, rfl⟩
    rw [loaded] at refused
    exact nomatch refused

end

/-! ### Variables out of form -/

namespace Garbled

/-- Complete credentials and one more variable. -/
def env (key value : String) : Environment :=
  fun k => if k = key then some value else Shadowed.full k

end Garbled

/-- What is no number is no rate, though it is read as one. -/
theorem load_of_undefined_rate :
    (Garbled.env "NAMECHEAP_RATE_LIMIT_RPS" " NaN").IsComplete ∧
      (Garbled.env "NAMECHEAP_RATE_LIMIT_RPS" " NaN").Garbles "NAMECHEAP_RATE_LIMIT_RPS" IsRate ∧
      ∃ message, load (Garbled.env "NAMECHEAP_RATE_LIMIT_RPS" " NaN") Shadowed.tree [] =
        .error (.config message) := by
  have complete : (Garbled.env "NAMECHEAP_RATE_LIMIT_RPS" " NaN").IsComplete := by decide +kernel
  have garbled : (Garbled.env "NAMECHEAP_RATE_LIMIT_RPS" " NaN").Garbles
      "NAMECHEAP_RATE_LIMIT_RPS" IsRate := by
    refine ⟨" NaN", rfl, ⟨'N', by decide, by decide⟩, ?_⟩
    rintro rate ⟨s, m, chars, -⟩
    have read : Decimal.Literal.read (Text.trim " NaN").toList = .ok .undefined := by decide +kernel
    have spelled := Decimal.Literal.read_eq_finite_iff.2 ⟨s, m, chars, rfl⟩
    rw [read] at spelled
    exact nomatch spelled
  exact ⟨complete, garbled,
    (load_of_variables _ Shadowed.tree [] complete).1.1 (.inr (.inl garbled))⟩

/-- A switch that says neither yes nor no is off, and the production server is asked. -/
theorem undecided_switch_is_off :
    (Garbled.env "NAMECHEAP_SANDBOX" "maybe").IsComplete ∧
      (Garbled.env "NAMECHEAP_SANDBOX" "maybe").Garbles "NAMECHEAP_SANDBOX" IsSwitch ∧
      (load (Garbled.env "NAMECHEAP_SANDBOX" "maybe") Shadowed.tree []).toOption.map
        (·.endpoint.url) = some EndpointSettings.production := by
  refine ⟨by decide +kernel, ⟨"maybe", rfl, ⟨'m', by decide, by decide⟩, ?_⟩, by decide +kernel⟩
  intro on
  cases on <;> decide +kernel

end Settings

end Registrar
