import Registrar.Backoff
import Registrar.Breaker
import Registrar.Bucket
import Registrar.Decimal.Shortest
import Registrar.Document.Layout
import Registrar.Failure
import Registrar.Text.Blank
import Registrar.Wire.Request

/-!
# Settings

Everything a client needs to know. Every section has defaults, so a file needs the credentials only.
`Settings.validate` reports the first problem; settings that pass it make a limiter, a breaker and a
backoff that are valid too.
-/

namespace Registrar

open Document

/-! ## Credentials -/

namespace Credentials

def layout : Layout Credentials Credentials :=
  mk <$> .required "api_user" apiUser .text
    <*> .required "api_key" apiKey .text
    <*> .required "username" username .text
    <*> .required "client_ip" clientIp .text

/-- The credentials as they are shown in logs, without the key. -/
def debugText (c : Credentials) : String :=
  "Credentials \x7b api_user: " ++ Text.quoted c.apiUser ++ ", api_key: " ++
    Text.quoted "<redacted>" ++ ", username: " ++ Text.quoted c.username ++ ", client_ip: " ++
    Text.quoted c.clientIp ++ " \x7d"

/-- The fields with their names. -/
def fields (c : Credentials) : List (String × String) :=
  [("api_user", c.apiUser), ("api_key", c.apiKey), ("username", c.username),
    ("client_ip", c.clientIp)]

/-- The first field that is blank. -/
def blankField? (c : Credentials) : Option String :=
  (c.fields.find? fun (_, value) => Text.isBlankText value).map Prod.fst

end Credentials

/-! ## Sections -/

/-- Which server is asked. -/
structure EndpointSettings where
  sandbox : Bool
  /-- Stands for both servers, if present. -/
  baseUrl : Option String
  deriving DecidableEq, Repr

namespace EndpointSettings

def production : String := "https://api.namecheap.com/xml.response"
def sandboxUrl : String := "https://api.sandbox.namecheap.com/xml.response"

def standard : EndpointSettings := ⟨false, none⟩

def url (e : EndpointSettings) : String :=
  e.baseUrl.getD (if e.sandbox then sandboxUrl else production)

def layout : Layout EndpointSettings EndpointSettings :=
  mk <$> .defaulted "sandbox" sandbox .bool standard.sandbox
    <*> .defaulted "base_url" baseUrl (.option .text) standard.baseUrl

end EndpointSettings

structure RateLimit (α : Type) where
  requestsPerSecond : α
  burst : Nat
  deriving DecidableEq, Repr

namespace RateLimit

variable {α : Type} [Quantity α]

def standard : RateLimit α := ⟨Quantity.ofNat 2, 5⟩

/-- The limits of the bucket. -/
def toBucketLimit (r : RateLimit α) : BucketLimit α :=
  ⟨Quantity.ofNat r.burst, r.requestsPerSecond⟩

/-- The settings that a bucket is under. -/
def ofBucketLimit (l : BucketLimit α) : RateLimit α :=
  ⟨l.refillPerSecond, Quantity.word32 l.capacity⟩

def layout : Layout (RateLimit Float) (RateLimit Float) :=
  mk <$> .defaulted "requests_per_second" requestsPerSecond .float standard.requestsPerSecond
    <*> .defaulted "burst" burst .word32 (standard : RateLimit Float).burst

end RateLimit

structure BreakerSettings where
  maxFailures : Nat
  resetTimeoutSecs : Nat
  deriving DecidableEq, Repr

namespace BreakerSettings

def standard : BreakerSettings := ⟨5, 30⟩

def resetTimeout (b : BreakerSettings) : Duration := Duration.ofSeconds b.resetTimeoutSecs

def toBreakerLimit (b : BreakerSettings) : BreakerLimit := ⟨b.maxFailures, b.resetTimeout⟩

def layout : Layout BreakerSettings BreakerSettings :=
  mk <$> .defaulted "max_failures" maxFailures .word32 standard.maxFailures
    <*> .defaulted "reset_timeout_secs" resetTimeoutSecs .word64 standard.resetTimeoutSecs

end BreakerSettings

structure RetrySettings (α : Type) where
  /-- Attempts in all, the first included. -/
  maxAttempts : Nat
  baseDelayMs : Nat
  maxDelayMs : Nat
  backoffFactor : α
  jitterFraction : α
  deriving DecidableEq, Repr

namespace RetrySettings

variable {α : Type} [Quantity α]

def standard : RetrySettings α := ⟨4, 100, 30000, Quantity.ofNat 2, Quantity.decimal 1 1⟩

def baseDelay (r : RetrySettings α) : Duration := Duration.ofMillis r.baseDelayMs
def maxDelay (r : RetrySettings α) : Duration := Duration.ofMillis r.maxDelayMs

def toBackoff (r : RetrySettings α) : Backoff α :=
  ⟨r.maxAttempts, r.baseDelay, r.maxDelay, r.backoffFactor, r.jitterFraction⟩

def layout : Layout (RetrySettings Float) (RetrySettings Float) :=
  mk <$> .defaulted "max_attempts" maxAttempts .word32 (standard : RetrySettings Float).maxAttempts
    <*> .defaulted "base_delay_ms" baseDelayMs .word64 (standard : RetrySettings Float).baseDelayMs
    <*> .defaulted "max_delay_ms" maxDelayMs .word64 (standard : RetrySettings Float).maxDelayMs
    <*> .defaulted "backoff_factor" backoffFactor .float standard.backoffFactor
    <*> .defaulted "jitter_fraction" jitterFraction .float standard.jitterFraction

end RetrySettings

structure HttpSettings where
  /-- The longest that one exchange may take. -/
  attemptTimeoutSecs : Nat
  userAgent : String
  deriving DecidableEq, Repr

namespace HttpSettings

def standardAgent : String := "registrar-client/0.1.0"

def standard : HttpSettings := ⟨30, standardAgent⟩

def attemptTimeout (h : HttpSettings) : Duration := Duration.ofSeconds h.attemptTimeoutSecs

def layout : Layout HttpSettings HttpSettings :=
  mk <$> .defaulted "attempt_timeout_secs" attemptTimeoutSecs .word64 standard.attemptTimeoutSecs
    <*> .defaulted "user_agent" userAgent .text standard.userAgent

end HttpSettings

/-! ## All sections -/

structure Settings (α : Type) where
  credentials : Credentials
  endpoint : EndpointSettings
  rateLimit : RateLimit α
  breaker : BreakerSettings
  retry : RetrySettings α
  http : HttpSettings
  deriving DecidableEq, Repr

namespace Settings

variable {α : Type} [Quantity α]

/-- The defaults with these credentials. -/
def new (c : Credentials) : Settings α :=
  ⟨c, .standard, .standard, .standard, .standard, .standard⟩

/-- The settings as a document; `exact` as for every record. -/
def layout (exact : Bool) : Layout (Settings Float) (Settings Float) :=
  mk <$> .required "credentials" credentials (Credentials.layout.codecWith exact)
    <*> .defaulted "endpoint" endpoint (EndpointSettings.layout.codecWith exact) .standard
    <*> .defaulted "rate_limit" rateLimit (RateLimit.layout.codecWith exact) .standard
    <*> .defaulted "circuit_breaker" breaker (BreakerSettings.layout.codecWith exact) .standard
    <*> .defaulted "retry" retry (RetrySettings.layout.codecWith exact) .standard
    <*> .defaulted "http" http (HttpSettings.layout.codecWith exact) .standard

/-- What is wrong with settings. -/
inductive Fault (α : Type)
  | blankCredential (field : String)
  | baseUrl (url : String)
  | requestRate (rate : α)
  | burst
  | maxFailures
  | resetTimeout
  | maxAttempts
  | delayOrder
  | backoffFactor
  | jitterFraction
  | attemptTimeout
  deriving DecidableEq, Repr

def Fault.message : Fault Float → String
  | .blankCredential field => "credentials." ++ field ++ " is required"
  | .baseUrl url => "endpoint.base_url must be an http(s) URL, got " ++ Text.quoted url
  | .requestRate rate =>
    "rate_limit.requests_per_second must be a finite number >= " ++
      Decimal.plain.text BucketLimit.slowestRefill ++ ", got " ++ Decimal.plain.text rate
  | .burst => "rate_limit.burst must be at least 1"
  | .maxFailures => "circuit_breaker.max_failures must be at least 1"
  | .resetTimeout => "circuit_breaker.reset_timeout_secs must be at least 1"
  | .maxAttempts => "retry.max_attempts must be at least 1"
  | .delayOrder => "retry.base_delay_ms must not exceed retry.max_delay_ms"
  | .backoffFactor => "retry.backoff_factor must be at least 1.0"
  | .jitterFraction => "retry.jitter_fraction must be within [0, 1]"
  | .attemptTimeout => "http.attempt_timeout_secs must be at least 1"

/-- Whether an address starts like one of the web. -/
def isWebUrl (url : String) : Bool :=
  "http://".toList.isPrefixOf url.toList || "https://".toList.isPrefixOf url.toList

/-- The first problem of the settings. -/
def fault? (s : Settings α) : Option (Fault α) :=
  if let some field := s.credentials.blankField? then some (.blankCredential field)
  else if let some url := s.endpoint.baseUrl.filter (!isWebUrl ·) then some (.baseUrl url)
  else if !(Quantity.isFinite s.rateLimit.requestsPerSecond &&
      Quantity.le BucketLimit.slowestRefill s.rateLimit.requestsPerSecond) then
    some (.requestRate s.rateLimit.requestsPerSecond)
  else if s.rateLimit.burst = 0 then some .burst
  else if s.breaker.maxFailures = 0 then some .maxFailures
  else if s.breaker.resetTimeoutSecs = 0 then some .resetTimeout
  else if s.retry.maxAttempts = 0 then some .maxAttempts
  else if s.retry.maxDelayMs < s.retry.baseDelayMs then some .delayOrder
  else if !(Quantity.isFinite s.retry.backoffFactor &&
      Quantity.le Quantity.one s.retry.backoffFactor) then some .backoffFactor
  else if !(Quantity.le Quantity.zero s.retry.jitterFraction &&
      Quantity.le s.retry.jitterFraction Quantity.one) then some .jitterFraction
  else if s.http.attemptTimeoutSecs = 0 then some .attemptTimeout
  else none

/-- Accepts settings without a problem. -/
def validate (s : Settings Float) : Except Failure Unit :=
  match s.fault? with
  | none => .ok ()
  | some fault => .error (.config fault.message)

end Settings

end Registrar
