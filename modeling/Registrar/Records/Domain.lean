import Registrar.Document.Layout
import Registrar.Failure
import Registrar.Text.Blank
import Registrar.Text.Quoted
import Registrar.Time.Date

/-!
# Domains

A `DomainName` is split at its first point, as the registrar addresses it; `DomainName.parse` is
the only way from a text to one. The other records are what the registrar reports on domains.
-/

namespace Registrar

open Document

/-- The label before the first point, and all behind it. -/
structure DomainName where
  sld : String
  tld : String
  deriving DecidableEq, Repr

namespace DomainName

/-- Why a text is no domain name; the text is given without blanks and points at its end. -/
inductive Fault
  | noTld (name : String)
  | emptyLabel (name : String)
  deriving DecidableEq, Repr

def Fault.message : Fault → String
  | .noTld name => "domain name " ++ Text.quoted name ++ " has no TLD"
  | .emptyLabel name => "domain name " ++ Text.quoted name ++ " is malformed"

/-- A name without blanks around it and without points at its end. -/
def clean (s : String) : List Char :=
  Text.dropEndWhile (· == '.') (Text.trimChars s.toList)

/-- Splits a name at its first point. -/
def split (s : String) : Except Fault DomainName :=
  let name := clean s
  let sld := name.takeWhile (· != '.')
  match name.dropWhile (· != '.') with
  | [] => .error (.noTld (String.ofList name))
  | _ :: tld =>
    if sld.isEmpty || tld.isEmpty then .error (.emptyLabel (String.ofList name))
    else .ok ⟨String.ofList sld, String.ofList tld⟩

/-- Reads a domain name that a caller gave. -/
def parse (s : String) : Except Failure DomainName :=
  match split s with
  | .ok d => .ok d
  | .error fault => .error (.invalidInput fault.message)

def text (d : DomainName) : String := d.sld ++ "." ++ d.tld

def layout : Layout DomainName DomainName :=
  mk <$> .required "sld" sld .text <*> .required "tld" tld .text

end DomainName

/-- An entry of the account's list of domains. -/
structure Domain where
  id : Nat
  name : String
  user : String
  created : String
  expires : String
  isExpired : Bool
  isLocked : Bool
  autoRenew : Bool
  /-- The state of the privacy protection as the list shows it. -/
  whoisGuard : String
  isPremium : Bool
  isOurDns : Bool
  deriving DecidableEq, Repr

namespace Domain

def expiresOn (d : Domain) : Option Date := Date.read? d.expires

def layout : Layout Domain Domain :=
  mk <$> .required "id" id .word64
    <*> .required "name" name .text
    <*> .required "user" user .text
    <*> .required "created" created .text
    <*> .required "expires" expires .text
    <*> .required "is_expired" isExpired .bool
    <*> .required "is_locked" isLocked .bool
    <*> .required "auto_renew" autoRenew .bool
    <*> .required "whois_guard" whoisGuard .text
    <*> .required "is_premium" isPremium .bool
    <*> .required "is_our_dns" isOurDns .bool

end Domain

/-- Who serves the names of a domain. -/
structure DnsDetails where
  providerType : String
  isUsingOurDns : Bool
  nameservers : List String
  deriving DecidableEq, Repr

namespace DnsDetails

def unknown : DnsDetails := ⟨"", false, []⟩

def layout : Layout DnsDetails DnsDetails :=
  mk <$> .required "provider_type" providerType .text
    <*> .required "is_using_our_dns" isUsingOurDns .bool
    <*> .required "nameservers" nameservers (.list .text)

end DnsDetails

/-- All that the registrar reports on one domain. -/
structure DomainInfo where
  id : Nat
  name : String
  owner : String
  status : String
  isPremium : Bool
  created : String
  expires : String
  whoisguardEnabled : Bool
  dns : DnsDetails
  deriving DecidableEq, Repr

namespace DomainInfo

def expiresOn (d : DomainInfo) : Option Date := Date.read? d.expires

def layout : Layout DomainInfo DomainInfo :=
  mk <$> .required "id" id .word64
    <*> .required "name" name .text
    <*> .required "owner" owner .text
    <*> .required "status" status .text
    <*> .required "is_premium" isPremium .bool
    <*> .required "created" created .text
    <*> .required "expires" expires .text
    <*> .required "whoisguard_enabled" whoisguardEnabled .bool
    <*> .required "dns" dns DnsDetails.layout.codec

end DomainInfo

/-- The outcome of a registration. -/
structure DomainRegistration where
  domain : String
  registered : Bool
  chargedAmount : Float
  domainId : Nat
  orderId : Nat
  transactionId : Nat
  whoisguardEnabled : Bool
  nonRealTime : Bool
  deriving Repr

namespace DomainRegistration

def layout : Layout DomainRegistration DomainRegistration :=
  mk <$> .required "domain" domain .text
    <*> .required "registered" registered .bool
    <*> .required "charged_amount" chargedAmount .float
    <*> .required "domain_id" domainId .word64
    <*> .required "order_id" orderId .word64
    <*> .required "transaction_id" transactionId .word64
    <*> .required "whoisguard_enabled" whoisguardEnabled .bool
    <*> .required "non_real_time" nonRealTime .bool

end DomainRegistration

/-- The outcome of a renewal. -/
structure DomainRenewal where
  domain : String
  domainId : Nat
  renewed : Bool
  chargedAmount : Float
  orderId : Nat
  transactionId : Nat
  expires : String
  deriving Repr

namespace DomainRenewal

def layout : Layout DomainRenewal DomainRenewal :=
  mk <$> .required "domain" domain .text
    <*> .required "domain_id" domainId .word64
    <*> .required "renewed" renewed .bool
    <*> .required "charged_amount" chargedAmount .float
    <*> .required "order_id" orderId .word64
    <*> .required "transaction_id" transactionId .word64
    <*> .required "expires" expires .text

end DomainRenewal

end Registrar
