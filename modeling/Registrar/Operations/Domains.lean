import Registrar.Client

/-!
# Domains of an account

Listing, looking up, registering and renewing domains, and choosing who serves their names. The list
comes page by page; `Client.listDomains` asks until a page is empty or all items have come.
-/

namespace Registrar

open Xml Wire

/-! ## Payloads -/

def Domain.fields : Fields Domain :=
  mk <$> requiredAttribute ["ID"] identifier
    <*> requiredAttribute ["Name"] plainText
    <*> textOr ["User"]
    <*> textOr ["Created"]
    <*> textOr ["Expires"]
    <*> flagOr false ["IsExpired"]
    <*> flagOr false ["IsLocked"]
    <*> flagOr false ["AutoRenew"]
    <*> textOr ["WhoisGuard"]
    <*> flagOr false ["IsPremium"]
    <*> flagOr false ["IsOurDNS"]

/-- One page of the list of domains. -/
structure DomainPage where
  domains : List Domain
  /-- How many domains there are on all pages; zero if the page does not say. -/
  total : Nat
  deriving DecidableEq, Repr

namespace DomainPage

def totalFields : Fields Nat :=
  childOr 0 ["TotalItems"] identifierReader

def fields : Fields DomainPage :=
  mk <$> requiredChild ["DomainGetListResult"] (children ["Domain"] Domain.fields.reader).reader
    <*> (optionalChild ["Paging"] totalFields.reader).orElse 0

end DomainPage

/-- When a domain was registered and when it expires. -/
def termFields : Fields (String × String) :=
  Prod.mk <$> childOr "" ["CreatedDate"] textReader <*> childOr "" ["ExpiredDate"] textReader

def DnsDetails.fields : Fields DnsDetails :=
  (fun provider ours servers => ⟨provider, ours, servers.map Text.trim⟩) <$> textOr ["ProviderType"]
    <*> flagOr false ["IsUsingOurDNS"]
    <*> texts ["Nameserver"]

def DomainInfo.fields : Fields DomainInfo :=
  (fun id name owner status isPremium (created, expires) guarded dns =>
      ⟨id, name, owner, status, isPremium, created, expires, guarded, dns⟩) <$>
    requiredAttribute ["ID"] identifier
    <*> requiredAttribute ["DomainName"] plainText
    <*> textOr ["OwnerName"]
    <*> textOr ["Status"]
    <*> flagOr false ["IsPremium"]
    <*> (optionalChild ["DomainDetails"] termFields.reader).orElse ("", "")
    <*> (optionalChild ["Whoisguard"] (flagOr false ["Enabled"]).reader).orElse false
    <*> (optionalChild ["DnsDetails"] DnsDetails.fields.reader).orElse .unknown

def DomainRegistration.fields : Fields DomainRegistration :=
  mk <$> requiredAttribute ["Domain"] plainText
    <*> flagOr false ["Registered"]
    <*> amountOr ["ChargedAmount"]
    <*> identifierOr ["DomainID"]
    <*> identifierOr ["OrderID"]
    <*> identifierOr ["TransactionID"]
    <*> flagOr false ["WhoisguardEnable"]
    <*> flagOr false ["NonRealTimeDomain"]

def DomainRenewal.fields : Fields DomainRenewal :=
  (fun domain domainId renewed amount order transaction (_, expires) =>
      ⟨domain, domainId, renewed, amount, order, transaction, expires⟩) <$>
    requiredAttribute ["DomainName"] plainText
    <*> identifierOr ["DomainID"]
    <*> flagOr false ["Renew"]
    <*> amountOr ["ChargedAmount"]
    <*> identifierOr ["OrderID"]
    <*> identifierOr ["TransactionID"]
    <*> (optionalChild ["DomainDetails"] termFields.reader).orElse ("", "")

/-- Whether the servers of a domain were changed. -/
def updatedFields : Fields Bool :=
  flagOr false ["Updated", "Update"]

/-! ## Commands -/

namespace Command

/-- How many domains a page is asked for. -/
def pageSize : Nat := 100

def domainPage (page : Nat) : Command :=
  ((new "namecheap.domains.getList").set "Page" (Decimal.wholeText page)).set "PageSize"
    (Decimal.wholeText pageSize)

def domainInfo (d : DomainName) : Command :=
  (new "namecheap.domains.getInfo").set "DomainName" d.text

/-- A command on a domain for some years. -/
def forYears (name : String) (d : DomainName) (years : Nat) : Command :=
  ((new name).set "DomainName" d.text).set "Years" (Decimal.wholeText years)

/-- A registration; the extra parameters are set last. -/
def createDomain (d : DomainName) (years : Nat) (extra : List (String × String)) : Command :=
  (forYears "namecheap.domains.create" d years).setAll extra

def renewDomain (d : DomainName) (years : Nat) : Command :=
  forYears "namecheap.domains.renew" d years

/-- A command that addresses a domain by its two parts. -/
def onDomain (name : String) (d : DomainName) : Command :=
  ((new name).set "SLD" d.sld).set "TLD" d.tld

def setNameservers (d : DomainName) (servers : List String) : Command :=
  (onDomain "namecheap.domains.dns.setCustom" d).set "Nameservers" (",".intercalate servers)

def setDefaultDns (d : DomainName) : Command :=
  onDomain "namecheap.domains.dns.setDefault" d

end Command

/-- The trimmed names of at least one server, none of them blank. -/
def cleanNameservers (servers : List String) : Except Failure (List String) :=
  if servers.isEmpty then .error (.invalidInput "at least one nameserver must be provided")
  else if servers.any Text.isBlankText then .error (.invalidInput "nameserver must not be blank")
  else .ok (servers.map Text.trim)

/-! ## Operations -/

namespace Client

def domainPage (c : Client) (page : Nat) : Operation DomainPage :=
  c.run (.domainPage page) DomainPage.fields

/-- The domains so far and those of page `page` and the following ones. -/
def domainsFrom (c : Client) (page : Nat) (found : List Domain) : Operation (List Domain) := do
  let answer ← c.domainPage page
  let all := found ++ answer.domains
  if h : answer.domains = [] ∨ min answer.total Decimal.max64 ≤ all.length then return all
  else domainsFrom c (page + 1) all
  termination_by Decimal.max64 - found.length
  decreasing_by
    have h₁ : answer.domains.length ≠ 0 := fun e => h (.inl (List.length_eq_zero_iff.1 e))
    have h₂ : ¬ min answer.total Decimal.max64 ≤ (found ++ answer.domains).length :=
      fun e => h (.inr e)
    have h₃ : (found ++ answer.domains).length = found.length + answer.domains.length :=
      List.length_append
    omega

/-- Every domain of the account. -/
def listDomains (c : Client) : Operation (List Domain) :=
  c.domainsFrom 1 []

def getDomain (c : Client) (name : String) : Operation DomainInfo := do
  let domain ← parseDomain name
  c.run (.domainInfo domain) (requiredChild ["DomainGetInfoResult"] DomainInfo.fields.reader)

/-- Whether the account holds a domain; only the registrar's word that it does not counts as no. -/
def domainExists (c : Client) (name : String) : Operation Bool :=
  falseIfAbsent do
    let _ ← c.getDomain name
    return true

/-- Registers a domain, with more parameters such as its contacts. -/
def createDomainWith (c : Client) (name : String) (years : Nat) (extra : List (String × String)) :
    Operation DomainRegistration := do
  let domain ← parseDomain name
  requirePositive "years" years
  let command := Command.createDomain domain years extra
  let done ← c.run command
    (requiredChild ["DomainCreateResult"] DomainRegistration.fields.reader)
  requireDone command done.registered (domain.text ++ " was not registered")
  return done

/-- Registers a domain with the contacts of the account. -/
def createDomain (c : Client) (name : String) (years : Nat) : Operation DomainRegistration :=
  c.createDomainWith name years []

def renewDomain (c : Client) (name : String) (years : Nat) : Operation DomainRenewal := do
  let domain ← parseDomain name
  requirePositive "years" years
  let command := Command.renewDomain domain years
  let done ← c.run command (requiredChild ["DomainRenewResult"] DomainRenewal.fields.reader)
  requireDone command done.renewed (domain.text ++ " was not renewed")
  return done

/-- Points a domain at servers of its owner. -/
def setNameservers (c : Client) (name : String) (servers : List String) : Operation Unit := do
  let domain ← parseDomain name
  let servers ← .mk (pure (cleanNameservers servers))
  let command := Command.setNameservers domain servers
  let done ← c.run command (requiredChild ["DomainDNSSetCustomResult"] updatedFields.reader)
  requireDone command done ("nameservers of " ++ domain.text ++ " not updated")

/-- Gives a domain back to the registrar's servers. -/
def setDefaultDns (c : Client) (name : String) : Operation Unit := do
  let domain ← parseDomain name
  let command := Command.setDefaultDns domain
  let done ← c.run command (requiredChild ["DomainDNSSetDefaultResult"] updatedFields.reader)
  requireDone command done ("DNS of " ++ domain.text ++ " not reset")

end Client

end Registrar
