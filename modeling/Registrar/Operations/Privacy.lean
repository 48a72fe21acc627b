import Registrar.Client
import Registrar.Records.WhoisGuard

/-!
# Privacy protection

Listing, switching and renewing the WhoisGuard subscriptions of an account.
-/

namespace Registrar

open Xml Wire

/-! ## Payloads -/

/-- The address that mail is forwarded to, unless it is blank. -/
def forwardedFields : Fields (Option String) :=
  (fun address => if Text.isBlankText address then none else some address) <$>
    textOr ["ForwardedTo"]

def WhoisGuard.fields : Fields WhoisGuard :=
  (fun id domain created expires status forwarded =>
      ⟨id, domain, created, expires, .ofText status, forwarded.join⟩) <$>
    requiredAttribute ["ID"] identifier
    <*> textOr ["DomainName"]
    <*> textOr ["Created"]
    <*> textOr ["Expires"]
    <*> textOr ["Status"]
    <*> optionalChild ["EmailDetails"] forwardedFields.reader

def whoisGuardListFields : Fields (List WhoisGuard) :=
  requiredChild ["WhoisguardGetListResult"]
    (children ["Whoisguard"] WhoisGuard.fields.reader).reader

def WhoisGuardRenewal.fields : Fields WhoisGuardRenewal :=
  mk <$> identifierOr ["WhoisguardID", "WhoisguardId"]
    <*> flagOr false ["Renew"]
    <*> amountOr ["ChargedAmount"]
    <*> identifierOr ["OrderID", "OrderId"]
    <*> identifierOr ["TransactionID", "TransactionId"]

/-! ## Commands -/

namespace Command

/-- A command that switches a subscription on a domain. -/
def switchWhoisGuard (name : String) (id : Nat) (domain : String) : Command :=
  ((new name).set "WhoisguardID" (Decimal.wholeText id)).set "DomainName" (Text.trim domain)

/-- The command that switches a subscription on; mail goes to an address that is not blank. -/
def enableWhoisGuard (id : Nat) (domain : String) (forwardTo : Option String) : Command :=
  (switchWhoisGuard "namecheap.whoisguard.enable" id domain).setSome "ForwardedToEmail"
    ((forwardTo.map Text.trim).filter fun address => !address.isEmpty)

end Command

/-! ## Operations -/

namespace Client

def listWhoisGuards (c : Client) : Operation (List WhoisGuard) :=
  c.run (.new "namecheap.whoisguard.getList") whoisGuardListFields

/-- The subscription that is allotted to a domain, in any letter case. -/
def whoisGuardForDomain (c : Client) (domain : String) : Operation WhoisGuard := do
  requireNonEmpty "domain" domain
  let domain := Text.trim domain
  match (← c.listWhoisGuards).find? (Text.sameFolded ·.domainName domain) with
  | some w => return w
  | none => throw (.absent ("no WhoisGuard subscription for " ++ domain))

/-- Whether a domain is protected; one without a subscription is not. -/
def isWhoisGuardEnabled (c : Client) (domain : String) : Operation Bool :=
  falseIfAbsent do return (← c.whoisGuardForDomain domain).isEnabled

def enableWhoisGuard (c : Client) (id : Nat) (domain : String) (forwardTo : Option String) :
    Operation Unit := do
  requireNonEmpty "domain" domain
  let command := Command.enableWhoisGuard id domain forwardTo
  let done ← c.run command
    (requiredChild ["WhoisguardEnableResult"] (flagOr false ["IsSuccess"]).reader)
  requireDone command done ("WhoisGuard " ++ Decimal.wholeText id ++ " was not enabled")

def disableWhoisGuard (c : Client) (id : Nat) (domain : String) : Operation Unit := do
  requireNonEmpty "domain" domain
  let command := Command.switchWhoisGuard "namecheap.whoisguard.disable" id domain
  let done ← c.run command
    (requiredChild ["WhoisguardDisableResult"] (flagOr false ["IsSuccess"]).reader)
  requireDone command done ("WhoisGuard " ++ Decimal.wholeText id ++ " was not disabled")

/-- Renews a subscription. An answer without a number speaks of the one that was asked for. -/
def renewWhoisGuard (c : Client) (id years : Nat) : Operation WhoisGuardRenewal := do
  requirePositive "years" years
  let command := ((Command.new "namecheap.whoisguard.renew").set "WhoisguardID"
    (Decimal.wholeText id)).set "Years" (Decimal.wholeText years)
  let done ← c.run command
    (requiredChild ["WhoisguardRenewResult"] WhoisGuardRenewal.fields.reader)
  requireDone command done.renewed ("WhoisGuard " ++ Decimal.wholeText id ++ " was not renewed")
  return { done with id := if done.id = 0 then id else done.id }

end Client

end Registrar
