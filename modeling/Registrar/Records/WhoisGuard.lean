import Registrar.Document.Layout
import Registrar.Text.Blank
import Registrar.Text.Case

/-!
# WhoisGuard subscriptions

WhoisGuard is the registrar's privacy protection; a subscription may be allotted to a domain.
-/

namespace Registrar

open Document

/-- The state of a subscription; an unknown one is kept as it was written. -/
inductive WhoisGuardStatus
  | enabled
  | disabled
  | notPresent
  | other (value : String)
  deriving DecidableEq, Repr

namespace WhoisGuardStatus

def text : WhoisGuardStatus → String
  | enabled => "ENABLED"
  | disabled => "DISABLED"
  | notPresent => "NOTPRESENT"
  | other value => value

/-- The state that a text names, in any letter case and with blanks around it. -/
def ofText (s : String) : WhoisGuardStatus :=
  match [enabled, disabled, notPresent].find? fun t => t.text == Text.upper (Text.trim s) with
  | some t => t
  | none => other s

def isOther : WhoisGuardStatus → Bool
  | other _ => true
  | _ => false

def codec : Codec WhoisGuardStatus :=
  Codec.text.via text fun s => some (ofText s)

end WhoisGuardStatus

structure WhoisGuard where
  id : Nat
  /-- Empty while the subscription is not allotted. -/
  domainName : String
  created : String
  expires : String
  status : WhoisGuardStatus
  forwardedTo : Option String
  deriving DecidableEq, Repr

namespace WhoisGuard

def isEnabled (w : WhoisGuard) : Bool := w.status == .enabled

def layout : Layout WhoisGuard WhoisGuard :=
  mk <$> .required "id" id .word64
    <*> .required "domain_name" domainName .text
    <*> .required "created" created .text
    <*> .required "expires" expires .text
    <*> .required "status" status WhoisGuardStatus.codec
    <*> .optional "forwarded_to" forwardedTo .text

end WhoisGuard

/-- The outcome of a renewal. -/
structure WhoisGuardRenewal where
  id : Nat
  renewed : Bool
  chargedAmount : Float
  orderId : Nat
  transactionId : Nat
  deriving Repr

namespace WhoisGuardRenewal

def layout : Layout WhoisGuardRenewal WhoisGuardRenewal :=
  mk <$> .required "id" id .word64
    <*> .required "renewed" renewed .bool
    <*> .required "charged_amount" chargedAmount .float
    <*> .required "order_id" orderId .word64
    <*> .required "transaction_id" transactionId .word64

end WhoisGuardRenewal

end Registrar
