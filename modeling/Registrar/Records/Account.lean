import Registrar.Document.Layout

/-!
# Balance, catalogue and prices

What the registrar reports on the account's money, on the top-level domains it offers and on its
prices.
-/

namespace Registrar

open Document

structure Balance where
  currency : String
  availableBalance : Float
  accountBalance : Float
  earnedAmount : Float
  withdrawableAmount : Float
  fundsRequiredForAutoRenew : Float
  deriving Repr

namespace Balance

def layout : Layout Balance Balance :=
  mk <$> .required "currency" currency .text
    <*> .required "available_balance" availableBalance .float
    <*> .required "account_balance" accountBalance .float
    <*> .required "earned_amount" earnedAmount .float
    <*> .required "withdrawable_amount" withdrawableAmount .float
    <*> .required "funds_required_for_auto_renew" fundsRequiredForAutoRenew .float

end Balance

/-- What may be done with domains of a top-level domain. -/
inductive TldOperation
  | register
  | renew
  | transfer
  deriving DecidableEq, Repr

namespace TldOperation

def name : TldOperation → String
  | register => "register"
  | renew => "renew"
  | transfer => "transfer"

def all : List TldOperation := [register, renew, transfer]

def codec : Codec TldOperation := .oneOf name all

end TldOperation

/-- A top-level domain as the registrar offers it. -/
structure Tld where
  name : String
  nonRealTime : Bool
  minRegisterYears : Nat
  maxRegisterYears : Nat
  minRenewYears : Nat
  maxRenewYears : Nat
  minTransferYears : Nat
  maxTransferYears : Nat
  isApiRegisterable : Bool
  isApiRenewable : Bool
  isApiTransferable : Bool
  isEppRequired : Bool
  tldType : String
  category : String
  deriving DecidableEq, Repr

namespace Tld

def supports (t : Tld) : TldOperation → Bool
  | .register => t.isApiRegisterable
  | .renew => t.isApiRenewable
  | .transfer => t.isApiTransferable

def layout : Layout Tld Tld :=
  mk <$> .required "name" name .text
    <*> .required "non_real_time" nonRealTime .bool
    <*> .required "min_register_years" minRegisterYears .word32
    <*> .required "max_register_years" maxRegisterYears .word32
    <*> .required "min_renew_years" minRenewYears .word32
    <*> .required "max_renew_years" maxRenewYears .word32
    <*> .required "min_transfer_years" minTransferYears .word32
    <*> .required "max_transfer_years" maxTransferYears .word32
    <*> .required "is_api_registerable" isApiRegisterable .bool
    <*> .required "is_api_renewable" isApiRenewable .bool
    <*> .required "is_api_transferable" isApiTransferable .bool
    <*> .required "is_epp_required" isEppRequired .bool
    <*> .required "tld_type" tldType .text
    <*> .required "category" category .text

end Tld

/-- The kinds of products that have prices. -/
inductive ProductType
  | domain
  | sslCertificate
  | whoisGuard
  deriving DecidableEq, Repr

namespace ProductType

/-- The name in requests. -/
def text : ProductType → String
  | domain => "DOMAIN"
  | sslCertificate => "SSLCERTIFICATE"
  | whoisGuard => "WHOISGUARD"

/-- The name in documents. -/
def name : ProductType → String
  | domain => "Domain"
  | sslCertificate => "SslCertificate"
  | whoisGuard => "WhoisGuard"

def codec : Codec ProductType := .oneOf name [domain, sslCertificate, whoisGuard]

end ProductType

/-- The price of a product for an action and a duration. -/
structure PricingEntry where
  category : String
  product : String
  duration : Nat
  durationType : String
  price : Float
  regularPrice : Float
  yourPrice : Float
  currency : String
  additionalCost : Float
  deriving Repr

namespace PricingEntry

def layout : Layout PricingEntry PricingEntry :=
  mk <$> .required "category" category .text
    <*> .required "product" product .text
    <*> .required "duration" duration .word32
    <*> .required "duration_type" durationType .text
    <*> .required "price" price .float
    <*> .required "regular_price" regularPrice .float
    <*> .required "your_price" yourPrice .float
    <*> .required "currency" currency .text
    <*> .required "additional_cost" additionalCost .float

end PricingEntry

end Registrar
