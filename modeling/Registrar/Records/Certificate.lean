import Registrar.Document.Layout
import Registrar.Text.Blank
import Registrar.Text.Case
import Registrar.Time.Date

/-!
# Certificates

What the registrar reports on certificates, and what it is told to activate one.
`Certificate.covers` decides which certificates belong to a domain.
-/

namespace Registrar

open Document

/-- An entry of the account's list of certificates. -/
structure Certificate where
  certificateId : Nat
  /-- The name it was issued for; empty before its activation. -/
  hostName : String
  sslType : String
  purchaseDate : String
  expireDate : String
  activationExpireDate : String
  isExpired : Bool
  status : String
  years : Nat
  deriving DecidableEq, Repr

namespace Certificate

/-- Removes the wildcard labels at the front. -/
def dropWildcards : List Char → List Char
  | '*' :: '.' :: cs => dropWildcards cs
  | cs => cs

/-- Whether `host` is the domain or lies below it; letter case does not matter. -/
def hostCovers (host domain : String) : Bool :=
  let host := (dropWildcards host.toList).map Char.toLower
  let domain := (Text.trimChars domain.toList).map Char.toLower
  !host.isEmpty && !domain.isEmpty && (host == domain || ('.' :: domain).isSuffixOf host)

/-- Whether a certificate was issued for a domain or for a name below it. -/
def covers (c : Certificate) (domain : String) : Bool :=
  hostCovers c.hostName domain

def expiresOn (c : Certificate) : Option Date := Date.read? c.expireDate

def layout : Layout Certificate Certificate :=
  mk <$> .required "certificate_id" certificateId .word64
    <*> .required "host_name" hostName .text
    <*> .required "ssl_type" sslType .text
    <*> .required "purchase_date" purchaseDate .text
    <*> .required "expire_date" expireDate .text
    <*> .required "activation_expire_date" activationExpireDate .text
    <*> .required "is_expired" isExpired .bool
    <*> .required "status" status .text
    <*> .required "years" years .word32

end Certificate

/-- The outcome of a purchase. -/
structure CertificateOrder where
  certificateId : Nat
  orderId : Nat
  transactionId : Nat
  chargedAmount : Float
  deriving Repr

namespace CertificateOrder

def layout : Layout CertificateOrder CertificateOrder :=
  mk <$> .required "certificate_id" certificateId .word64
    <*> .required "order_id" orderId .word64
    <*> .required "transaction_id" transactionId .word64
    <*> .required "charged_amount" chargedAmount .float

end CertificateOrder

/-- All that the registrar reports on one certificate. -/
structure CertificateDetails where
  certificateId : Nat
  hostName : String
  sslType : String
  status : String
  statusDescription : String
  expireDate : String
  years : Nat
  provider : String
  approverEmails : List String
  deriving DecidableEq, Repr

namespace CertificateDetails

def layout : Layout CertificateDetails CertificateDetails :=
  mk <$> .required "certificate_id" certificateId .word64
    <*> .required "host_name" hostName .text
    <*> .required "ssl_type" sslType .text
    <*> .required "status" status .text
    <*> .required "status_description" statusDescription .text
    <*> .required "expire_date" expireDate .text
    <*> .required "years" years .word32
    <*> .required "provider" provider .text
    <*> .required "approver_emails" approverEmails (.list .text)

end CertificateDetails

/-- What activates a certificate. An approver proves control over the domain by mail, unless it is
proved by a page or by a name record. -/
structure ActivationRequest where
  certificateId : Nat
  csr : String
  domainName : String
  approverEmail : String
  httpValidation : Bool
  dnsValidation : Bool
  webServerType : Option String
  deriving DecidableEq, Repr

namespace ActivationRequest

def layout : Layout ActivationRequest ActivationRequest :=
  mk <$> .required "certificate_id" certificateId .word64
    <*> .required "csr" csr .text
    <*> .required "domain_name" domainName .text
    <*> .required "approver_email" approverEmail .text
    <*> .required "http_validation" httpValidation .bool
    <*> .required "dns_validation" dnsValidation .bool
    <*> .optional "web_server_type" webServerType .text

end ActivationRequest

end Registrar
