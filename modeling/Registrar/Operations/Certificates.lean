import Registrar.Client
import Registrar.Records.Certificate

/-!
# Certificates of an account

Listing, buying, activating and reissuing certificates.
-/

namespace Registrar

open Xml Wire

/-! ## Payloads -/

def Certificate.fields : Fields Certificate :=
  (fun id host type purchased expires activates expired status years =>
      ⟨id, host, type, purchased, expires, activates, expired, status, years.getD 0⟩) <$>
    requiredAttribute ["CertificateID"] identifier
    <*> textOr ["HostName"]
    <*> textOr ["SSLType"]
    <*> textOr ["PurchaseDate"]
    <*> textOr ["ExpireDate"]
    <*> textOr ["ActivationExpireDate"]
    <*> flagOr false ["IsExpiredYN"]
    <*> textOr ["Status"]
    <*> numberOr Decimal.max32 ["Years"]

def certificateListFields : Fields (List Certificate) :=
  requiredChild ["SSLGetListResult"] (children ["SSL"] Certificate.fields.reader).reader

/-- The answer to a purchase. -/
structure Purchase where
  isDone : Bool
  orderId : Nat
  transactionId : Nat
  chargedAmount : Float
  /-- The number of the certificate, from the answer itself or from the certificate in it. -/
  certificateId : Option Nat
  deriving Repr

def Purchase.fields : Fields Purchase :=
  (fun done order transaction amount id inner =>
      ⟨done, order, transaction, amount, id.or inner⟩) <$>
    flagOr false ["IsSuccess"]
    <*> identifierOr ["OrderId", "OrderID"]
    <*> identifierOr ["TransactionId", "TransactionID"]
    <*> amountOr ["ChargedAmount"]
    <*> numberOr Decimal.max64 ["SSLCertificateID"]
    <*> optionalChild ["SSLCertificate"] (requiredAttribute ["CertificateID"] identifier).reader

/-- The name of a provider, as an attribute or else as an element. -/
def providerFields : Fields (Option String) :=
  (fun outer inner => outer.or inner) <$> optionalAttribute ["Name"] plainText
    <*> optionalChild ["Name"] textReader

/-- The details of a certificate; `requested` is the number that was asked for. -/
def CertificateDetails.fields (requested : Nat) : Fields CertificateDetails :=
  (fun id host type status description expires years provider emails =>
      ⟨id.getD requested, host, type, status, description, expires, years.getD 0,
        provider.join.getD "", emails⟩) <$>
    numberOr Decimal.max64 ["CertificateID"]
    <*> textOr ["HostName"]
    <*> textOr ["SSLType", "Type"]
    <*> textOr ["Status"]
    <*> textOr ["StatusDescription"]
    <*> textOr ["ExpireDate", "Expires"]
    <*> numberOr Decimal.max32 ["Years"]
    <*> optionalChild ["Provider"] providerFields.reader
    <*> (optionalChild ["ApproverEmailList"] (texts ["Email"]).reader).orElse []

/-- Whether a command on a certificate succeeded, from the result with one of these names. -/
def succeededFields (results : List String) : Fields Bool :=
  requiredChild results (flagOr false ["IsSuccess"]).reader

/-! ## Commands -/

namespace Command

def onCertificate (name : String) (id : Nat) : Command :=
  (new name).set "CertificateID" (Decimal.wholeText id)

/-- A purchase; `names` are the further names that the certificate is to cover. -/
def createCertificate (type : String) (years : Nat) (names : Option Nat) : Command :=
  (((new "namecheap.ssl.create").set "Type" (Text.trim type)).set "Years"
      (Decimal.wholeText years)).setSome "SANStoAdd"
    ((names.filter (0 < ·)).map Decimal.wholeText)

/-- A trimmed text, if it is not blank. -/
def unlessBlank (s : String) : Option String :=
  if Text.isBlankText s then none else some (Text.trim s)

def activateCertificate (r : ActivationRequest) : Command :=
  onCertificate "namecheap.ssl.activate" r.certificateId
    |>.set "CSR" r.csr
    |>.setSome "DomainName" (unlessBlank r.domainName)
    |>.setSome "ApproverEmail" (unlessBlank r.approverEmail)
    |>.setSome "HTTPDCValidation" (if r.httpValidation then some "TRUE" else none)
    |>.setSome "DNSDCValidation" (if r.dnsValidation then some "TRUE" else none)
    |>.setSome "WebServerType" r.webServerType

end Command

/-! ## Operations -/

namespace Client

def listCertificates (c : Client) : Operation (List Certificate) :=
  c.run (.new "namecheap.ssl.getList") certificateListFields

/-- The certificates for a domain and the names below it. -/
def certificatesForDomain (c : Client) (domain : String) : Operation (List Certificate) := do
  requireNonEmpty "domain" domain
  return (← c.listCertificates).filter (·.covers domain)

def certificateExists (c : Client) (domain : String) : Operation Bool := do
  return !(← c.certificatesForDomain domain).isEmpty

/-- Buys a certificate. -/
def createCertificate (c : Client) (type : String) (years : Nat) (names : Option Nat) :
    Operation CertificateOrder := do
  requireNonEmpty "certificate_type" type
  requirePositive "years" years
  let command := Command.createCertificate type years names
  let done ← c.run command (requiredChild ["SSLCreateResult"] Purchase.fields.reader)
  requireDone command done.isDone "certificate was not purchased"
  match done.certificateId with
  | some id => return ⟨id, done.orderId, done.transactionId, done.chargedAmount⟩
  | none => throw (.protocolError "SSLCreateResult carries no certificate id")

/-- Activates a certificate that was bought. -/
def activateCertificate (c : Client) (r : ActivationRequest) : Operation Unit := do
  requireNonEmpty "csr" r.csr
  if !(r.httpValidation || r.dnsValidation) then
    requireNonEmpty "approver_email" r.approverEmail
  let command := Command.activateCertificate r
  let done ← c.run command (succeededFields ["SSLActivateResult"])
  requireDone command done
    ("certificate " ++ Decimal.wholeText r.certificateId ++ " was not activated")

def getCertificate (c : Client) (id : Nat) : Operation CertificateDetails :=
  c.run (.onCertificate "namecheap.ssl.getInfo" id)
    (requiredChild ["SSLGetInfoResult"] (CertificateDetails.fields id).reader)

def resendApprovalEmail (c : Client) (id : Nat) : Operation Unit := do
  let command := Command.onCertificate "namecheap.ssl.resendApproverEmail" id
  let done ← c.run command (succeededFields ["SSLResendApproverEmailResult", "SSLResendResult"])
  requireDone command done "approval email was not resent"

def reissueCertificate (c : Client) (id : Nat) (csr approverEmail : String) : Operation Unit := do
  requireNonEmpty "csr" csr
  requireNonEmpty "approver_email" approverEmail
  let command := ((Command.onCertificate "namecheap.ssl.reissue" id).set "CSR" csr).set
    "ApproverEmail" (Text.trim approverEmail)
  let done ← c.run command (succeededFields ["SSLReissueResult"])
  requireDone command done ("certificate " ++ Decimal.wholeText id ++ " was not reissued")

end Client

end Registrar
