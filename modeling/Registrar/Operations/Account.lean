import Registrar.Client
import Registrar.Records.Account

/-!
# Money, catalogue and prices

The balance of the account, the top-level domains that the registrar offers and its prices.
-/

namespace Registrar

open Xml Wire

/-! ## Payloads -/

def Balance.fields : Fields Balance :=
  mk <$> textOr ["Currency"]
    <*> amountOr ["AvailableBalance"]
    <*> amountOr ["AccountBalance"]
    <*> amountOr ["EarnedAmount"]
    <*> amountOr ["WithdrawableAmount"]
    <*> amountOr ["FundsRequiredForAutoRenew"]

/-- A number of 32 bits, zero if it is absent or empty. -/
def countOr (names : List String) : Fields Nat :=
  (·.getD 0) <$> numberOr Decimal.max32 names

def Tld.fields : Fields Tld :=
  mk <$> requiredAttribute ["Name"] plainText
    <*> flagOr false ["NonRealTime"]
    <*> countOr ["MinRegisterYears"]
    <*> countOr ["MaxRegisterYears"]
    <*> countOr ["MinRenewYears"]
    <*> countOr ["MaxRenewYears"]
    <*> countOr ["MinTransferYears"]
    <*> countOr ["MaxTransferYears"]
    <*> flagOr false ["IsApiRegisterable"]
    <*> flagOr false ["IsApiRenewable"]
    <*> flagOr false ["IsApiTransferable"]
    <*> flagOr false ["IsEppRequired"]
    <*> textOr ["Type"]
    <*> textOr ["Category"]

def tldListFields : Fields (List Tld) :=
  requiredChild ["DomainsGetTldListResult", "Tlds"] (children ["Tld"] Tld.fields.reader).reader

/-- A price, whose category and product are known from the elements around it. -/
def priceFields : Fields (String → String → PricingEntry) :=
  (fun duration durationType price regular yours currency additional category product =>
      ⟨category, product, duration, durationType, price, regular, yours, currency, additional⟩) <$>
    countOr ["Duration"]
    <*> textOr ["DurationType"]
    <*> amountOr ["Price"]
    <*> amountOr ["RegularPrice"]
    <*> amountOr ["YourPrice"]
    <*> textOr ["Currency"]
    <*> amountOr ["AdditionalCost"]

def productFields : Fields (String → List PricingEntry) :=
  (fun product prices category => prices.map fun price => price category product) <$>
    textOr ["Name"] <*> children ["Price"] priceFields.reader

def categoryFields : Fields (List PricingEntry) :=
  (fun category products => products.flatMap fun prices => prices category) <$>
    textOr ["Name"] <*> children ["Product"] productFields.reader

/-- All prices of an answer, category by category. -/
def pricingFields : Fields (List PricingEntry) :=
  List.flatten <$> children ["ProductType"]
    (List.flatten <$> children ["ProductCategory"] categoryFields.reader).reader

/-! ## Commands -/

/-- The prices of a kind of product, narrowed to a category and an action that are not blank. -/
def Command.pricing (product : ProductType) (category action : Option String) : Command :=
  let given (s : Option String) := (s.map Text.trim).filter fun value => !value.isEmpty
  (((new "namecheap.users.getPricing").set "ProductType" product.text).setSome "ProductCategory"
    (given category)).setSome "ActionName" ((given action).map Text.upper)

/-! ## Operations -/

/-- The name of a top-level domain without blanks around it and without points before it. -/
def Tld.cleanName (s : String) : String :=
  String.ofList ((Text.trimChars s.toList).dropWhile (· == '.'))

namespace Client

def getBalances (c : Client) : Operation Balance :=
  c.run (.new "namecheap.users.getBalances")
    (requiredChild ["UserGetBalancesResult"] Balance.fields.reader)

/-- Whether the account has an amount available, which must be a number from zero on. -/
def hasSufficientBalance (c : Client) (amount : Float) : Operation Bool := do
  if !amount.isFinite || amount < 0.0 then
    refuse ("amount must be a non-negative number, got " ++ Decimal.plain.text amount)
  else
    return amount ≤ (← c.getBalances).availableBalance

def listTlds (c : Client) : Operation (List Tld) :=
  c.run (.new "namecheap.domains.getTldList") tldListFields

/-- The top-level domain of a name, in any letter case and with or without a point before it. -/
def getTld (c : Client) (name : String) : Operation Tld := do
  let wanted := Tld.cleanName name
  if wanted.isEmpty then refuse "TLD name must not be empty"
  else
    match (← c.listTlds).find? fun t => Text.sameFolded (Tld.cleanName t.name) wanted with
    | some t => return t
    | none => throw (.absent ("TLD " ++ wanted ++ " is not offered"))

/-- Whether something may be done with the domains of a top-level domain; not so if the registrar
does not offer it. -/
def isTldSupported (c : Client) (name : String) (operation : TldOperation) : Operation Bool :=
  falseIfAbsent do return (← c.getTld name).supports operation

def getPricing (c : Client) (product : ProductType) (category action : Option String) :
    Operation (List PricingEntry) :=
  c.run (.pricing product category action)
    (requiredChild ["UserGetPricingResult"] pricingFields.reader)

/-- The prices of a kind of product for an action. -/
def pricingFor (c : Client) (product : ProductType) (action : String) :
    Operation (List PricingEntry) :=
  c.getPricing product none (some action)

end Client

end Registrar
