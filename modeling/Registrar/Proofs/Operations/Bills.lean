import Registrar.Operations.Account
import Registrar.Operations.Certificates
import Registrar.Operations.Domains
import Registrar.Operations.Privacy
import Registrar.Proofs.Wire.Amounts

/-!
# The amounts of money in an answer

A `Bill` says where the answer to a command carries amounts of money. Its fields are read a second
time, to the texts of the amounts as they are; all other fields are read in the same way. Where the
record is read, its amounts are what these texts say, one by one, and where only the texts can be
read, there is one that says nothing (`mirrored`).
-/

namespace Registrar

open Xml Wire

/-- The result of a command, with the amounts in it and their texts. -/
structure Bill where
  command : String
  results : List String
  Value : Type
  fields : Fields Value
  /-- The amounts, in the order of their fields. -/
  amounts : Value → List Float
  /-- The same fields, of which the amounts are left as they are written. -/
  texts : Fields (List (Option String))
  mirrored : texts.Mirrors (fun ts o => Each Told ts (o.map amounts)) fields

namespace Bill

/-- A single amount. -/
theorem each_one {t : Option String} {o : Option Float} (h : Told t o) :
    Each Told [t] (o.map fun x => [x]) := by
  cases o with
  | none => exact ⟨t, List.mem_cons_self, h⟩
  | some x => exact List.Forall₂.cons h .nil

open Fields

/-! ## A balance -/

def balance : Bill where
  command := "namecheap.users.getBalances"
  results := ["UserGetBalancesResult"]
  Value := Balance
  fields := Balance.fields
  amounts b := [b.availableBalance, b.accountBalance, b.earnedAmount, b.withdrawableAmount,
    b.fundsRequiredForAutoRenew]
  texts := (fun _ available account earned withdrawable funds =>
      [available, account, earned, withdrawable, funds]) <$>
    textOr ["Currency"]
    <*> amountText ["AvailableBalance"]
    <*> amountText ["AccountBalance"]
    <*> amountText ["EarnedAmount"]
    <*> amountText ["WithdrawableAmount"]
    <*> amountText ["FundsRequiredForAutoRenew"]
  mirrored := by
    unfold Balance.fields
    refine .seq (.seq (.seq (.seq (.seq (.map (mirrors_same _) ?_) (mirrors_amountOr _))
      (mirrors_amountOr _)) (mirrors_amountOr _)) (mirrors_amountOr _)) (mirrors_amountOr _)
    rintro currency _ rfl t₁ o₁ h₁ t₂ o₂ h₂ t₃ o₃ h₃ t₄ o₄ h₄ t₅ o₅ h₅
    have each := Each.cons h₁ (.cons h₂ (.cons h₃ (.cons h₄ (each_one h₅))))
    cases o₁ <;> cases o₂ <;> cases o₃ <;> cases o₄ <;> cases o₅ <;> exact each

/-! ## What was charged -/

def registration : Bill where
  command := "namecheap.domains.create"
  results := ["DomainCreateResult"]
  Value := DomainRegistration
  fields := DomainRegistration.fields
  amounts r := [r.chargedAmount]
  texts := (fun _ _ charged _ _ _ _ _ => [charged]) <$> requiredAttribute ["Domain"] plainText
    <*> flagOr false ["Registered"]
    <*> amountText ["ChargedAmount"]
    <*> identifierOr ["DomainID"]
    <*> identifierOr ["OrderID"]
    <*> identifierOr ["TransactionID"]
    <*> flagOr false ["WhoisguardEnable"]
    <*> flagOr false ["NonRealTimeDomain"]
  mirrored := by
    unfold DomainRegistration.fields
    refine .seq (.seq (.seq (.seq (.seq (.seq (.seq (.map (mirrors_same _) ?_) (mirrors_same _))
      (mirrors_amountOr _)) (mirrors_same _)) (mirrors_same _)) (mirrors_same _)) (mirrors_same _))
      (mirrors_same _)
    rintro domain _ rfl registered _ rfl t o h id _ rfl order _ rfl transaction _ rfl guarded _ rfl
      slow _ rfl
    have each := each_one h
    cases o <;> exact each

def renewal : Bill where
  command := "namecheap.domains.renew"
  results := ["DomainRenewResult"]
  Value := DomainRenewal
  fields := DomainRenewal.fields
  amounts r := [r.chargedAmount]
  texts := (fun _ _ _ charged _ _ _ => [charged]) <$> requiredAttribute ["DomainName"] plainText
    <*> identifierOr ["DomainID"]
    <*> flagOr false ["Renew"]
    <*> amountText ["ChargedAmount"]
    <*> identifierOr ["OrderID"]
    <*> identifierOr ["TransactionID"]
    <*> (optionalChild ["DomainDetails"] termFields.reader).orElse ("", "")
  mirrored := by
    unfold DomainRenewal.fields
    refine .seq (.seq (.seq (.seq (.seq (.seq (.map (mirrors_same _) ?_) (mirrors_same _))
      (mirrors_same _)) (mirrors_amountOr _)) (mirrors_same _)) (mirrors_same _)) (mirrors_same _)
    rintro domain _ rfl id _ rfl renewed _ rfl t o h order _ rfl transaction _ rfl term _ rfl
    have each := each_one h
    cases o <;> exact each

def purchase : Bill where
  command := "namecheap.ssl.create"
  results := ["SSLCreateResult"]
  Value := Purchase
  fields := Purchase.fields
  amounts p := [p.chargedAmount]
  texts := (fun _ _ _ charged _ _ => [charged]) <$> flagOr false ["IsSuccess"]
    <*> identifierOr ["OrderId", "OrderID"]
    <*> identifierOr ["TransactionId", "TransactionID"]
    <*> amountText ["ChargedAmount"]
    <*> numberOr Decimal.max64 ["SSLCertificateID"]
    <*> optionalChild ["SSLCertificate"] (requiredAttribute ["CertificateID"] identifier).reader
  mirrored := by
    unfold Purchase.fields
    refine .seq (.seq (.seq (.seq (.seq (.map (mirrors_same _) ?_) (mirrors_same _))
      (mirrors_same _)) (mirrors_amountOr _)) (mirrors_same _)) (mirrors_same _)
    rintro done _ rfl order _ rfl transaction _ rfl t o h id _ rfl inner _ rfl
    have each := each_one h
    cases o <;> exact each

def privacyRenewal : Bill where
  command := "namecheap.whoisguard.renew"
  results := ["WhoisguardRenewResult"]
  Value := WhoisGuardRenewal
  fields := WhoisGuardRenewal.fields
  amounts r := [r.chargedAmount]
  texts := (fun _ _ charged _ _ => [charged]) <$> identifierOr ["WhoisguardID", "WhoisguardId"]
    <*> flagOr false ["Renew"]
    <*> amountText ["ChargedAmount"]
    <*> identifierOr ["OrderID", "OrderId"]
    <*> identifierOr ["TransactionID", "TransactionId"]
  mirrored := by
    unfold WhoisGuardRenewal.fields
    refine .seq (.seq (.seq (.seq (.map (mirrors_same _) ?_) (mirrors_same _))
      (mirrors_amountOr _)) (mirrors_same _)) (mirrors_same _)
    rintro id _ rfl renewed _ rfl t o h order _ rfl transaction _ rfl
    have each := each_one h
    cases o <;> exact each

/-! ## Prices -/

def entryAmounts (e : PricingEntry) : List Float :=
  [e.price, e.regularPrice, e.yourPrice, e.additionalCost]

def priceTexts : Fields (List (Option String)) :=
  (fun _ _ price regular yours _ additional => [price, regular, yours, additional]) <$>
    countOr ["Duration"]
    <*> textOr ["DurationType"]
    <*> amountText ["Price"]
    <*> amountText ["RegularPrice"]
    <*> amountText ["YourPrice"]
    <*> textOr ["Currency"]
    <*> amountText ["AdditionalCost"]

def productTexts : Fields (List (Option String)) :=
  (fun _ prices => prices.flatten) <$> textOr ["Name"] <*> children ["Price"] priceTexts.reader

def categoryTexts : Fields (List (Option String)) :=
  (fun _ products => products.flatten) <$> textOr ["Name"]
    <*> children ["Product"] productTexts.reader

def pricingTexts : Fields (List (Option String)) :=
  List.flatten <$> children ["ProductType"]
    (List.flatten <$> children ["ProductCategory"] categoryTexts.reader).reader

theorem mirrors_price :
    priceTexts.Mirrors (fun ts (o : Option (String → String → PricingEntry)) =>
      ∀ category product, Each Told ts (o.map fun price => entryAmounts (price category product)))
      priceFields := by
  unfold priceTexts priceFields
  refine .seq (.seq (.seq (.seq (.seq (.seq (.map (mirrors_same _) ?_) (mirrors_same _))
    (mirrors_amountOr _)) (mirrors_amountOr _)) (mirrors_amountOr _)) (mirrors_same _))
    (mirrors_amountOr _)
  rintro duration _ rfl durationType _ rfl t₁ o₁ h₁ t₂ o₂ h₂ t₃ o₃ h₃ currency _ rfl t₄ o₄ h₄
    category product
  have each := Each.cons h₁ (.cons h₂ (.cons h₃ (each_one h₄)))
  cases o₁ <;> cases o₂ <;> cases o₃ <;> cases o₄ <;> exact each

theorem mirrors_product :
    productTexts.Mirrors (fun ts (o : Option (String → List PricingEntry)) =>
      ∀ category, Each Told ts (o.map fun prices => (prices category).flatMap entryAmounts))
      productFields := by
  unfold productTexts productFields
  refine .seq (.map (mirrors_same _) ?_) (mirrors_children _ mirrors_price.reader)
  rintro product _ rfl tss o h category
  have each := h.flatten fun ts o here => here category product
  cases o with
  | none => exact each
  | some prices =>
    show Each Told tss.flatten
      (some ((prices.map fun price => price category product).flatMap entryAmounts))
    rw [List.flatMap_map]
    exact each

theorem mirrors_category :
    categoryTexts.Mirrors (fun ts (o : Option (List PricingEntry)) =>
      Each Told ts (o.map fun entries => entries.flatMap entryAmounts)) categoryFields := by
  unfold categoryTexts categoryFields
  refine .seq (.map (mirrors_same _) ?_) (mirrors_children _ mirrors_product.reader)
  rintro category _ rfl tss o h
  have each := h.flatten fun ts o here => here category
  cases o with
  | none => exact each
  | some products =>
    show Each Told tss.flatten
      (some ((products.flatMap fun prices => prices category).flatMap entryAmounts))
    rw [List.flatMap_assoc]
    exact each

theorem mirrors_pricing :
    pricingTexts.Mirrors (fun ts (o : Option (List PricingEntry)) =>
      Each Told ts (o.map fun entries => entries.flatMap entryAmounts)) pricingFields := by
  have flatten (tss : List (List (Option String))) (o : Option (List (List PricingEntry)))
      (h : Each (fun ts o => Each Told ts (o.map fun entries => entries.flatMap entryAmounts)) tss
        o) : Each Told tss.flatten
          ((o.map List.flatten).map fun entries => entries.flatMap entryAmounts) := by
    have each := h.flatten fun ts o here => here
    cases o with
    | none => exact each
    | some categories =>
      have parts : categories.flatten.flatMap entryAmounts =
          categories.flatMap fun entries => entries.flatMap entryAmounts :=
        (congrArg (List.flatMap entryAmounts) List.flatMap_id.symm).trans List.flatMap_assoc
      exact (congrArg (fun amounts => Each Told tss.flatten (some amounts)) parts).mpr each
  exact (mirrors_children _ ((mirrors_children _ mirrors_category.reader).map flatten).reader).map
    flatten

def pricing : Bill where
  command := "namecheap.users.getPricing"
  results := ["UserGetPricingResult"]
  Value := List PricingEntry
  fields := pricingFields
  amounts entries := entries.flatMap entryAmounts
  texts := pricingTexts
  mirrored := mirrors_pricing

end Bill

end Registrar
