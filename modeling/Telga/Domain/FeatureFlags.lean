import Mathlib.Data.List.Basic

namespace Telga.Domain

/-- Every capability that can be gated. -/
inductive FeatureFlag
  | airtimeVending
  | moneyLive
  | trainingMode
  | productElectricity
  | productData
  | wallet
  | paymentsAcceptance
  | cashInOut
  | lending
  | remittance
  | billsGeneral
  | vendingOffline
  | settlementIndependent
  | fundingSubmission
  | cardSimulated
  | depositsTraining
  | registrationSelfService
  | reversalMerchantInitiated
  | transferShopToShop
  | depositChapa
deriving DecidableEq, Repr

/-- An assignment of on and off to the flags. -/
abbrev Flags := FeatureFlag → Bool

/-- What is on in this build. -/
def featureFlags : Flags
  | .airtimeVending | .trainingMode | .cardSimulated | .depositsTraining
  | .registrationSelfService | .reversalMerchantInitiated | .transferShopToShop
  | .depositChapa => true
  | _ => false

/-- Route prefixes that belong to a gated capability. -/
def featureRoutes : List (String × FeatureFlag) :=
  [("/sell", .airtimeVending),
   ("/data", .productData),
   ("/electricity", .productElectricity),
   ("/bills", .billsGeneral),
   ("/wallet", .wallet),
   ("/cash", .cashInOut),
   ("/lending", .lending),
   ("/remittance", .remittance),
   ("/settlement", .settlementIndependent),
   ("/funding", .fundingSubmission),
   ("/pay", .cardSimulated),
   ("/vouchers/data", .productData),
   ("/api/sales", .airtimeVending),
   ("/api/funding", .fundingSubmission),
   ("/api/wallet", .wallet),
   ("/api/training/pay/deposits", .depositsTraining),
   ("/register", .registrationSelfService),
   ("/reverse", .reversalMerchantInitiated),
   ("/transfer", .transferShopToShop)]

/-- Whether a path begins with a text. -/
def startsWith (path text : List Char) : Bool :=
  text.isPrefixOf path

/-- A path under a prefix, on a segment boundary. -/
def underPrefix (path route : List Char) : Bool :=
  path = route ∨ startsWith path (route ++ ['/']) ∨ startsWith path (route ++ ['?'])

/-- The flag governing a path, if it is gated: the longest prefix wins, the earlier of two. -/
def featureForPath (path : List Char) : Option FeatureFlag :=
  (featureRoutes.foldl (fun best route =>
    if underPrefix path route.1.toList ∧ best.1 < route.1.length then
      (route.1.length, some route.2)
    else best) (0, none)).2

/-- The flag that refuses a path, if one does. -/
def routeBlockedBy (flags : Flags) (path : List Char) : Option FeatureFlag :=
  match featureForPath path with
  | none => none
  | some flag => if flags flag then none else some flag

end Telga.Domain
