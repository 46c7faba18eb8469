import Telga.Proofs.Visits

namespace Telga.Proofs.IssuedPins
open Domain Persistence Application Library Visits

/-- Whose session a step's request comes with. -/
def actor (options : PosServerOptions) (taken : ServerTaken) : Option AuthContext :=
  ofActor (fun _ visit => cookieContext options taken.before.store visit.request.session) taken

/-- An operator of a role whose PIN was issued by somebody else, and not changed since. -/
def Flagged (db : PosServerDb) (role : ActorRole) (userId : MerchantUserId) : Prop :=
  ∃ row ∈ db.merchantUsers, row.id = userId ∧ row.role = role ∧ row.mustChangePin = true

/-- What a step leaves as it was: the sales, the balances, the transfers and the deposit orders. No
order is created, and none is authorized. -/
structure Unspent (db db' : PosServerDb) : Prop where
  sales : db'.transactions = db.transactions
  entries : db'.ledgerEntries = db.ledgerEntries
  transfers : db'.shopTransfers = db.shopTransfers
  deposits : db'.topupOrders = db.topupOrders
  orders : ∀ row ∈ db'.pendingOrders, ∃ old ∈ db.pendingOrders,
    row.id = old.id ∧ (row.status = .authorized → old.status = .authorized)

/-- No request of an operator of a role spends while its PIN is still the issued one. -/
def Spared (options : PosServerOptions) (role : ActorRole) (past : List ServerTaken) : Prop :=
  ∀ taken ∈ past, ∀ context ∈ actor options taken,
    Flagged taken.before.store role context.userId →
    Unspent taken.before.store taken.after.store

/-- What is promised of a role: nothing is spent under an issued PIN, in any run of any server, and
the PIN may be changed. -/
structure Guarded (role : ActorRole) : Prop where
  spared : ∀ options past w, Run JustStarted (ServerStep options) past w →
    Spared options role past
  changes : ∀ route ∈ routes, route.handler = .postChangePin →
    ∀ permission ∈ route.permission, authorize role permission = true

/-- The shop, its one operator of a role and with an issued PIN. -/
def issuedShop (role : ActorRole) : PosServerDb :=
  { fundedShop with
    merchantUsers :=
      [{ id := "cashier", merchantId := "shop", active := true, lockedUntil := none, role
         pin := ⟨"1234", "", ""⟩, mustChangePin := true }] }

/-- Ten birr of airtime sold through the API, up to where the sale is opened. -/
def issuedSale : List (Event ServerInput Visit) :=
  visits [saleCall] [(0, 1), (0, 2), (0, 3), (0, 4), (0, 5), (0, 6), (0, 7), (0, 8), (0, 9)]

theorem issuedSale_run (role : ActorRole) :
    Run JustStarted (ServerStep (plainServer featureFlags))
      (visitsPlayed featureFlags (issuedShop role) issuedSale).1
      (visitsPlayed featureFlags (issuedShop role) issuedSale).2 :=
  visitsPlayed_run rfl (by decide)

/-- A sale is opened in the last of the steps. -/
theorem issuedSale_opens (may : authorize role .posCreateSale = true) :
    ∃ taken older, (visitsPlayed featureFlags (issuedShop role) issuedSale).1 = taken :: older ∧
      (actor (plainServer featureFlags) taken).map (·.userId) = some "cashier" ∧
      (taken.before.store.merchantUsers.all fun row =>
        row.id = "cashier" ∧ row.role = role ∧ row.mustChangePin) = true ∧
      taken.before.store.merchantUsers.length = 1 ∧
      taken.before.store.transactions.length < taken.after.store.transactions.length := by
  refine ⟨_, _, rfl, ?_⟩
  cases role with
  | merchantOperator | merchantOwner | admin => decide +kernel
  | _ => exact absurd may (by decide)

/-- Whoever may sell, sells under an issued PIN. -/
theorem seller_unguarded (may : authorize role .posCreateSale = true) : ¬ Guarded role := by
  intro guarded
  obtain ⟨taken, older, split, acts, flagged, only, opens⟩ := issuedSale_opens may
  have mem : taken ∈ (visitsPlayed featureFlags (issuedShop role) issuedSale).1 := by
    rw [split]
    exact List.mem_cons_self
  obtain ⟨context, acts, own⟩ := Option.map_eq_some_iff.mp acts
  have issued : Flagged taken.before.store role context.userId := by
    obtain ⟨row, users⟩ := List.length_eq_one_iff.mp only
    rw [users] at flagged
    refine ⟨row, by rw [users]; exact List.mem_singleton_self row, ?_⟩
    rw [own]
    simpa using flagged
  have unspent := guarded.spared _ _ _ (issuedSale_run role) taken mem context acts issued
  rw [unspent.sales] at opens
  exact Nat.lt_irrefl _ opens

/-- Whoever may not sell, may not change an issued PIN. -/
theorem other_unguarded (may : authorize role .posCreateSale = false) : ¬ Guarded role := by
  intro guarded
  have changes : authorize role .posManageSettings = true :=
    guarded.changes
      { method := "POST", pattern := "/api/training/operators/pin",
        permission := some .posManageSettings, write := true, sale := true,
        handler := .postChangePin }
      (by decide) rfl _ rfl
  cases role with
  | merchantOperator | merchantOwner | admin => exact absurd may (by decide)
  | _ => exact absurd changes (by decide)

/-- What is promised of an issued PIN is kept for no role. -/
theorem issued_unguarded (role : ActorRole) : ¬ Guarded role := by
  cases may : authorize role .posCreateSale with
  | true => exact seller_unguarded may
  | false => exact other_unguarded may

/-- An owner sells under the PIN it was issued. -/
theorem owner_unguarded : ¬ ∀ role, Guarded role :=
  fun guarded => seller_unguarded (by decide) (guarded .merchantOwner)

end Telga.Proofs.IssuedPins
