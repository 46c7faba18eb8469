import Telga.Library.Pool
import Telga.Persistence.TopupOrders

namespace Telga.Persistence.ReferenceCalls
open Domain Library

/-- The reference a shop has, if it has one. -/
def depositReferenceOf (db : DepositDb) (merchantId : MerchantId) : Option String :=
  (db.depositReferences.find? fun shop => shop.1 = merchantId).map (·.2)

/-- Set a shop's reference where it has none, under the index: no other shop has it. How many rows
that was is not told. -/
def setDepositReference (db : DepositDb) (merchantId : MerchantId) (reference : String) :
    Except InsertFault DepositDb := do
  if Present (·.id) merchantId db.merchants ∧ depositReferenceOf db merchantId = none then
    demand (∀ shop ∈ db.depositReferences, shop.2 ≠ reference) .unique
    return { db with depositReferences := db.depositReferences ++ [(merchantId, reference)] }
  else return db

/-- Who a reference is drawn for: a shop that may have one already, or a new order. -/
inductive Subject
  | shop (merchantId : MerchantId)
  | order (input : NewTopupOrder)

/-- What a call throws: the shop is unknown, no draw stood, the generator threw, or a statement
failed for another reason. -/
inductive CallFault
  | unknownMerchant
  | referenceExhausted
  | generator
  | refused (fault : Fault)
deriving DecidableEq

/-- How far a call is: it reads the shop's row, draws, or is over. -/
inductive Stage
  | reading
  | drawing (drawn : Nat)
  | returned (reference : String)
  | threw (fault : CallFault)
deriving DecidableEq

/-- A call of `ensureDepositReference` or `saveTopupOrder`, or any other work on the database. -/
inductive Process
  | call (subject : Subject) (stage : Stage)
  | elsewhere (work : DepositDb → DepositDb)

/-- What a call meets in its next step: what the generator gives, unless it throws, and what
breaks the statement, if anything does. -/
structure CallInput where
  drawn : Option String
  broken : Option Fault
deriving DecidableEq

/-- The statement that stores a reference. -/
def store (db : DepositDb) (subject : Subject) (reference : String) :
    Except InsertFault DepositDb :=
  match subject with
  | .shop merchantId => setDepositReference db merchantId reference
  | .order input => insertTopupOrder db input reference

def attempt (turn : CallInput) (db : DepositDb) (subject : Subject) (reference : String) :
    Except InsertFault DepositDb :=
  match turn.broken with
  | some fault => .error (.other fault)
  | none => store db subject reference

/-- Whether a shop has a reference already. -/
def readMerchant (turn : CallInput) (db : DepositDb) (merchantId : MerchantId) : Stage :=
  match turn.broken with
  | some fault => .threw (.refused fault)
  | none =>
    if Present (·.id) merchantId db.merchants then
      match depositReferenceOf db merchantId with
      | some reference => .returned reference
      | none => .drawing 0
    else .threw .unknownMerchant

/-- One turn of a loop: draw, and try to store. Any unique column's refusal is worth another
draw. -/
def draw (normalize : String → String) (turn : CallInput) (db : DepositDb) (subject : Subject)
    (drawn : Nat) : DepositDb × Stage :=
  match turn.drawn with
  | none => (db, .threw .generator)
  | some raw =>
    match attempt turn db subject (normalize raw) with
    | .ok db => (db, .returned (normalize raw))
    | .error .unique =>
      (db, if drawn + 1 < referenceAttempts then .drawing (drawn + 1)
        else .threw .referenceExhausted)
    | .error (.other fault) => (db, .threw (.refused fault))

/-- A call's next step. Nothing is locked between two of them. -/
def advance (normalize : String → String) (turn : CallInput) (db : DepositDb) :
    Process → DepositDb × Process
  | .call (.shop merchantId) .reading =>
    (db, .call (.shop merchantId) (readMerchant turn db merchantId))
  | .call subject (.drawing drawn) =>
    ((draw normalize turn db subject drawn).1,
      .call subject (draw normalize turn db subject drawn).2)
  | .call subject stage => (db, .call subject stage)
  | .elsewhere work => (work db, .elsewhere work)

/-- A call that has returned or thrown. -/
def isOver : Process → Bool
  | .call _ (.returned _) | .call _ (.threw _) => true
  | _ => false

/-- The calls as processes on one database. -/
def calls (normalize : String → String) : Machine DepositDb CallInput Process where
  advance := advance normalize
  finished process := isOver process = true

/-- What the rest of the program leaves alone: the shops, their references, and the ids and
references of orders. -/
structure Leaves (work : DepositDb → DepositDb) : Prop where
  shops : ∀ db merchantId, Present (·.id) merchantId db.merchants →
    Present (·.id) merchantId (work db).merchants
  references : ∀ db, (work db).depositReferences = db.depositReferences
  orders : ∀ db, (work db).topupOrders.map (fun row => (row.id, row.reference)) =
    db.topupOrders.map fun row => (row.id, row.reference)

/-- How a process starts. -/
def Starts (_ : DepositDb) : Process → Prop
  | .call (.shop _) stage => stage = .reading
  | .call (.order _) stage => stage = .drawing 0
  | .elsewhere work => Leaves work

/-- A call that is over takes no more steps. -/
def Live (_ : CallInput) (_ : DepositDb) (process : Process) : Prop :=
  isOver process = false

instance (turn : CallInput) (db : DepositDb) (process : Process) : Decidable (Live turn db process) :=
  inferInstanceAs (Decidable (_ = _))

/-- Statements that rewrite orders and no reference of them. -/
theorem leaves_update {hit : DepositDb → TopupOrderRow → Bool}
    {change : DepositDb → TopupOrderRow → TopupOrderRow}
    (keeps : ∀ db row, (change db row).id = row.id ∧ (change db row).reference = row.reference) :
    Leaves fun db => { db with topupOrders := update (hit db) (change db) db.topupOrders } where
  shops _ _ there := there
  references _ := rfl
  orders db := map_update fun row => by rw [(keeps db row).1, (keeps db row).2]

theorem leaves_expire (now : Timestamp) : Leaves fun db => expireTopupOrders db now :=
  leaves_update fun _ _ => ⟨rfl, rfl⟩

section Alone

variable {db : DepositDb} {input : NewTopupOrder} {normalize : String → String}
  {newReference : Nat → String}

/-- A call that nothing comes between, with a generator that never throws. -/
def alone (normalize : String → String) (newReference : Nat → String) (subject : Subject) :
    Nat → DepositDb → Stage → DepositDb × Stage
  | left + 1, db, .drawing drawn =>
    let (db, stage) := draw normalize ⟨some (newReference drawn), none⟩ db subject drawn
    alone normalize newReference subject left db stage
  | _, db, stage => (db, stage)

/-- What saving an order comes to, as the stage its call ends in. -/
def ended (db : DepositDb) : Except SaveFault (DepositDb × String) → DepositDb × Stage
  | .ok (db, reference) => (db, .returned reference)
  | .error .referenceExhausted => (db, .threw .referenceExhausted)
  | .error (.refused fault) => (db, .threw (.refused fault))

end Alone

end Telga.Persistence.ReferenceCalls
