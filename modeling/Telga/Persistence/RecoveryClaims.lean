import Telga.Persistence.Pending

namespace Telga.Persistence
open Domain Library

/-- Release every active claim held by one worker, and no other's. -/
def releaseClaimsOwnedBy (db : Db) (workerId : String) (now : Timestamp) : Db :=
  { db with
    recoveryClaims := update (fun row => row.workerId = workerId ∧ row.active = true)
      (fun row => { row with active := false, releasedAt := some now }) db.recoveryClaims }

/-- A statement some worker makes about the claims. -/
inductive ClaimStatement
  | claim (input : ClaimInput)
  | release (transactionId : TransactionId) (workerId : String) (now : Timestamp)
  | releaseOwned (workerId : String) (now : Timestamp)

/-- When a statement is made. -/
def ClaimStatement.now : ClaimStatement → Timestamp
  | .claim input => input.now
  | .release _ _ now => now
  | .releaseOwned _ now => now

/-- What a statement makes of the database. One that throws makes nothing of it. -/
def ClaimStatement.apply (db : Db) : ClaimStatement → Db
  | .claim input =>
    match claimTransaction db input with
    | .ok (db, _) => db
    | .error _ => db
  | .release transactionId workerId now => releaseClaim db transactionId workerId now
  | .releaseOwned workerId now => releaseClaimsOwnedBy db workerId now

/-- Whether a claim is told that it won. -/
def claims (db : Db) (input : ClaimInput) : Bool :=
  match claimTransaction db input with
  | .ok (_, won) => won
  | .error _ => false

end Telga.Persistence
