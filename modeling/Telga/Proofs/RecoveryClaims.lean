import Telga.Library.Run
import Telga.Persistence.RecoveryClaims

namespace Telga.Proofs.RecoveryClaims
open Domain Persistence Library

/-- A claim that went through once more. -/
def leased (input : ClaimInput) (attempts : Nat) : RecoveryClaimRow :=
  { transactionId := input.transactionId, workerId := input.workerId, scanId := input.scanId
    attemptNo := attempts + 1, claimedAt := input.now, expiresAt := input.expiresAt
    releasedAt := none, active := true }

/-- How often a transaction has been claimed, as its claim counts it. -/
def attempts (db : Db) (transactionId : TransactionId) : Nat :=
  ((findClaim db transactionId).map (·.attemptNo)).getD 0

/-- One claim for each transaction. -/
def OneClaimEach (db : Db) : Prop :=
  Unique (·.transactionId) db.recoveryClaims

section Statements

variable {db : Db} {input : ClaimInput}

theorem findClaim_mem (found : findClaim db transactionId = some row) :
    row ∈ db.recoveryClaims ∧ row.transactionId = transactionId :=
  ⟨List.mem_of_find?_eq_some found, by simpa using List.find?_some found⟩

/-- The claims a statement may take over: the one of its transaction, if it may be taken over. -/
theorem claimable_filter (unique : OneClaimEach db)
    (found : findClaim db input.transactionId = some row) :
    db.recoveryClaims.filter (claimable input.transactionId input.now) =
      if row.active = false ∨ row.expiresAt ≤ input.now then [row] else [] := by
  obtain ⟨mem, own⟩ := findClaim_mem found
  have both : claimable input.transactionId input.now = fun other =>
      decide (other.active = false ∨ other.expiresAt ≤ input.now) &&
        decide (other.transactionId = row.transactionId) := by
    funext other
    simp only [claimable, own, Bool.decide_and, Bool.and_comm]
  rw [both, ← List.filter_filter, unique.filter mem, List.filter_singleton]
  simp

/-- A claim wins when there is none, of a transaction that is stored, or when the one there is was
released or has expired. -/
theorem claims_iff (unique : OneClaimEach db) (input : ClaimInput) : claims db input = true ↔
    match findClaim db input.transactionId with
    | none => Present (·.id) input.transactionId db.transactions
    | some row => row.active = false ∨ row.expiresAt ≤ input.now := by
  unfold claims claimTransaction
  cases found : findClaim db input.transactionId with
  | none =>
    have absent : ¬ Present (·.transactionId) input.transactionId db.recoveryClaims := by
      rintro ⟨row, mem, own⟩
      have missed := List.find?_eq_none.mp found row mem
      simp [own] at missed
    rw [if_neg absent]
    by_cases stored : Present (·.id) input.transactionId db.transactions
    · simp [demand, stored, bind, Except.bind, pure, Except.pure]
    · simp [demand, stored, bind, Except.bind]
  | some row =>
    obtain ⟨mem, own⟩ := findClaim_mem found
    rw [if_pos ⟨row, mem, own⟩]
    simp only [changes, claimable_filter unique found]
    split
    · rename_i free
      simp [free]
    · rename_i held
      simp [held]

/-- What a claim leaves of each transaction's claim. -/
theorem find_claimed (unique : OneClaimEach db) (input : ClaimInput)
    (transactionId : TransactionId) :
    findClaim ((ClaimStatement.claim input).apply db) transactionId =
      if input.transactionId = transactionId ∧ claims db input = true
      then some (leased input (attempts db transactionId))
      else findClaim db transactionId := by
  have wins := claims_iff unique input
  simp only [ClaimStatement.apply, claimTransaction]
  by_cases known : Present (·.transactionId) input.transactionId db.recoveryClaims
  · obtain ⟨row, mem, own⟩ := known
    have known : Present (·.transactionId) input.transactionId db.recoveryClaims := ⟨row, mem, own⟩
    have found : findClaim db input.transactionId = some row := own ▸ unique.find? mem
    rw [found] at wins
    simp only [known, if_true, findClaim] at found ⊢
    rw [find?_update ?_]
    rotate_left
    · exact fun _ => rfl
    by_cases same : input.transactionId = transactionId
    · subst same
      rw [found]
      by_cases won : claims db input = true
      · have free := wins.mp won
        rw [if_pos ⟨rfl, won⟩]
        simp [claimable, own, free, leased, attempts, findClaim, found]
      · have held : ¬ (row.active = false ∨ row.expiresAt ≤ input.now) :=
          fun free => won (wins.mpr free)
        rw [if_neg fun both => won both.2]
        simp [claimable, held]
    · rw [if_neg fun both => same both.1]
      cases other : db.recoveryClaims.find? fun row => row.transactionId = transactionId with
      | none => rfl
      | some row' =>
        have apart : row'.transactionId ≠ input.transactionId := by
          have hit := List.find?_some other
          simp only [decide_eq_true_eq] at hit
          exact fun equal => same (equal.symm.trans hit)
        simp [claimable, apart]
  · have absent : ∀ row ∈ db.recoveryClaims, row.transactionId ≠ input.transactionId :=
      fun row mem own => known ⟨row, mem, own⟩
    have missed : findClaim db input.transactionId = none :=
      List.find?_eq_none.mpr fun row mem => by simpa using absent row mem
    rw [missed] at wins
    simp only [known, if_false]
    by_cases stored : Present (·.id) input.transactionId db.transactions
    · have won := wins.mpr stored
      simp only [demand, stored, if_true, bind, Except.bind, pure, Except.pure, findClaim]
      refine (find?_added RecoveryClaimRow.transactionId absent transactionId).trans ?_
      by_cases same : input.transactionId = transactionId
      · subst same
        simp [won, leased, attempts, missed]
      · simp [same, Ne.symm same]
    · have lost : ¬ claims db input = true := fun won => stored (wins.mp won)
      rw [if_neg fun both => lost both.2]
      simp [demand, stored, bind, Except.bind]

/-- Whether a statement releases a claim. -/
def frees (row : RecoveryClaimRow) : ClaimStatement → Bool
  | .claim _ => false
  | .release transactionId workerId _ =>
    row.transactionId = transactionId ∧ row.workerId = workerId ∧ row.active = true
  | .releaseOwned workerId _ => row.workerId = workerId ∧ row.active = true

/-- What a release leaves of each transaction's claim. -/
theorem find_released (db : Db) {statement : ClaimStatement}
    (releases : ∀ input, statement ≠ .claim input) (transactionId : TransactionId) :
    findClaim (statement.apply db) transactionId =
      (findClaim db transactionId).map fun row =>
        if frees row statement then { row with active := false, releasedAt := some statement.now }
        else row := by
  cases statement with
  | claim input => exact absurd rfl (releases input)
  | release other workerId now =>
    simp only [ClaimStatement.apply, releaseClaim, findClaim]
    exact find?_update fun _ => rfl
  | releaseOwned workerId now =>
    simp only [ClaimStatement.apply, releaseClaimsOwnedBy, findClaim]
    exact find?_update fun _ => rfl

theorem oneClaimEach_apply (unique : OneClaimEach db) (statement : ClaimStatement) :
    OneClaimEach (statement.apply db) := by
  cases statement with
  | claim input =>
    simp only [ClaimStatement.apply]
    cases claimed : claimTransaction db input with
    | error _ => exact unique
    | ok result =>
      unfold claimTransaction at claimed
      split at claimed
      · cases claimed
        exact unique.update fun _ => rfl
      · rename_i absent
        simp only [bind_ok, demand_ok, pure_ok] at claimed
        obtain ⟨_, _, rfl⟩ := claimed
        exact unique.append fun row mem own => absent ⟨row, mem, own⟩
  | release transactionId workerId now | releaseOwned workerId now =>
    exact unique.update fun _ => rfl

end Statements

/-- One statement of some worker, or a step of anything else that leaves the claims alone. -/
inductive ClaimStep : Db → Option ClaimStatement → Db → Prop
  | statement : ClaimStep db (some statement) (statement.apply db)
  | elsewhere : db'.recoveryClaims = db.recoveryClaims → ClaimStep db none db'

abbrev ClaimTaken := Taken Db (Option ClaimStatement)

/-- Nothing has been claimed yet. -/
def Unclaimed (db : Db) : Prop :=
  db.recoveryClaims = []

/-- The claim on a transaction that a step won. -/
def winner (transactionId : TransactionId) (taken : ClaimTaken) : Option ClaimInput :=
  match taken.event with
  | some (.claim input) =>
    if input.transactionId = transactionId ∧ claims taken.before input = true then some input
    else none
  | _ => none

/-- A worker released its claim on a transaction, alone or with all its others. -/
def Released (transactionId : TransactionId) (workerId : String) (taken : ClaimTaken) : Prop :=
  match taken.event with
  | some (.release released worker _) => released = transactionId ∧ worker = workerId
  | some (.releaseOwned worker _) => worker = workerId
  | _ => False

/-- A worker won a transaction and has not released it since. -/
def Held (transactionId : TransactionId) (past : List ClaimTaken) (holder : ClaimInput) : Prop :=
  Since (fun taken => winner transactionId taken = some holder)
    (Released transactionId holder.workerId) past

/-- A worker holds a transaction, and its claim has not expired. -/
def Live (transactionId : TransactionId) (past : List ClaimTaken) (now : Timestamp) : Prop :=
  ∃ holder, Held transactionId past holder ∧ now < holder.expiresAt

/-- No statement so far was made later. -/
def Timely (past : List ClaimTaken) (now : Timestamp) : Prop :=
  ∀ taken ∈ past, ∀ statement ∈ taken.event, statement.now ≤ now

/-- How often a transaction was won. -/
def wins (transactionId : TransactionId) (past : List ClaimTaken) : Nat :=
  past.countP fun taken => (winner transactionId taken).isSome

/-- A claim stands for its holder. -/
def StandsFor (db : Db) (transactionId : TransactionId) (holder : ClaimInput) : Prop :=
  ∃ row, findClaim db transactionId = some row ∧ row.active = true ∧
    row.workerId = holder.workerId ∧ row.expiresAt = holder.expiresAt

/-- What the claims say of the steps so far. -/
structure Accounted (transactionId : TransactionId) (past : List ClaimTaken) (db : Db) :
    Prop where
  unique : OneClaimEach db
  active : ∀ row, findClaim db transactionId = some row → row.active = true →
    ∃ holder, Held transactionId past holder ∧
      row.workerId = holder.workerId ∧ row.expiresAt = holder.expiresAt
  held : ∀ holder, Held transactionId past holder → StandsFor db transactionId holder ∨
    ∃ taken ∈ past, ∃ statement ∈ taken.event, holder.expiresAt ≤ statement.now
  counted : attempts db transactionId = wins transactionId past

section Steps

variable {db db' : Db} {past : List ClaimTaken} {transactionId : TransactionId}

theorem accounted_start (unclaimed : Unclaimed db) : Accounted transactionId [] db where
  unique := by
    rw [OneClaimEach, unclaimed]
    exact List.nodup_nil
  active := by
    intro row found
    rw [findClaim, unclaimed] at found
    cases found
  held := by
    intro holder held
    obtain ⟨newer, _, _, split, _⟩ := held
    cases newer <;> cases split
  counted := by
    rw [attempts, findClaim, unclaimed]
    rfl

/-- A step that neither wins a transaction nor releases its claim leaves the account as it was. -/
theorem accounted_still (before : Accounted transactionId past db) (unique : OneClaimEach db')
    (same : findClaim db' transactionId = findClaim db transactionId)
    (none : winner transactionId ⟨db, event, db'⟩ = none)
    (kept : ∀ row, findClaim db transactionId = some row → row.active = true →
      ¬ Released transactionId row.workerId ⟨db, event, db'⟩) :
    Accounted transactionId (⟨db, event, db'⟩ :: past) db' where
  unique
  active := by
    intro row found active
    rw [same] at found
    obtain ⟨holder, held, own, ends⟩ := before.active row found active
    exact ⟨holder, held.later (own ▸ kept row found active), own, ends⟩
  held := by
    intro holder held
    rcases held.cases with won | ⟨held, _⟩
    · rw [none] at won
      cases won
    · rcases before.held holder held with stands | ⟨taken, mem, late⟩
      · exact .inl (by rw [StandsFor, same]; exact stands)
      · exact .inr ⟨taken, List.mem_cons_of_mem _ mem, late⟩
  counted := by
    have counted := before.counted
    simp only [attempts] at counted ⊢
    simp [same, counted, wins, none]

/-- A claim that wins takes the transaction over from a claim that was released or has expired. -/
theorem accounted_won {input : ClaimInput} (before : Accounted transactionId past db)
    (own : input.transactionId = transactionId) (won : claims db input = true) :
    Accounted transactionId
      (⟨db, some (.claim input), (ClaimStatement.claim input).apply db⟩ :: past)
      ((ClaimStatement.claim input).apply db) := by
  subst own
  have found := find_claimed before.unique input input.transactionId
  rw [if_pos ⟨rfl, won⟩] at found
  have winning : winner input.transactionId
      ⟨db, some (.claim input), (ClaimStatement.claim input).apply db⟩ = some input := by
    simp [winner, won]
  constructor
  case unique => exact oneClaimEach_apply before.unique _
  case active =>
    intro row there _
    rw [found] at there
    cases there
    exact ⟨input, .now winning, rfl, rfl⟩
  case held =>
    intro holder held
    rcases held.cases with now | ⟨held, _⟩
    · rw [winning] at now
      cases now
      exact .inl ⟨_, found, rfl, rfl, rfl⟩
    · refine .inr ?_
      rcases before.held holder held with ⟨row, there, active, _, ends⟩ | ⟨taken, mem, late⟩
      · have free := (claims_iff before.unique _).mp won
        rw [there] at free
        rcases free with released | expired
        · rw [active] at released
          cases released
        · exact ⟨_, List.mem_cons_self, _, rfl, ends ▸ expired⟩
      · exact ⟨taken, List.mem_cons_of_mem _ mem, late⟩
  case counted =>
    have counted := before.counted
    rw [attempts, found]
    simp [leased, counted, wins, winning]

/-- A release ends the active claim of its own worker only. -/
theorem accounted_released {statement : ClaimStatement} (before : Accounted transactionId past db)
    (releases : ∀ input, statement ≠ .claim input)
    (found : findClaim db transactionId = some row) (freed : frees row statement = true) :
    Accounted transactionId (⟨db, some statement, statement.apply db⟩ :: past)
      (statement.apply db) := by
  have left := find_released db releases transactionId
  rw [found] at left
  simp only [Option.map_some, freed, if_true] at left
  have none : winner transactionId ⟨db, some statement, statement.apply db⟩ = none := by
    cases statement with
    | claim input => exact absurd rfl (releases input)
    | _ => rfl
  have released : Released transactionId row.workerId ⟨db, some statement, statement.apply db⟩ := by
    have own := (findClaim_mem found).2
    cases statement with
    | claim input => cases freed
    | release other workerId now =>
      simp only [frees, decide_eq_true_eq] at freed
      exact ⟨freed.1.symm.trans own, freed.2.1.symm⟩
    | releaseOwned workerId now =>
      simp only [frees, decide_eq_true_eq] at freed
      exact freed.1.symm
  constructor
  case unique => exact oneClaimEach_apply before.unique _
  case active =>
    intro row' there active
    rw [left] at there
    cases there
    cases active
  case held =>
    intro holder held
    rcases held.cases with won | ⟨held, lasts⟩
    · rw [none] at won
      cases won
    · rcases before.held holder held with ⟨row', there, _, own, _⟩ | ⟨taken, mem, late⟩
      · rw [found] at there
        cases there
        exact absurd (own ▸ released) lasts
      · exact .inr ⟨taken, List.mem_cons_of_mem _ mem, late⟩
  case counted =>
    have counted := before.counted
    simp only [attempts, found, left] at counted ⊢
    simpa [wins, none] using counted

theorem accounted_step (before : Accounted transactionId past db) (step : ClaimStep db event db') :
    Accounted transactionId (⟨db, event, db'⟩ :: past) db' := by
  cases step with
  | elsewhere same =>
    refine accounted_still before ?_ ?_ rfl fun _ _ _ => not_false
    · rw [OneClaimEach, same]
      exact before.unique
    · rw [findClaim, same]
      rfl
  | @statement statement =>
    have unique := oneClaimEach_apply before.unique statement
    by_cases claiming : ∃ input, statement = .claim input
    · obtain ⟨input, rfl⟩ := claiming
      by_cases won : input.transactionId = transactionId ∧ claims db input = true
      · exact accounted_won before won.1 won.2
      · refine accounted_still before unique ?_ ?_ fun _ _ _ => not_false
        · rw [find_claimed before.unique, if_neg won]
        · simp [winner, won]
    · have releases : ∀ input, statement ≠ .claim input := fun input same => claiming ⟨input, same⟩
      by_cases freed : ∃ row, findClaim db transactionId = some row ∧ frees row statement = true
      · obtain ⟨row, found, freed⟩ := freed
        exact accounted_released before releases found freed
      · refine accounted_still before unique ?_ ?_ ?_
        · rw [find_released db releases]
          cases found : findClaim db transactionId with
          | none => rfl
          | some row =>
            have misses : ¬ frees row statement = true := fun hit => freed ⟨row, found, hit⟩
            simp [misses]
        · cases statement with
          | claim input => exact absurd rfl (releases input)
          | _ => rfl
        · intro row found active released
          refine freed ⟨row, found, ?_⟩
          have own := (findClaim_mem found).2
          cases statement with
          | claim input => exact absurd rfl (releases input)
          | release other workerId now => simp [frees, own, active, released.1, released.2]
          | releaseOwned workerId now =>
            have mine : workerId = row.workerId := released
            simp [frees, active, mine]

theorem accounted (transactionId : TransactionId) (run : Run Unclaimed ClaimStep past db) :
    Accounted transactionId past db :=
  run.history (fun _ => accounted_start) fun _ _ _ _ before step => accounted_step before step

end Steps

/-- What is promised of a transaction: while a worker holds it, nobody's claim wins and the claim
stands; when nobody does, the next claim wins; and its claim counts how often it was won. -/
structure Leases (transactionId : TransactionId) (past : List ClaimTaken) (db : Db) : Prop where
  excludes : ∀ input, input.transactionId = transactionId → Timely past input.now →
    Live transactionId past input.now → claims db input = false
  stands : ∀ holder now, Timely past now → Held transactionId past holder →
    now < holder.expiresAt → StandsFor db transactionId holder
  admits : ∀ input, input.transactionId = transactionId →
    Present (·.id) transactionId db.transactions → ¬ Live transactionId past input.now →
    claims db input = true
  counts : attempts db transactionId = wins transactionId past

/-- A transaction is claimed by one worker at a time, whoever claims and releases what, and in
whatever order. -/
theorem claims_exclusive (transactionId : TransactionId)
    (run : Run Unclaimed ClaimStep past db) : Leases transactionId past db := by
  have account := accounted transactionId run
  have stands : ∀ holder now, Timely past now → Held transactionId past holder →
      now < holder.expiresAt → StandsFor db transactionId holder := by
    intro holder now timely held unexpired
    rcases account.held holder held with stands | ⟨taken, mem, statement, made, late⟩
    · exact stands
    · have early := timely taken mem statement made
      exact absurd (Int.le_trans late early) (Int.not_le.mpr unexpired)
  refine ⟨?_, stands, ?_, account.counted⟩
  · intro input own timely ⟨holder, held, unexpired⟩
    obtain ⟨row, found, active, _, ends⟩ := stands holder input.now timely held unexpired
    by_contra won
    have free := (claims_iff account.unique _).mp (Bool.not_eq_false _ ▸ won)
    rw [own, found] at free
    rcases free with released | expired
    · rw [active] at released
      cases released
    · exact absurd expired (Int.not_le.mpr (ends ▸ unexpired))
  · intro input own stored dead
    refine (claims_iff account.unique _).mpr ?_
    rw [own]
    cases found : findClaim db transactionId with
    | none => exact stored
    | some row =>
      by_contra held
      rw [not_or, Bool.not_eq_false] at held
      obtain ⟨holder, holds, _, ends⟩ := account.active row found held.1
      exact dead ⟨holder, holds, ends ▸ Int.not_le.mp held.2⟩

/-- A sale that is still in flight, and that no worker has claimed. -/
def inFlight : Db :=
  { migrated with
    transactions :=
      [{ id := "sale", merchantId := "shop", deviceId := "till", operatorId := "cashier"
         productType := "AIRTIME_10", providerId := none, amount := ⟨1000, by decide⟩
         recipientMasked := "09******44", state := .submitted, idempotencyKey := "key"
         payloadFingerprint := "fingerprint", providerReference := none
         createdAt := 0, updatedAt := 0 }] }

/-- A worker's claim on the sale, for ten milliseconds. -/
def claimBy (workerId : String) (now : Timestamp) : ClaimStatement :=
  .claim ⟨"sale", workerId, "scan", now, now + 10⟩

/-- Where the claims stand after an event. -/
def claimed (db : Db) (event : Option ClaimStatement) : Db :=
  (event.map (·.apply db)).getD db

/-- The second worker loses, takes over what expired, and keeps it when the first one releases it;
after its own release the first one wins again. -/
def contest : List (Option ClaimStatement) :=
  [some (claimBy "first" 0), some (claimBy "second" 4), some (claimBy "second" 10),
    some (.release "sale" "first" 11), some (claimBy "first" 12),
    some (.releaseOwned "second" 13), some (claimBy "first" 13)]

def leasesPlayed : List ClaimTaken × Db :=
  played claimed contest [] inFlight

theorem leasesPlayed_run : Run Unclaimed ClaimStep leasesPlayed.1 leasesPlayed.2 := by
  have steps : ∀ db event, event.isSome = true → ClaimStep db event (claimed db event) := by
    intro db event made
    obtain ⟨statement, rfl⟩ := Option.isSome_iff_exists.mp made
    exact .statement
  have playable : Playable (fun (_ : Db) event => event.isSome = true) claimed contest inFlight :=
    by decide
  have start : Unclaimed inFlight := rfl
  exact Run.play steps (.start start) playable

/-- The sale was won three times, the claim says so, and nobody else may claim it now. -/
theorem claims_exclusive_workers : Leases "sale" leasesPlayed.1 leasesPlayed.2 ∧
    wins "sale" leasesPlayed.1 = 3 ∧ attempts leasesPlayed.2 "sale" = 3 ∧
    claims leasesPlayed.2 ⟨"sale", "second", "scan", 14, 24⟩ = false :=
  ⟨claims_exclusive "sale" leasesPlayed_run, by decide +kernel, by decide +kernel,
    by decide +kernel⟩

end Telga.Proofs.RecoveryClaims
