import Telga.Proofs.Soundness

namespace Telga.Proofs
open Domain Persistence Application Library

/-- A database no sale has been made on: whatever shops, tills and rates it has, nothing is
reserved, posted, earned, asked for or transferred. -/
structure Blank (db : Db) : Prop where
  transactions : db.transactions = []
  balanceReservations : db.balanceReservations = []
  ledgerEntries : db.ledgerEntries = []
  ledgerAccounts : ∀ account ∈ db.ledgerAccounts, Named account
  idempotencyRecords : db.idempotencyRecords = []
  commissionEntries : db.commissionEntries = []
  reversalRequests : db.reversalRequests = []
  shopTransfers : db.shopTransfers = []

theorem Blank.sound (blank : Blank db) : Sound db where
  ids := by rw [blank.transactions]; exact List.nodup_nil
  holdIds := by rw [blank.balanceReservations]; exact List.nodup_nil
  holds := by rw [blank.balanceReservations]; exact List.nodup_nil
  named := blank.ledgerAccounts
  backed := by simp [blank.balanceReservations]
  held := by simp [blank.transactions]
  unreferenced := by simp [blank.transactions]
  ended := by simp [blank.transactions]
  asked := by simp [blank.reversalRequests]
  transferable := by simp [blank.shopTransfers]

/-- Calls of some services, any number of each, interleaved. -/
abbrev Interleaved (allowed : List Service) :=
  Pool services (Calls allowed) Fresh

/-- Calls of some services, one after another. -/
abbrev Sequential (allowed : List Service) :=
  Solo services (Calls allowed) Fresh

def Begins (w : World Db Process) : Prop :=
  Blank w.store ∧ w.procs = []

def Opens (d : Desk Db Process) : Prop :=
  Blank d.store ∧ d.current = none

theorem known_of_start (call : Calls allowed db process) : Known db process := by
  obtain ⟨_, starting⟩ := call
  cases process with
  | createSale sale =>
    simp only [Process.Starting] at starting
    simp only [Known, KnownSale, starting]
  | recoverInFlight sweep =>
    simp only [Process.Starting] at starting
    simp only [Known, KnownSweep, starting]
  | requireReversal call =>
    simp only [Process.Starting] at starting
    simp only [Known, KnownRequire, starting]
  | decideTransfer call =>
    simp only [Process.Starting] at starting
    simp only [Known, KnownTransfer, starting]
  | fileReversal call =>
    simp only [Process.Starting] at starting
    simp only [Known, KnownFiling, starting]
  | decideReversal call =>
    simp only [Process.Starting] at starting
    simp only [Known, KnownDecision, starting]
  | _ => trivial

/-- A call of one of some services, and what it knows. -/
def Enlisted (allowed : List Service) (db : Db) (process : Process) : Prop :=
  process.service ∈ allowed ∧ Known db process

theorem enlisted_of_start (call : Calls allowed db process) : Enlisted allowed db process :=
  ⟨call.1, known_of_start call⟩

/-- What a call may count on another having done: some deed, on a sound database. -/
def Deeds (db db' : Db) : Prop :=
  ∃ process deed, Sound db ∧ Turn db process deed ∧ Did deed db db'

theorem step_deeds (input : Input) (db : Db) (process : Process) (sound : Sound db)
    (known : Enlisted allowed db process) (fresh : Fresh input db process) :
    Sound (services.advance input db process).1 ∧
    Enlisted allowed (services.advance input db process).1
      (services.advance input db process).2 ∧
    Deeds db (services.advance input db process).1 := by
  obtain ⟨deed, turn, did, knows⟩ := step_acts sound known.2 fresh
  have service := Process.step_service input db process
  exact ⟨sound.did turn did, ⟨service ▸ known.1, knows⟩, process, deed, sound, turn, did⟩

theorem known_deeds (db db' : Db) (process : Process) (_ : Sound db)
    (known : Enlisted allowed db process) (deeds : Deeds db db') :
    Enlisted allowed db' process := by
  obtain ⟨other, deed, sound, turn, did⟩ := deeds
  exact ⟨known.1, known.2.did sound turn did⟩

/-- Every step of an interleaving keeps the database sound and every call's knowledge true. -/
theorem secure_step (w : World Db Process) (event : Event Input Process) (w' : World Db Process)
    (secure : Secure Sound (Enlisted allowed) w) (step : Interleaved allowed w event w') :
    Secure Sound (Enlisted allowed) w' := by
  exact Secure.step (fun _ _ _ => enlisted_of_start) step_deeds known_deeds w event w' secure step

theorem begins_secure (w : World Db Process) (begins : Begins w) :
    Secure Sound (Enlisted allowed) w := by
  obtain ⟨blank, none⟩ := begins
  refine ⟨blank.sound, ?_⟩
  simp [none]

/-- One step of an interleaving, as it was taken. -/
abbrev Happened := Taken (World Db Process) (Event Input Process)

/-- The step was an atomic step of a call. -/
def Acted (taken : Happened) (input : Input) (process : Process) : Prop :=
  ∃ slot, taken.event = .act slot input ∧ taken.before.proc slot = some process

/-- What is known of an atomic step of a call: the call knew what it knows, the step was the
call's own, and it was a deed that call may do. -/
structure Act (db db' : Db) (input : Input) (process : Process) (deed : Deed) : Prop where
  sound : Sound db
  known : Known db process
  fresh : Fresh input db process
  moved : (process.step input db).1 = db'
  turn : Turn db process deed
  did : Did deed db db'

theorem act_of_step (sound : Sound db) (known : Known db process)
    (fresh : Fresh input db process) (moved : process.step input db = (db', process')) :
    ∃ deed, Act db db' input process deed := by
  obtain ⟨deed, turn, did, _⟩ := step_acts sound known fresh
  rw [moved] at did
  exact ⟨deed, sound, known, fresh, congrArg Prod.fst moved, turn, did⟩

/-- A step either leaves the database alone, because a call started or died, or is an atomic
step of a call. -/
theorem secure_act (secure : Secure Sound (Enlisted allowed) w)
    (step : Interleaved allowed w event w') :
    w'.store = w.store ∨
    ∃ input process deed, Acted ⟨w, event, w'⟩ input process ∧ process.service ∈ allowed ∧
      Act w.store w'.store input process deed := by
  cases step with
  | start _ | crash => exact .inl rfl
  | act here fresh moved =>
    obtain ⟨service, known⟩ := secure.2 _ (World.proc_mem here)
    obtain ⟨deed, act⟩ := act_of_step secure.1 known fresh moved
    exact .inr ⟨_, _, deed, ⟨_, rfl, here⟩, service, act⟩

theorem acted_act (secure : Secure Sound (Enlisted allowed) w)
    (step : Interleaved allowed w event w') (acted : Acted ⟨w, event, w'⟩ input process) :
    ∃ deed, Act w.store w'.store input process deed := by
  obtain ⟨slot, same, there⟩ := acted
  dsimp only at same there
  subst same
  cases step with
  | act here fresh moved =>
    rw [here] at there
    cases there
    exact act_of_step secure.1 (secure.2 _ (World.proc_mem here)).2 fresh moved

/-- In a run, an atomic step of a call is a deed that call may do. -/
theorem acted_deed {past : List Happened} (run : Run Begins (Interleaved allowed) past w)
    (mem : taken ∈ past) (acted : Acted taken input process) :
    ∃ deed, Act taken.before.store taken.after.store input process deed := by
  obtain ⟨secure, step, _⟩ := run.taken begins_secure secure_step taken mem
  exact acted_act secure step acted

/-- One step of calls made one after another, as it was taken. -/
abbrev Proceeded := Taken (Desk Db Process) (Event Input Process)

/-- The step was an atomic step of the call at work. -/
def Worked (taken : Proceeded) (input : Input) (process : Process) : Prop :=
  ∃ slot, taken.event = .act slot input ∧ taken.before.current = some process

/-- Two shops with a till each, on which no sale has been made. -/
def twoShops : Db :=
  { migrated with
    merchants := [⟨"shop", .active⟩, ⟨"stall", .active⟩]
    devices := [⟨"till", "shop", .active⟩, ⟨"stand", "stall", .active⟩] }

/-- Surroundings in which every id drawn is new and the provider answers as told. -/
def drawing (tag : String) (submission : ProviderSubmissionOutcome)
    (status : ProviderStatusOutcome) (now : Timestamp) : Input where
  now _ := now
  newId index := tag ++ ["0", "1", "2", "3", "4", "5"].getD index "6"
  busy := false
  health := .answered true
  submission := .answered ⟨submission, none⟩
  status := .answered ⟨status, none⟩
  reversal := .answered ()
  shouldContinue := true

/-- Ten santim of airtime, sold at the first shop's till. -/
def airtime (clientRequestId : String) : Process :=
  .createSale
    { deps := { providerId := "provider", catalog := fun _ => some true, mode := .training }
      request :=
        { merchantId := "shop", deviceId := "till", operatorId := "operator",
          productId := "airtime", amount := ⟨10, safe_ten⟩, recipient := "0911223344",
          clientRequestId }
      correlationId := "", point := .begin }

/-- A hundred santim deposited for a shop. -/
def funds (merchantId : MerchantId) : Process :=
  .deposit
    { input := { merchantId, amount := ⟨100, safe_hundred⟩, now := 0, correlationId := "deposit",
                 postingId := "deposit" }
      point := .begin }

theorem twoShops_blank : Blank twoShops :=
  ⟨rfl, rfl, rfl, by simp [twoShops, migrated], rfl, rfl, rfl, rfl⟩

/-- Events that may happen one after another at the two shops make a run of an interleaving. -/
theorem interleaved_run (allowed : List Service) (events : List (Event Input Process))
    (playable : Playable (World.May (Calls allowed) Fresh) (World.next services) events
      ⟨twoShops, []⟩) :
    Run Begins (Interleaved allowed) (played (World.next services) events [] ⟨twoShops, []⟩).1
      (played (World.next services) events [] ⟨twoShops, []⟩).2 := by
  have opening : Run Begins (Interleaved allowed) [] ⟨twoShops, []⟩ :=
    .start ⟨twoShops_blank, rfl⟩
  exact opening.play Pool.next playable

/-- Or, with one call after another, of a sequence of calls. -/
theorem sequential_run (allowed : List Service) (events : List (Event Input Process))
    (playable : Playable (Desk.May services (Calls allowed) Fresh) (Desk.next services) events
      ⟨twoShops, none⟩) :
    Run Opens (Sequential allowed) (played (Desk.next services) events [] ⟨twoShops, none⟩).1
      (played (Desk.next services) events [] ⟨twoShops, none⟩).2 := by
  have opening : Run Opens (Sequential allowed) [] ⟨twoShops, none⟩ :=
    .start ⟨twoShops_blank, rfl⟩
  exact opening.play Solo.next playable

end Telga.Proofs
