import Telga.Application.CounterRequests
import Telga.Proofs.PinBudget

namespace Telga.Proofs
open Domain Persistence Application Library

variable {deriveSecret : String → String → StoredSecret}

/-- The request to the point of sale that would do to the database what a request does to it next,
if it does anything there beyond the operators and their attempts. -/
def CounterRequest.asPos : CounterRequest → Option PosRequest
  | .pin (.pos request) => some request
  | .pin _ => none
  | .postDeposit { point := .funding deposit, .. } => some (.service (.deposit deposit))
  | .postProfitTransfer { point := .transferring transfer, .. } =>
    some (.service (.transferProfit transfer))
  | .postShopTransfer { point := .settling transfer, .. } =>
    some (.service (.settleShopTransfer transfer))
  | _ => none

/-- The options a counter is served with. -/
def counterOptions (args : CliArgs) (deriveSecret : String → String → StoredSecret) : PinDeps :=
  { optionsFrom args with deriveSecret }

/-- Requests to a server built with some options: each starts afresh, and a sale is only ever made
through a request. -/
def CounterServes (args : CliArgs) (deriveSecret : String → String → StoredSecret)
    (request : CounterRequest) : Prop :=
  request.Starting ∧ request.given (counterOptions args deriveSecret) ∧
  ∀ process, request = .pin (.pos (.service process)) → process.service ≠ .createSale

/-- Ids are drawn fresh by the service a request runs. -/
def CounterFresh (input : PinInput) (pos : PosDb) (request : CounterRequest) : Prop :=
  ∀ own ∈ CounterRequest.asPos request, PosFresh input.toInput pos own

instance (input : PinInput) (pos : PosDb) (request : CounterRequest) :
    Decidable (CounterFresh input pos request) :=
  inferInstanceAs (Decidable (∀ own ∈ CounterRequest.asPos request, _))

def CounterAware (args : CliArgs) (pos : PosDb) (request : CounterRequest) : Prop :=
  ∀ own ∈ CounterRequest.asPos request, Aware args pos own

/-- What the policy says to a transfer, judged as its call has it judged. -/
def decisionOn (db : Db) (transfer : SettleShopTransfer) (recipient : Option MerchantRow)
    (status : ShopStatus) (availableMinor : Int) : TransferDecision :=
  decideTransfer
    { senderMerchantId := transfer.attempt.senderMerchantId, senderStatus := status,
      senderAvailableMinor := availableMinor,
      sentTodayMinor :=
        sentTodayMinor db transfer.attempt.senderMerchantId (dayStart transfer.now),
      recipient := recipient.map fun row => (row.id, row.status),
      amountMinor := transfer.attempt.amountMinor }
    transfer.policy

section Steps

variable {args : CliArgs} {input : PinInput} {pos pos' : PosDb} {request : CounterRequest}

/-- What is sold, ordered and posted. -/
def shopsOf (pos : PosDb) : Db × List PendingOrderRow :=
  (pos.toDb, pos.pendingOrders)

theorem changePin_shops {call : ChangePin} (moved : call.step input pos = (pos', call')) :
    shopsOf pos' = shopsOf pos := by
  cases point : call.point with
  | refusing now | recording now | changing now derived =>
    simp only [ChangePin.step, point] at moved
    split at moved
    all_goals
      rename_i done
      cases moved
      apply posUnit_keeps shopsOf _ done
      intro next value worked
      cases worked
      rfl
  | _ =>
    simp only [ChangePin.step, point] at moved
    repeat' split at moved
    all_goals
      cases moved
      rfl

theorem unlock_shops {call : UnlockWithPin} (moved : call.step input pos = (pos', call')) :
    shopsOf pos' = shopsOf pos := by
  cases point : call.point with
  | recording now outcome =>
    simp only [UnlockWithPin.step, point] at moved
    split at moved
    all_goals
      rename_i done
      cases moved
      apply posUnit_keeps shopsOf _ done
      intro next value worked
      cases worked
      rfl
  | _ =>
    simp only [UnlockWithPin.step, point] at moved
    repeat' split at moved
    all_goals
      cases moved
      rfl

/-- A request does to the database what the one it stands for does. -/
theorem counter_store {own : PosRequest} (stands : CounterRequest.asPos request = some own) :
    (request.step input pos).1 = (own.step input.toInput pos).1 := by
  cases request with
  | pin request =>
    cases request with
    | pos request =>
      cases stands
      rfl
    | changePin call => cases stands
    | unlockWithPin call => cases stands
  | postDeposit call =>
    obtain ⟨deps, context, body, point⟩ := call
    cases point with
    | funding deposit =>
      cases stands
      simp only [CounterRequest.step, PostDeposit.step, PosRequest.step, Process.step, Prod.map, id]
      split <;> rfl
    | _ => cases stands
  | postProfitTransfer call =>
    obtain ⟨deps, context, amountMinor, correlationId, point⟩ := call
    cases point with
    | transferring transfer =>
      cases stands
      simp only [CounterRequest.step, PostProfitTransfer.step, PosRequest.step, Process.step,
        Prod.map, id]
      split <;> rfl
    | _ => cases stands
  | postShopTransfer call =>
    obtain ⟨deps, context, body, point⟩ := call
    cases point with
    | settling transfer =>
      cases stands
      simp only [CounterRequest.step, PostShopTransfer.step, PosRequest.step, Process.step,
        Prod.map, id]
      split <;> rfl
    | _ => cases stands

/-- One that stands for none leaves the shops alone. -/
theorem counter_idle (input : PinInput) (pos : PosDb)
    (idle : CounterRequest.asPos request = none) :
    shopsOf (request.step input pos).1 = shopsOf pos := by
  cases request with
  | pin request =>
    cases request with
    | pos request => cases idle
    | changePin call => exact changePin_shops rfl
    | unlockWithPin call => exact unlock_shops rfl
  | postDeposit call =>
    obtain ⟨deps, context, body, point⟩ := call
    cases point with
    | funding deposit => cases idle
    | _ =>
      simp only [CounterRequest.step, PostDeposit.step, Prod.map, id]
      repeat' split
      all_goals rfl
  | postProfitTransfer call =>
    obtain ⟨deps, context, amountMinor, correlationId, point⟩ := call
    cases point with
    | transferring transfer => cases idle
    | _ =>
      simp only [CounterRequest.step, PostProfitTransfer.step, Prod.map, id]
      repeat' split
      all_goals rfl
  | postShopTransfer call =>
    obtain ⟨deps, context, body, point⟩ := call
    cases point with
    | settling transfer => cases idle
    | _ =>
      simp only [CounterRequest.step, PostShopTransfer.step, Prod.map, id]
      repeat' split
      all_goals rfl

/-- A request that stands for a service of its own knows nothing it could forget. -/
theorem aware_own {own : PosRequest} (stands : CounterRequest.asPos request = some own)
    (apart : ∀ inner, request ≠ .pin inner) : Aware args pos own := by
  cases request with
  | pin request => exact absurd rfl (apart request)
  | postDeposit call =>
    obtain ⟨deps, context, body, point⟩ := call
    cases point with
    | funding deposit =>
      cases stands
      exact ⟨by rintro ⟨⟩, trivial⟩
    | _ => cases stands
  | postProfitTransfer call =>
    obtain ⟨deps, context, amountMinor, correlationId, point⟩ := call
    cases point with
    | transferring transfer =>
      cases stands
      exact ⟨by rintro ⟨⟩, trivial⟩
    | _ => cases stands
  | postShopTransfer call =>
    obtain ⟨deps, context, body, point⟩ := call
    cases point with
    | settling transfer =>
      cases stands
      exact ⟨by rintro ⟨⟩, trivial⟩
    | _ => cases stands

theorem sound_of_shops (same : shopsOf pos' = shopsOf pos) (sound : PosSound args pos) :
    PosSound args pos' := by
  obtain ⟨shops, orders⟩ := Prod.mk.inj same
  refine ⟨?_, ?_, ?_⟩
  · rw [shops]
    exact sound.sound
  · rw [orders]
    exact sound.ids
  · rw [orders]
    exact sound.priced

theorem beside_of_shops (same : shopsOf pos' = shopsOf pos) : Beside pos pos' := by
  obtain ⟨shops, orders⟩ := Prod.mk.inj same
  refine ⟨.inl shops, ?_⟩
  rw [orders]
  exact fun old mem => ⟨old, mem, .refl old⟩

theorem counter_sound_step (sound : PosSound args pos) (aware : CounterAware args pos request)
    (fresh : CounterFresh input pos request) : PosSound args (request.step input pos).1 := by
  cases stands : CounterRequest.asPos request with
  | none => exact sound_of_shops (counter_idle input pos stands) sound
  | some own =>
    rw [counter_store stands]
    exact pos_sound_step sound (aware own stands) (fresh own stands)

theorem counter_beside_step (sound : PosSound args pos) (aware : CounterAware args pos request)
    (fresh : CounterFresh input pos request) : Beside pos (request.step input pos).1 := by
  cases stands : CounterRequest.asPos request with
  | none => exact beside_of_shops (counter_idle input pos stands)
  | some own =>
    rw [counter_store stands]
    exact beside_step sound (aware own stands) (fresh own stands)

theorem CounterAware.beside (aware : CounterAware args pos request) (beside : Beside pos pos') :
    CounterAware args pos' request :=
  fun own stands => (aware own stands).beside beside

theorem counter_aware_step (sound : PosSound args pos) (aware : CounterAware args pos request)
    (fresh : CounterFresh input pos request) :
    CounterAware args (request.step input pos).1 (request.step input pos).2 := by
  intro own stands
  cases request with
  | pin request =>
    cases request with
    | pos request =>
      cases stands
      exact aware_step sound (aware request rfl) (fresh request rfl)
    | changePin call => cases stands
    | unlockWithPin call => cases stands
  | postDeposit call | postProfitTransfer call | postShopTransfer call =>
    exact aware_own stands (by rintro _ ⟨⟩)

theorem counter_aware_start (serves : CounterServes args deriveSecret request) :
    CounterAware args pos request := by
  intro own stands
  obtain ⟨starting, given, other⟩ := serves
  cases request with
  | pin request =>
    cases request with
    | pos request =>
      cases stands
      refine aware_of_start ⟨starting, ?_, ?_⟩
      · exact given
      · rintro process rfl
        exact other process rfl
    | changePin call => cases stands
    | unlockWithPin call => cases stands
  | postDeposit call | postProfitTransfer call | postShopTransfer call =>
    exact aware_own stands (by rintro _ ⟨⟩)

end Steps

/-- Any number of requests to one counter, interleaved. -/
abbrev CounterServing (args : CliArgs) (deriveSecret : String → String → StoredSecret) :=
  Pool counterServer (fun _ => CounterServes args deriveSecret) CounterFresh

/-- A database on which nothing has been sold or ordered yet, and nobody at work on it. -/
def OpensCounter (w : World PosDb π) : Prop :=
  Blank w.store.toDb ∧ w.store.pendingOrders = [] ∧ w.procs = []

abbrev CounterSecure (args : CliArgs) (w : World PosDb CounterRequest) :=
  Secure (PosSound args) (CounterAware args) w

theorem counter_step (w : World PosDb CounterRequest) (event : Event PinInput CounterRequest)
    (w' : World PosDb CounterRequest) (secure : CounterSecure args w)
    (step : CounterServing args deriveSecret w event w') : CounterSecure args w' := by
  have acts : ∀ input pos request, PosSound args pos → CounterAware args pos request →
      CounterFresh input pos request →
      PosSound args (counterServer.advance input pos request).1 ∧
      CounterAware args (counterServer.advance input pos request).1
        (counterServer.advance input pos request).2 ∧
      Beside pos (counterServer.advance input pos request).1 := by
    intro input pos request sound aware fresh
    exact ⟨counter_sound_step sound aware fresh, counter_aware_step sound aware fresh,
      counter_beside_step sound aware fresh⟩
  exact Secure.step (fun _ _ _ => counter_aware_start) acts (fun _ _ _ _ aware => aware.beside)
    w event w' secure step

theorem opensCounter_sound {w : World PosDb π} (opens : OpensCounter w) :
    PosSound args w.store := by
  obtain ⟨blank, orders, _⟩ := opens
  refine ⟨blank.sound, ?_, ?_⟩
  · rw [orders]
    exact List.nodup_nil
  · simp [orders]

theorem opensCounter_secure (w : World PosDb CounterRequest) (opens : OpensCounter w) :
    CounterSecure args w := by
  refine ⟨opensCounter_sound opens, fun request mem => ?_⟩
  rw [opens.2.2] at mem
  cases mem

/-- A secret as a training counter stores it: plain, with its salt. -/
def plainSecret (secret salt : String) : StoredSecret :=
  ⟨secret, salt, "scrypt"⟩

/-- A training counter's options. -/
def trainingOptions : PinDeps :=
  counterOptions training plainSecret

/-- Surroundings of a request, its ids drawn under a tag. -/
def attended (tag : String) (now : Timestamp) : PinInput :=
  { drawing tag .confirmedSuccess .success now with salt := "salt" }

/-- A hundred birr of card credit for the first shop's float. -/
def crediting (clientRequestId : String) : CounterRequest :=
  .postDeposit { deps := trainingOptions.toPosDeps, context := cashier,
                 body := ⟨some 10000, "TAP", clientRequestId⟩, point := .begin }

/-- Ten birr on their way to the second shop. -/
def sendingOn (pin : String) : CounterRequest :=
  .postShopTransfer { deps := trainingOptions.toPosDeps, context := cashier,
                      body := ⟨"stand", some 1000, pin⟩, point := .begin }

/-- Requests that have come in, and the steps they take: whose it is, under what tag, at what
time. -/
def counterEvents (requests : List CounterRequest) (acts : List (Nat × String × Timestamp)) :
    List (Event PinInput CounterRequest) :=
  requests.map .start ++ acts.map fun act => .act act.1 (attended act.2.1 act.2.2)

def counterPlayed (events : List (Event PinInput CounterRequest)) :
    List (Taken (World PosDb CounterRequest) (Event PinInput CounterRequest)) ×
      World PosDb CounterRequest :=
  played (World.next counterServer) events [] ⟨counter, []⟩

theorem counterPlayed_run {requests : List CounterRequest}
    {acts : List (Nat × String × Timestamp)}
    (serves : ∀ request ∈ requests, CounterServes training plainSecret request)
    (playable : Playable (World.May (fun _ _ => True) CounterFresh) (World.next counterServer)
      (counterEvents requests acts) ⟨counter, []⟩) :
    Run OpensCounter (CounterServing training plainSecret)
      (counterPlayed (counterEvents requests acts)).1
      (counterPlayed (counterEvents requests acts)).2 := by
  have opening : Run OpensCounter (CounterServing training plainSecret) [] ⟨counter, []⟩ :=
    .start ⟨twoShops_blank, rfl, rfl⟩
  refine opening.play Pool.next (playable_admits ?_ playable)
  intro request mem
  rcases List.mem_append.mp mem with mem | mem
  · obtain ⟨_, there, same⟩ := List.mem_map.mp mem
    cases same
    exact fun _ => serves request there
  · obtain ⟨_, _, same⟩ := List.mem_map.mp mem
    cases same

end Telga.Proofs
