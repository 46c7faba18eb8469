import Telga.Application.ChapaWebhook
import Telga.Proofs.ChapaSettlements

namespace Telga.Proofs
open Domain Persistence Application Library

abbrev TillWorld := World TillDb TillProcess

abbrev TillTaken := Taken TillWorld (Event DepositInput TillProcess)

theorem refuseAudited_deposits (db : TillDb) (row : AuthAuditRow) (code : AuthFailureCode) :
    (refuseAudited db row code).1.toDepositDb = db.toDepositDb := by
  unfold refuseAudited
  cases saved : saveAuthAudit db row with
  | ok next =>
    simp only [saveAuthAudit, bind_ok, demand_ok, pure_ok] at saved
    obtain ⟨_, _, rfl⟩ := saved
    rfl
  | error fault => rfl

theorem rejectDevice_deposits (db : TillDb) (session : TillSessionRow) (problem : AuthFailureCode)
    (input : DepositInput) :
    (rejectDevice db session problem input).1.toDepositDb = db.toDepositDb := by
  unfold rejectDevice
  split
  · rfl
  · split
    · rename_i next noted
      rw [refuseAudited_deposits]
      exact (congrArg (fun result => result.1.toDepositDb) noted).symm
    · rename_i next noted
      exact (congrArg (fun result => result.1.toDepositDb) noted).symm

theorem rejectSession_deposits (db : TillDb) (session : TillSessionRow)
    (rejected : AuthFailureCode) (input : DepositInput) :
    (rejectSession db session rejected input).1.toDepositDb = db.toDepositDb := by
  unfold rejectSession
  split
  · split
    · rfl
    · rw [refuseAudited_deposits]
      rfl
  · rfl

theorem admitSession_deposits (options : PosOptions) (db : TillDb) (session : TillSessionRow)
    (input : DepositInput) :
    (admitSession options db session input).1.toDepositDb = db.toDepositDb := by
  unfold admitSession
  split
  · rfl
  · repeat' split
    all_goals rfl

/-- Judging a session touches nothing of the deposits. -/
theorem authenticate_deposits (options : PosOptions) (db : TillDb) (token : Option String)
    (input : DepositInput) :
    (authenticate options db token input).1.toDepositDb = db.toDepositDb := by
  unfold authenticate
  split
  · rfl
  · split
    · rfl
    · split
      · rfl
      · split
        · exact rejectDevice_deposits ..
        · split
          · exact rejectSession_deposits ..
          · exact admitSession_deposits ..

/-- What becomes of the session a delivery carries. -/
def ChapaWebhook.judged (delivery : ChapaWebhook) (input : DepositInput) (db : TillDb) :
    TillDb × AuthResult :=
  authenticate delivery.options db (delivery.request.cookies sessionCookie) input

/-- A delivery that carries an admitted session whose screen is not locked. -/
def ChapaWebhook.Admitted (delivery : ChapaWebhook) (input : DepositInput) (db : TillDb) : Prop :=
  ∃ context, (ChapaWebhook.judged delivery input db).2 = .admitted context ∧
    screenIsLocked delivery.options (ChapaWebhook.judged delivery input db).1 context
      (input.now 2) = false

/-- The gates write what judging the session writes, and let a delivery by exactly when it carries
an admitted session whose screen is not locked. -/
theorem gate_cases (delivery : ChapaWebhook) (input : DepositInput) (db : TillDb) :
    (delivery.gate input db).1 = (ChapaWebhook.judged delivery input db).1 ∧
    ((delivery.gate input db).2 = .receiving ∧ ChapaWebhook.Admitted delivery input db ∨
      (∃ status, (delivery.gate input db).2 = .answered status) ∧
        ¬ ChapaWebhook.Admitted delivery input db) := by
  unfold ChapaWebhook.gate ChapaWebhook.Admitted ChapaWebhook.judged
  generalize authenticate delivery.options db (delivery.request.cookies sessionCookie) input =
    judged
  obtain ⟨next, result⟩ := judged
  cases result with
  | threw fault => exact ⟨rfl, .inr ⟨⟨500, rfl⟩, by simp⟩⟩
  | refused code => exact ⟨rfl, .inr ⟨⟨_, rfl⟩, by simp⟩⟩
  | admitted context =>
    by_cases locked : screenIsLocked delivery.options next context (input.now 2) = true
    · simp only [if_pos locked]
      exact ⟨trivial, .inr ⟨⟨200, rfl⟩, by simp [locked]⟩⟩
    · simp only [if_neg locked]
      exact ⟨trivial, .inl ⟨trivial, context, rfl, by simpa using locked⟩⟩

/-- The payment a delivery names, if the gateway signed it. -/
def WebhookRequest.payment (options : PosOptions) (request : WebhookRequest) : Option String :=
  match request.body with
  | none => none
  | some rawText =>
    if verifyChapaWebhook options request.headers rawText = .valid ∧
        textLength (txRefOf (options.parseJson rawText)) ≠ 0 then
      some (txRefOf (options.parseJson rawText))
    else none

def ChapaWebhook.payment (delivery : ChapaWebhook) : Option String :=
  WebhookRequest.payment delivery.options delivery.request

/-- A delivery of a body that is not too large, while the gateway is configured. -/
def ChapaWebhook.Passes (delivery : ChapaWebhook) : Prop :=
  delivery.options.chapaConfigured = true ∧ delivery.request.body ≠ none

theorem receive_payment {delivery : ChapaWebhook} (passes : ChapaWebhook.Passes delivery)
    (named : ChapaWebhook.payment delivery = some txRef) :
    delivery.receive = .settling { deps := delivery.options.deposits, txRef, point := .begin } := by
  obtain ⟨configured, body⟩ := passes
  unfold ChapaWebhook.payment WebhookRequest.payment at named
  unfold ChapaWebhook.receive
  rw [if_neg (by simp [configured])]
  cases here : delivery.request.body with
  | none => exact absurd here body
  | some rawText =>
    simp only [here] at named ⊢
    split at named
    · rename_i signed
      cases named
      rw [if_neg (by simp [signed.1]), if_neg signed.2]
    · cases named

theorem receive_settles {delivery : ChapaWebhook} (settles : delivery.receive = .settling call) :
    ChapaWebhook.payment delivery = some call.txRef ∧ call.deps = delivery.options.deposits ∧
      call.point = .begin := by
  unfold ChapaWebhook.receive at settles
  unfold ChapaWebhook.payment WebhookRequest.payment
  split at settles
  · cases settles
  · cases here : delivery.request.body with
    | none =>
      simp only [here] at settles
      cases settles
    | some rawText =>
      simp only [here] at settles ⊢
      split at settles
      · cases settles
      · rename_i signed
        split at settles
        · cases settles
        · rename_i named
          cases settles
          rw [if_pos ⟨by simpa using signed, named⟩]
          exact ⟨rfl, rfl, rfl⟩

/-- The order a settlement read. -/
def SettlePoint.order : SettlePoint → Option TopupOrderRow
  | .verifying order | .recording order _ | .settling order _ _ => some order
  | _ => none

/-- The order a settlement read is on record still, and open only if it was. -/
def Watched (db : DepositDb) (call : SettleChapaDeposit) : Prop :=
  ∀ order, SettlePoint.order call.point = some order →
    ∃ row ∈ db.topupOrders, row.reference = call.reference ∧ TopupMoved order row

/-- What a delivery at work knows: it settles the payment it names, about which it is right. -/
def KnownDelivery (db : TillDb) (delivery : ChapaWebhook) : Prop :=
  ∀ call, delivery.point = .settling call →
    ChapaWebhook.payment delivery = some call.txRef ∧ call.deps = delivery.options.deposits ∧
    KnownSettlement db.toDepositDb call ∧ Watched db.toDepositDb call

def KnownTill (db : TillDb) : TillProcess → Prop
  | .webhook delivery => KnownDelivery db delivery
  | .deposit process => KnownDeposit db.toDepositDb process
  | .till _ => True

theorem TopupMoved.trans (first : TopupMoved a b) (second : TopupMoved b c) : TopupMoved a c := by
  refine { first.toSameTopup.trans second.toSameTopup with status := ?_ }
  rcases first.status with ⟨same, link⟩ | ⟨opened, closed⟩
  · rcases second.status with ⟨same', link'⟩ | ⟨opened', closed'⟩
    · exact .inl ⟨same'.trans same, link'.trans link⟩
    · exact .inr ⟨same ▸ opened', closed'⟩
  · rcases second.status with ⟨same', _⟩ | ⟨opened', _⟩
    · exact .inr ⟨opened, same' ▸ closed⟩
    · exact absurd opened' closed

theorem Watched.filed (watched : Watched db call) (filed : Filed db filing db') :
    Watched db' call := by
  intro order read
  obtain ⟨old, mem, named, moved⟩ := watched order read
  obtain ⟨row, there, later⟩ := filed.same_topups.1 old mem
  exact ⟨row, there, later.reference.trans named, moved.trans later⟩

/-- The order a settlement works on is one it just read, or the one it worked on before. -/
theorem settle_reads {call : SettleChapaDeposit}
    (read : SettlePoint.order (call.step input db).2.point = some order) :
    findTopupOrderByReference db call.reference = some order ∧ (call.step input db).1 = db ∨
      SettlePoint.order call.point = some order := by
  unfold SettleChapaDeposit.step at read ⊢
  cases here : call.point with
  | begin =>
    simp only [here] at read ⊢
    split at read
    · cases read
    · rename_i test
      rw [if_neg test]
      cases found : findTopupOrderByReference db call.reference with
      | none =>
        simp only [found] at read
        cases read
      | some row =>
        simp only [found] at read ⊢
        cases read
        exact .inl ⟨rfl, trivial⟩
  | verifying old =>
    simp only [here] at read
    split at read <;> cases read
    exact .inr rfl
  | recording old payment =>
    simp only [here] at read
    split at read
    · split at read <;> cases read
      exact .inr rfl
    · cases read
  | settling old payment amountMinor =>
    simp only [here] at read
    split at read <;> cases read
  | returned result | threw fault =>
    simp only [here] at read
    cases read

/-- A settlement keeps watching the order it works on. -/
theorem settle_watched (watched : Watched db call) (input : DepositInput)
    (filed : Filed db filing (call.step input db).1) :
    Watched (call.step input db).1 (call.step input db).2 := by
  intro order read
  obtain ⟨⟨point, same⟩, _⟩ := settle_came call input db
  have named : (call.step input db).2.reference = call.reference := by
    rw [same]
    rfl
  rw [named]
  rcases settle_reads read with ⟨found, still⟩ | before
  · have reference := List.find?_some found
    simp only [decide_eq_true_eq] at reference
    rw [still]
    exact ⟨order, List.mem_of_find?_eq_some found, reference, .refl order⟩
  · exact (watched.filed filed) order before

/-- A delivery's step does one thing to the deposits, and leaves the delivery right about what it
knows. -/
theorem webhook_turn {db : TillDb} {delivery : ChapaWebhook} (sound : DepositSound db.toDepositDb)
    (known : KnownDelivery db delivery) (input : DepositInput) :
    ∃ filing, Filed db.toDepositDb filing (delivery.step input db).1.toDepositDb ∧
      KnownDelivery (delivery.step input db).1 (delivery.step input db).2 := by
  unfold ChapaWebhook.step
  cases here : delivery.point with
  | begin =>
    simp only [Prod.map, id]
    obtain ⟨same, out⟩ := gate_cases delivery input db
    refine ⟨.still, ?_, fun call settles => ?_⟩
    · rw [same, ChapaWebhook.judged, authenticate_deposits]
      exact .still
    · simp only [ChapaWebhook.at] at settles
      rcases out with ⟨passed, _⟩ | ⟨⟨status, answered⟩, _⟩
      · rw [passed] at settles
        cases settles
      · rw [answered] at settles
        cases settles
  | receiving =>
    refine ⟨.still, .still, fun call settles => ?_⟩
    obtain ⟨named, deps, fresh⟩ := receive_settles settles
    refine ⟨named, deps, by simp [KnownSettlement, fresh], fun order read => ?_⟩
    rw [fresh] at read
    cases read
  | settling call =>
    obtain ⟨named, deps, settlement, watched⟩ := known call here
    obtain ⟨filing, filed, _, after⟩ := settle_turn sound settlement input
    have watching := settle_watched watched input filed
    obtain ⟨⟨point, same⟩, _⟩ := settle_came call input db.toDepositDb
    refine ⟨filing, filed, fun next settles => ?_⟩
    simp only [ChapaWebhook.at] at settles
    split at settles
    · cases settles
    · cases settles
      refine ⟨?_, ?_, after, watching⟩
      · rw [same]
        exact named
      · rw [same]
        exact deps
  | answered status =>
    exact ⟨.still, .still, known⟩

/-- What a process knows survives the steps of the others. -/
theorem till_others (known : KnownTill db process)
    (filed : Filed db.toDepositDb filing db'.toDepositDb) : KnownTill db' process := by
  cases process with
  | webhook delivery =>
    intro call settles
    obtain ⟨named, deps, settlement, watched⟩ := known call settles
    have kept : KnownDeposit db.toDepositDb (.settleChapaDeposit call) := settlement
    exact ⟨named, deps, known_others kept filed, watched.filed filed⟩
  | deposit process => exact known_others known filed
  | till change => trivial

theorem till_turn {db : TillDb} (sound : DepositSound db.toDepositDb) (known : KnownTill db process)
    (input : DepositInput) :
    ∃ filing, Filed db.toDepositDb filing (process.step input db).1.toDepositDb ∧
      KnownTill (process.step input db).1 (process.step input db).2 := by
  cases process with
  | webhook delivery => exact webhook_turn sound known input
  | deposit process =>
    obtain ⟨filing, filed, _, after⟩ := deposit_turn sound known input
    exact ⟨filing, filed, after⟩
  | till change => exact ⟨.still, .still, trivial⟩

abbrev TillSecure : TillWorld → Prop :=
  Secure (fun db => DepositSound db.toDepositDb) KnownTill

theorem till_secure (w : TillWorld) (event : Event DepositInput TillProcess) (w' : TillWorld)
    (secure : TillSecure w) (step : TillStep w event w') : TillSecure w' := by
  refine Secure.step (R := fun db db' => ∃ filing, Filed db.toDepositDb filing db'.toDepositDb)
    ?_ ?_ ?_ w event w' secure step
  · intro db process _ starting
    cases process with
    | webhook delivery =>
      intro call settles
      simp only [TillProcess.Starting, settles] at starting
    | deposit process => exact known_starting starting
    | till change => trivial
  · intro input db process sound known _
    obtain ⟨filing, filed, after⟩ := till_turn sound known input
    exact ⟨filed.sound sound, after, filing, filed⟩
  · intro db db' process _ known ⟨filing, filed⟩
    exact till_others known filed

/-- Before the first delivery: the tables' keys hold and nobody is at work. -/
structure BeforeDeliveries (w : TillWorld) : Prop where
  sound : DepositSound w.store.toDepositDb
  idle : w.procs = []

/-- The step was a delivery's, one that the checks before the gates let by. -/
structure Handled (t : TillTaken) (input : DepositInput) (delivery : ChapaWebhook) : Prop where
  took : ∃ slot, t.event = .act slot input ∧ t.before.proc slot = some (.webhook delivery)
  passes : ChapaWebhook.Passes delivery

/-- The step answered a delivery that was not answered before. -/
structure AnswersDelivery (t : TillTaken) (input : DepositInput) (delivery : ChapaWebhook)
    (status : Nat) : Prop extends Handled t input delivery where
  unanswered : ∀ other, delivery.point ≠ .answered other
  answered : (delivery.step input t.before.store).2.point = .answered status

/-- The gateway verified a payment, in its currency, for its amount and under its reference, of an
order that is open. -/
structure Verified (db : DepositDb) (call : SettleChapaDeposit) (order : TopupOrderRow) : Prop where
  stored : order ∈ db.topupOrders
  named : order.reference = call.reference
  opened : order.status = .opened
  vouched : ∃ copy payment, SettlePoint.Holds copy payment call.point ∧
    Vouched call.deps.toUpperCase payment order.reference order.amountMinor

/-- A delivery is handled as the route means it to be: one that is signed and names a payment is
answered only when the settlement of that payment is over, with 503 exactly if the gateway could
not be asked, and has then credited the open order it was verified for; any other changes
nothing. -/
structure Heeded (t : TillTaken) : Prop where
  settled : ∀ input delivery status, AnswersDelivery t input delivery status →
    ∀ txRef, ChapaWebhook.payment delivery = some txRef →
      ∃ call, delivery.point = .settling call ∧ call.txRef = txRef ∧
        SettlePoint.answer (call.step input t.before.store.toDepositDb).2.point = some status ∧
        (status = 503 ↔ ∃ detail, (call.step input t.before.store.toDepositDb).2.point =
          .returned (.unverifiable detail))
  quiet : ∀ input delivery, Handled t input delivery → ChapaWebhook.payment delivery = none →
    t.after.store = t.before.store
  credited : ∀ input delivery status call order, AnswersDelivery t input delivery status →
    delivery.point = .settling call → Verified t.before.store.toDepositDb call order →
    PaidInto t.before.store.toDepositDb t.after.store.toDepositDb order

/-- The database takes what a settlement writes next. -/
def Written (input : DepositInput) (db : DepositDb) (call : SettleChapaDeposit) : Prop :=
  match call.point with
  | .recording _ _ => input.busy = false
  | .settling order payment amountMinor => ∃ next won,
    depositUnit input (call.settle order payment amountMinor input) db = (next, .ok won)
  | _ => True

/-- Nothing stands in a delivery's way: one that is signed and names a payment carries an admitted
session whose screen is not locked, judging the session of any other writes nothing, and the
database takes what the settlement of a verified payment writes. -/
structure Unhindered (t : TillTaken) : Prop where
  admitted : ∀ input delivery, Handled t input delivery → delivery.point = .begin →
    (ChapaWebhook.payment delivery).isSome → ChapaWebhook.Admitted delivery input t.before.store
  untouched : ∀ input delivery, Handled t input delivery → delivery.point = .begin →
    ChapaWebhook.payment delivery = none →
    (ChapaWebhook.judged delivery input t.before.store).1 = t.before.store
  written : ∀ input delivery call order, Handled t input delivery →
    delivery.point = .settling call → Verified t.before.store.toDepositDb call order →
    Written input t.before.store.toDepositDb call
theorem handled_store {w w' : TillWorld} {delivery : ChapaWebhook} (secure : TillSecure w)
    (step : TillStep w event w') (handled : Handled ⟨w, event, w'⟩ input delivery) :
    w'.store = (delivery.step input w.store).1 ∧ KnownDelivery w.store delivery := by
  obtain ⟨⟨slot, rfl, here⟩, _⟩ := handled
  refine ⟨?_, secure.2 _ (World.proc_mem here)⟩
  rcases step.acted with ⟨_, other⟩ | ⟨_, _, found, event, there, _, rfl⟩
  · exact absurd rfl (other slot input)
  · cases event
    cases here.symm.trans there
    rfl

/-- A write the database refuses ends the settlement with an exception and leaves the deposits as
they were. -/
theorem unwritten_throws {call : SettleChapaDeposit} (unwritten : ¬ Written input db call) :
    (call.step input db).1 = db ∧ SettlePoint.answer (call.step input db).2.point = some 500 := by
  unfold Written at unwritten
  unfold SettleChapaDeposit.step
  cases here : call.point with
  | recording order payment =>
    simp only [here, Bool.not_eq_false] at unwritten ⊢
    rcases depositUnit_cases input (fun db => .ok (recordTopupProviderOutcome db call.reference
        payment.providerReference payment.status (input.now 0), ())) db with
      ⟨_, _, free, _⟩ | ⟨fault, same⟩
    · rw [unwritten] at free
      cases free
    · rw [same]
      exact ⟨rfl, rfl⟩
  | settling order payment amountMinor =>
    simp only [here, not_exists] at unwritten ⊢
    rcases depositUnit_cases input (call.settle order payment amountMinor input) db with
      ⟨next, won, _, _, same⟩ | ⟨fault, same⟩
    · exact absurd same (unwritten next won)
    · rw [same]
      exact ⟨rfl, rfl⟩
  | _ => simp [here] at unwritten

theorem not_paid_still (db : DepositDb) (order : TopupOrderRow) : ¬ PaidInto db db order := by
  rintro ⟨_, credit, debit, entries, _⟩
  have grown := congrArg List.length entries
  simp at grown

/-- The settlement of a verified payment that the database takes goes on, or credits the order. -/
theorem written_credits {call : SettleChapaDeposit} (sound : DepositSound db)
    (known : KnownSettlement db call) (watched : Watched db call) (verified : Verified db call order)
    (written : Written input db call)
    (ended : SettlePoint.answer (call.step input db).2.point = some status) :
    PaidInto db (call.step input db).1 order := by
  obtain ⟨mem, named, opened, copy, payment, holds, vouched⟩ := verified
  -- What the settlement read is the order as it stands.
  have current : ∀ read, SettlePoint.order call.point = some read →
      read.status = .opened ∧ SameTopup read order := by
    intro read here
    obtain ⟨row, there, reference, moved⟩ := watched read here
    have one : row = order := sound.references.eq there mem (reference.trans named.symm)
    subst one
    rcases moved.status with ⟨same, _⟩ | ⟨_, closed⟩
    · exact ⟨same ▸ opened, moved.toSameTopup⟩
    · exact absurd opened closed
  unfold SettleChapaDeposit.step at ended ⊢
  cases here : call.point with
  | recording read given =>
    simp only [here, SettlePoint.Holds] at holds
    obtain ⟨rfl, rfl⟩ := holds
    obtain ⟨stillOpen, same⟩ := current read (by rw [here]; rfl)
    have decided : call.decision read given = .credit read.amountMinor := by
      refine decideChapaCredit_credit.mpr ⟨stillOpen, rfl, ?_⟩
      rw [← same.reference, ← same.amount]
      exact vouched
    simp only [Written, here] at written
    simp only [here] at ended
    rcases depositUnit_cases input (fun db => .ok (recordTopupProviderOutcome db call.reference
        given.providerReference given.status (input.now 0), ())) db with
      ⟨_, _, _, _, same⟩ | ⟨fault, same⟩
    · rw [same] at ended
      simp only [decided] at ended
      cases ended
    · simp [depositUnit, commit, written, demand, bind, Except.bind, pure, Except.pure] at same
  | settling read given amountMinor =>
    simp only [Written, here] at written
    obtain ⟨next, won, went⟩ := written
    simp only [here, went]
    rcases depositUnit_cases input (call.settle read given amountMinor input) db with
      ⟨next', won', _, done, same⟩ | ⟨fault, same⟩
    · rw [went] at same
      cases same
      rcases settle_filed sound here done with ⟨_, _, none⟩ | ⟨rfl, _, _, _, settled, filed⟩
      · have hit := none order mem
        simp [openTopup, named, opened] at hit
      · obtain ⟨row, there, answers, _⟩ := settled_answers sound known settled
        have one : row = order := by
          refine sound.references.eq there mem ?_
          rw [answers.reference, settled.reference, named]
        subst one
        exact settled_pays filed there answers
    · rw [went] at same
      cases same
  | _ => simp [here, SettlePoint.Holds] at holds

/-- What a settlement is answered with tells whether the gateway could be asked. -/
theorem answer_unverifiable {point : SettlePoint} (answer : point.answer = some status) :
    status = 503 ↔ ∃ detail, point = .returned (.unverifiable detail) := by
  cases point with
  | returned result =>
    cases result with
    | unverifiable detail =>
      cases answer
      simp
    | _ =>
      cases answer
      simp
  | threw fault =>
    cases answer
    simp
  | _ => cases answer

/-- The step of a delivery that is settling is the step of its settlement. -/
theorem settling_step {delivery : ChapaWebhook} (input : DepositInput) (db : TillDb)
    (here : delivery.point = .settling call) :
    (delivery.step input db).1.toDepositDb = (call.step input db.toDepositDb).1 ∧
    ∀ status, (delivery.step input db).2.point = .answered status ↔
      SettlePoint.answer (call.step input db.toDepositDb).2.point = some status := by
  unfold ChapaWebhook.step
  simp only [here, ChapaWebhook.at]
  refine ⟨trivial, fun status => ?_⟩
  cases ended : SettlePoint.answer (call.step input db.toDepositDb).2.point with
  | none | some answer => simp

theorem heeded_unhindered {w w' : TillWorld} (secure : TillSecure w) (step : TillStep w event w')
    (heeded : Heeded ⟨w, event, w'⟩) : Unhindered ⟨w, event, w'⟩ := by
  refine ⟨?_, ?_, ?_⟩
  · intro input delivery handled here named
    obtain ⟨txRef, named⟩ := Option.isSome_iff_exists.mp named
    obtain ⟨_, passed | ⟨⟨status, answered⟩, _⟩⟩ := gate_cases delivery input w.store
    · exact passed.2
    · have answers : AnswersDelivery ⟨w, event, w'⟩ input delivery status := by
        refine { handled with unanswered := by simp [here], answered := ?_ }
        simp only [ChapaWebhook.step, here]
        exact answered
      obtain ⟨call, settling, _⟩ := heeded.settled input delivery status answers txRef named
      rw [here] at settling
      cases settling
  · intro input delivery handled here unnamed
    have still := heeded.quiet input delivery handled unnamed
    rw [(handled_store secure step handled).1] at still
    simp only [ChapaWebhook.step, here, Prod.map, id] at still
    rw [(gate_cases delivery input w.store).1] at still
    exact still
  · intro input delivery call order handled here verified
    by_contra unwritten
    obtain ⟨still, ended⟩ := unwritten_throws unwritten
    obtain ⟨store, answered⟩ := settling_step input w.store here
    have answers : AnswersDelivery ⟨w, event, w'⟩ input delivery 500 :=
      { handled with
        unanswered := by simp [here]
        answered := (answered 500).mpr ended }
    have paid := heeded.credited input delivery 500 call order answers here verified
    rw [(handled_store secure step handled).1, store, still] at paid
    exact not_paid_still _ _ paid

theorem unhindered_heeded {w w' : TillWorld} (secure : TillSecure w) (step : TillStep w event w')
    (free : Unhindered ⟨w, event, w'⟩) : Heeded ⟨w, event, w'⟩ := by
  refine ⟨?_, ?_, ?_⟩
  · intro input delivery status answers txRef named
    have handled := answers.toHandled
    have known := (handled_store secure step handled).2
    have answered := answers.answered
    cases here : delivery.point with
    | begin =>
      have admitted := free.admitted input delivery handled here (by simp [named])
      simp only [ChapaWebhook.step, here] at answered
      obtain ⟨_, ⟨passed, _⟩ | ⟨_, refused⟩⟩ := gate_cases delivery input w.store
      · cases passed.symm.trans answered
      · exact absurd admitted refused
    | receiving =>
      have settles := receive_payment handled.passes named
      simp only [ChapaWebhook.step, here] at answered
      cases settles.symm.trans answered
    | settling call =>
      have ended := ((settling_step _ _ here).2 status).mp answered
      refine ⟨call, rfl, ?_, ended, answer_unverifiable ended⟩
      exact Option.some.inj ((known call here).1.symm.trans named)
    | answered other => exact absurd here (answers.unanswered other)
  · intro input delivery handled unnamed
    obtain ⟨store, known⟩ := handled_store secure step handled
    simp only
    rw [store]
    cases here : delivery.point with
    | begin =>
      simp only [ChapaWebhook.step, here, Prod.map, id]
      rw [(gate_cases delivery input w.store).1]
      exact free.untouched input delivery handled here unnamed
    | settling call =>
      have named := (known call here).1
      rw [unnamed] at named
      cases named
    | _ => simp [ChapaWebhook.step, here]
  · intro input delivery status call order answers here verified
    have handled := answers.toHandled
    obtain ⟨store, known⟩ := handled_store secure step handled
    obtain ⟨_, _, settlement, watched⟩ := known call here
    obtain ⟨same, answered⟩ := settling_step input w.store here
    simp only
    rw [store, same]
    exact written_credits secure.1 settlement watched verified
      (free.written input delivery call order handled here verified)
      ((answered status).mp answers.answered)

/-- Every delivery is handled as the route means it to be exactly when nothing stands in its way:
above all, when the gateway's server carries an operator's session. -/
theorem deliveries_heeded_iff {past : List TillTaken} {w : TillWorld}
    (run : Run BeforeDeliveries TillStep past w) :
    (∀ t ∈ past, Heeded t) ↔ ∀ t ∈ past, Unhindered t := by
  have start : ∀ w, BeforeDeliveries w → TillSecure w :=
    fun w before => ⟨before.sound, by simp [before.idle]⟩
  refine forall₂_congr fun t mem => ?_
  obtain ⟨secure, step, _⟩ := run.taken start till_secure t mem
  exact ⟨heeded_unhindered secure step, unhindered_heeded secure step⟩

/-- What the gateway signs about a payment of a hundred birr, under the sandbox key. -/
def signedBody : String := "\x7b\"tx_ref\":\"ABC-DEF-GHJ\"\x7d"

def sandboxTill : PosOptions where
  deposits := sandbox
  chapaConfigured := true
  idleTimeoutMs := 60000
  hmacSha256 _ text :=
    if text = signedBody then "955aec17dc303cbee25bd338d2721645b7cced18773a2ca7d58461916770226e"
    else "b613679a0814d9ec772f95d778c35fc5ff1697c493715653c6c712144292c5ad"
  parseJson text :=
    if text = signedBody then some (.object [("tx_ref", .string "ABC-DEF-GHJ")]) else none
  toSafeInteger _ := none

/-- The gateway's delivery of it: signed, and without a cookie. -/
def signedDelivery : ChapaWebhook where
  options := sandboxTill
  request :=
    { cookies := fun _ => none
      headers := fun name =>
        if name = payloadSignatureHeader then
          ["955aec17dc303cbee25bd338d2721645b7cced18773a2ca7d58461916770226e"]
        else []
      body := some signedBody }
  point := .begin

/-- A shop opens an order of a hundred birr, and the gateway delivers its payment. -/
def orderedAndDelivered : List (Event DepositInput TillProcess) :=
  let now := fun tag => answering tag "ABC-DEF-GHJ" 0
  [.start (.deposit hundredBirr), .act 0 (now "a"), .act 0 (now "b"), .act 0 (now "c"),
   .start (.webhook signedDelivery), .act 1 (now "d")]

def depositTill : TillDb :=
  { depositDesk with
    sessions := [], deviceEnrollments := [], operators := [], settings := [], authAudits := []
    unlockedAt := [] }

def orderedAndDeliveredRun : List TillTaken × TillWorld :=
  played (World.next tillServer) orderedAndDelivered [] ⟨depositTill, []⟩

theorem orderedAndDelivered_run :
    Run BeforeDeliveries TillStep orderedAndDeliveredRun.1 orderedAndDeliveredRun.2 := by
  have sound : DepositSound depositDesk := by
    constructor <;> simp [depositDesk, Library.Unique]
  have opening : Run BeforeDeliveries TillStep [] ⟨depositTill, []⟩ := .start ⟨sound, rfl⟩
  have playable : Playable (World.May (fun _ _ => True) fun _ _ _ => True)
      (World.next tillServer) orderedAndDelivered ⟨depositTill, []⟩ := by
    decide +kernel
  refine opening.play Pool.next (playable_admits ?_ playable)
  intro process mem _
  simp only [orderedAndDelivered, List.mem_cons, List.not_mem_nil, or_false, reduceCtorEq,
    false_or, Event.start.injEq] at mem
  rcases mem with rfl | rfl
  · exact rfl
  · trivial

/-- The delivery is answered by the session gate, with its order still open. -/
theorem delivery_turned_away : ∃ t ∈ orderedAndDeliveredRun.1,
    AnswersDelivery t (answering "d" "ABC-DEF-GHJ" 0) signedDelivery 401 ∧
    ∃ order ∈ t.after.store.topupOrders, order.reference = "ABCDEFGHJ" ∧
      order.status = .opened := by
  refine ⟨_, List.mem_cons_self .., ⟨⟨⟨1, rfl, rfl⟩, rfl, by simp [signedDelivery]⟩, ?_, rfl⟩, ?_⟩
  · intro other
    simp [signedDelivery]
  · decide +kernel

/-- What the gateway signs and sends is answered with the sign-in refusal, and settles nothing. -/
theorem signed_delivery_unheeded :
    Run BeforeDeliveries TillStep orderedAndDeliveredRun.1 orderedAndDeliveredRun.2 ∧
    ¬ ∀ t ∈ orderedAndDeliveredRun.1, Heeded t := by
  refine ⟨orderedAndDelivered_run, fun heeded => ?_⟩
  obtain ⟨t, mem, answers, _⟩ := delivery_turned_away
  have named : ChapaWebhook.payment signedDelivery = some "ABC-DEF-GHJ" := by decide +kernel
  obtain ⟨call, settling, _⟩ := (heeded t mem).settled _ _ _ answers _ named
  cases settling

theorem signed_delivery_hindered : ∃ t ∈ orderedAndDeliveredRun.1, ¬ Unhindered t := by
  by_contra all
  have heeded := (deliveries_heeded_iff orderedAndDelivered_run).mpr fun t mem => by
    by_contra hindered
    exact all ⟨t, mem, hindered⟩
  obtain ⟨t, mem, answers, _⟩ := delivery_turned_away
  have named : ChapaWebhook.payment signedDelivery = some "ABC-DEF-GHJ" := by decide +kernel
  obtain ⟨call, settling, _⟩ := (heeded t mem).settled _ _ _ answers _ named
  cases settling

end Telga.Proofs
