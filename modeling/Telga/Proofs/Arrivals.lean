import Telga.Proofs.Runs

namespace Telga.Proofs
open Domain Persistence Application Library

/-- The sale a call of `createSale` has opened, once it has opened one. -/
def SalePoint.transaction : SalePoint → Option Transaction
  | .submitting transaction => some transaction
  | .awaiting transaction => some transaction
  | .applying transaction _ => some transaction
  | .releasing transaction => some transaction
  | _ => none

/-- The reservation a call is about to make is accepted. -/
def Accepted (input : Input) (db : Db) (sale : CreateSale) : Prop :=
  sale.point = .reserving ∧
  ∃ db' reserved, unit input (openSale sale input) db = (db', .ok reserved)

/-- Where a call of `createSale` was, and what it did, when it comes to a point. -/
def SaleCame (input : Input) (db db' : Db) (sale : CreateSale) : SalePoint → Prop
  | .lookUp => sale.point = .device ∧ validationFailure sale.toSaleCall = none
  | .original record => sale.point = .lookUp ∧
    findIdempotencyRecord db sale.request.merchantId sale.key = some record ∧
    record.payloadFingerprint = sale.fingerprint
  | .health => sale.point = .lookUp ∧
    findIdempotencyRecord db sale.request.merchantId sale.key = none
  | .reserving => sale.point = .health
  | .submitting reserved => sale.point = .reserving ∧
    openSale sale input db = .ok (db', reserved)
  | .awaiting processing => ∃ reserved, sale.point = .submitting reserved ∧
    markProcessing sale reserved input db = .ok (db', processing)
  | .applying processing submitted => sale.point = .awaiting processing ∧ db' = db ∧
    ((∃ result, input.submission = .answered result ∧ submitted = submittedAs result) ∨
      ∃ token, input.submission = .threw false token ∧ submitted = unreachable)
  | .releasing processing => sale.point = .awaiting processing ∧ db' = db ∧
    ∃ token, input.submission = .threw true token
  | _ => True

/-- A rejection of the first unit of work ends the call. -/
theorem refusal_rejects (sale : CreateSale) (fault : Fault) :
    ∃ kind reasonCode,
      sale.refusal fault = sale.reject kind reasonCode (some sale.key) := by
  unfold CreateSale.refusal
  split <;> exact ⟨_, _, rfl⟩

theorem createSale_came (moved : sale.step input db = (db', sale')) :
    sale'.toSaleCall = sale.toSaleCall ∧ SaleCame input db db' sale sale'.point := by
  cases point : sale.point with
  | begin =>
    simp only [CreateSale.step, point] at moved
    split at moved
    · cases moved
      exact ⟨rfl, trivial⟩
    · split at moved
      all_goals
        cases moved
        exact ⟨rfl, trivial⟩
  | device =>
    simp only [CreateSale.step, point] at moved
    split at moved
    · cases moved
      exact ⟨rfl, trivial⟩
    · split at moved
      · cases moved
        exact ⟨rfl, trivial⟩
      · split at moved
        · cases moved
          exact ⟨rfl, trivial⟩
        · rename_i passes
          cases moved
          exact ⟨rfl, point, passes⟩
  | lookUp =>
    simp only [CreateSale.step, point] at moved
    split at moved
    · rename_i absent
      cases moved
      exact ⟨rfl, point, absent⟩
    · rename_i record found
      split at moved
      · cases moved
        exact ⟨rfl, trivial⟩
      · rename_i same
        cases moved
        exact ⟨rfl, point, found, not_not.mp same⟩
  | original record =>
    simp only [CreateSale.step, point] at moved
    cases moved
    exact ⟨rfl, trivial⟩
  | health =>
    simp only [CreateSale.step, point] at moved
    split at moved
    · cases moved
      exact ⟨rfl, point⟩
    all_goals
      cases moved
      exact ⟨rfl, trivial⟩
  | reserving =>
    simp only [CreateSale.step, point] at moved
    split at moved
    · rename_i went
      cases moved
      exact ⟨rfl, point, unit_ok went⟩
    · rename_i fault _
      cases moved
      obtain ⟨kind, reasonCode, refused⟩ := refusal_rejects sale fault
      refine ⟨rfl, ?_⟩
      simp only [CreateSale.at, refused, CreateSale.reject, SaleCame]
  | submitting reserved =>
    simp only [CreateSale.step, point] at moved
    split at moved
    · rename_i went
      cases moved
      exact ⟨rfl, reserved, point, unit_ok went⟩
    · cases moved
      exact ⟨rfl, trivial⟩
  | awaiting processing =>
    simp only [CreateSale.step, point] at moved
    split at moved
    · rename_i result answered
      cases moved
      exact ⟨rfl, point, rfl, .inl ⟨result, answered, rfl⟩⟩
    · rename_i token threw
      cases moved
      exact ⟨rfl, point, rfl, token, threw⟩
    · rename_i token threw
      cases moved
      exact ⟨rfl, point, rfl, .inr ⟨token, threw, rfl⟩⟩
  | applying processing submitted | releasing processing =>
    simp only [CreateSale.step, point] at moved
    split at moved
    all_goals
      cases moved
      exact ⟨rfl, trivial⟩
  | returned result | threw fault =>
    simp only [CreateSale.step, point] at moved
    cases moved
    simp only [point, SaleCame, and_self]

/-- Where a call of `resolvePending` was when it comes to apply a status. -/
def ResolveCame (input : Input) (db db' : Db) (call : ResolvePending) : ResolvePoint → Prop
  | .applying row job correlationId status =>
    call.point = .awaiting row job correlationId ∧ db' = db ∧ input.status = .answered status
  | _ => True

theorem resolvePending_came (moved : call.step input db = (db', call')) :
    call'.transactionId = call.transactionId ∧ call'.merchantId = call.merchantId ∧
    ResolveCame input db db' call call'.point := by
  cases point : call.point with
  | awaiting row job correlationId =>
    simp only [ResolvePending.step, point] at moved
    split at moved
    · rename_i status answered
      cases moved
      exact ⟨rfl, rfl, point, rfl, answered⟩
    · cases moved
      exact ⟨rfl, rfl, trivial⟩
  | support row correlationId =>
    simp only [ResolvePending.step, point] at moved
    cases moved
    exact ⟨rfl, rfl, trivial⟩
  | returned result | threw fault =>
    simp only [ResolvePending.step, point] at moved
    cases moved
    simp only [point, ResolveCame, and_self]
  | _ =>
    simp only [ResolvePending.step, point] at moved
    split at moved
    all_goals
      cases moved
      exact ⟨rfl, rfl, trivial⟩

/-- Where a sweep was, and what it read or was told, when it comes to a point. -/
def SweepCame (input : Input) (db db' : Db) (sweep : RecoverInFlight) : SweepPoint → Prop
  | .job row policy current => sweep.point = .reading row policy ∧ db' = db ∧
    findTransaction db row.id row.merchantId = some current
  | .neverSubmitted work => sweep.point = .job work.row work.policy work.current ∧ db' = db ∧
    work.current.state = .reserved ∧ work.current.providerReference = none
  | .noting work _ outcome _ => ∃ start, sweep.point = .lookingUp work start ∧ db' = db ∧
    ((∃ status, input.status = .answered status ∧ outcome = classifyStatus status) ∨
      ∃ live token, input.status = .threw live token ∧
        outcome = classifyLookupFailure live token)
  | .applying work lookupMs outcome reference =>
    sweep.point = .noting work lookupMs outcome reference
  | _ => True

/-- Writing an audit event leads on to the next point or to where a throw leads. -/
theorem auditing_came {sweep : RecoverInFlight}
    (moved : sweep.auditing input db action row correlationId onto thrown = (db', sweep')) :
    sweep'.point = onto ∨ ∃ fault, sweep'.point = thrown fault := by
  unfold RecoverInFlight.auditing at moved
  split at moved
  · cases moved
    exact .inl rfl
  · rename_i fault _
    cases moved
    exact .inr ⟨fault, rfl⟩

theorem recoverInFlight_came (moved : sweep.step input db = (db', sweep')) :
    SweepCame input db db' sweep sweep'.point := by
  cases point : sweep.point with
  | begin =>
    simp only [RecoverInFlight.step, point] at moved
    split at moved
    all_goals
      cases moved
      trivial
  | scanning =>
    simp only [RecoverInFlight.step, point] at moved
    cases moved
    trivial
  | next =>
    simp only [RecoverInFlight.step, point] at moved
    repeat' split at moved
    all_goals
      cases moved
      trivial
  | claiming row policy =>
    simp only [RecoverInFlight.step, point] at moved
    split at moved
    all_goals
      cases moved
      trivial
  | prevented row | claimed row policy =>
    simp only [RecoverInFlight.step, point] at moved
    rcases auditing_came moved with here | ⟨fault, here⟩
    all_goals simp only [here, SweepCame]
  | reading row policy =>
    simp only [RecoverInFlight.step, point] at moved
    split at moved
    · cases moved
      trivial
    · rename_i current found
      cases moved
      exact ⟨point, rfl, found⟩
  | job row policy current =>
    simp only [RecoverInFlight.step, point] at moved
    split at moved
    · cases moved
      trivial
    · split at moved
      · rename_i never
        cases moved
        exact ⟨point, rfl, never⟩
      · split at moved
        all_goals
          cases moved
          trivial
  | neverSubmitted work | uncertain work =>
    simp only [RecoverInFlight.step, point] at moved
    split at moved
    all_goals
      cases moved
      trivial
  | announcing work =>
    simp only [RecoverInFlight.step, point] at moved
    rcases auditing_came moved with here | ⟨fault, here⟩
    all_goals simp only [here, SweepCame]
  | lookingUp work lookupStart =>
    simp only [RecoverInFlight.step, point] at moved
    split at moved
    · rename_i status answered
      cases moved
      exact ⟨lookupStart, point, rfl, .inl ⟨status, answered, rfl⟩⟩
    · rename_i live token threw
      cases moved
      exact ⟨lookupStart, point, rfl, .inr ⟨live, token, threw, rfl⟩⟩
  | noting work lookupMs outcome reference =>
    simp only [RecoverInFlight.step, point] at moved
    rcases auditing_came moved with here | ⟨fault, here⟩
    all_goals simp only [here, SweepCame, point]
  | applying work lookupMs outcome reference =>
    simp only [RecoverInFlight.step, point] at moved
    split at moved
    all_goals
      cases moved
      trivial
  | failing row fault =>
    simp only [RecoverInFlight.step, point] at moved
    rcases auditing_came moved with here | ⟨fault, here⟩
    all_goals simp only [here, SweepCame]
  | failedRow row fault | failedJob row fault state =>
    simp only [RecoverInFlight.step, point] at moved
    cases moved
    trivial
  | releasing row rethrown =>
    simp only [RecoverInFlight.step, point] at moved
    repeat' split at moved
    all_goals
      cases moved
      trivial
  | returned report | threw fault =>
    simp only [RecoverInFlight.step, point] at moved
    cases moved
    simp only [point, SweepCame]

/-- Where a call of `requireReversal` was, and what it read, when it comes to its unit of work. -/
def RequireCame (db db' : Db) (call : RequireReversal) : RequirePoint → Prop
  | .requiring row => call.point = .begin ∧ db' = db ∧
    findTransaction db call.transactionId call.merchantId = some row ∧
    (row.state = .pending ∨ row.state = .underReview)
  | _ => True

theorem requireReversal_came (moved : call.step input db = (db', call')) :
    call'.transactionId = call.transactionId ∧ call'.merchantId = call.merchantId ∧
    RequireCame db db' call call'.point := by
  cases point : call.point with
  | begin =>
    simp only [RequireReversal.step, point] at moved
    split at moved
    · cases moved
      exact ⟨rfl, rfl, trivial⟩
    · rename_i row found
      split at moved
      · cases moved
        exact ⟨rfl, rfl, trivial⟩
      · split at moved
        · rename_i legal
          cases moved
          exact ⟨rfl, rfl, point, rfl, found, legal⟩
        · cases moved
          exact ⟨rfl, rfl, trivial⟩
  | support row =>
    simp only [RequireReversal.step, point] at moved
    cases moved
    exact ⟨rfl, rfl, trivial⟩
  | requiring row =>
    simp only [RequireReversal.step, point] at moved
    split at moved
    all_goals
      cases moved
      exact ⟨rfl, rfl, trivial⟩
  | returned result | threw fault =>
    simp only [RequireReversal.step, point] at moved
    cases moved
    simp only [point, RequireCame, and_self]

end Telga.Proofs
