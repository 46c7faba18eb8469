import Telga.Application.ApplicationReview

namespace Telga.Proofs.Applications
open Domain Persistence Application Library

/-- The stored status of an application. -/
def statusOf (db : IntakeDb) (id : ApplicationId) : Option ApplicationStatus :=
  (applicationById db id).map (·.status)

/-- The provisioning a request is at. -/
def provisionOf : IntakeProcess → Option ProvisionMerchant
  | .register call =>
    match call.point with
    | .approved provision => some provision
    | _ => none
  | .decide call =>
    match call.point with
    | .approved provision => some provision
    | _ => none
  | _ => none

/-- Neither an application nor a shop changed. -/
def Same (db db' : IntakeDb) : Prop :=
  db'.merchantApplications = db.merchantApplications ∧ db'.merchants = db.merchants

/-- What one step of a request does to the applications and the shops. -/
inductive IntakeDeed (input : IntakeInput) (db : IntakeDb) : IntakeProcess → IntakeDb → Prop
  | kept : Same db db' → IntakeDeed input db process db'
  | aside : provisionOf process = none → KeepsShops db db' → IntakeDeed input db process db'
  | recorded : ¬ Present (·.id) application.id db.merchantApplications →
      db'.merchantApplications = db.merchantApplications ++ [applicationRow application] →
      db'.merchants = db.merchants → IntakeDeed input db process db'
  | pickedUp : db' = pickUpApplication db applicationId reviewer now →
      IntakeDeed input db process db'
  | decided : statusOf db applicationId = some status →
      status.canTransition decision.status = true →
      db' = decideApplication db applicationId decision → IntakeDeed input db process db'
  | atCounter : call.point = .recorded applicationId now → call.form.approveNow = true →
      requireAdmin call.context .approveMerchant (input.now 0) call.deps.policy = none →
      input.busy = false → decision.status = .approved →
      db' = decideApplication db applicationId decision → IntakeDeed input db (.register call) db'
  | opened : provisionOf process = some provision → provision.point = .merchant →
      ¬ Present (·.id) (merchantIdFor provision.applicationId) db.merchants →
      db' = { db with merchants := db.merchants ++
        [⟨merchantIdFor provision.applicationId, .onboarding⟩] } →
      IntakeDeed input db process db'
  | linked : provisionOf process = some provision → provision.point = .linking →
      input.busy = false →
      db' = linkApplication db provision.applicationId (merchantIdFor provision.applicationId) now →
      IntakeDeed input db process db'

/-- An application that was approved stays so until it is linked. -/
def StillApproved (db : IntakeDb) (provision : ProvisionMerchant) : Prop :=
  provision.point ≠ .provisioned → statusOf db provision.applicationId = some .approved

/-- What a request knows of its application. -/
def Knows (db : IntakeDb) : IntakeProcess → Prop
  | .register call =>
    match call.point with
    | .recorded applicationId _ => statusOf db applicationId = some .submitted
    | .approved provision => StillApproved db provision
    | _ => True
  | .decide call =>
    match call.point with
    | .approved provision => StillApproved db provision
    | _ => True
  | _ => True

theorem statement_cases (input : IntakeInput) (work : IntakeDb → Except Fault IntakeDb)
    (db : IntakeDb) :
    (∃ next, input.busy = false ∧ work db = .ok next ∧
      statement input work db = (next, .ok ())) ∨
    ∃ fault, statement input work db = (db, .error fault) := by
  unfold statement
  rcases commit_cases (fun db => do
      demand (input.busy = false) .busy
      return (← work db, ())) db with ⟨next, answer, done, same⟩ | ⟨fault, _, same⟩
  · simp only [bind_ok, demand_ok, pure_ok, Prod.mk.injEq] at done
    obtain ⟨_, free, _, done, rfl, _⟩ := done
    exact .inl ⟨_, free, done, same⟩
  · exact .inr ⟨fault, same⟩

theorem statusOf_congr {db db' : IntakeDb}
    (same : db'.merchantApplications = db.merchantApplications) (id : ApplicationId) :
    statusOf db' id = statusOf db id := by
  unfold statusOf applicationById
  rw [same]

/-- An update that keeps the ids is read off row by row. -/
theorem statusOf_update {hit : MerchantApplicationRow → Bool}
    {change : MerchantApplicationRow → MerchantApplicationRow} {db : IntakeDb}
    (keeps : ∀ row, (change row).id = row.id) (id : ApplicationId) :
    statusOf { db with merchantApplications := update hit change db.merchantApplications } id =
      (applicationById db id).map fun row => (if hit row then change row else row).status := by
  unfold statusOf applicationById
  rw [find?_update fun row => by rw [keeps], Option.map_map]
  rfl

theorem statusOf_decided (db : IntakeDb) (id other : ApplicationId)
    (decision : ApplicationDecision) :
    statusOf (decideApplication db id decision) other =
      if other = id then (statusOf db other).map fun _ => decision.status
      else statusOf db other := by
  unfold decideApplication
  rw [statusOf_update]
  swap
  · exact fun _ => rfl
  unfold statusOf
  cases found : applicationById db other with
  | none => simp
  | some row =>
    have named := List.find?_some found
    simp only [decide_eq_true_eq] at named
    by_cases same : other = id
    · simp [named, same]
    · simp [named, same]

theorem statusOf_linked (db : IntakeDb) (id other : ApplicationId) (merchantId : MerchantId)
    (now : Timestamp) :
    statusOf (linkApplication db id merchantId now) other =
      if other = id then (statusOf db other).map fun _ => .devicePending
      else statusOf db other := by
  unfold linkApplication
  rw [statusOf_update]
  swap
  · exact fun _ => rfl
  unfold statusOf
  cases found : applicationById db other with
  | none => simp
  | some row =>
    have named := List.find?_some found
    simp only [decide_eq_true_eq] at named
    by_cases same : other = id
    · simp [named, same]
    · simp [named, same]

theorem statusOf_pickedUp (db : IntakeDb) (id other : ApplicationId) (reviewer : String)
    (now : Timestamp) :
    statusOf (pickUpApplication db id reviewer now) other =
      if other = id ∧ statusOf db other = some .submitted then some .underReview
      else statusOf db other := by
  unfold pickUpApplication
  rw [statusOf_update]
  swap
  · exact fun _ => rfl
  unfold statusOf
  cases found : applicationById db other with
  | none => simp
  | some row =>
    have named := List.find?_some found
    simp only [decide_eq_true_eq] at named
    by_cases hit : other = id ∧ row.status = .submitted
    · simp [named, hit]
    · rw [Option.map_some, if_neg, Option.map_some, if_neg]
      · simpa using hit
      · simpa [named] using hit

theorem statusOf_recorded {db db' : IntakeDb} {application : ApplicationInput}
    (fresh : ¬ Present (·.id) application.id db.merchantApplications)
    (added : db'.merchantApplications = db.merchantApplications ++ [applicationRow application])
    (id : ApplicationId) :
    statusOf db' id = if id = application.id then some .submitted else statusOf db id := by
  unfold statusOf applicationById
  rw [added, find?_added fun row : MerchantApplicationRow => row.id]
  · change Option.map _ (if id = application.id then _ else _) = _
    split
    · rfl
    · rfl
  · exact fun old mem same => fresh ⟨old, mem, same⟩

theorem same_refl (db : IntakeDb) : Same db db :=
  ⟨rfl, rfl⟩

/-- A statement that leaves the applications and the shops alone, whether it goes through or not. -/
theorem statement_keeps {work : IntakeDb → Except Fault IntakeDb}
    (keeps : ∀ db next, work db = .ok next → Same db next)
    (went : statement input work db = (db', result)) : Same db db' := by
  rcases statement_cases input work db with ⟨next, _, done, same⟩ | ⟨fault, same⟩
  · rw [same] at went
    cases went
    exact keeps db _ done
  · rw [same] at went
    cases went
    exact same_refl db

theorem statement_ok {work : IntakeDb → Except Fault IntakeDb}
    (went : statement input work db = (db', .ok result)) :
    input.busy = false ∧ work db = .ok db' := by
  rcases statement_cases input work db with ⟨next, free, done, same⟩ | ⟨fault, same⟩
  · rw [same] at went
    cases went
    exact ⟨free, done⟩
  · rw [same] at went
    cases went

theorem statement_error {work : IntakeDb → Except Fault IntakeDb}
    (went : statement input work db = (db', .error fault)) : db' = db := by
  rcases statement_cases input work db with ⟨next, _, _, same⟩ | ⟨fault, same⟩
  · rw [same] at went
    cases went
  · rw [same] at went
    cases went
    rfl

theorem setTenantStatus_keeps (db : IntakeDb) (merchantId : MerchantId) (status : TenantStatus)
    (now : Timestamp) : Same db (setTenantStatus db merchantId status now) :=
  same_refl db

/-- One statement of a provisioning claims or marks the registry, writes the merchant, or links the
application; until it has linked it the application's status stays. -/
theorem provision_step {deps : IntakeDeps} {provision : ProvisionMerchant}
    (live : provision.point ≠ .provisioned)
    (stepped : provision.step deps input db = (db', provision')) :
    provision'.applicationId = provision.applicationId ∧
    ((Same db db' ∧ provision'.point ≠ .provisioned) ∨
      (provision.point = .merchant ∧
        ¬ Present (·.id) (merchantIdFor provision.applicationId) db.merchants ∧
        db' = { db with merchants := db.merchants ++
          [⟨merchantIdFor provision.applicationId, .onboarding⟩] } ∧
        provision'.point ≠ .provisioned) ∨
      (provision.point = .linking ∧ input.busy = false ∧ provision'.point = .provisioned ∧
        ∃ now, db' = linkApplication db provision.applicationId
          (merchantIdFor provision.applicationId) now)) := by
  cases point : provision.point with
  | begin =>
    simp only [ProvisionMerchant.step, point] at stepped
    split at stepped
    · cases stepped
      exact ⟨rfl, .inl ⟨same_refl _, by simp [ProvisionMerchant.at]⟩⟩
    · split at stepped
      · cases stepped
        exact ⟨rfl, .inl ⟨same_refl _, by simp [ProvisionMerchant.at]⟩⟩
      · split at stepped
        · rename_i went
          cases stepped
          obtain ⟨_, claimed⟩ := statement_ok went
          obtain ⟨_, rfl⟩ := claimRegistryRow_ok claimed
          exact ⟨rfl, .inl ⟨same_refl _, by simp [ProvisionMerchant.at]⟩⟩
        · rename_i went
          cases stepped
          cases statement_error went
          exact ⟨rfl, .inl ⟨same_refl _, by simp [ProvisionMerchant.at]⟩⟩
  | merchant =>
    simp only [ProvisionMerchant.step, point] at stepped
    split at stepped
    · rename_i went
      cases stepped
      obtain ⟨_, wrote⟩ := statement_ok went
      obtain ⟨fresh, rfl⟩ := writeMerchantRecord_ok wrote
      exact ⟨rfl, .inr (.inl ⟨rfl, fresh, rfl, by simp [ProvisionMerchant.at]⟩)⟩
    · rename_i went
      cases stepped
      cases statement_error went
      exact ⟨rfl, .inl ⟨same_refl _, by simp [ProvisionMerchant.at]⟩⟩
  | failing refusal =>
    simp only [ProvisionMerchant.step, point] at stepped
    generalize went : statement input _ db = result at stepped
    obtain ⟨next, _⟩ := result
    cases stepped
    refine ⟨rfl, .inl ⟨statement_keeps ?_ went, by simp [ProvisionMerchant.at]⟩⟩
    rintro db _ ⟨⟩
    exact setTenantStatus_keeps ..
  | activating =>
    simp only [ProvisionMerchant.step, point] at stepped
    split at stepped
    · rename_i went
      cases stepped
      refine ⟨rfl, .inl ⟨statement_keeps ?_ went, by simp [ProvisionMerchant.at]⟩⟩
      rintro db _ ⟨⟩
      exact setTenantStatus_keeps ..
    · rename_i went
      cases stepped
      cases statement_error went
      exact ⟨rfl, .inl ⟨same_refl _, by simp [ProvisionMerchant.at]⟩⟩
  | linking =>
    simp only [ProvisionMerchant.step, point] at stepped
    split at stepped
    · rename_i went
      cases stepped
      obtain ⟨free, linked⟩ := statement_ok went
      cases linked
      exact ⟨rfl, .inr (.inr ⟨rfl, free, rfl, _, rfl⟩)⟩
    · rename_i went
      cases stepped
      cases statement_error went
      exact ⟨rfl, .inl ⟨same_refl _, by simp [ProvisionMerchant.at]⟩⟩
  | provisioned => exact absurd point live
  | refused refusal | threw fault =>
    simp only [ProvisionMerchant.step, point] at stepped
    cases stepped
    exact ⟨rfl, .inl ⟨same_refl _, by simp [point]⟩⟩

/-- A statement of a provisioning is a deed of the request it belongs to. -/
theorem provision_deed {process : IntakeProcess} {deps : IntakeDeps}
    (there : provisionOf process = some provision)
    (live : provision.point ≠ .provisioned) (approved : StillApproved db provision)
    (stepped : provision.step deps input db = (db', provision')) :
    IntakeDeed input db process db' ∧ StillApproved db' provision' := by
  have approved := approved live
  obtain ⟨same, did⟩ := provision_step live stepped
  unfold StillApproved
  rw [same]
  rcases did with ⟨keeps, _⟩ | ⟨point, fresh, rfl, _⟩ | ⟨point, free, ended, now, rfl⟩
  · exact ⟨.kept keeps, fun _ => (statusOf_congr keeps.1 _).trans approved⟩
  · exact ⟨.opened there point fresh rfl, fun _ => (statusOf_congr rfl _).trans approved⟩
  · exact ⟨.linked there point free rfl, fun more => absurd ended more⟩

theorem register_deed {call : RegisterShop} (knows : Knows db (.register call))
    (stepped : call.step input db = (db', call')) :
    IntakeDeed input db (.register call) db' ∧ Knows db' (.register call') := by
  cases point : call.point with
  | begin =>
    simp only [RegisterShop.step, point] at stepped
    split at stepped
    · cases stepped
      exact ⟨.kept (same_refl _), trivial⟩
    · split at stepped
      · cases stepped
        exact ⟨.kept (same_refl _), trivial⟩
      · split at stepped
        · rename_i recorded
          cases stepped
          obtain ⟨fresh, papers, rfl⟩ := recordApplication_ok recorded
          refine ⟨.recorded fresh rfl rfl, ?_⟩
          simp only [Knows, RegisterShop.at]
          exact (statusOf_recorded fresh rfl _).trans (if_pos rfl)
        · cases stepped
          exact ⟨.kept (same_refl _), trivial⟩
  | recorded applicationId now =>
    simp only [Knows, point] at knows
    simp only [RegisterShop.step, point] at stepped
    split at stepped
    · cases stepped
      exact ⟨.kept (same_refl _), trivial⟩
    · rename_i wanted
      split at stepped
      · cases stepped
        exact ⟨.kept (same_refl _), trivial⟩
      · rename_i permitted
        split at stepped
        · cases stepped
          exact ⟨.kept (same_refl _), trivial⟩
        · split at stepped
          · rename_i went
            cases stepped
            obtain ⟨free, wrote⟩ := statement_ok went
            cases wrote
            refine ⟨.atCounter point (by simpa using wanted) permitted free rfl rfl, fun _ => ?_⟩
            refine (statusOf_decided ..).trans ((if_pos rfl).trans ?_)
            simp [provisionApproved, knows]
          · rename_i went
            cases stepped
            cases statement_error went
            exact ⟨.kept (same_refl _), trivial⟩
  | approved provision =>
    have there : provisionOf (.register call) = some provision := by simp only [provisionOf, point]
    simp only [Knows, point] at knows
    simp only [RegisterShop.step, point] at stepped
    split at stepped
    · cases stepped
      exact ⟨.kept (same_refl _), trivial⟩
    · cases stepped
      exact ⟨.kept (same_refl _), trivial⟩
    · cases stepped
      exact ⟨.kept (same_refl _), trivial⟩
    · rename_i live _ _
      generalize moved : provision.step call.deps input db = result at stepped
      obtain ⟨next, provision'⟩ := result
      cases stepped
      exact provision_deed there live knows moved
  | answered answer =>
    simp only [RegisterShop.step, point] at stepped
    cases stepped
    exact ⟨.kept (same_refl _), by simp only [Knows, point]⟩

theorem pickUp_deed {call : PickUp} (stepped : call.step input db = (db', call')) :
    IntakeDeed input db (.pickUp call) db' := by
  cases point : call.point with
  | begin =>
    simp only [PickUp.step, point] at stepped
    split at stepped
    · cases stepped
      exact .kept (same_refl _)
    · split at stepped
      · rename_i went
        cases stepped
        obtain ⟨_, wrote⟩ := statement_ok went
        cases wrote
        exact .pickedUp rfl
      · rename_i went
        cases stepped
        cases statement_error went
        exact .kept (same_refl _)
  | answered answer =>
    simp only [PickUp.step, point] at stepped
    cases stepped
    exact .kept (same_refl _)

theorem decide_deed {call : DecideApplication} (knows : Knows db (.decide call))
    (stepped : call.step input db = (db', call')) :
    IntakeDeed input db (.decide call) db' ∧ Knows db' (.decide call') := by
  cases point : call.point with
  | begin =>
    simp only [DecideApplication.step, point] at stepped
    split at stepped
    · cases stepped
      exact ⟨.kept (same_refl _), trivial⟩
    · split at stepped
      · cases stepped
        exact ⟨.kept (same_refl _), trivial⟩
      · rename_i row found
        split at stepped
        · cases stepped
          exact ⟨.kept (same_refl _), trivial⟩
        · split at stepped
          · cases stepped
            exact ⟨.kept (same_refl _), trivial⟩
          · rename_i accepted
            obtain ⟨review, legal⟩ := reviewRefusal_none accepted
            have status : statusOf db call.applicationId = some row.status := by
              unfold statusOf
              rw [found]
              rfl
            split at stepped
            · rename_i went
              obtain ⟨_, wrote⟩ := statement_ok went
              cases wrote
              split at stepped
              · rename_i approves
                cases stepped
                refine ⟨.decided status legal rfl, fun _ => ?_⟩
                refine (statusOf_decided ..).trans ((if_pos rfl).trans ?_)
                simp [provisionApproved, status, approves]
              · cases stepped
                exact ⟨.decided status legal rfl, trivial⟩
            · rename_i went
              cases stepped
              cases statement_error went
              exact ⟨.kept (same_refl _), trivial⟩
  | approved provision =>
    have there : provisionOf (.decide call) = some provision := by simp only [provisionOf, point]
    simp only [Knows, point] at knows
    simp only [DecideApplication.step, point] at stepped
    split at stepped
    · cases stepped
      exact ⟨.kept (same_refl _), trivial⟩
    · cases stepped
      exact ⟨.kept (same_refl _), trivial⟩
    · cases stepped
      exact ⟨.kept (same_refl _), trivial⟩
    · rename_i live _ _
      generalize moved : provision.step call.deps input db = result at stepped
      obtain ⟨next, provision'⟩ := result
      cases stepped
      exact provision_deed there live knows moved
  | answered answer =>
    simp only [DecideApplication.step, point] at stepped
    cases stepped
    exact ⟨.kept (same_refl _), by simp only [Knows, point]⟩

/-- Every step of a request is one of the deeds, and it goes on knowing what it knows. -/
theorem intake_deed (input : IntakeInput) {process : IntakeProcess} (knows : Knows db process)
    (stepped : process.step input db = (db', process')) :
    IntakeDeed input db process db' ∧ Knows db' process' := by
  cases process with
  | register call =>
    generalize moved : call.step input db = result at *
    simp only [IntakeProcess.step, moved] at stepped
    obtain ⟨next, call'⟩ := result
    cases stepped
    exact register_deed knows moved
  | pickUp call =>
    generalize moved : call.step input db = result at *
    simp only [IntakeProcess.step, moved] at stepped
    obtain ⟨next, call'⟩ := result
    cases stepped
    exact ⟨pickUp_deed moved, trivial⟩
  | decide call =>
    generalize moved : call.step input db = result at *
    simp only [IntakeProcess.step, moved] at stepped
    obtain ⟨next, call'⟩ := result
    cases stepped
    exact decide_deed knows moved
  | submit application =>
    simp only [IntakeProcess.step] at stepped
    split at stepped
    · rename_i recorded
      cases stepped
      obtain ⟨fresh, papers, rfl⟩ := recordApplication_ok recorded
      exact ⟨.recorded fresh rfl rfl, trivial⟩
    · cases stepped
      exact ⟨.kept (same_refl _), trivial⟩
  | elsewhere change keeps =>
    simp only [IntakeProcess.step] at stepped
    cases stepped
    exact ⟨.aside rfl (keeps db), trivial⟩
  | ended =>
    simp only [IntakeProcess.step] at stepped
    cases stepped
    exact ⟨.kept (same_refl _), trivial⟩

/-- Every change of a stored status is a move the table allows. -/
def Lawful (db db' : IntakeDb) : Prop :=
  ∀ applicationId before after, statusOf db applicationId = some before →
    statusOf db' applicationId = some after → before ≠ after → before.canTransition after = true

/-- A registration just recorded is approved at the counter, by an admin who may. -/
def ApprovesAtCounter (input : IntakeInput) (process : IntakeProcess) : Prop :=
  ∃ call applicationId now, process = .register call ∧
    call.point = .recorded applicationId now ∧ call.form.approveNow = true ∧
    requireAdmin call.context .approveMerchant (input.now 0) call.deps.policy = none ∧
    input.busy = false

/-- A provisioning comes to its last statement, which links the application to its shop. -/
def LinksShop (input : IntakeInput) (process : IntakeProcess) : Prop :=
  ∃ provision, provisionOf process = some provision ∧ provision.point = .linking ∧
    input.busy = false

abbrev IntakeTaken := Taken (Desk IntakeDb IntakeProcess) (Event IntakeInput IntakeProcess)

/-- The step approves at the counter or links a shop. -/
def Overreaches (taken : IntakeTaken) : Prop :=
  ∃ slot input process, taken.event = .act slot input ∧ taken.before.current = some process ∧
    (ApprovesAtCounter input process ∨ LinksShop input process)

/-- The step creates the shop of an application. -/
def Creates (applicationId : ApplicationId) (taken : IntakeTaken) : Prop :=
  ∃ slot input process provision, taken.event = .act slot input ∧
    taken.before.current = some process ∧ provisionOf process = some provision ∧
    provision.applicationId = applicationId ∧
    taken.after.store.merchants ≠ taken.before.store.merchants

/-- Applications that are linked are linked to the shop derived from them. -/
def LinkedToOwn (db : IntakeDb) : Prop :=
  ∀ row ∈ db.merchantApplications, ∀ merchantId ∈ row.merchantId,
    merchantId = merchantIdFor row.id

theorem LinkedToOwn.updated {db : IntakeDb} {hit : MerchantApplicationRow → Bool}
    {change : MerchantApplicationRow → MerchantApplicationRow} (own : LinkedToOwn db)
    (changes : ∀ row, hit row = true → (change row).id = row.id ∧
      ((change row).merchantId = row.merchantId ∨
        (change row).merchantId = some (merchantIdFor row.id))) :
    LinkedToOwn { db with
      merchantApplications := update hit change db.merchantApplications } := by
  intro row mem merchantId linked
  obtain ⟨old, there, rfl⟩ := mem_update.mp mem
  by_cases struck : hit old = true
  · rw [if_pos struck] at linked ⊢
    obtain ⟨same, kept | given⟩ := changes old struck
    · rw [same]
      rw [kept] at linked
      exact own old there merchantId linked
    · rw [same]
      rw [given] at linked
      exact (Option.mem_some_iff.mp linked).symm
  · rw [if_neg struck] at linked ⊢
    exact own old there merchantId linked

theorem LinkedToOwn.deed (own : LinkedToOwn db) (deed : IntakeDeed input db process db') :
    LinkedToOwn db' := by
  cases deed with
  | kept same =>
    unfold LinkedToOwn
    rw [same.1]
    exact own
  | aside _ keeps =>
    unfold LinkedToOwn
    rw [keeps.1]
    exact own
  | recorded _ added =>
    intro row mem merchantId linked
    rw [added] at mem
    rcases List.mem_append.mp mem with mem | mem
    · exact own row mem merchantId linked
    · rw [List.mem_singleton.mp mem] at linked
      cases linked
  | pickedUp same | decided _ _ same | atCounter _ _ _ _ _ same =>
    rw [same]
    exact own.updated fun _ _ => ⟨rfl, .inl rfl⟩
  | opened _ _ _ same =>
    rw [same]
    exact own
  | linked _ _ _ same =>
    rw [same]
    refine own.updated fun row struck => ⟨rfl, .inr ?_⟩
    rw [of_decide_eq_true struck]

/-- What holds between two steps: linked applications are linked to their own shops, and the request
at work knows what it knows. -/
def Orderly (d : Desk IntakeDb IntakeProcess) : Prop :=
  Settled LinkedToOwn Knows d

theorem orderly_step (d : Desk IntakeDb IntakeProcess) (event : Event IntakeInput IntakeProcess)
    (d' : Desk IntakeDb IntakeProcess) (orderly : Orderly d) (step : IntakeTurn d event d') :
    Orderly d' := by
  refine Settled.step ?_ ?_ d event d' orderly step
  · intro db process _ starting
    cases process with
    | register call =>
      obtain ⟨deps, context, form, point⟩ := call
      cases point with
      | begin => trivial
      | _ => exact starting.elim
    | decide call =>
      obtain ⟨deps, context, applicationId, outcome, reason, point⟩ := call
      cases point with
      | begin => trivial
      | _ => exact starting.elim
    | _ => trivial
  · intro input db process own knows _
    obtain ⟨deed, knows⟩ := intake_deed input knows rfl
    exact ⟨own.deed deed, knows⟩

/-- A step leaves the database alone, because a request came or died, or is a deed of the request at
work. -/
theorem turn_deed (orderly : Orderly d) (step : IntakeTurn d event d') :
    (d'.store = d.store ∧ ∀ slot input, event ≠ .act slot input) ∨
    ∃ slot input process, event = .act slot input ∧ d.current = some process ∧
      Knows d.store process ∧ d'.store = (process.step input d.store).1 ∧
      IntakeDeed input d.store process d'.store := by
  cases step with
  | start _ _ | crash => exact .inl ⟨rfl, nofun⟩
  | act here _ moved =>
    have knows := orderly.2 _ here
    have deed := (intake_deed _ knows moved).1
    exact .inr ⟨_, _, _, rfl, here, knows, (congrArg Prod.fst moved).symm, deed⟩

/-- Deeds that neither approve at the counter nor link a shop move statuses as the table allows. -/
theorem deed_lawful (deed : IntakeDeed input db process db')
    (within : ¬ (ApprovesAtCounter input process ∨ LinksShop input process)) : Lawful db db' := by
  intro applicationId before after was is differs
  cases deed with
  | kept same =>
    rw [statusOf_congr same.1, was] at is
    exact absurd (Option.some.inj is) differs
  | aside _ keeps =>
    rw [statusOf_congr keeps.1, was] at is
    exact absurd (Option.some.inj is) differs
  | recorded fresh added =>
    rw [statusOf_recorded fresh added] at is
    split at is
    · rename_i same
      subst same
      unfold statusOf at was
      obtain ⟨row, found, _⟩ := Option.map_eq_some_iff.mp was
      have named := List.find?_some found
      simp only [decide_eq_true_eq] at named
      exact absurd ⟨row, List.mem_of_find?_eq_some found, named⟩ fresh
    · rw [was] at is
      exact absurd (Option.some.inj is) differs
  | pickedUp same =>
    rw [same, statusOf_pickedUp] at is
    split at is
    · rename_i taken
      rw [was, Option.some.injEq] at taken
      cases is
      rw [taken.2]
      rfl
    · rw [was] at is
      exact absurd (Option.some.inj is) differs
  | decided status legal same =>
    rw [same, statusOf_decided] at is
    split at is
    · rename_i here
      subst here
      rw [was] at is status
      cases is
      cases status
      exact legal
    · rw [was] at is
      exact absurd (Option.some.inj is) differs
  | atCounter point wanted permitted free =>
    exact absurd (.inl ⟨_, _, _, rfl, point, wanted, permitted, free⟩) within
  | opened _ _ _ same =>
    have kept : statusOf db' applicationId = statusOf db applicationId :=
      statusOf_congr (by rw [same]) applicationId
    rw [kept, was] at is
    exact absurd (Option.some.inj is) differs
  | linked there point free =>
    exact absurd (.inr ⟨_, there, point, free⟩) within

/-- A write that cannot fail goes through when the database is free. -/
theorem statement_write {input : IntakeInput} (free : input.busy = false)
    (write : IntakeDb → IntakeDb) (db : IntakeDb) :
    statement input (fun db => .ok (write db)) db = (write db, .ok ()) := by
  simp only [statement, commit, demand, free]
  rfl

/-- Approval at the counter takes an application that was only submitted to approved. -/
theorem counter_unlawful (knows : Knows db process) (approves : ApprovesAtCounter input process) :
    ¬ Lawful db (process.step input db).1 := by
  obtain ⟨call, applicationId, now, rfl, point, wanted, permitted, free⟩ := approves
  simp only [Knows, point] at knows
  intro lawful
  have legal := lawful applicationId .submitted .approved knows ?_ (by decide)
  · cases legal
  · obtain ⟨row, found, _⟩ := Option.map_eq_some_iff.mp knows
    simp only [IntakeProcess.step, RegisterShop.step, point, wanted, permitted, found,
      Bool.true_eq_false, if_false]
    rw [statement_write free fun db => decideApplication db applicationId _]
    refine (statusOf_decided ..).trans ((if_pos rfl).trans ?_)
    rw [knows]
    rfl

/-- Linking takes an application that was only approved past the provisioning. -/
theorem link_unlawful (knows : Knows db process) (links : LinksShop input process) :
    ¬ Lawful db (process.step input db).1 := by
  obtain ⟨provision, there, point, free⟩ := links
  have approved : statusOf db provision.applicationId = some .approved ∧
      (process.step input db).1 = (provision.step (match process with
        | .register call => call.deps
        | .decide call => call.deps
        | _ => ⟨id, "", {}⟩) input db).1 := by
    cases process with
    | register call =>
      cases here : call.point with
      | approved provision' =>
        simp only [provisionOf, here, Option.some.injEq] at there
        subst there
        simp only [Knows, here] at knows
        refine ⟨knows (by simp [point]), ?_⟩
        simp only [IntakeProcess.step, RegisterShop.step, here, point]
        rfl
      | _ => simp [provisionOf, here] at there
    | decide call =>
      cases here : call.point with
      | approved provision' =>
        simp only [provisionOf, here, Option.some.injEq] at there
        subst there
        simp only [Knows, here] at knows
        refine ⟨knows (by simp [point]), ?_⟩
        simp only [IntakeProcess.step, DecideApplication.step, here, point]
        rfl
      | _ => simp [provisionOf, here] at there
    | _ => simp [provisionOf] at there
  obtain ⟨approved, same⟩ := approved
  rw [same]
  intro lawful
  have legal := lawful provision.applicationId .approved .devicePending approved ?_ (by decide)
  · cases legal
  · simp only [ProvisionMerchant.step, point]
    rw [statement_write free fun db => linkApplication db _ _ _]
    refine (statusOf_linked ..).trans ((if_pos rfl).trans ?_)
    rw [approved]
    rfl

/-- A step moves every status as the table allows unless it approves at the counter or links a
shop. -/
theorem turn_lawful_iff (orderly : Orderly d) (step : IntakeTurn d event d') :
    Lawful d.store d'.store ↔ ¬ Overreaches ⟨d, event, d'⟩ := by
  rcases turn_deed orderly step with ⟨same, quiet⟩ | ⟨slot, input, process, acted, here, knows,
    after, deed⟩
  · refine iff_of_true ?_ ?_
    · intro applicationId before after was is differs
      rw [same, was] at is
      exact absurd (Option.some.inj is) differs
    · rintro ⟨slot, input, _, acted, _⟩
      exact quiet slot input acted
  · constructor
    · rintro lawful ⟨slot', input', process', acted', here', overreach⟩
      rw [acted] at acted'
      cases acted'
      rw [here] at here'
      cases here'
      rw [after] at lawful
      rcases overreach with approves | links
      · exact counter_unlawful knows approves lawful
      · exact link_unlawful knows links lawful
    · intro within
      refine deed_lawful deed fun overreach => within ?_
      exact ⟨slot, input, process, acted, here, overreach⟩

/-- No shop goes away. -/
theorem shop_stays (deed : IntakeDeed input db process db')
    (there : Present (·.id) merchantId db.merchants) : Present (·.id) merchantId db'.merchants := by
  cases deed with
  | kept same =>
    rw [same.2]
    exact there
  | aside _ keeps => exact keeps.2 merchantId there
  | recorded _ _ same | pickedUp same | decided _ _ same | atCounter _ _ _ _ _ same =>
    rw [same]
    exact there
  | opened _ _ _ same =>
    rw [same]
    obtain ⟨row, mem, named⟩ := there
    exact ⟨row, List.mem_append_left _ mem, named⟩
  | linked _ _ _ same =>
    rw [same]
    exact there

/-- A shop that is created was not there before. -/
theorem creates_fresh (deed : IntakeDeed input db process db')
    (there : provisionOf process = some provision) (grew : db'.merchants ≠ db.merchants) :
    ¬ Present (·.id) (merchantIdFor provision.applicationId) db.merchants ∧
      Present (·.id) (merchantIdFor provision.applicationId) db'.merchants := by
  cases deed with
  | kept same => exact absurd same.2 grew
  | aside none =>
    rw [there] at none
    cases none
  | recorded _ _ same => exact absurd same grew
  | pickedUp same | decided _ _ same | atCounter _ _ _ _ _ same =>
    exact absurd (congrArg (·.merchants) same) grew
  | opened there' _ fresh same =>
    rw [there] at there'
    cases there'
    refine ⟨fresh, ?_⟩
    rw [same]
    exact ⟨_, List.mem_append_right _ (List.mem_singleton_self _), rfl⟩
  | linked _ _ _ same => exact absurd (congrArg (·.merchants) same) grew

/-- A database no application has been recorded in, with no request at work. -/
def IntakeOpens (d : Desk IntakeDb IntakeProcess) : Prop :=
  d.store.merchantApplications = [] ∧ d.current = none

theorem opens_orderly (d : Desk IntakeDb IntakeProcess) (opens : IntakeOpens d) : Orderly d := by
  obtain ⟨none, idle⟩ := opens
  constructor
  · intro row mem
    rw [none] at mem
    cases mem
  · intro process here
    rw [idle] at here
    cases here

/-- The shop of an application is created at most once. -/
theorem created_once {past : List IntakeTaken} (run : Run IntakeOpens IntakeTurn past d)
    (applicationId : ApplicationId) :
    past.Pairwise fun later before => ¬ (Creates applicationId later ∧
      Creates applicationId before) := by
  have closes : ∀ d event d', Orderly d → IntakeTurn d event d' →
      Creates applicationId ⟨d, event, d'⟩ →
      ¬ Present (·.id) (merchantIdFor applicationId) d.store.merchants ∧
        Present (·.id) (merchantIdFor applicationId) d'.store.merchants := by
    rintro d event d' orderly step ⟨slot, input, process, provision, acted, here, there, rfl, grew⟩
    rcases turn_deed orderly step with ⟨_, quiet⟩ | ⟨_, _, _, acted', here', _, _, deed⟩
    · exact absurd acted (quiet slot input)
    · dsimp only at acted
      rw [acted] at acted'
      cases acted'
      rw [here] at here'
      cases here'
      exact creates_fresh deed there grew
  refine run.at_most_once _ _ opens_orderly orderly_step ?_ closes
  intro d event d' orderly there step
  rcases turn_deed orderly step with ⟨same, _⟩ | ⟨_, _, _, _, _, _, _, deed⟩
  · rw [same]
    exact there
  · exact shop_stays deed there

/-- In every run an application leads to one shop at most, the one derived from it; and every change
of a stored status is a move the table allows exactly as long as no registration is approved at the
counter and no provisioning links its application. -/
theorem lifecycle_kept_iff {past : List IntakeTaken} (run : Run IntakeOpens IntakeTurn past d) :
    (∀ applicationId, past.Pairwise fun later before =>
      ¬ (Creates applicationId later ∧ Creates applicationId before)) ∧
    LinkedToOwn d.store ∧
    ((∀ taken ∈ past, Lawful taken.before.store taken.after.store) ↔
      ∀ taken ∈ past, ¬ Overreaches taken) := by
  refine ⟨created_once run, (run.invariant opens_orderly orderly_step).1, ?_⟩
  have each : ∀ taken ∈ past,
      (Lawful taken.before.store taken.after.store ↔ ¬ Overreaches taken) := by
    intro taken mem
    obtain ⟨orderly, step, _⟩ := run.taken opens_orderly orderly_step taken mem
    exact turn_lawful_iff orderly step
  exact ⟨fun lawful taken mem => (each taken mem).mp (lawful taken mem),
    fun within taken mem => (each taken mem).mpr (within taken mem)⟩

/-- The owner, signed in with both factors and stepped up a moment ago. -/
def owner : AdminAuthContext :=
  { user := { id := "owner", email := "owner@telga.example", role := .platformOwner,
              status := .active, mfaEnrolled := true, grants := [] }
    mfaSatisfied := true
    steppedUpAt := some 0 }

def consoleDeps : IntakeDeps :=
  { toLowerCase := fun text => String.ofList (text.toList.map Char.toLower)
    schemaVersion := "018"
    policy := {} }

/-- A shop that applies with its three papers. -/
def applying : ApplicationInput :=
  { id := "app_1", reference := "TLG-ABCD-EFGH", submittedVia := .selfService,
    legalName := "Abebe Trading", ownerName := "Abebe Kebede", phone := "0911223344",
    email := none, address := "Bole Road 12", locality := "Addis Ababa", now := 0
    documents := [{ id := "doc_1", kind := .tradeLicence, reference := "TL-1",
                    expiresAt := some "2027-01-01T23:59:59.999Z" },
                  { id := "doc_2", kind := .tinCertificate, reference := "TIN-1" },
                  { id := "doc_3", kind := .ownerPhotoId, reference := "ID-1" }] }

/-- It applies, is taken into review and is approved, and its provisioning runs to the end. -/
def approvedFromQueue : List (Event IntakeInput IntakeProcess) :=
  let input : IntakeInput :=
    { now := fun _ => 1000, newId := fun _ => "", newReference := "", busy := false }
  [.start (.submit applying), .act 0 input,
   .start (.pickUp ⟨consoleDeps, owner, "app_1", .begin⟩), .act 0 input,
   .start (.decide ⟨consoleDeps, owner, "app_1", some "APPROVE", none, .begin⟩), .act 0 input,
   .act 0 input, .act 0 input, .act 0 input, .act 0 input]

def noApplications : IntakeDb :=
  { migrated with merchantApplications := [], applicationDocuments := [], tenantRegistry := [] }

def approvedFromQueueRun : List IntakeTaken × Desk IntakeDb IntakeProcess :=
  played (Desk.next intakeServer) approvedFromQueue [] ⟨noApplications, none⟩

theorem approvedFromQueue_run :
    Run IntakeOpens IntakeTurn approvedFromQueueRun.1 approvedFromQueueRun.2 := by
  have opening : Run IntakeOpens IntakeTurn [] ⟨noApplications, none⟩ := .start ⟨rfl, rfl⟩
  have playable : Playable
      (Desk.May intakeServer (fun _ => IntakeProcess.Starting) fun _ _ _ => True)
      (Desk.next intakeServer) approvedFromQueue ⟨noApplications, none⟩ := by
    decide +kernel
  exact opening.play Solo.next playable

/-- Its status goes from approved to one the table does not put next. -/
theorem approvedFromQueue_unlawful : ∃ taken ∈ approvedFromQueueRun.1,
    ¬ Lawful taken.before.store taken.after.store := by
  refine ⟨_, List.mem_cons_self .., fun lawful => ?_⟩
  have legal := lawful "app_1" .approved .devicePending (by decide +kernel) (by decide +kernel)
    (by decide)
  cases legal

/-- Every approval that is provisioned leaves the table. -/
theorem approval_leaves_table : ¬ ∀ past d, Run IntakeOpens IntakeTurn past d →
    ∀ taken ∈ past, Lawful taken.before.store taken.after.store := by
  intro always
  obtain ⟨taken, mem, unlawful⟩ := approvedFromQueue_unlawful
  exact unlawful (always _ _ approvedFromQueue_run taken mem)

/-- The provisioning came to its last statement. -/
theorem approvedFromQueue_links : ¬ ∀ taken ∈ approvedFromQueueRun.1, ¬ Overreaches taken := by
  intro within
  obtain ⟨taken, mem, unlawful⟩ := approvedFromQueue_unlawful
  exact unlawful ((lifecycle_kept_iff approvedFromQueue_run).2.2.mpr within taken mem)

end Telga.Proofs.Applications
