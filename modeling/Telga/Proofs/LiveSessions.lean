import Telga.Proofs.Activations

namespace Telga.Proofs.Devices
open Domain Persistence Application Library

/-- A request that was authenticated: whose, when, and whether it keeps its session alive. -/
structure Acceptance where
  context : TillContext
  now : Timestamp
  renews : Bool
deriving DecidableEq

def acceptedBy (deps : DeviceDeps) (db : LoginDb) (input : DeviceInput) :
    DeviceProcess → Option Acceptance
  | .once (.authenticate token extendIdle) =>
    match (Devices.authenticate deps db token extendIdle input.now).2 with
    | .admitted context => some ⟨context, input.now, extendIdle⟩
    | _ => none
  | _ => none

/-- The request a step authenticates. -/
def accepted (deps : DeviceDeps) (taken : DeviceHappened) : Option Acceptance :=
  ofActor (acceptedBy deps taken.before.store) taken

def openedBy (deps : DeviceDeps) (db : LoginDb) (input : DeviceInput) :
    DeviceProcess → Option (LoginRequest × LoginSessionRow)
  | .login call =>
    match call.point with
    | .pin user now =>
      let session := call.sessionOf deps.toLoginDeps input.toLoginInput user now
      if deps.verifySecret call.request.pin user.pin ∧ (db.createSession session).isOk then
        some (call.request, session)
      else none
    | _ => none
  | _ => none

/-- The session a step opens, and for which sign-in. -/
def opened (deps : DeviceDeps) (taken : DeviceHappened) : Option (LoginRequest × LoginSessionRow) :=
  ofActor (openedBy deps taken.before.store) taken

def usedBy (deps : DeviceDeps) (db : LoginDb) (input : DeviceInput) (process : DeviceProcess) :
    Option (String × Timestamp) :=
  match openedBy deps db input process, acceptedBy deps db input process with
  | some (_, session), _ => some (session.id, session.createdAt)
  | none, some ⟨context, now, true⟩ => some (context.sessionId, now)
  | none, _ => none

/-- When a session was last used: the sign-in it was opened for, or a request that renewed it. -/
def lastUse (deps : DeviceDeps) (id : String) : List DeviceHappened → Option Timestamp
  | [] => none
  | taken :: past =>
    match ofActor (usedBy deps taken.before.store) taken with
    | some (used, time) => if used = id then some time else lastUse deps id past
    | none => lastUse deps id past

def rekeyedBy (db : LoginDb) (input : DeviceInput) : DeviceProcess → Option DeviceId
  | .redeem call =>
    match call.point with
    | .enrolling _ enrolling =>
      if (enrolling.finish db input.now).isOk then some enrolling.input.deviceId else none
    | _ => none
  | .enrol (.enrolling enrolling) =>
    if (enrolling.finish db input.now).isOk then some enrolling.input.deviceId else none
  | _ => none

/-- What ends sessions: leaving one, or revoking or re-keying a device. -/
inductive Stop
  | session (id : String)
  | device (deviceId : DeviceId)

def Stop.Hits (stop : Stop) (context : TillContext) : Prop :=
  match stop with
  | .session id => id = context.sessionId
  | .device deviceId => deviceId = context.deviceId

def stoppedBy (db : LoginDb) (input : DeviceInput) (process : DeviceProcess) : Option Stop :=
  match process with
  | .once (.logout id) => some (.session id)
  | .once (.revokeDevice deviceId _) => some (.device deviceId)
  | process => (rekeyedBy db input process).map .device

def stopped (taken : DeviceHappened) : Option Stop :=
  ofActor (stoppedBy taken.before.store) taken

/-- What a session is issued with and keeps. -/
structure Ticket where
  context : TillContext
  createdAt : Timestamp
  absoluteExpiresAt : Timestamp

def ticketOf (row : LoginSessionRow) : Ticket :=
  ⟨⟨row.id, row.userId, row.merchantId, row.deviceId⟩, row.createdAt, row.absoluteExpiresAt⟩

/-- The PIN and the device key of a sign-in are the ones that are stored. -/
def Proved (deps : DeviceDeps) (db : LoginDb) (request : LoginRequest) : Prop :=
  (∃ user ∈ db.findMerchantUser request.userId,
    deps.verifySecret request.pin user.pin = true) ∧
  ∃ row ∈ db.findDeviceEnrollment request.deviceId,
    deps.verifySecret request.deviceSecret (deviceSecretOf row) = true

/-- A step opens a session with a ticket, for a sign-in that is proved. -/
def Issues (deps : DeviceDeps) (ticket : Ticket) (taken : DeviceHappened) : Prop :=
  ∃ opening ∈ opened deps taken, ticketOf opening.2 = ticket ∧
    Proved deps taken.before.store opening.1

/-- What is promised of a request that is authenticated, after the steps before it. -/
structure Trusted (deps : DeviceDeps) (earlier : List DeviceHappened) (db : LoginDb)
    (acceptance : Acceptance) : Prop where
  issued : ∃ ticket : Ticket, ticket.context = acceptance.context ∧
    acceptance.now < ticket.absoluteExpiresAt ∧
    ticket.absoluteExpiresAt = ticket.createdAt + deps.session.absoluteLifetimeMs ∧
    Since (Issues deps ticket)
      (fun between => ∃ stop ∈ stopped between, stop.Hits acceptance.context) earlier
  used : ∃ last ∈ lastUse deps acceptance.context.sessionId earlier,
    acceptance.now < last + deps.session.idleTimeoutMs
  unrevoked : ∃ session ∈ db.findSession acceptance.context.sessionId, session.status = .active
  enrolled : ∃ row ∈ db.findDeviceEnrollment acceptance.context.deviceId, row.state = .enrolled ∧
    row.merchantId = acceptance.context.merchantId ∧
    ∀ expiry ∈ row.expiresAt, acceptance.now < expiry
  device : (db.findDevice acceptance.context.deviceId acceptance.context.merchantId).map
    (·.status) = some .active
  operator : ∃ user ∈ db.findMerchantUser acceptance.context.userId, user.active = true
  shop : (db.findMerchant acceptance.context.merchantId).map (·.status) = some .active

/-- What is promised of sessions. -/
def SessionsTrusted (deps : DeviceDeps) (past : List DeviceHappened) : Prop :=
  ∀ newer taken older, past = newer ++ taken :: older →
    ∀ acceptance ∈ accepted deps taken, Trusted deps older taken.before.store acceptance

/-- A sign-in past its checks, which has read the rows it goes by. -/
def provingOf : DeviceProcess → Option LoginRequest
  | .login call =>
    match call.point with
    | .device _ _ _ | .pin _ _ => some call.request
    | _ => none
  | _ => none

def replacedBy (_ : DeviceInput) : DeviceProcess → Option MerchantUserId
  | .once (.replacePin id _ _) => some id
  | _ => none

def retiredBy (_ : DeviceInput) : DeviceProcess → Option DeviceId
  | .once (.retireDevice deviceId _) => some deviceId
  | _ => none

/-- A step re-keys or retires no device, and replaces no PIN, that a sign-in past its checks goes by,
and retires no device that carries a session. -/
structure Undisturbed (taken : DeviceHappened) : Prop where
  rekeyed : ∀ deviceId ∈ ofActor (rekeyedBy taken.before.store) taken,
    ∀ request ∈ taken.before.shown provingOf, request.deviceId ≠ deviceId
  replaced : ∀ id ∈ ofActor replacedBy taken,
    ∀ request ∈ taken.before.shown provingOf, request.userId ≠ id
  retired : ∀ deviceId ∈ ofActor retiredBy taken,
    (∀ request ∈ taken.before.shown provingOf, request.deviceId ≠ deviceId) ∧
    ∀ session ∈ taken.before.store.sessions, session.deviceId = deviceId →
      session.status ≠ .active

instance (taken : DeviceHappened) : Decidable (Undisturbed taken) :=
  decidable_of_iff
    ((∀ deviceId ∈ ofActor (rekeyedBy taken.before.store) taken,
        ∀ request ∈ taken.before.shown provingOf, request.deviceId ≠ deviceId) ∧
      (∀ id ∈ ofActor replacedBy taken,
        ∀ request ∈ taken.before.shown provingOf, request.userId ≠ id) ∧
      ∀ deviceId ∈ ofActor retiredBy taken,
        (∀ request ∈ taken.before.shown provingOf, request.deviceId ≠ deviceId) ∧
        ∀ session ∈ taken.before.store.sessions, session.deviceId = deviceId →
          session.status ≠ .active)
    ⟨fun ⟨rekeyed, replaced, retired⟩ => ⟨rekeyed, replaced, retired⟩,
      fun ⟨rekeyed, replaced, retired⟩ => ⟨rekeyed, replaced, retired⟩⟩

/-- The derivation a device's key is compared with, while the device is enrolled. -/
def keyOf (row : LoginDeviceRow) : Option StoredSecret :=
  if row.state = .enrolled then some (deviceSecretOf row) else none

def enrolledKey (rows : List LoginDeviceRow) (deviceId : DeviceId) : Option StoredSecret :=
  (rows.find? fun row => row.deviceId = deviceId).bind keyOf

theorem enrolledKey_update {hit : LoginDeviceRow → Bool} {change : LoginDeviceRow → LoginDeviceRow}
    (rows : List LoginDeviceRow) (deviceId : DeviceId)
    (keeps : ∀ row, (change row).deviceId = row.deviceId)
    (changes : ∀ row, hit row = true → row.deviceId = deviceId →
      keyOf (change row) = none ∨ keyOf (change row) = keyOf row) :
    enrolledKey (update hit change rows) deviceId = none ∨
      enrolledKey (update hit change rows) deviceId = enrolledKey rows deviceId := by
  unfold enrolledKey
  rw [find?_update fun row => by rw [keeps]]
  cases found : rows.find? fun row => row.deviceId = deviceId with
  | none => exact .inl rfl
  | some row =>
    have own : row.deviceId = deviceId := by simpa using List.find?_some found
    simp only [Option.map_some, Option.bind_some]
    by_cases struck : hit row = true
    · rw [if_pos struck]
      exact changes row struck own
    · rw [if_neg struck]
      exact .inr rfl

/-- What a step leaves of the key of a device it does not re-key: the key, or nothing. -/
def KeepsKey (before after : LoginDb) (deviceId : DeviceId) : Prop :=
  enrolledKey after.deviceEnrollments deviceId = none ∨
  enrolledKey after.deviceEnrollments deviceId = enrolledKey before.deviceEnrollments deviceId

theorem KeepsKey.refl (db : LoginDb) (deviceId : DeviceId) : KeepsKey db db deviceId :=
  .inr rfl

theorem touchDevice_key (db : LoginDb) (touched deviceId : DeviceId) (now : Timestamp) :
    KeepsKey db (db.touchDevice touched now) deviceId :=
  enrolledKey_update _ _ (fun _ => rfl) fun _ _ _ => .inr rfl

theorem finish_key {call : Enrolling} (done : call.finish db now = .ok db')
    (other : call.input.deviceId ≠ deviceId) : KeepsKey db db' deviceId := by
  obtain ⟨enrollments, _, others, _, rfl⟩ := finish_cases done
  right
  simp only [enrolledKey, others deviceId other.symm]

theorem act_key (deps : DeviceDeps) (db : LoginDb) (now : Timestamp) (act : DeviceAct)
    (deviceId : DeviceId) : KeepsKey db (act.run deps db now).1 deviceId := by
  cases act with
  | authenticate token extendIdle =>
    rcases authenticate_cases deps db token extendIdle now with
      ⟨refusing, _⟩ | ⟨session, _, admitted⟩
    · simp only [DeviceAct.run]
      generalize (Devices.authenticate deps db token extendIdle now).1 = after at refusing ⊢
      cases refusing with
      | nothing => exact .inr rfl
      | revoked id reason => exact .inr rfl
      | noted id reason => exact .inr rfl
    · simp only [DeviceAct.run, admitted]
      cases extendIdle with
      | true => exact touchDevice_key _ _ _ _
      | false => exact .inr rfl
  | logout sessionId => exact .inr rfl
  | revokeDevice revoked reason =>
    exact enrolledKey_update _ _ (fun _ => rfl) fun _ _ _ => .inl rfl
  | retireDevice retired merchantId => exact .inr rfl
  | suspendOperator id =>
    simp only [DeviceAct.run, LoginDb.suspendOperator]
    split
    · exact .inr rfl
    · exact .inr rfl
  | suspendMerchant id | replacePin id merchantId pin => exact .inr rfl

/-- A process that neither signs in nor acts at once leaves the database alone, finishes an enrolment
or puts an activation code in place of one. -/
theorem rekeying_cases (deps : DeviceDeps) (input : DeviceInput) (db : LoginDb)
    (process : DeviceProcess) (login : ∀ call, process ≠ .login call)
    (once : ∀ act, process ≠ .once act) :
    ((process.step deps input db).1 = db ∧ rekeyedBy db input process = none) ∨
    (∃ call : Enrolling, rekeyedBy db input process = some call.input.deviceId ∧
      call.finish db input.now = .ok (process.step deps input db).1) ∨
    ∃ deviceId derived expiresAt, rekeyedBy db input process = none ∧
      (process.step deps input db).1 =
        db.saveEnrollmentToken deviceId derived expiresAt input.now := by
  cases process with
  | login call => exact absurd rfl (login call)
  | redeem call =>
    obtain ⟨request, point⟩ := call
    simp only [DeviceProcess.step, Prod.map_fst, id]
    unfold Redemption.step rekeyedBy
    cases point with
    | begin =>
      simp only []
      split
      · exact .inl ⟨rfl, trivial⟩
      · split
        · exact .inl ⟨rfl, trivial⟩
        · exact .inl ⟨rfl, trivial⟩
    | verifying row =>
      simp only []
      split
      · exact .inl ⟨rfl, trivial⟩
      · exact .inl ⟨rfl, trivial⟩
    | enrolling row enrolling =>
      simp only []
      cases done : enrolling.finish db input.now with
      | ok db' => exact .inr (.inl ⟨enrolling, rfl, done⟩)
      | error fault => exact .inl ⟨rfl, rfl⟩
    | activated _ _ => exact .inl ⟨rfl, rfl⟩
    | refused _ => exact .inl ⟨rfl, rfl⟩
    | threw _ => exact .inl ⟨rfl, rfl⟩
  | issue call =>
    simp only [DeviceProcess.step, Prod.map_fst, id]
    unfold TokenIssue.step
    cases call.point with
    | begin => exact .inl ⟨rfl, rfl⟩
    | writing code derived expiresAt => exact .inr (.inr ⟨_, _, _, rfl, rfl⟩)
    | issued _ _ => exact .inl ⟨rfl, rfl⟩
  | enrol point =>
    simp only [DeviceProcess.step, Prod.map_fst, id]
    unfold EnrolPoint.step rekeyedBy
    cases point with
    | begin _ => exact .inl ⟨rfl, rfl⟩
    | enrolling call =>
      simp only []
      cases done : call.finish db input.now with
      | ok db' => exact .inr (.inl ⟨call, rfl, done⟩)
      | error fault => exact .inl ⟨rfl, rfl⟩
    | enrolled _ _ => exact .inl ⟨rfl, rfl⟩
    | threw _ => exact .inl ⟨rfl, rfl⟩
  | once act => exact absurd rfl (once act)
  | done answer => exact .inl ⟨rfl, rfl⟩

theorem rekeying_key (deps : DeviceDeps) (input : DeviceInput) (db : LoginDb)
    (process : DeviceProcess) (login : ∀ call, process ≠ .login call)
    (once : ∀ act, process ≠ .once act) (other : rekeyedBy db input process ≠ some deviceId) :
    KeepsKey db (process.step deps input db).1 deviceId := by
  rcases rekeying_cases deps input db process login once with
    ⟨same, _⟩ | ⟨call, rekeys, done⟩ | ⟨wanted, derived, expiresAt, _, same⟩
  · rw [same]
    exact KeepsKey.refl db deviceId
  · refine finish_key done fun same => other ?_
    rw [rekeys, same]
  · rw [same]
    exact enrolledKey_update _ _ (fun _ => rfl) fun _ _ _ => .inl rfl

/-- A device that a step does not re-key keeps its key, or is enrolled no more. -/
theorem key_step (deps : DeviceDeps) (input : DeviceInput) (db : LoginDb) (process : DeviceProcess)
    (deviceId : DeviceId) (other : rekeyedBy db input process ≠ some deviceId) :
    KeepsKey db (process.step deps input db).1 deviceId := by
  cases process with
  | login call =>
    rcases login_cases deps.toLoginDeps input.toLoginInput db call with
      ⟨user, now, db', _, _, created, done⟩ | ⟨untouched, _⟩
    · simp only [DeviceProcess.step, done, LoginDb.createSession_ok created]
      exact touchDevice_key _ _ _ _
    · right
      simp only [DeviceProcess.step, Prod.map_fst, id, untouched.enrollments]
  | once act => exact act_key deps db input.now act deviceId
  | redeem call | issue call | enrol point | done answer =>
    exact rekeying_key deps input db _ (by simp) (by simp) other

/-- The stored PIN of an operator. -/
def pinOf (db : LoginDb) (id : MerchantUserId) : Option StoredSecret :=
  (db.findMerchantUser id).map (·.pin)

/-- What a rewrite of the operators does to no PIN but one. -/
theorem pinOf_update (db : LoginDb) {hit : LoginUserRow → Bool}
    {change : LoginUserRow → LoginUserRow} (id : MerchantUserId)
    (keeps : ∀ user, (change user).id = user.id) (same : ∀ user, (change user).pin = user.pin) :
    pinOf { db with merchantUsers := update hit change db.merchantUsers } id = pinOf db id :=
  map_find?_update db.merchantUsers (·.pin) (fun user => by rw [keeps]) same

theorem act_pin (deps : DeviceDeps) (db : LoginDb) (input : DeviceInput) (act : DeviceAct)
    (id : MerchantUserId) (other : replacedBy input (.once act) ≠ some id) :
    pinOf (act.run deps db input.now).1 id = pinOf db id := by
  cases act with
  | authenticate token extendIdle =>
    simp only [DeviceAct.run, pinOf, LoginDb.findMerchantUser]
    rw [(authenticate_keeps deps db token extendIdle input.now).1]
  | logout sessionId | revokeDevice revoked reason | retireDevice retired merchantId => rfl
  | suspendOperator suspended =>
    simp only [DeviceAct.run, LoginDb.suspendOperator]
    split
    · rfl
    · exact pinOf_update db id (fun _ => rfl) fun _ => rfl
  | suspendMerchant suspended => rfl
  | replacePin replaced merchantId pin =>
    refine congrArg (Option.map fun user : LoginUserRow => user.pin)
      (find?_update_other db.merchantUsers (fun _ => rfl) fun user wanted => ?_)
    have apart : replaced ≠ id := fun same => other (congrArg some same)
    simp only [decide_eq_true_eq] at wanted
    simp [wanted, apart.symm]

theorem rekeying_pin (deps : DeviceDeps) (input : DeviceInput) (db : LoginDb)
    (process : DeviceProcess) (login : ∀ call, process ≠ .login call)
    (once : ∀ act, process ≠ .once act) (id : MerchantUserId) :
    pinOf (process.step deps input db).1 id = pinOf db id := by
  rcases rekeying_cases deps input db process login once with
    ⟨same, _⟩ | ⟨call, _, done⟩ | ⟨wanted, derived, expiresAt, _, same⟩
  · rw [same]
  · obtain ⟨enrollments, _, _, _, same⟩ := finish_cases done
    rw [same]
    rfl
  · rw [same]
    rfl

/-- A PIN that a step does not replace stays. -/
theorem pin_step (deps : DeviceDeps) (input : DeviceInput) (db : LoginDb) (process : DeviceProcess)
    (id : MerchantUserId) (other : replacedBy input process ≠ some id) :
    pinOf (process.step deps input db).1 id = pinOf db id := by
  cases process with
  | login call =>
    rcases login_cases deps.toLoginDeps input.toLoginInput db call with
      ⟨user, now, db', _, _, created, done⟩ | ⟨untouched, _⟩
    · simp only [DeviceProcess.step, done, LoginDb.createSession_ok created]
      exact signedInDb_pins _ _ _ _
    · exact untouched.pins id
  | once act => exact act_pin deps db input act id other
  | redeem call | issue call | enrol point | done answer =>
    exact rekeying_pin deps input db _ (by simp) (by simp) id

/-- Whether a device of a shop is in service. -/
def inService (db : LoginDb) (deviceId : DeviceId) (merchantId : MerchantId) : Prop :=
  (db.findDevice deviceId merchantId).map (·.status) = some .active

theorem act_devices (deps : DeviceDeps) (db : LoginDb) (input : DeviceInput) (act : DeviceAct)
    (deviceId : DeviceId) (merchantId : MerchantId)
    (other : retiredBy input (.once act) ≠ some deviceId) :
    (act.run deps db input.now).1.findDevice deviceId merchantId =
      db.findDevice deviceId merchantId := by
  cases act with
  | authenticate token extendIdle =>
    simp only [DeviceAct.run, LoginDb.findDevice]
    rw [(authenticate_keeps deps db token extendIdle input.now).2]
  | logout sessionId | revokeDevice revoked reason => rfl
  | retireDevice retired shop =>
    refine find?_update_other _ (fun _ => rfl) fun device wanted => ?_
    have apart : retired ≠ deviceId := fun same => other (congrArg some same)
    simp only [decide_eq_true_eq] at wanted
    simp [wanted.1, apart.symm]
  | suspendOperator suspended =>
    simp only [DeviceAct.run, LoginDb.suspendOperator]
    split
    · rfl
    · rfl
  | suspendMerchant suspended | replacePin replaced shop pin => rfl

theorem rekeying_devices (deps : DeviceDeps) (input : DeviceInput) (db : LoginDb)
    (process : DeviceProcess) (login : ∀ call, process ≠ .login call)
    (once : ∀ act, process ≠ .once act) :
    (process.step deps input db).1.devices = db.devices := by
  rcases rekeying_cases deps input db process login once with
    ⟨same, _⟩ | ⟨call, _, done⟩ | ⟨wanted, derived, expiresAt, _, same⟩
  · rw [same]
  · obtain ⟨enrollments, _, _, _, same⟩ := finish_cases done
    rw [same]
  · rw [same]
    rfl

/-- A device that a step does not retire stays in service. -/
theorem device_step (deps : DeviceDeps) (input : DeviceInput) (db : LoginDb)
    (process : DeviceProcess) (deviceId : DeviceId) (merchantId : MerchantId)
    (other : retiredBy input process ≠ some deviceId) (serves : inService db deviceId merchantId) :
    inService (process.step deps input db).1 deviceId merchantId := by
  have same : (process.step deps input db).1.devices = db.devices →
      inService (process.step deps input db).1 deviceId merchantId := by
    intro same
    unfold inService LoginDb.findDevice at serves ⊢
    rw [same]
    exact serves
  cases process with
  | login call =>
    refine same ?_
    rcases login_cases deps.toLoginDeps input.toLoginInput db call with
      ⟨user, now, db', _, _, created, done⟩ | ⟨untouched, _⟩
    · simp only [DeviceProcess.step, done, LoginDb.createSession_ok created]
      rfl
    · exact untouched.devices
  | once act =>
    unfold inService at serves ⊢
    rw [show (DeviceProcess.step deps input db (.once act)).1 = (act.run deps db input.now).1
      from rfl, act_devices deps db input act deviceId merchantId other]
    exact serves
  | redeem call | issue call | enrol point | done answer =>
    exact same (rekeying_devices deps input db _ (by simp) (by simp))

/-- A live session that a step carries over: its ticket is the same, the step does not end it, and it
is renewed if the step uses it. -/
structure Carried (deps : DeviceDeps) (db : LoginDb) (input : DeviceInput) (process : DeviceProcess)
    (old row : LoginSessionRow) : Prop where
  ticket : ticketOf old = ticketOf row
  active : old.status = .active
  unstopped : ∀ stop ∈ stoppedBy db input process, ¬ stop.Hits (ticketOf row).context
  used : (usedBy deps db input process = some (row.id, row.lastSeenAt) ∧
      row.idleExpiresAt = row.lastSeenAt + deps.session.idleTimeoutMs) ∨
    (∀ time, usedBy deps db input process ≠ some (row.id, time)) ∧
      row.lastSeenAt = old.lastSeenAt ∧ row.idleExpiresAt = old.idleExpiresAt

theorem Carried.still (active : row.status = .active)
    (unstopped : ∀ stop ∈ stoppedBy db input process, ¬ stop.Hits (ticketOf row).context)
    (unused : ∀ time, usedBy deps db input process ≠ some (row.id, time)) :
    Carried deps db input process row row :=
  ⟨rfl, active, unstopped, .inr ⟨unused, rfl, rfl⟩⟩

/-- A session that is live after a rewrite that only revokes is one the rewrite missed. -/
theorem findSession_unrevoked {db after : LoginDb} {hit : LoginSessionRow → Bool}
    {change : LoginSessionRow → LoginSessionRow} {id : String} {row : LoginSessionRow}
    (found : after.findSession id = some row) (active : row.status = .active)
    (rewritten : after.sessions = update hit change db.sessions)
    (keeps : ∀ row, (change row).id = row.id)
    (revokes : ∀ row, (change row).status = .revoked) :
    db.findSession id = some row ∧ hit row = false := by
  unfold LoginDb.findSession at found ⊢
  rw [rewritten, find?_update fun row => by rw [keeps]] at found
  cases there : db.sessions.find? fun row => row.id = id with
  | none => simp [there] at found
  | some old =>
    rw [there, Option.map_some, Option.some.injEq] at found
    by_cases struck : hit old = true
    · rw [if_pos struck] at found
      rw [← found, revokes] at active
      cases active
    · rw [if_neg struck] at found
      exact ⟨congrArg some found, by simpa [found] using struck⟩

theorem findSession_renewed (deps : DeviceDeps) (db : LoginDb) (session : LoginSessionRow)
    (now : Timestamp) (id : String) :
    (renewedDb deps db session now).findSession id =
      (db.findSession id).map fun row =>
        if row.id = session.id ∧ row.status = .active then
          { row with lastSeenAt := now, idleExpiresAt := now + deps.session.idleTimeoutMs }
        else row := by
  have kept : ∀ row : LoginSessionRow, decide (({ row with
      lastSeenAt := now, idleExpiresAt := now + deps.session.idleTimeoutMs } :
        LoginSessionRow).id = id) = decide (row.id = id) := fun _ => rfl
  refine (find?_update kept).trans (Option.map_congr fun row _ => ?_)
  simp only [decide_eq_true_eq]

theorem acceptedBy_refused (refused : (Devices.authenticate deps db token extendIdle
      input.now).2 = .refused code) :
    usedBy deps db input (.once (.authenticate token extendIdle)) = none := by
  simp only [usedBy, openedBy, acceptedBy, refused]

theorem acceptedBy_admitted (input : DeviceInput) (admitted : (Devices.authenticate deps db token extendIdle
      input.now).2 = .admitted context) :
    acceptedBy deps db input (.once (.authenticate token extendIdle)) =
      some ⟨context, input.now, extendIdle⟩ := by
  simp only [acceptedBy, admitted]

theorem authenticate_sessions (deps : DeviceDeps) (db : LoginDb) (input : DeviceInput)
    (token : Option String) (extendIdle : Bool) {id : String} {row : LoginSessionRow}
    (found : (Devices.authenticate deps db token extendIdle input.now).1.findSession id = some row)
    (active : row.status = .active) :
    ∃ old, db.findSession id = some old ∧
      Carried deps db input (.once (.authenticate token extendIdle)) old row := by
  have unstopped : ∀ stop ∈ stoppedBy db input (.once (.authenticate token extendIdle)),
      ¬ stop.Hits (ticketOf row).context := by
    simp [stoppedBy, rekeyedBy]
  rcases authenticate_cases deps db token extendIdle input.now with
    ⟨refusing, code, refused⟩ | ⟨session, admissible, admitted⟩
  · have unused : ∀ time, usedBy deps db input (.once (.authenticate token extendIdle)) ≠
        some (row.id, time) := by
      rw [acceptedBy_refused refused]
      simp
    generalize (Devices.authenticate deps db token extendIdle input.now).1 = after
      at refusing found
    cases refusing with
    | nothing => exact ⟨row, found, .still active unstopped unused⟩
    | revoked other reason | noted other reason =>
      exact ⟨row, (findSession_unrevoked found active rfl (by intro; rfl) (by intro; rfl)).1,
        .still active unstopped unused⟩
  · have accepts := acceptedBy_admitted input (congrArg Prod.snd admitted)
    rw [admitted] at found
    cases extendIdle with
    | false =>
      refine ⟨row, found, .still active unstopped fun time => ?_⟩
      simp [usedBy, openedBy, accepts]
    | true =>
      have uses : usedBy deps db input (.once (.authenticate token true)) =
          some (session.id, input.now) := by
        simp only [usedBy, openedBy, accepts]
      have renewed : (renewedDb deps db session input.now).findSession id = some row := found
      rw [findSession_renewed] at renewed
      cases there : db.findSession id with
      | none => simp [there] at renewed
      | some old =>
        rw [there, Option.map_some, Option.some.injEq] at renewed
        by_cases struck : old.id = session.id ∧ old.status = .active
        · rw [if_pos struck] at renewed
          subst renewed
          refine ⟨old, rfl, ⟨rfl, struck.2, unstopped, .inl ⟨?_, rfl⟩⟩⟩
          rw [uses, struck.1]
        · rw [if_neg struck] at renewed
          subst renewed
          refine ⟨old, rfl, .still active unstopped fun time same => ?_⟩
          rw [uses] at same
          exact struck ⟨(Prod.mk.inj (Option.some.inj same)).1.symm, active⟩

theorem act_sessions (deps : DeviceDeps) (db : LoginDb) (input : DeviceInput) (act : DeviceAct)
    {id : String} {row : LoginSessionRow}
    (found : (act.run deps db input.now).1.findSession id = some row)
    (active : row.status = .active) :
    ∃ old, db.findSession id = some old ∧ Carried deps db input (.once act) old row := by
  cases act with
  | authenticate token extendIdle =>
    exact authenticate_sessions deps db input token extendIdle found active
  | logout sessionId =>
    obtain ⟨there, missed⟩ := findSession_unrevoked found active rfl (by intro; rfl) (by intro; rfl)
    refine ⟨row, there, .still active ?_ fun _ => by simp [usedBy, openedBy, acceptedBy]⟩
    rintro _ ⟨⟩ same
    have same : sessionId = row.id := same
    simp [same, active] at missed
  | revokeDevice deviceId reason =>
    obtain ⟨there, missed⟩ := findSession_unrevoked found active rfl (by intro; rfl) (by intro; rfl)
    refine ⟨row, there, .still active ?_ fun _ => by simp [usedBy, openedBy, acceptedBy]⟩
    rintro _ ⟨⟩ same
    have same : deviceId = row.deviceId := same
    simp [LoginDb.sessionsOfDevice, same, active] at missed
  | retireDevice deviceId merchantId =>
    exact ⟨row, found, .still active (by simp [stoppedBy, rekeyedBy])
      fun _ => by simp [usedBy, openedBy, acceptedBy]⟩
  | suspendOperator suspended =>
    have kept : db.findSession id = some row := by
      simp only [DeviceAct.run, LoginDb.suspendOperator] at found
      split at found
      · exact found
      · exact (findSession_unrevoked found active rfl (by intro; rfl) (by intro; rfl)).1
    exact ⟨row, kept, .still active (by simp [stoppedBy, rekeyedBy])
      fun _ => by simp [usedBy, openedBy, acceptedBy]⟩
  | suspendMerchant suspended | replacePin replaced merchantId pin =>
    exact ⟨row, found, .still active (by simp [stoppedBy, rekeyedBy])
      fun _ => by simp [usedBy, openedBy, acceptedBy]⟩

theorem rekeying_sessions (deps : DeviceDeps) (input : DeviceInput) (db : LoginDb)
    (process : DeviceProcess) (login : ∀ call, process ≠ .login call)
    (once : ∀ act, process ≠ .once act) {id : String} {row : LoginSessionRow}
    (found : (process.step deps input db).1.findSession id = some row)
    (active : row.status = .active) :
    ∃ old, db.findSession id = some old ∧ Carried deps db input process old row := by
  have stops : stoppedBy db input process = (rekeyedBy db input process).map .device := by
    cases process with
    | once act => exact absurd rfl (once act)
    | _ => rfl
  have unused : ∀ time, usedBy deps db input process ≠ some (row.id, time) := by
    intro time
    cases process with
    | login call => exact absurd rfl (login call)
    | once act => exact absurd rfl (once act)
    | _ => simp [usedBy, openedBy, acceptedBy]
  rcases rekeying_cases deps input db process login once with
    ⟨same, none⟩ | ⟨call, rekeys, done⟩ | ⟨wanted, derived, expiresAt, none, same⟩
  · rw [same] at found
    exact ⟨row, found, .still active (by simp [stops, none]) unused⟩
  · obtain ⟨enrollments, _, _, _, same⟩ := finish_cases done
    rw [same] at found
    have unrevoked := @findSession_unrevoked db _ _ _ _ _ found active rfl (by intro; rfl)
      (by intro; rfl)
    obtain ⟨there, missed⟩ := unrevoked
    refine ⟨row, there, .still active ?_ unused⟩
    rw [stops, rekeys]
    rintro _ ⟨⟩ hit
    have hit : call.input.deviceId = row.deviceId := hit
    simp [LoginDb.sessionsOfDevice, hit, active] at missed
  · rw [same] at found
    exact ⟨row, found, .still active (by simp [stops, none]) unused⟩

theorem openedBy_some {process : DeviceProcess}
    (opening : openedBy deps db input process = some (request, session)) :
    ∃ call user now, process = .login call ∧ call.point = .pin user now ∧
      deps.verifySecret call.request.pin user.pin = true ∧ request = call.request ∧
      session = call.sessionOf deps.toLoginDeps input.toLoginInput user now := by
  unfold openedBy at opening
  split at opening
  · rename_i call
    split at opening
    · rename_i user now point
      simp only [Option.ite_none_right_eq_some, Option.some.injEq, Prod.mk.injEq] at opening
      obtain ⟨⟨right, _⟩, rfl, rfl⟩ := opening
      exact ⟨call, user, now, rfl, point, right, rfl, rfl⟩
    · cases opening
  · cases opening

theorem login_sessions (deps : DeviceDeps) (input : DeviceInput) (db : LoginDb) (call : Login)
    {id : String} {row : LoginSessionRow}
    (found : (call.step deps.toLoginDeps input.toLoginInput db).1.findSession id = some row)
    (active : row.status = .active) :
    (∃ request, openedBy deps db input (.login call) = some (request, row)) ∨
    ∃ old, db.findSession id = some old ∧ Carried deps db input (.login call) old row := by
  have unstopped : ∀ stop ∈ stoppedBy db input (.login call),
      ¬ stop.Hits (ticketOf row).context := by
    simp [stoppedBy, rekeyedBy]
  rcases login_cases deps.toLoginDeps input.toLoginInput db call with
    ⟨user, now, db', point, right, created, done⟩ | ⟨untouched, refused⟩
  · have opening : openedBy deps db input (.login call) =
        some (call.request, call.sessionOf deps.toLoginDeps input.toLoginInput user now) := by
      simp [openedBy, point, right, created, Except.isOk, Except.toBool]
    have absent : ∀ old ∈ db.sessions, old.id ≠
        (call.sessionOf deps.toLoginDeps input.toLoginInput user now).id := by
      simp only [LoginDb.createSession, bind_ok, demand_ok] at created
      obtain ⟨_, absent, _⟩ := created
      exact fun old mem same => absent ⟨old, mem, same⟩
    rw [done, LoginDb.createSession_ok created] at found
    have found : (db.sessions ++
        [call.sessionOf deps.toLoginDeps input.toLoginInput user now]).find?
          (fun row => row.id = id) = some row := found
    rw [find?_added (fun row : LoginSessionRow => row.id) absent] at found
    split at found
    · left
      cases found
      exact ⟨_, opening⟩
    · rename_i other
      right
      refine ⟨row, found, .still active unstopped fun time same => other ?_⟩
      have own : row.id = id := by simpa using List.find?_some found
      simp only [usedBy, opening, Option.some.injEq, Prod.mk.injEq] at same
      rw [← own, ← same.1]
  · right
    have shut : openedBy deps db input (.login call) = none := by
      unfold openedBy
      simp only []
      split
      · rename_i user now point
        rcases refused user now point with wrong | ⟨fault, failed⟩
        · simp [wrong]
        · simp [failed, Except.isOk, Except.toBool]
      · rfl
    unfold LoginDb.findSession at found
    rw [untouched.sessions] at found
    exact ⟨row, found, .still active unstopped fun _ => by simp [usedBy, shut, acceptedBy]⟩

/-- A session that is live after a step was opened by it or carried over. -/
theorem session_step (deps : DeviceDeps) (input : DeviceInput) (db : LoginDb)
    (process : DeviceProcess) {id : String} {row : LoginSessionRow}
    (found : (process.step deps input db).1.findSession id = some row)
    (active : row.status = .active) :
    (∃ request, openedBy deps db input process = some (request, row)) ∨
    ∃ old, db.findSession id = some old ∧ Carried deps db input process old row := by
  cases process with
  | login call => exact login_sessions deps input db call found active
  | once act => exact .inr (act_sessions deps db input act found active)
  | redeem call | issue call | enrol point | done answer =>
    exact .inr (rekeying_sessions deps input db _ (by simp) (by simp) found active)

/-- What a sign-in past its checks knows: the PIN it read is the one stored, its device is in service,
and the key it read, once that is proved the secret it was sent, is the one the device is enrolled
with. -/
def Knows (deps : DeviceDeps) (db : LoginDb) : DeviceProcess → Prop
  | .login call =>
    match call.point with
    | .device user enrollment _ =>
      pinOf db call.request.userId = some user.pin ∧
      inService db call.request.deviceId user.merchantId ∧
      ∀ key ∈ enrolledKey db.deviceEnrollments call.request.deviceId,
        key = deviceSecretOf enrollment
    | .pin user _ =>
      pinOf db call.request.userId = some user.pin ∧
      inService db call.request.deviceId user.merchantId ∧
      ∀ key ∈ enrolledKey db.deviceEnrollments call.request.deviceId,
        deps.verifySecret call.request.deviceSecret key = true
    | _ => True
  | _ => True

theorem check_knows {call : Login} {db : LoginDb}
    (passes : call.check db now = .device user enrollment now') :
    pinOf db call.request.userId = some user.pin ∧
    inService db call.request.deviceId user.merchantId ∧
    ∀ key ∈ enrolledKey db.deviceEnrollments call.request.deviceId,
      key = deviceSecretOf enrollment := by
  unfold Login.check at passes
  split at passes
  · cases passes
  · rename_i found operator
    split at passes
    · cases passes
    · split at passes
      · cases passes
      · split at passes
        · cases passes
        · simp only [] at passes
          split at passes
          · cases passes
          · cases passes
          · rename_i stored _ enrolled
            split at passes
            · cases passes
            · rename_i serves
              cases passes
              refine ⟨by rw [pinOf, operator]; rfl, ?_, ?_⟩
              · unfold inService
                cases device : db.findDevice call.request.deviceId user.merchantId with
                | none => simp [device] at serves
                | some row => simpa [device] using serves
              · unfold LoginDb.findDeviceEnrollment at enrolled
                simp only [enrolledKey, enrolled, Option.bind_some, keyOf]
                split
                · rintro key ⟨⟩
                  rfl
                · rintro key ⟨⟩

/-- A sign-in's own step leaves it knowing what it goes by. -/
theorem knows_own (deps : DeviceDeps) (input : DeviceInput) (db : LoginDb)
    (process : DeviceProcess) (knows : Knows deps db process) :
    Knows deps (process.step deps input db).1 (process.step deps input db).2 := by
  cases process with
  | login call =>
    simp only [DeviceProcess.step, Prod.map_fst, Prod.map_snd, id]
    unfold Login.step
    cases point : call.point with
    | begin =>
      simp only []
      split
      · exact trivial
      · simp only [Knows, Login.at]
        split
        · rename_i user enrollment now passes
          exact check_knows passes
        · rename_i passes
          unfold Login.check at passes
          simp only [] at passes
          repeat' split at passes
          all_goals cases passes
        · exact trivial
    | device user enrollment now =>
      simp only [Knows, point] at knows
      obtain ⟨pin, serves, key⟩ := knows
      simp only []
      split
      · rename_i right
        refine ⟨pin, serves, fun stored has => ?_⟩
        rw [key stored has]
        exact right
      · exact trivial
    | pin user now =>
      simp only []
      split
      · split
        · exact trivial
        · exact trivial
      · exact trivial
    | failed _ => simp [Knows, point]
    | signedIn _ => simp [Knows, point]
    | threw _ => simp [Knows, point]
  | redeem call | issue call | enrol point | once act | done answer => exact trivial

/-- What a sign-in knows stays true under a step that disturbs none. -/
theorem knows_others (deps : DeviceDeps) (input : DeviceInput) (db : LoginDb)
    (process other : DeviceProcess) (knows : Knows deps db other)
    (rekeyed : ∀ request ∈ provingOf other, rekeyedBy db input process ≠ some request.deviceId)
    (replaced : ∀ request ∈ provingOf other, replacedBy input process ≠ some request.userId)
    (retired : ∀ request ∈ provingOf other, retiredBy input process ≠ some request.deviceId) :
    Knows deps (process.step deps input db).1 other := by
  have stays : ∀ {deviceId : DeviceId} {holds : StoredSecret → Prop},
      rekeyedBy db input process ≠ some deviceId →
      (∀ key ∈ enrolledKey db.deviceEnrollments deviceId, holds key) →
      ∀ key ∈ enrolledKey (process.step deps input db).1.deviceEnrollments deviceId,
        holds key := by
    intro deviceId holds apart known key has
    rcases key_step deps input db process deviceId apart with none | same
    · rw [none] at has
      cases has
    · rw [same] at has
      exact known key has
  cases other with
  | login call =>
    cases point : call.point with
    | device user enrollment now =>
      have proving : provingOf (.login call) = some call.request := by simp [provingOf, point]
      simp only [Knows, point] at knows ⊢
      obtain ⟨pin, serves, key⟩ := knows
      exact ⟨(pin_step deps input db process _ (replaced _ proving)).trans pin,
        device_step deps input db process _ _ (retired _ proving) serves,
        stays (rekeyed _ proving) key⟩
    | pin user now =>
      have proving : provingOf (.login call) = some call.request := by simp [provingOf, point]
      simp only [Knows, point] at knows ⊢
      obtain ⟨pin, serves, key⟩ := knows
      exact ⟨(pin_step deps input db process _ (replaced _ proving)).trans pin,
        device_step deps input db process _ _ (retired _ proving) serves,
        stays (rekeyed _ proving) key⟩
    | begin => simp [Knows, point]
    | failed _ => simp [Knows, point]
    | signedIn _ => simp [Knows, point]
    | threw _ => simp [Knows, point]
  | redeem call | issue call | enrol point | once act | done answer => exact trivial

/-- What is known of a live session after the steps of a run. -/
structure SessionKept (deps : DeviceDeps) (past : List DeviceHappened) (db : LoginDb)
    (row : LoginSessionRow) : Prop where
  used : lastUse deps row.id past = some row.lastSeenAt
  idle : row.idleExpiresAt = row.lastSeenAt + deps.session.idleTimeoutMs
  absolute : row.absoluteExpiresAt = row.createdAt + deps.session.absoluteLifetimeMs
  serves : inService db row.deviceId row.merchantId
  issued : enrolledKey db.deviceEnrollments row.deviceId ≠ none →
    Since (Issues deps (ticketOf row))
      (fun between => ∃ stop ∈ stopped between, stop.Hits (ticketOf row).context) past

theorem mem_shown {w : World LoginDb DeviceProcess} {process : DeviceProcess}
    {request : LoginRequest} (mem : some process ∈ w.procs)
    (proving : provingOf process = some request) : request ∈ w.shown provingOf :=
  List.mem_filterMap.mpr ⟨some process, mem, proving⟩

/-- A session that is opened is opened for a sign-in that is proved. -/
theorem kept_opened {w : World LoginDb DeviceProcess} {slot : Nat} {process : DeviceProcess}
    (here : w.proc slot = some process) (knows : Knows deps w.store process)
    (opening : openedBy deps w.store input process = some (request, row)) (w' : _) :
    SessionKept deps (⟨w, .act slot input, w'⟩ :: past)
      (process.step deps input w.store).1 row := by
  have uses : ofActor (usedBy deps w.store) ⟨w, .act slot input, w'⟩ =
      some (row.id, row.createdAt) := by
    rw [ofActor_act here]
    simp only [usedBy, opening]
  have opened_ : opened deps ⟨w, .act slot input, w'⟩ = some (request, row) := by
    rw [opened, ofActor_act here, opening]
  obtain ⟨call, user, now, rfl, point, right, rfl, rfl⟩ := openedBy_some opening
  simp only [Knows, point] at knows
  obtain ⟨pin, serves, key⟩ := knows
  refine ⟨?_, rfl, rfl, ?_, fun enrolled => .now ⟨_, opened_, rfl, ?_, ?_⟩⟩
  · simp only [lastUse, uses, if_true]
    rfl
  · exact device_step deps input w.store (.login call) _ _ (by simp [retiredBy]) serves
  · unfold pinOf at pin
    obtain ⟨stored, found, same⟩ := Option.map_eq_some_iff.mp pin
    exact ⟨stored, found, by rw [same]; exact right⟩
  · have before : enrolledKey w.store.deviceEnrollments call.request.deviceId ≠ none := by
      rcases key_step deps input w.store (.login call) call.request.deviceId
        (by simp [rekeyedBy]) with none | same
      · exact absurd none enrolled
      · rw [← same]
        exact enrolled
    cases stored : w.store.findDeviceEnrollment call.request.deviceId with
    | none =>
      unfold LoginDb.findDeviceEnrollment at stored
      simp [enrolledKey, stored] at before
    | some device =>
      refine ⟨device, rfl, key _ ?_⟩
      unfold LoginDb.findDeviceEnrollment at stored
      unfold enrolledKey keyOf at before ⊢
      rw [stored, Option.bind_some] at before ⊢
      split
      · rfl
      · rename_i other
        rw [if_neg other] at before
        exact absurd rfl before

/-- A session that is carried over keeps what is known of it. -/
theorem kept_carried {w : World LoginDb DeviceProcess} {slot : Nat} {process : DeviceProcess}
    {old row : LoginSessionRow} (here : w.proc slot = some process)
    (kept : SessionKept deps past w.store old)
    (carried : Carried deps w.store input process old row)
    (retired : retiredBy input process ≠ some old.deviceId) (w' : _) :
    SessionKept deps (⟨w, .act slot input, w'⟩ :: past)
      (process.step deps input w.store).1 row := by
  have ticket := carried.ticket
  have same : old.id = row.id ∧ old.userId = row.userId ∧ old.merchantId = row.merchantId ∧
      old.deviceId = row.deviceId ∧ old.createdAt = row.createdAt ∧
      old.absoluteExpiresAt = row.absoluteExpiresAt := by
    simpa [ticketOf, and_assoc] using ticket
  obtain ⟨id, _, merchant, device, created, absolute⟩ := same
  have used : ofActor (usedBy deps w.store) ⟨w, .act slot input, w'⟩ =
      usedBy deps w.store input process := ofActor_act here
  have stops : stopped ⟨w, .act slot input, w'⟩ = stoppedBy w.store input process :=
    ofActor_act here
  refine ⟨?_, ?_, ?_, ?_, fun enrolled => ?_⟩
  · rcases carried.used with ⟨now, _⟩ | ⟨unused, seen, _⟩
    · simp only [lastUse, used, now, if_true]
    · have before := kept.used
      rw [id] at before
      rw [seen, ← before]
      cases uses : usedBy deps w.store input process with
      | none => simp only [lastUse, used, uses]
      | some use =>
        obtain ⟨other, time⟩ := use
        have apart : other ≠ row.id := fun same => unused time (by rw [uses, same])
        simp only [lastUse, used, uses, if_neg apart]
  · rcases carried.used with ⟨_, idle⟩ | ⟨_, seen, idle⟩
    · exact idle
    · rw [idle, seen, kept.idle]
  · rw [← absolute, ← created, kept.absolute]
  · rw [← device, ← merchant]
    exact device_step deps input w.store process _ _ retired kept.serves
  · have apart : rekeyedBy w.store input process ≠ some row.deviceId := by
      intro rekeys
      have stop : Stop.device row.deviceId ∈ stoppedBy w.store input process := by
        unfold stoppedBy
        split
        · simp [rekeyedBy] at rekeys
        · simp [rekeyedBy] at rekeys
        · rw [rekeys]
          rfl
      exact carried.unstopped _ stop rfl
    rcases key_step deps input w.store process row.deviceId apart with none | same
    · exact absurd none enrolled
    · rw [same, ← device] at enrolled
      have since := kept.issued enrolled
      rw [ticket] at since
      refine since.later ?_
      rintro ⟨stop, stopping, hits⟩
      rw [stops] at stopping
      exact carried.unstopped stop stopping hits

/-- What is known of a session is known after a step that no process takes. -/
theorem kept_idle {w w' : World LoginDb DeviceProcess}
    {event : Event DeviceInput DeviceProcess} (idle : ∀ slot input, event ≠ .act slot input)
    (kept : SessionKept deps past w.store row) :
    SessionKept deps (⟨w, event, w'⟩ :: past) w.store row := by
  refine ⟨?_, kept.idle, kept.absolute, kept.serves, fun enrolled => ?_⟩
  · simp only [lastUse, ofActor_idle idle, kept.used]
  · refine (kept.issued enrolled).later ?_
    rw [stopped, ofActor_idle idle]
    rintro ⟨stop, ⟨⟩, _⟩

theorem knows_starting (deps : DeviceDeps) (db : LoginDb) {process : DeviceProcess}
    (starting : process.Starting) : Knows deps db process := by
  cases process with
  | login call =>
    have begins : call.point = .begin := starting
    simp [Knows, begins]
  | redeem call | issue call | enrol point | once act | done answer => exact trivial

/-- In a run that disturbs no sign-in, what is known of live sessions and of sign-ins holds. -/
theorem run_kept (run : DeviceRun deps past w) (fair : ∀ taken ∈ past, Undisturbed taken) :
    (∀ id row, w.store.findSession id = some row → row.status = .active →
      SessionKept deps past w.store row) ∧
    ∀ process, some process ∈ w.procs → Knows deps w.store process := by
  induction run with
  | start nothing =>
    obtain ⟨nobody, none, _⟩ := nothing
    refine ⟨fun id row found => ?_, fun process mem => ?_⟩
    · simp [LoginDb.findSession, none] at found
    · rw [nobody] at mem
      cases mem
  | @step past w event w' run step ih =>
    obtain ⟨sessions, knows⟩ := ih fun taken mem => fair taken (List.mem_cons_of_mem _ mem)
    have undisturbed := fair _ (List.mem_cons_self ..)
    cases step with
    | @start process _ starting =>
      refine ⟨fun id row found active => ?_, fun other mem => ?_⟩
      · exact kept_idle (by rintro _ _ ⟨⟩) (sessions id row found active)
      · rcases List.mem_append.mp mem with mem | mem
        · exact knows other mem
        · simp only [List.mem_singleton, Option.some.injEq] at mem
          subst mem
          exact knows_starting deps w.store starting
    | crash =>
      refine ⟨fun id row found active => ?_, fun other mem => ?_⟩
      · exact kept_idle (by rintro _ _ ⟨⟩) (sessions id row found active)
      · rcases List.mem_or_eq_of_mem_set mem with mem | mem
        · exact knows other mem
        · cases mem
    | @act process input store' process' _ slot here _ moved =>
      have moved : process.step deps input w.store = (store', process') := moved
      have known := knows process (World.proc_mem here)
      have rekeyed := undisturbed.rekeyed
      have replaced := undisturbed.replaced
      have retired := undisturbed.retired
      simp only [ofActor_act here] at rekeyed replaced retired
      refine ⟨fun id row found active => ?_, fun other mem => ?_⟩
      · have found : (process.step deps input w.store).1.findSession id = some row := by
          rw [moved]
          exact found
        rw [show store' = (process.step deps input w.store).1 by rw [moved]]
        rcases session_step deps input w.store process found active with
          ⟨request, opening⟩ | ⟨old, there, carried⟩
        · exact kept_opened here known opening _
        · refine kept_carried here (sessions id old there carried.active) carried ?_ _
          intro retires
          exact (retired _ retires).2 old (List.mem_of_find?_eq_some there) rfl carried.active
      · rw [show store' = (process.step deps input w.store).1 by rw [moved]]
        rcases List.mem_or_eq_of_mem_set mem with mem | mem
        · refine knows_others deps input w.store process other (knows other mem) ?_ ?_ ?_
          · exact fun request proving rekeys =>
              rekeyed _ rekeys request (mem_shown mem proving) rfl
          · exact fun request proving replaces =>
              replaced _ replaces request (mem_shown mem proving) rfl
          · exact fun request proving retires =>
              (retired _ retires).1 request (mem_shown mem proving) rfl
        · cases mem
          rw [show process' = (process.step deps input w.store).2 by rw [moved]]
          exact knows_own deps input w.store process known

theorem accepted_admissible {process : DeviceProcess}
    (accepts : acceptedBy deps db input process = some acceptance) :
    ∃ session, Admissible deps db session acceptance.now ∧
      acceptance.context = (ticketOf session).context := by
  unfold acceptedBy at accepts
  split at accepts
  · rename_i token extendIdle
    rcases authenticate_cases deps db token extendIdle input.now with
      ⟨_, code, refused⟩ | ⟨session, admissible, admitted⟩
    · simp only [refused] at accepts
      cases accepts
    · simp only [admitted] at accepts
      cases accepts
      exact ⟨session, admissible, rfl⟩
  · cases accepts

theorem enrolled_of_deviceRejection {db : LoginDb}
    (none : deviceRejection ((db.findDeviceEnrollment deviceId).map (·.toDeviceEnrollment))
      merchantId now = none) :
    ∃ row ∈ db.findDeviceEnrollment deviceId, row.state = .enrolled ∧
      row.merchantId = merchantId ∧ ∀ expiry ∈ row.expiresAt, now < expiry := by
  unfold deviceRejection at none
  cases found : db.findDeviceEnrollment deviceId with
  | none =>
    rw [found] at none
    cases none
  | some row =>
    rw [found] at none
    simp only [Option.map_some] at none
    split at none
    · cases none
    · split at none
      · cases none
      · split at none
        · cases none
        · rename_i enrolled
          split at none
          · cases none
          · rename_i lasts
            split at none
            · cases none
            · rename_i own
              refine ⟨row, rfl, by simpa using enrolled, by simpa using own, ?_⟩
              intro expiry has
              by_contra late
              exact lasts ⟨expiry, has, Int.not_lt.mp late⟩

theorem live_of_sessionRejection {session : SessionFacts}
    (none : sessionRejection (some session) now = none) :
    session.status = .active ∧ now < session.absoluteExpiresAt ∧ now < session.idleExpiresAt := by
  unfold sessionRejection at none
  simp only [] at none
  split at none
  · cases none
  · rename_i unrevoked
    split at none
    · cases none
    · rename_i lasts
      split at none
      · cases none
      · rename_i idles
        refine ⟨?_, Int.not_le.mp lasts, Int.not_le.mp idles⟩
        cases status : session.status with
        | active => rfl
        | revoked => exact absurd status unrevoked

/-- In every run that re-keys or retires no device and replaces no PIN under a sign-in, and retires
no device that carries a session, whoever is authenticated may be trusted. -/
theorem sessions_trusted (run : DeviceRun deps past w)
    (fair : ∀ taken ∈ past, Undisturbed taken) : SessionsTrusted deps past := by
  intro newer taken older split acceptance here
  subst split
  obtain ⟨earlier, step⟩ := run.earlier
  obtain ⟨sessions, _⟩ := run_kept earlier fun other mem =>
    fair other (List.mem_append_right _ (List.mem_cons_of_mem _ mem))
  have admitted : ∃ session, Admissible deps taken.before.store session acceptance.now ∧
      acceptance.context = (ticketOf session).context := by
    rcases Pool.acted step with ⟨_, idle⟩ | ⟨slot, input, process, event, acts, _⟩
    · rw [Option.mem_def, accepted, ofActor_idle idle] at here
      cases here
    · have here : ofActor (acceptedBy deps taken.before.store) ⟨taken.before, taken.event,
          taken.after⟩ = some acceptance := here
      rw [event, ofActor_act acts] at here
      exact accepted_admissible here
  obtain ⟨session, admissible, context⟩ := admitted
  have live := live_of_sessionRejection admissible.usable
  have enrolled := enrolled_of_deviceRejection admissible.device
  have kept := sessions session.id session admissible.found live.1
  have keyed : enrolledKey taken.before.store.deviceEnrollments session.deviceId ≠ none := by
    obtain ⟨row, found, state, _⟩ := enrolled
    have found : taken.before.store.findDeviceEnrollment session.deviceId = some row := found
    unfold LoginDb.findDeviceEnrollment at found
    simp [enrolledKey, found, keyOf, state]
  obtain ⟨context', now, renews⟩ := acceptance
  have context : context' = (ticketOf session).context := context
  subst context
  refine ⟨⟨ticketOf session, rfl, live.2.1, kept.absolute, kept.issued keyed⟩,
    ⟨_, kept.used, ?_⟩, ⟨session, admissible.found, live.1⟩, enrolled, kept.serves,
    admissible.operator, admissible.shop⟩
  rw [← kept.idle]
  exact live.2.2

def signIn : DeviceProcess :=
  .login ⟨⟨"operator", "1234", "till", "key"⟩, .begin⟩

/-- The operator signs in and sells. -/
def oneSession : List (Event DeviceInput DeviceProcess) :=
  deviceEvents [signIn, .once (.authenticate (some "sessiona") true)]
    [(0, 0, "a"), (0, 0, "a"), (0, 1000, "a"), (1, 60000, "b")]

theorem oneSession_run :
    DeviceRun plainDevices (devicesPlayed oneSession).1 (devicesPlayed oneSession).2 :=
  devicesPlayed_run (by decide +kernel)

theorem oneSession_trusted : SessionsTrusted plainDevices (devicesPlayed oneSession).1 :=
  sessions_trusted oneSession_run (by decide +kernel)

/-- The operator signs in, the till is retired for another, and the operator goes on selling. -/
def retiredSession : List (Event DeviceInput DeviceProcess) :=
  deviceEvents
    [signIn, .once (.retireDevice "till" "shop"), .once (.authenticate (some "sessiona") true)]
    [(0, 0, "a"), (0, 0, "a"), (0, 1000, "a"), (1, 30000, "b"), (2, 60000, "b")]

theorem retiredSession_run :
    DeviceRun plainDevices (devicesPlayed retiredSession).1 (devicesPlayed retiredSession).2 :=
  devicesPlayed_run (by decide +kernel)

/-- A request from a device that was retired is authenticated. -/
theorem retired_accepted : ¬ ∀ deps past w, DeviceRun deps past w → SessionsTrusted deps past := by
  intro always
  have last : ∃ taken older, (devicesPlayed retiredSession).1 = [] ++ taken :: older ∧
      accepted plainDevices taken =
        some ⟨⟨"hash:sessiona", "operator", "shop", "till"⟩, 60000, true⟩ ∧
      (taken.before.store.findDevice "till" "shop").map (·.status) = some .stopped := by
    refine ⟨_, _, rfl, ?_⟩
    decide +kernel
  obtain ⟨taken, older, split, accepts, stopped⟩ := last
  have serves := (always _ _ _ retiredSession_run [] taken older split _ accepts).device
  rw [stopped] at serves
  cases serves

end Telga.Proofs.Devices
