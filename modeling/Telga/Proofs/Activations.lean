import Telga.Proofs.DeviceTurns
import Telga.Proofs.LoginHolds

namespace Telga.Proofs.Devices
open Domain Persistence Application Library

/-- An activation code of a device, known by what is stored for it. -/
structure ActivationCode where
  deviceId : DeviceId
  hash : String
  salt : String
deriving DecidableEq

def codeOf (row : LoginDeviceRow) : ActivationCode :=
  ⟨row.deviceId, row.secretHash, row.secretSalt⟩

def issuedBy (_ : DeviceInput) : DeviceProcess → Option ActivationCode
  | .issue call =>
    match call.point with
    | .writing _ derived _ => some ⟨call.deviceId, derived.hash, derived.salt⟩
    | _ => none
  | _ => none

/-- The code a step issues. -/
def issued (taken : DeviceHappened) : Option ActivationCode :=
  ofActor issuedBy taken

def activatedBy (db : LoginDb) (input : DeviceInput) : DeviceProcess → Option ActivationCode
  | .redeem call =>
    match call.point with
    | .enrolling row enrolling =>
      if (enrolling.finish db input.now).isOk then
        some ⟨enrolling.input.deviceId, row.secretHash, row.secretSalt⟩
      else none
    | _ => none
  | _ => none

/-- The code that a step answers ACTIVATED to, its device being enrolled by it. -/
def activated (taken : DeviceHappened) : Option ActivationCode :=
  ofActor (activatedBy taken.before.store) taken

def withdrawnBy (_ : DeviceInput) : DeviceProcess → Option DeviceId
  | .once (.revokeDevice deviceId _) => some deviceId
  | _ => none

/-- The device a step revokes. -/
def withdrawn (taken : DeviceHappened) : Option DeviceId :=
  ofActor withdrawnBy taken

/-- What is promised of activation codes: each leads to one activation for every time it was issued,
and to none once its device was revoked after that. -/
structure CodesSpent (past : List DeviceHappened) : Prop where
  once : ∀ code, past.countP (fun taken => activated taken = some code) ≤
    past.countP fun taken => issued taken = some code
  revoked : ∀ newer taken older, past = newer ++ taken :: older → ∀ code ∈ activated taken,
    Since (fun before => issued before = some code)
      (fun between => withdrawn between = some code.deviceId) older

/-- What a redemption enrols by, as its first step found it. -/
def redeemedBy (_ : DeviceInput) : DeviceProcess → Option ActivationCode
  | .redeem call =>
    match call.point with
    | .enrolling row enrolling =>
      some ⟨enrolling.input.deviceId, row.secretHash, row.secretSalt⟩
    | _ => none
  | _ => none

/-- A redemption that is about to enrol finds its code still outstanding. -/
def StillPending (taken : DeviceHappened) : Prop :=
  ∀ code ∈ ofActor redeemedBy taken,
    ∃ row ∈ taken.before.store.deviceEnrollments, row.state = .pending ∧ codeOf row = code

instance (taken : DeviceHappened) : Decidable (StillPending taken) :=
  inferInstanceAs (Decidable (∀ code ∈ ofActor redeemedBy taken, ∃ row ∈ _, _ ∧ _))

theorem activatedBy_redeemed {process : DeviceProcess}
    (done : activatedBy db input process = some code) : redeemedBy input process = some code := by
  unfold activatedBy at done
  split at done
  · split at done
    · rename_i point
      split at done
      · simpa only [redeemedBy, point] using done
      · cases done
    · cases done
  · cases done

/-- Every row of the second table stands for one of the first with the same code and state. -/
def SameCodes (before after : LoginDb) : Prop :=
  ∀ row ∈ after.deviceEnrollments, ∃ old ∈ before.deviceEnrollments,
    codeOf old = codeOf row ∧ old.state = row.state

theorem SameCodes.refl (db : LoginDb) : SameCodes db db :=
  fun row mem => ⟨row, mem, rfl, rfl⟩

theorem touchDevice_codes (db : LoginDb) (deviceId : DeviceId) (now : Timestamp) :
    SameCodes db (db.touchDevice deviceId now) := by
  intro row mem
  obtain ⟨old, there, rfl⟩ := mem_update.mp mem
  refine ⟨old, there, ?_⟩
  split
  · exact ⟨rfl, rfl⟩
  · exact ⟨rfl, rfl⟩

theorem login_codes (deps : LoginDeps) (input : LoginInput) (db : LoginDb) (call : Login) :
    SameCodes db (call.step deps input db).1 := by
  rcases login_cases deps input db call with
    ⟨user, now, db', _, _, created, done⟩ | ⟨untouched, _⟩
  · rw [done, LoginDb.createSession_ok created]
    exact touchDevice_codes _ _ _
  · intro row mem
    rw [untouched.enrollments] at mem
    exact ⟨row, mem, rfl, rfl⟩

theorem authenticate_codes (deps : DeviceDeps) (db : LoginDb) (token : Option String)
    (extendIdle : Bool) (now : Timestamp) :
    SameCodes db (Devices.authenticate deps db token extendIdle now).1 := by
  rcases authenticate_cases deps db token extendIdle now with
    ⟨refusing, _⟩ | ⟨session, _, admitted⟩
  · generalize (Devices.authenticate deps db token extendIdle now).1 = after at refusing ⊢
    cases refusing with
    | nothing | revoked id reason | noted id reason => exact SameCodes.refl db
  · rw [admitted]
    cases extendIdle with
    | true => exact touchDevice_codes _ _ _
    | false => exact SameCodes.refl db

/-- A device being enrolled is outstanding no more, and the others are as they were. -/
theorem finish_codes {call : Enrolling} (done : call.finish db now = .ok db') :
    ∀ row ∈ db'.deviceEnrollments, row.state = .pending →
      row ∈ db.deviceEnrollments ∧ row.deviceId ≠ call.input.deviceId := by
  obtain ⟨enrollments, came, _, own, rfl⟩ := finish_cases done
  intro row mem pending
  refine ⟨?_, fun same => ?_⟩
  · rcases came row mem with there | ⟨_, enrolled⟩
    · exact there
    · rw [enrolled] at pending
      cases pending
  · rw [own row mem same] at pending
    cases pending

theorem revokeDevice_codes (db : LoginDb) (deviceId : DeviceId) (reason : String)
    (now : Timestamp) :
    ∀ row ∈ (db.revokeDevice deviceId reason now).1.deviceEnrollments, row.state = .pending →
      row ∈ db.deviceEnrollments ∧ row.deviceId ≠ deviceId := by
  intro row mem pending
  obtain ⟨old, there, rfl⟩ := mem_update.mp mem
  by_cases struck : LoginDb.unrevoked deviceId old = true
  · rw [if_pos struck] at pending
    cases pending
  · rw [if_neg struck] at pending ⊢
    refine ⟨there, fun own => struck ?_⟩
    simp [LoginDb.unrevoked, own, pending]

theorem saveEnrollmentToken_codes {db : LoginDb} {deviceId : DeviceId} {derived : StoredSecret}
    {row : LoginDeviceRow}
    (mem : row ∈ (db.saveEnrollmentToken deviceId derived expiresAt now).deviceEnrollments) :
    codeOf row = ⟨deviceId, derived.hash, derived.salt⟩ ∨ row ∈ db.deviceEnrollments := by
  obtain ⟨old, there, rfl⟩ := mem_update.mp mem
  by_cases own : old.deviceId = deviceId
  · left
    simp [own, codeOf]
  · right
    simpa [own] using there

theorem act_codes (deps : DeviceDeps) (db : LoginDb) (input : DeviceInput) (now : Timestamp)
    (act : DeviceAct) (row : LoginDeviceRow) (mem : row ∈ (act.run deps db now).1.deviceEnrollments)
    (pending : row.state = .pending) :
    (∃ old ∈ db.deviceEnrollments, codeOf old = codeOf row ∧ old.state = .pending) ∧
      withdrawnBy input (.once act) ≠ some row.deviceId := by
  have same : row ∈ db.deviceEnrollments →
      ∃ old ∈ db.deviceEnrollments, codeOf old = codeOf row ∧ old.state = .pending :=
    fun there => ⟨row, there, rfl, pending⟩
  cases act with
  | authenticate token extendIdle =>
    obtain ⟨old, there, code, state⟩ := authenticate_codes deps db token extendIdle now row mem
    exact ⟨⟨old, there, code, state.trans pending⟩, by simp [withdrawnBy]⟩
  | logout sessionId => exact ⟨same mem, by simp [withdrawnBy]⟩
  | revokeDevice deviceId reason =>
    obtain ⟨there, apart⟩ := revokeDevice_codes db deviceId reason now row mem pending
    exact ⟨same there, fun own => apart (Option.some.inj own).symm⟩
  | retireDevice deviceId merchantId => exact ⟨same mem, by simp [withdrawnBy]⟩
  | suspendOperator id =>
    refine ⟨same ?_, by simp [withdrawnBy]⟩
    simp only [DeviceAct.run, LoginDb.suspendOperator] at mem
    split at mem
    · exact mem
    · exact mem
  | suspendMerchant id | replacePin id merchantId pin => exact ⟨same mem, by simp [withdrawnBy]⟩

theorem redeem_codes (deps : DeviceDeps) (input : DeviceInput) (db : LoginDb) (call : Redemption)
    (row : LoginDeviceRow) (mem : row ∈ (call.step deps input db).1.deviceEnrollments)
    (pending : row.state = .pending) :
    row ∈ db.deviceEnrollments ∧
      activatedBy db input (.redeem call) ≠ some (codeOf row) := by
  unfold Redemption.step at mem
  unfold activatedBy
  cases point : call.point with
  | begin =>
    simp only [point] at mem
    split at mem
    · exact ⟨mem, by simp [point]⟩
    · split at mem
      · exact ⟨mem, by simp [point]⟩
      · exact ⟨mem, by simp [point]⟩
  | verifying old =>
    simp only [point] at mem
    split at mem
    · exact ⟨mem, by simp [point]⟩
    · exact ⟨mem, by simp [point]⟩
  | enrolling old enrolling =>
    simp only [point] at mem ⊢
    split at mem
    · rename_i done
      obtain ⟨there, apart⟩ := finish_codes done row mem pending
      refine ⟨there, fun same => apart ?_⟩
      split at same
      · exact congrArg ActivationCode.deviceId (Option.some.inj same).symm
      · cases same
    · rename_i failed
      simp only [failed]
      exact ⟨mem, by simp [Except.isOk, Except.toBool]⟩
  | activated _ _ | refused _ | threw _ =>
    simp only [point] at mem
    exact ⟨mem, by simp [point]⟩

theorem enrol_codes (deps : DeviceDeps) (input : DeviceInput) (db : LoginDb) (point : EnrolPoint)
    (row : LoginDeviceRow) (mem : row ∈ (point.step deps input db).1.deviceEnrollments)
    (pending : row.state = .pending) : row ∈ db.deviceEnrollments := by
  unfold EnrolPoint.step at mem
  cases point with
  | begin enrol => exact mem
  | enrolling call =>
    simp only [] at mem
    split at mem
    · rename_i done
      exact (finish_codes done row mem pending).1
    · exact mem
  | enrolled _ _ | threw _ => exact mem

theorem issue_codes (deps : DeviceDeps) (input : DeviceInput) (db : LoginDb) (call : TokenIssue)
    (row : LoginDeviceRow) (mem : row ∈ (call.step deps input db).1.deviceEnrollments) :
    issuedBy input (.issue call) = some (codeOf row) ∨ row ∈ db.deviceEnrollments := by
  unfold TokenIssue.step at mem
  unfold issuedBy
  cases point : call.point with
  | begin =>
    simp only [point] at mem
    exact .inr mem
  | writing code derived expiresAt =>
    simp only [point] at mem ⊢
    rcases saveEnrollmentToken_codes mem with new | there
    · exact .inl (congrArg some new.symm)
    · exact .inr there
  | issued _ _ =>
    simp only [point] at mem
    exact .inr mem

/-- A code that is outstanding after a step was issued by it, or was outstanding before and neither
activated nor withdrawn by it. -/
theorem pending_step (deps : DeviceDeps) (input : DeviceInput) (db : LoginDb)
    (process : DeviceProcess) (row : LoginDeviceRow)
    (mem : row ∈ (process.step deps input db).1.deviceEnrollments) (pending : row.state = .pending) :
    issuedBy input process = some (codeOf row) ∨
    (∃ old ∈ db.deviceEnrollments, codeOf old = codeOf row ∧ old.state = .pending) ∧
      activatedBy db input process ≠ some (codeOf row) ∧
      withdrawnBy input process ≠ some row.deviceId := by
  have same : row ∈ db.deviceEnrollments →
      ∃ old ∈ db.deviceEnrollments, codeOf old = codeOf row ∧ old.state = .pending :=
    fun there => ⟨row, there, rfl, pending⟩
  cases process with
  | login call =>
    obtain ⟨old, there, code, state⟩ := login_codes deps.toLoginDeps input.toLoginInput db call
      row mem
    exact .inr ⟨⟨old, there, code, state.trans pending⟩, by simp [activatedBy],
      by simp [withdrawnBy]⟩
  | redeem call =>
    obtain ⟨there, apart⟩ := redeem_codes deps input db call row mem pending
    exact .inr ⟨same there, apart, by simp [withdrawnBy]⟩
  | issue call =>
    rcases issue_codes deps input db call row mem with now | there
    · exact .inl now
    · exact .inr ⟨same there, by simp [activatedBy], by simp [withdrawnBy]⟩
  | enrol point =>
    have there := enrol_codes deps input db point row mem pending
    exact .inr ⟨same there, by simp [activatedBy], by simp [withdrawnBy]⟩
  | once act =>
    obtain ⟨old, kept⟩ := act_codes deps db input input.now act row mem pending
    exact .inr ⟨old, by simp [activatedBy], kept⟩
  | done answer => exact .inr ⟨same mem, by simp [activatedBy], by simp [withdrawnBy]⟩

/-- A code was issued, and neither activated nor its device revoked since. -/
def Outstanding (code : ActivationCode) (past : List DeviceHappened) : Prop :=
  Since (fun taken => issued taken = some code)
    (fun taken => activated taken = some code ∨ withdrawn taken = some code.deviceId) past

/-- Whatever is pending in the table is a code that is outstanding. -/
theorem run_pending (run : DeviceRun deps past w) :
    ∀ row ∈ w.store.deviceEnrollments, row.state = .pending → Outstanding (codeOf row) past := by
  induction run with
  | start nothing => exact fun row mem pending => absurd pending (nothing.2.2 row mem)
  | @step past w event w' run step ih =>
    intro row mem pending
    rcases Pool.acted step with ⟨same, idle⟩ | ⟨slot, input, process, rfl, here, _, rfl⟩
    · rw [same] at mem
      refine (ih row mem pending).later ?_
      rw [activated, ofActor_idle idle, withdrawn, ofActor_idle idle]
      simp
    · rcases pending_step deps input w.store process row mem pending with
        now | ⟨⟨old, there, code, waits⟩, unspent, kept⟩
      · refine .now ?_
        rw [issued, ofActor_act here]
        exact now
      · have before := ih old there waits
        rw [code] at before
        refine before.later ?_
        rw [activated, ofActor_act here, withdrawn, ofActor_act here]
        rintro (now | now)
        · exact unspent now
        · exact kept now

/-- In every run in which a redemption that is about to enrol finds its code still outstanding, each
code is spent once. -/
theorem codes_spent (run : DeviceRun deps past w) (pending : ∀ taken ∈ past, StillPending taken) :
    CodesSpent past := by
  have outstanding : ∀ newer taken older, past = newer ++ taken :: older →
      ∀ code ∈ activated taken, Outstanding code older := by
    intro newer taken older split code done
    subst split
    have found := pending taken (List.mem_append_right _ (List.mem_cons_self ..)) code
      (ofActor_mono (fun _ _ => activatedBy_redeemed) done)
    obtain ⟨row, mem, waits, rfl⟩ := found
    exact run_pending run.earlier.1 row mem waits
  refine ⟨fun code => ?_, fun newer taken older split code done => ?_⟩
  · refine Since.countP_le fun newer taken older split done => ?_
    exact (outstanding newer taken older split code done).weaken fun _ => .inl
  · exact (outstanding newer taken older split code done).weaken fun _ => .inr

/-- A till that derives nothing. -/
def plainDevices : DeviceDeps where
  toLoginDeps := Logins.plainLogin
  deriveSecret secret salt := ⟨secret, salt, deviceSecretParams⟩
  toUpperCase text := text

/-- What a step meets at a time, with the code ABCDE to be issued and the secrets it draws. -/
def meets (now : Timestamp) (secret : String) : DeviceInput where
  now := now
  sessionToken := "session" ++ secret
  csrfToken := "csrf"
  deviceSecret := secret
  code := "ABCDE"
  salt := "salt" ++ secret

/-- The processes that start one after another, and the steps they take after that: whose it is,
when, and the secret drawn. -/
def deviceEvents (processes : List DeviceProcess) (acts : List (Nat × Timestamp × String)) :
    List (Event DeviceInput DeviceProcess) :=
  processes.map .start ++ acts.map fun act => .act act.1 (meets act.2.1 act.2.2)

def devicesPlayed (events : List (Event DeviceInput DeviceProcess)) :
    List DeviceHappened × World LoginDb DeviceProcess :=
  played (World.next (deviceServer plainDevices)) events [] ⟨Logins.oneOperator, []⟩

theorem devicesPlayed_run {events : List (Event DeviceInput DeviceProcess)}
    (playable : Playable (World.May (fun _ process => process.Starting) fun _ _ _ => True)
      (World.next (deviceServer plainDevices)) events ⟨Logins.oneOperator, []⟩) :
    DeviceRun plainDevices (devicesPlayed events).1 (devicesPlayed events).2 :=
  Run.play Pool.next (.start (by decide)) playable

def redemption : DeviceProcess :=
  .redeem ⟨⟨"till", "ABCDE"⟩, .begin⟩

/-- A code is issued to the till and redeemed. -/
def oneRedemption : List (Event DeviceInput DeviceProcess) :=
  deviceEvents [.issue ⟨"till", .begin⟩, redemption]
    [(0, 0, "a"), (0, 0, "a"), (1, 1000, "b"), (1, 1000, "b"), (1, 1000, "b")]

theorem oneRedemption_run :
    DeviceRun plainDevices (devicesPlayed oneRedemption).1 (devicesPlayed oneRedemption).2 :=
  devicesPlayed_run (by decide +kernel)

/-- A code that is redeemed alone is spent by it. -/
theorem oneRedemption_spent : CodesSpent (devicesPlayed oneRedemption).1 :=
  codes_spent oneRedemption_run (by decide +kernel)

/-- A code is issued to the till, and sent in twice at the same time. -/
def twoRedemptions : List (Event DeviceInput DeviceProcess) :=
  deviceEvents [.issue ⟨"till", .begin⟩, redemption, redemption]
    [(0, 0, "a"), (0, 0, "a"), (1, 1000, "b"), (2, 1000, "c"), (1, 1000, "b"), (2, 1000, "c"),
      (1, 2000, "b"), (2, 2000, "c")]

theorem twoRedemptions_run :
    DeviceRun plainDevices (devicesPlayed twoRedemptions).1 (devicesPlayed twoRedemptions).2 :=
  devicesPlayed_run (by decide +kernel)

/-- Both are answered ACTIVATED: a code that was issued once is redeemed twice. -/
theorem redeemed_twice : ¬ ∀ deps past w, DeviceRun deps past w → CodesSpent past := by
  intro always
  have few := (always _ _ _ twoRedemptions_run).once ⟨"till", "ABCDE", "salta"⟩
  revert few
  decide +kernel

end Telga.Proofs.Devices
