import Telga.Application.Devices

namespace Telga.Proofs.Devices
open Domain Persistence Application Library

abbrev DeviceHappened := Taken (World LoginDb DeviceProcess) (Event DeviceInput DeviceProcess)

/-- A database on which nobody has signed in and no activation code has been issued yet. -/
def NothingIssued (w : World LoginDb DeviceProcess) : Prop :=
  w.procs = [] ∧ w.store.sessions = [] ∧
  ∀ row ∈ w.store.deviceEnrollments, row.state ≠ .pending

instance (w : World LoginDb DeviceProcess) : Decidable (NothingIssued w) :=
  inferInstanceAs (Decidable (_ ∧ _ ∧ _))

abbrev DeviceStep (deps : DeviceDeps) :=
  Pool (deviceServer deps) (fun _ process => process.Starting) fun _ _ _ => True

abbrev DeviceRun (deps : DeviceDeps) :=
  Run NothingIssued (DeviceStep deps)

/-- What a right PIN leaves behind. -/
def signedInDb (db : LoginDb) (request : LoginRequest) (now : Timestamp) : LoginDb :=
  ((db.recordSuccessfulLogin request.userId now).recordAttempt .login request.userId
    .success now).touchDevice request.deviceId now

/-- The sessions, the enrolments, the devices and the shops a sign-in leaves alone until it
succeeds, and the PINs. -/
structure Untouched (before after : LoginDb) : Prop where
  sessions : after.sessions = before.sessions
  enrollments : after.deviceEnrollments = before.deviceEnrollments
  devices : after.devices = before.devices
  merchants : after.merchants = before.merchants
  pins : ∀ id, (after.findMerchantUser id).map (·.pin) = (before.findMerchantUser id).map (·.pin)

theorem Untouched.refl (db : LoginDb) : Untouched db db :=
  ⟨rfl, rfl, rfl, rfl, fun _ => rfl⟩

theorem recordFailedLogin_untouched (db : LoginDb) (id : MerchantUserId) (max : Nat)
    (ends : Timestamp) : Untouched db (db.recordFailedLogin id max ends) :=
  ⟨rfl, rfl, rfl, rfl,
    fun _ => map_find?_update db.merchantUsers (·.pin) (fun _ => rfl) fun _ => rfl⟩

theorem signedInDb_pins (db : LoginDb) (request : LoginRequest) (now : Timestamp)
    (id : MerchantUserId) :
    ((signedInDb db request now).findMerchantUser id).map (·.pin) =
      (db.findMerchantUser id).map (·.pin) :=
  map_find?_update db.merchantUsers (·.pin) (fun _ => rfl) fun _ => rfl

/-- A sign-in opens a session with its last step, or leaves everything but its own account alone. -/
theorem login_cases (deps : LoginDeps) (input : LoginInput) (db : LoginDb) (call : Login) :
    (∃ user now db', call.point = .pin user now ∧
      deps.verifySecret call.request.pin user.pin = true ∧
      db.createSession (call.sessionOf deps input user now) = .ok db' ∧
      call.step deps input db =
        (signedInDb db' call.request now,
          call.at (.signedIn (call.sessionOf deps input user now)))) ∨
    Untouched db (call.step deps input db).1 ∧
      ∀ user now, call.point = .pin user now →
        deps.verifySecret call.request.pin user.pin = false ∨
        ∃ fault, db.createSession (call.sessionOf deps input user now) = .error fault := by
  unfold Login.step
  cases point : call.point with
  | pin user now =>
    simp only []
    split
    · rename_i right
      split
      · rename_i fault failed
        refine .inr ⟨Untouched.refl db, ?_⟩
        rintro _ _ ⟨⟩
        exact .inr ⟨fault, failed⟩
      · rename_i db' created
        exact .inl ⟨user, now, db', rfl, right, created, rfl⟩
    · rename_i wrong
      refine .inr ⟨recordFailedLogin_untouched db _ _ _, ?_⟩
      rintro _ _ ⟨⟩
      exact .inl (by simpa using wrong)
  | begin =>
    right
    simp only []
    split
    · exact ⟨Untouched.refl db, by simp⟩
    · exact ⟨⟨rfl, rfl, rfl, rfl, fun _ => rfl⟩, by simp⟩
  | device user enrollment now =>
    right
    simp only []
    split
    · exact ⟨Untouched.refl db, by simp⟩
    · exact ⟨Untouched.refl db, by simp⟩
  | failed _ | signedIn _ | threw _ => exact .inr ⟨Untouched.refl db, by simp⟩

/-- What a session is admitted on. -/
structure Admissible (deps : DeviceDeps) (db : LoginDb) (session : LoginSessionRow)
    (now : Timestamp) : Prop where
  found : db.findSession session.id = some session
  device : deviceRejection
    ((db.findDeviceEnrollment session.deviceId).map (·.toDeviceEnrollment))
    session.merchantId now = none
  usable : sessionRejection (some session.toSessionFacts) now = none
  operator : ∃ user ∈ db.findMerchantUser session.userId, user.active = true
  shop : (db.findMerchant session.merchantId).map (·.status) = some .active

/-- What authenticating does when it does not admit: nothing, or to the session it refuses. -/
inductive Refusing (db : LoginDb) (now : Timestamp) : LoginDb → Prop
  | nothing : Refusing db now db
  | revoked (id reason : String) : Refusing db now (db.revokeSession id reason now).1
  | noted (id reason : String) : Refusing db now (db.noteSessionRejection id reason now)

def renewedDb (deps : DeviceDeps) (db : LoginDb) (session : LoginSessionRow) (now : Timestamp) :
    LoginDb :=
  (db.touchSession session.id now (now + deps.session.idleTimeoutMs)).touchDevice
    session.deviceId now

/-- A request is refused, or admitted on a session that may be used. -/
theorem authenticate_cases (deps : DeviceDeps) (db : LoginDb) (token : Option String)
    (extendIdle : Bool) (now : Timestamp) :
    (Refusing db now (Devices.authenticate deps db token extendIdle now).1 ∧
      ∃ code, (Devices.authenticate deps db token extendIdle now).2 = .refused code) ∨
    ∃ session, Admissible deps db session now ∧
      Devices.authenticate deps db token extendIdle now =
        (if extendIdle then renewedDb deps db session now else db,
          .admitted ⟨session.id, session.userId, session.merchantId, session.deviceId⟩) := by
  unfold Devices.authenticate
  cases token with
  | none => exact .inl ⟨.nothing, _, rfl⟩
  | some token =>
    simp only []
    split
    · exact .inl ⟨.nothing, _, rfl⟩
    · split
      · exact .inl ⟨.nothing, _, rfl⟩
      · rename_i session found
        split
        · exact .inl ⟨.noted _ _, _, rfl⟩
        · rename_i enrolled
          split
          · unfold Devices.rejectSession
            split
            · exact .inl ⟨.revoked _ _, _, rfl⟩
            · exact .inl ⟨.nothing, _, rfl⟩
          · rename_i usable
            unfold Devices.admitSession
            split
            · exact .inl ⟨.nothing, _, rfl⟩
            · rename_i user operator
              split
              · exact .inl ⟨.nothing, _, rfl⟩
              · rename_i active
                split
                · exact .inl ⟨.nothing, _, rfl⟩
                · split
                  · exact .inl ⟨.revoked _ _, _, rfl⟩
                  · rename_i shop
                    split
                    · exact .inl ⟨.revoked _ _, _, rfl⟩
                    · rename_i same
                      have named : session.id = deps.tokenFingerprint token := by
                        simpa using List.find?_some found
                      have own : user.id = session.userId := by
                        simpa using List.find?_some operator
                      rw [Decidable.not_not] at shop same
                      refine .inr ⟨session, ⟨named ▸ found, enrolled, usable,
                        ⟨user, operator, by simpa using active⟩, shop⟩, ?_⟩
                      rw [own, same]
                      rfl

/-- Authenticating writes to no operator, device or shop. -/
theorem authenticate_keeps (deps : DeviceDeps) (db : LoginDb) (token : Option String)
    (extendIdle : Bool) (now : Timestamp) :
    (Devices.authenticate deps db token extendIdle now).1.merchantUsers = db.merchantUsers ∧
    (Devices.authenticate deps db token extendIdle now).1.devices = db.devices := by
  rcases authenticate_cases deps db token extendIdle now with
    ⟨refusing, _⟩ | ⟨session, _, admitted⟩
  · generalize (Devices.authenticate deps db token extendIdle now).1 = after at refusing ⊢
    cases refusing with
    | nothing | revoked id reason | noted id reason => exact ⟨rfl, rfl⟩
  · rw [admitted]
    cases extendIdle with
    | true | false => exact ⟨rfl, rfl⟩

/-- The rows of an enrolment that is finished: its device has a key of its own, and the sessions
the device was carrying are revoked. -/
theorem finish_cases {call : Enrolling} (done : call.finish db now = .ok db') :
    ∃ enrollments,
      (∀ row ∈ enrollments, row ∈ db.deviceEnrollments ∨
        row.deviceId = call.input.deviceId ∧ row.state = .enrolled) ∧
      (∀ deviceId ≠ call.input.deviceId,
        enrollments.find? (fun row => row.deviceId = deviceId) =
          db.deviceEnrollments.find? fun row => row.deviceId = deviceId) ∧
      (∀ row ∈ enrollments, row.deviceId = call.input.deviceId → row.state = .enrolled) ∧
      db' = { db with
        deviceEnrollments := enrollments
        sessions := update (LoginDb.sessionsOfDevice call.input.deviceId)
          (LoginDb.revoked "DEVICE_REENROLLED" now) db.sessions } := by
  simp only [Enrolling.finish, LoginDb.saveDeviceEnrollment, bind_ok, demand_ok, pure_ok] at done
  obtain ⟨saved, ⟨_, _, _, _, done⟩, rfl⟩ := done
  split at done
  · simp only [pure_ok] at done
    subst done
    refine ⟨_, fun row mem => ?_, fun deviceId other => ?_, fun row mem own => ?_, rfl⟩
    · obtain ⟨old, there, rfl⟩ := mem_update.mp mem
      by_cases own : old.deviceId = call.input.deviceId
      · exact .inr (by simp [own, DeviceEnrollmentInput.apply])
      · exact .inl (by simpa [own] using there)
    · exact find?_update_other _ (fun _ => rfl) fun row wanted => by simp_all
    · obtain ⟨old, there, rfl⟩ := mem_update.mp mem
      by_cases same : old.deviceId = call.input.deviceId
      · simp [same, DeviceEnrollmentInput.apply]
      · simp [same] at own
  · rename_i absent
    simp only [pure_ok] at done
    subst done
    refine ⟨_, fun row mem => ?_, fun deviceId other => ?_, fun row mem own => ?_, rfl⟩
    · rcases List.mem_append.mp mem with there | new
      · exact .inl there
      · rw [List.mem_singleton.mp new]
        exact .inr ⟨rfl, rfl⟩
    · rw [List.find?_append]
      have missed : ¬ call.input.deviceId = deviceId := fun same => other same.symm
      simp [DeviceEnrollmentInput.row, missed]
    · rcases List.mem_append.mp mem with there | new
      · exact absurd ⟨row, there, own⟩ absent
      · rw [List.mem_singleton.mp new]
        rfl

end Telga.Proofs.Devices
