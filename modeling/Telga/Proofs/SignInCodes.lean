import Telga.Proofs.ConsoleTurns

namespace Telga.Proofs.Console
open Domain Persistence Application Library

/-- A candidate typed for an emailed code, with the code as its request found it. -/
structure Submission where
  session : AdminSessionId
  admin : AdminUser
  candidate : String
  otp : AdminOtp
  attempts : Nat
  now : Timestamp
deriving DecidableEq

def submissionOf : ConsoleProcess → Option Submission
  | .signIn _ => none
  | .request call =>
    match call.point with
    | .verifying session admin candidate otp attempts now =>
      some ⟨session, admin, candidate, otp, attempts, now⟩
    | _ => none

/-- The submission a step decides, and when. -/
def submitted (taken : ConsoleHappened) : Option (Submission × Timestamp) :=
  actedOn (fun input process => (submissionOf process).map fun submission =>
    (submission, input.now 0)) taken

/-- What a step decides about a submission. -/
def Submission.verdict (deps : ConsoleDeps) (submission : Submission) : Option OtpRefusal :=
  verifyEmailOtp deps submission.candidate submission.otp submission.attempts submission.now

/-- The candidate is compared with the code, and is not it. -/
def Submission.Wrong (deps : ConsoleDeps) (submission : Submission) : Prop :=
  comparesOtp submission.candidate submission.otp submission.attempts submission.now = true ∧
  verifySecret deps submission.candidate
    ⟨submission.otp.hash, submission.otp.salt, scryptParams⟩ = false

/-- The candidate is compared with the code, and is it. -/
def Submission.Right (deps : ConsoleDeps) (submission : Submission) : Prop :=
  comparesOtp submission.candidate submission.otp submission.attempts submission.now = true ∧
  verifySecret deps submission.candidate
    ⟨submission.otp.hash, submission.otp.salt, scryptParams⟩ = true

instance (deps : ConsoleDeps) (submission : Submission) : Decidable (submission.Wrong deps) :=
  inferInstanceAs (Decidable (_ ∧ _))

instance (deps : ConsoleDeps) (submission : Submission) : Decidable (submission.Right deps) :=
  inferInstanceAs (Decidable (_ ∧ _))

/-- The code a step of a process puts into an administrator's row, the mailer having taken it. -/
def sentCodeOf (input : ConsoleInput) (process : ConsoleProcess) : Option (AdminId × AdminOtp) :=
  match sendingOf process with
  | some (admin, issued) => if input.sent then some (admin, issued.stored input) else none
  | none => none

def sentCode (taken : ConsoleHappened) : Option (AdminId × AdminOtp) :=
  actedOn sentCodeOf taken

/-- The code that was sent to an administrator last. -/
def lastSent (admin : AdminId) : List ConsoleHappened → Option AdminOtp
  | [] => none
  | taken :: past =>
    match sentCode taken with
    | some (receiver, otp) => if receiver = admin then some otp else lastSent admin past
    | none => lastSent admin past

/-- A step compares a wrong candidate with the code of a salt. -/
def GuessesWrong (deps : ConsoleDeps) (salt : String) (taken : ConsoleHappened) : Prop :=
  ∃ decided ∈ submitted taken, decided.1.otp.salt = salt ∧ decided.1.Wrong deps

instance (deps : ConsoleDeps) (salt : String) (taken : ConsoleHappened) :
    Decidable (GuessesWrong deps salt taken) :=
  inferInstanceAs (Decidable (∃ decided ∈ submitted taken, _ ∧ _))

/-- A step accepts the code of a salt. -/
def Accepts (deps : ConsoleDeps) (salt : String) (taken : ConsoleHappened) : Prop :=
  ∃ decided ∈ submitted taken, decided.1.otp.salt = salt ∧ decided.1.verdict deps = none

def wrongGuesses (deps : ConsoleDeps) (salt : String) (past : List ConsoleHappened) : Nat :=
  past.countP fun taken => GuessesWrong deps salt taken

/-- A step that decides a submission, after the steps before it: a code is accepted before its expiry
and while it is the last one sent, and whoever is refused on an older code leaves the newer one and
its budget alone. -/
structure DecidesWell (deps : ConsoleDeps) (earlier : List ConsoleHappened)
    (taken : ConsoleHappened) (submission : Submission) (clock : Timestamp) : Prop where
  accepted : submission.verdict deps = none →
    clock < submission.otp.expiresAt ∧ lastSent submission.admin.id earlier = some submission.otp
  refused : submission.verdict deps ≠ none →
    lastSent submission.admin.id earlier ≠ some submission.otp →
    findAdminOtp taken.after.store submission.admin.id =
      findAdminOtp taken.before.store submission.admin.id

/-- What emailed codes promise, each code known by its salt. -/
structure CodesKept (deps : ConsoleDeps) (past : List ConsoleHappened) : Prop where
  budget : ∀ salt, wrongGuesses deps salt past ≤ maxOtpAttempts
  once : ∀ salt, past.Pairwise fun later before =>
    ¬ (Accepts deps salt later ∧ Accepts deps salt before)
  each : ∀ later taken earlier, past = later ++ taken :: earlier →
    ∀ decided ∈ submitted taken, DecidesWell deps earlier taken decided.1 decided.2

/-- A submission is decided while the code it was checked against is still the outstanding one: a
wrong candidate with guesses left, a right one before the expiry. -/
def StillOutstanding (deps : ConsoleDeps) (taken : ConsoleHappened) : Prop :=
  ∀ decided ∈ submitted taken,
    (∃ found ∈ findAdminOtp taken.before.store decided.1.admin.id, found.1 = decided.1.otp ∧
      (decided.1.Wrong deps → found.2 < maxOtpAttempts)) ∧
    (decided.1.Right deps → decided.2 < decided.1.otp.expiresAt)

instance (deps : ConsoleDeps) (taken : ConsoleHappened) : Decidable (StillOutstanding deps taken) :=
  inferInstanceAs (Decidable (∀ decided ∈ submitted taken, (∃ found ∈ _, _ ∧ (_ → _)) ∧ (_ → _)))

/-- The process is deriving what to store for a code it has drawn. -/
def issuing : ConsoleProcess → Bool
  | .signIn call => (call.point matches .issuing _)
  | .request call => (call.point matches .issuing _)

/-- The salt a step draws for a code. -/
def drawnSalt (taken : ConsoleHappened) : Option String :=
  actedOn (fun input process => if issuing process then some input.salt else none) taken

/-- No salt is drawn for two codes. -/
def SaltsDiffer (past : List ConsoleHappened) : Prop :=
  (past.filterMap drawnSalt).Nodup

theorem submissionOf_some {process : ConsoleProcess} {submission : Submission}
    (submits : submissionOf process = some submission) :
    ∃ call, process = .request call ∧
      call.point = .verifying submission.session submission.admin submission.candidate
        submission.otp submission.attempts submission.now := by
  unfold submissionOf at submits
  split at submits
  · cases submits
  · split at submits
    · rename_i point
      cases submits
      exact ⟨_, rfl, point⟩
    · cases submits

theorem verdict_none_iff {submission : Submission} :
    submission.verdict deps = none ↔ submission.Right deps := by
  unfold Submission.verdict Submission.Right verifyEmailOtp comparesOtp
  by_cases spent : maxOtpAttempts ≤ submission.attempts
  · simp [spent, Nat.not_lt.mpr spent]
  · by_cases late : submission.otp.expiresAt ≤ submission.now
    · simp [spent, late, Int.not_lt.mpr late]
    · by_cases digits : isSixDigits submission.candidate = false
      · simp [spent, late, digits]
      · have digits : isSixDigits submission.candidate = true := by simpa using digits
        simp only [spent, late, digits, Nat.not_le.mp spent, Int.not_le.mp late]
        simp

/-- A process that waits for the mailer has just drawn its code's salt. -/
theorem signIn_sending (deps : ConsoleDeps) (input : ConsoleInput) (db : ConsoleDb)
    (call : SignIn) :
    (sendingOf (.signIn (call.step deps input db).2)).map (·.2.salt) =
      if issuing (.signIn call) then some input.salt else none := by
  have drawn : issuing (.signIn call) = (call.point matches .issuing _) := rfl
  rw [drawn]
  unfold SignIn.step
  cases point : call.point with
  | issuing admin => rfl
  | begin | comparing row now =>
    simp only []
    split
    · rfl
    · split
      · rfl
      · rfl
  | sending admin issued =>
    simp only []
    split
    · rfl
    · rfl
  | decoy => rfl
  | refused reason | notSent | signedIn => simp [sendingOf, point]

theorem admit_sending (deps : ConsoleDeps) (input : ConsoleInput) (db : ConsoleDb)
    (call : ConsoleRequest) (session : AdminSessionId) (context : AdminAuthContext) :
    sendingOf (.request ( call.admit deps input db session context).2) = none := by
  unfold ConsoleRequest.admit
  cases route : call.route with
  | logout | page | resendOtp | otp candidate | mfa supplied => rfl
  | enrolMfa | stepUp password | createAdmin form | screen permission =>
    simp only []
    split
    · rfl
    · rfl
  | resetMfa target =>
    simp only []
    split
    · rfl
    · split
      · rfl
      · rfl

theorem read_sending {call : ConsoleRequest} (point : call.point = .admitted session context now) :
    sendingOf (.request (call.read deps input db session context now).2) = none := by
  unfold ConsoleRequest.read
  cases route : call.route with
  | resendOtp =>
    simp only []
    split
    · rfl
    · split
      · rfl
      · rfl
  | otp candidate =>
    simp only []
    split
    · rfl
    · rfl
  | mfa supplied =>
    simp only []
    split
    · rfl
    · split
      · rfl
      · rfl
  | stepUp password =>
    simp only []
    split
    · rfl
    · rfl
  | createAdmin form => rfl
  | logout | enrolMfa | page | resetMfa target | screen permission => simp [sendingOf, point]

theorem request_sending (deps : ConsoleDeps) (input : ConsoleInput) (db : ConsoleDb)
    (call : ConsoleRequest) :
    (sendingOf (.request (call.step deps input db).2)).map (·.2.salt) =
      if issuing (.request call) then some input.salt else none := by
  have drawn : issuing (.request call) = (call.point matches .issuing _) := rfl
  rw [drawn]
  unfold ConsoleRequest.step
  cases point : call.point with
  | issuing admin => rfl
  | begin =>
    rcases authenticate_cases deps db call.sessionToken (input.now 0) with
      ⟨failure, done, _, same⟩ | ⟨session, context, _, same⟩
    · simp only [same]
      rfl
    · simp only [same, admit_sending]
      rfl
  | admitted session context now =>
    simp only [read_sending point]
    rfl
  | verifying session admin candidate otp attempts now =>
    simp only []
    split
    · rfl
    · rfl
    · rfl
  | sending admin issued | proving session password row | creating form password =>
    simp only []
    split
    · rfl
    · rfl
  | answered answer => simp [sendingOf, point]

theorem step_sending (deps : ConsoleDeps) (input : ConsoleInput) (db : ConsoleDb)
    (process : ConsoleProcess) :
    (sendingOf (process.step deps input db).2).map (·.2.salt) =
      if issuing process then some input.salt else none := by
  cases process with
  | signIn call => exact signIn_sending deps input db call
  | request call => exact request_sending deps input db call

/-- The salt of the code that the process in a slot is sending. -/
def saltAt (w : World ConsoleDb ConsoleProcess) (slot : Nat) : Option String :=
  (w.proc slot).bind fun process => (sendingOf process).map (·.2.salt)

/-- The salt of the code a step sends. -/
def sentSalt (taken : ConsoleHappened) : Option String :=
  (sentCode taken).map (·.2.salt)

/-- Every code that is sent, or is being sent, has a salt that was drawn for it alone. -/
structure SaltsApart (past : List ConsoleHappened) (w : World ConsoleDb ConsoleProcess) :
    Prop where
  pending : ∀ slot salt, saltAt w slot = some salt →
    salt ∈ past.filterMap drawnSalt ∧ salt ∉ past.filterMap sentSalt
  apart : ∀ slot other salt, saltAt w slot = some salt → saltAt w other = some salt → slot = other
  sent : ∀ salt ∈ past.filterMap sentSalt, salt ∈ past.filterMap drawnSalt
  once : (past.filterMap sentSalt).Nodup

theorem saltAt_act (deps : ConsoleDeps) (input : ConsoleInput) {w : World ConsoleDb ConsoleProcess} (here : w.proc slot = some process)
    (other : Nat) :
    saltAt ⟨(process.step deps input w.store).1,
        w.procs.set slot (some (process.step deps input w.store).2)⟩ other =
      if other = slot then (if issuing process then some input.salt else none)
      else saltAt w other := by
  unfold saltAt
  rw [World.proc_act here]
  split
  · exact step_sending deps input w.store process
  · rfl

/-- A step that draws no salt and sends no code. -/
theorem SaltsApart.pass (salts : SaltsApart past w) (drawn : drawnSalt taken = none)
    (sent : sentSalt taken = none)
    (fewer : ∀ slot salt, saltAt w' slot = some salt → saltAt w slot = some salt) :
    SaltsApart (taken :: past) w' := by
  refine ⟨?_, ?_, ?_, ?_⟩
  · intro slot salt pending
    rw [List.filterMap_cons_none drawn, List.filterMap_cons_none sent]
    exact salts.pending slot salt (fewer slot salt pending)
  · intro slot other salt one two
    exact salts.apart slot other salt (fewer _ _ one) (fewer _ _ two)
  · rw [List.filterMap_cons_none drawn, List.filterMap_cons_none sent]
    exact salts.sent
  · rw [List.filterMap_cons_none sent]
    exact salts.once

theorem SaltsApart.draw (salts : SaltsApart past w) (drawn : drawnSalt taken = some fresh)
    (new : fresh ∉ past.filterMap drawnSalt) (sent : sentSalt taken = none)
    (drew : ∀ other, saltAt w' other = if other = slot then some fresh else saltAt w other) :
    SaltsApart (taken :: past) w' := by
  have unsent : fresh ∉ past.filterMap sentSalt := fun mem => new (salts.sent fresh mem)
  have unpending : ∀ other, saltAt w other ≠ some fresh :=
    fun other pending => new (salts.pending other fresh pending).1
  refine ⟨?_, ?_, ?_, ?_⟩
  · intro other salt pending
    rw [List.filterMap_cons_some drawn, List.filterMap_cons_none sent]
    rw [drew] at pending
    split at pending
    · cases pending
      exact ⟨List.mem_cons_self .., unsent⟩
    · obtain ⟨earlier, unused⟩ := salts.pending other salt pending
      exact ⟨List.mem_cons_of_mem _ earlier, unused⟩
  · intro one two salt first second
    rw [drew] at first second
    split at first
    · cases first
      split at second
      · rename_i same other
        rw [same, other]
      · exact absurd second (unpending two)
    · split at second
      · cases second
        exact absurd first (unpending one)
      · exact salts.apart one two salt first second
  · intro salt mem
    rw [List.filterMap_cons_none sent] at mem
    rw [List.filterMap_cons_some drawn]
    exact List.mem_cons_of_mem _ (salts.sent salt mem)
  · rw [List.filterMap_cons_none sent]
    exact salts.once

theorem SaltsApart.send (salts : SaltsApart past w) (drawn : drawnSalt taken = none)
    (sent : sentSalt taken = some used) (held : saltAt w slot = some used)
    (gone : ∀ other, saltAt w' other = if other = slot then none else saltAt w other) :
    SaltsApart (taken :: past) w' := by
  obtain ⟨earlier, unused⟩ := salts.pending slot used held
  refine ⟨?_, ?_, ?_, ?_⟩
  · intro other salt pending
    rw [List.filterMap_cons_none drawn, List.filterMap_cons_some sent]
    rw [gone] at pending
    split at pending
    · cases pending
    · rename_i elsewhere
      obtain ⟨known, unsent⟩ := salts.pending other salt pending
      refine ⟨known, fun mem => ?_⟩
      rcases List.mem_cons.mp mem with rfl | mem
      · exact elsewhere (salts.apart other slot salt pending held)
      · exact unsent mem
  · intro one two salt first second
    rw [gone] at first second
    split at first
    · cases first
    · split at second
      · cases second
      · exact salts.apart one two salt first second
  · intro salt mem
    rw [List.filterMap_cons_some sent] at mem
    rw [List.filterMap_cons_none drawn]
    rcases List.mem_cons.mp mem with rfl | mem
    · exact earlier
    · exact salts.sent salt mem
  · rw [List.filterMap_cons_some sent]
    exact List.nodup_cons.mpr ⟨unused, salts.once⟩

theorem issuing_sending (draws : issuing process = true) : sendingOf process = none := by
  cases process with
  | signIn call | request call =>
    simp only [issuing] at draws
    split at draws
    · rename_i point
      simp only [sendingOf, point]
    · cases draws

theorem starting_sending {process : ConsoleProcess} (starting : process.Starting) :
    sendingOf process = none := by
  cases process with
  | signIn call | request call =>
    have point : call.point = .begin := starting
    simp only [sendingOf, point]

/-- One step of a process, which draws a new salt, sends the code it holds, or does neither. -/
theorem SaltsApart.act {w w' : World ConsoleDb ConsoleProcess} {process : ConsoleProcess}
    (salts : SaltsApart past w) (here : w.proc slot = some process)
    (moved : w' = ⟨(process.step deps input w.store).1,
      w.procs.set slot (some (process.step deps input w.store).2)⟩)
    (new : ∀ salt ∈ drawnSalt ⟨w, .act slot input, w'⟩, salt ∉ past.filterMap drawnSalt) :
    SaltsApart (⟨w, .act slot input, w'⟩ :: past) w' := by
  have after := saltAt_act deps input here
  rw [← moved] at after
  by_cases draws : issuing process = true
  · have drawn : drawnSalt ⟨w, .act slot input, w'⟩ = some input.salt := by
      rw [drawnSalt, actedOn_act here, if_pos draws]
    have sent : sentSalt ⟨w, .act slot input, w'⟩ = none := by
      rw [sentSalt, sentCode, actedOn_act here, sentCodeOf, issuing_sending draws]
      rfl
    rw [if_pos draws] at after
    exact salts.draw drawn (new _ drawn) sent after
  · have drawn : drawnSalt ⟨w, .act slot input, w'⟩ = none := by
      rw [drawnSalt, actedOn_act here, if_neg draws]
    rw [if_neg draws] at after
    cases sent : sentSalt ⟨w, .act slot input, w'⟩ with
    | none =>
      refine salts.pass drawn sent fun other salt pending => ?_
      rw [after] at pending
      split at pending
      · cases pending
      · exact pending
    | some used =>
      have held : saltAt w slot = some used := by
        rw [sentSalt, sentCode, actedOn_act here] at sent
        unfold sentCodeOf at sent
        unfold saltAt
        rw [here, Option.bind_some]
        split at sent
        · rename_i admin issued sending
          split at sent
          · rw [sending]
            exact sent
          · cases sent
        · cases sent
      exact salts.send drawn sent held after

/-- Codes are sent under salts of their own as long as no salt is drawn twice. -/
theorem salts_apart (run : ConsoleRun deps past w) (differ : SaltsDiffer past) :
    SaltsApart past w := by
  induction run with
  | @start w new =>
    have none : ∀ slot, saltAt w slot = none := by
      intro slot
      unfold saltAt World.proc
      rw [new.idle]
      rfl
    refine ⟨?_, ?_, ?_, List.nodup_nil⟩
    · intro slot salt pending
      rw [none] at pending
      cases pending
    · intro slot other salt pending
      rw [none] at pending
      cases pending
    · intro salt mem
      cases mem
  | step run step ih =>
    unfold SaltsDiffer at differ ih
    rw [List.filterMap_cons] at differ
    cases step with
    | start admitted =>
      refine (ih differ).pass rfl rfl fun slot salt pending => ?_
      unfold saltAt at pending ⊢
      rw [World.proc_start] at pending
      split at pending
      · rw [Option.bind_some, starting_sending admitted] at pending
        cases pending
      · exact pending
    | crash =>
      refine (ih differ).pass rfl rfl fun slot salt pending => ?_
      unfold saltAt at pending ⊢
      rw [World.proc_crash] at pending
      split at pending
      · cases pending
      · exact pending
    | act here permitted moved =>
      obtain ⟨rfl, rfl⟩ := Prod.ext_iff.mp moved
      split at differ
      · rename_i none
        refine (ih differ).act here rfl fun salt drawn => ?_
        rw [none] at drawn
        cases drawn
      · rename_i fresh some
        obtain ⟨new, earlier⟩ := List.nodup_cons.mp differ
        refine (ih earlier).act here rfl fun salt drawn => ?_
        rw [some] at drawn
        cases drawn
        exact new

/-- The outstanding code of a row, with its wrong guesses. -/
def codeColumn (row : AdminUserRow) : Option (AdminOtp × Nat) :=
  row.otp.map fun otp => (otp, row.otpAttempts)

theorem findAdminOtp_column (db : ConsoleDb) (admin : AdminId) :
    findAdminOtp db admin = column codeColumn none db admin := by
  unfold findAdminOtp column
  cases findAdminUser db admin with
  | none | some row => rfl

/-- Only a submission and the sending of a code touch what is outstanding. -/
theorem Does.keeps_code (does : Does deps input db process done)
    (unsubmitted : submissionOf process = none) (unsending : sendingOf process = none) :
    ∀ change ∈ done, change.Keeps codeColumn none := by
  intro change mem
  cases does with
  | aside each =>
    have aside := each change mem
    cases change with
    | account id change =>
      cases change with
      | unenrolled => exact fun _ => rfl
      | _ => cases aside
    | added row =>
      have blank : Blank row := aside
      show codeColumn row = none
      rw [codeColumn, blank.code]
      rfl
    | sessions hit change => trivial
    | opened session => cases aside
  | failed point wrong =>
    cases List.mem_singleton.mp mem
    exact fun _ => rfl
  | signedIn point right =>
    rcases List.mem_cons.mp mem with rfl | mem
    · exact fun _ => rfl
    · cases List.mem_singleton.mp mem
      trivial
  | sent sending =>
    rw [unsending] at sending
    cases sending
  | guessed point wrong | uncoded point refused other | accepted point right =>
    simp [submissionOf, point] at unsubmitted
  | confirmed point route enrolled present right =>
    cases List.mem_singleton.mp mem
    trivial
  | enrolled point route admitted free =>
    rcases List.mem_cons.mp mem with rfl | mem
    · trivial
    · cases List.mem_singleton.mp mem
      exact fun _ => rfl

/-- What the decision on a submission leaves outstanding: one guess fewer where the code was wrong,
and nothing else. -/
theorem decided_code {process : ConsoleProcess} {submission : Submission}
    (submits : submissionOf process = some submission) (admin : AdminId) :
    findAdminOtp (process.step deps input db).1 admin =
      if admin = submission.admin.id then
        if submission.verdict deps = some .codeIncorrect then
          (findAdminOtp db admin).map fun found => (found.1, found.2 + 1)
        else none
      else findAdminOtp db admin := by
  obtain ⟨call, rfl, point⟩ := submissionOf_some submits
  have guessed : ∀ row, codeColumn (AccountChange.guessed.apply row) =
      (codeColumn row).map fun found => (found.1, found.2 + 1) := by
    intro row
    unfold codeColumn AccountChange.apply
    cases row.otp with
    | none | some otp => rfl
  have uncoded : ∀ row, codeColumn (AccountChange.uncoded.apply row) = none := fun _ => rfl
  have emptied : column (fun _ => (none : Option (AdminOtp × Nat))) none db admin = none := by
    unfold column
    cases findAdminUser db admin with
    | none | some row => rfl
  have mapped := column_comp
    (Option.map fun found : AdminOtp × Nat => (found.1, found.2 + 1)) codeColumn none db admin
  rw [findAdminOtp_column, findAdminOtp_column, mapped]
  have verdict : submission.verdict deps = verifyEmailOtp deps submission.candidate submission.otp
    submission.attempts submission.now := rfl
  simp only [ConsoleProcess.step, ConsoleRequest.step, point, Prod.map, id]
  rw [verdict]
  split
  · rename_i wrong
    rw [if_pos wrong]
    have stored := column_account codeColumn none db submission.admin.id .guessed admin
    simp only [guessed] at stored
    exact stored
  · rename_i refusal other wrong
    have apart : verifyEmailOtp deps submission.candidate submission.otp submission.attempts
        submission.now ≠ some .codeIncorrect := by
      rw [wrong]
      exact fun same => other (Option.some.inj same)
    rw [if_neg apart]
    have stored := column_account codeColumn none db submission.admin.id .uncoded admin
    simp only [uncoded, emptied] at stored
    exact stored
  · rename_i right
    have apart : verifyEmailOtp deps submission.candidate submission.otp submission.attempts
        submission.now ≠ some .codeIncorrect := by
      rw [right]
      exact fun same => by cases same
    rw [if_neg apart]
    have stored := column_account codeColumn none db submission.admin.id .uncoded admin
    simp only [uncoded, emptied] at stored
    exact stored

/-- What the mailer's answer leaves outstanding. -/
theorem sent_code {process : ConsoleProcess} (sending : sendingOf process = some (receiver, issued))
    (held : findAdminOtp (process.step deps input db).1 admin = some (otp, attempts)) :
    (sentCodeOf input process = some (admin, otp) ∧ attempts = 0) ∨
    (∀ other, sentCodeOf input process ≠ some (admin, other)) ∧
      findAdminOtp db admin = some (otp, attempts) := by
  have moved : (process.step deps input db).1 =
      if input.sent then applied [.account receiver (.coded (issued.stored input))] db else db := by
    cases process with
    | signIn call =>
      simp only [sendingOf] at sending
      split at sending
      · rename_i sender code point
        cases sending
        simp only [ConsoleProcess.step, SignIn.step, point, Prod.map, id]
        split
        · rfl
        · rfl
      · cases sending
    | request call =>
      simp only [sendingOf] at sending
      split at sending
      · rename_i sender code point
        cases sending
        simp only [ConsoleProcess.step, ConsoleRequest.step, point, Prod.map, id]
        split
        · rfl
        · rfl
      · cases sending
  rw [moved] at held
  unfold sentCodeOf
  rw [sending]
  by_cases taken : input.sent = true
  · simp only [taken, if_true] at held ⊢
    rw [findAdminOtp_column, applied, List.foldl_cons, List.foldl_nil, column_account] at held
    by_cases same : admin = receiver
    · subst same
      rw [if_pos rfl] at held
      unfold column at held
      cases found : findAdminUser db admin with
      | none =>
        rw [found] at held
        cases held
      | some row =>
        rw [found] at held
        simp only [Option.map_some, Option.getD_some, codeColumn, AccountChange.apply,
          Option.some.injEq, Prod.mk.injEq] at held
        obtain ⟨rfl, rfl⟩ := held
        exact .inl ⟨rfl, rfl⟩
    · rw [if_neg same] at held
      refine .inr ⟨fun other sent => ?_, ?_⟩
      · cases sent
        exact same rfl
      · rw [findAdminOtp_column]
        exact held
  · simp only [taken] at held ⊢
    exact .inr ⟨fun other sent => (by cases sent), held⟩

/-- A code that is outstanding after a step was sent by it, or was outstanding before: with one wrong
guess fewer, if the step refused a candidate for it. -/
theorem code_after {process : ConsoleProcess}
    (held : findAdminOtp (process.step deps input db).1 admin = some (otp, attempts)) :
    (sentCodeOf input process = some (admin, otp) ∧ attempts = 0 ∧ submissionOf process = none) ∨
    (∀ other, sentCodeOf input process ≠ some (admin, other)) ∧
      ∃ before ≤ attempts, findAdminOtp db admin = some (otp, before) ∧
        ∀ submission, submissionOf process = some submission → submission.admin.id = admin →
          submission.verdict deps = some .codeIncorrect ∧ attempts = before + 1 := by
  cases submits : submissionOf process with
  | some submission =>
    have unsending : sendingOf process = none := by
      obtain ⟨call, rfl, point⟩ := submissionOf_some submits
      simp only [sendingOf, point]
    rw [decided_code submits] at held
    refine .inr ⟨fun other sent => ?_, ?_⟩
    · rw [sentCodeOf, unsending] at sent
      cases sent
    · by_cases same : admin = submission.admin.id
      · rw [if_pos same] at held
        by_cases wrong : submission.verdict deps = some .codeIncorrect
        · rw [if_pos wrong] at held
          obtain ⟨found, there, eq⟩ := Option.map_eq_some_iff.mp held
          cases eq
          refine ⟨found.2, Nat.le_succ _, there, fun other eq _ => ?_⟩
          cases eq
          exact ⟨wrong, rfl⟩
        · rw [if_neg wrong] at held
          cases held
      · rw [if_neg same] at held
        refine ⟨attempts, Nat.le_refl _, held, fun other eq mine => ?_⟩
        cases eq
        exact absurd mine.symm same
  | none =>
    cases sending : sendingOf process with
    | some sent =>
      rcases sent_code sending held with ⟨sent, fresh⟩ | ⟨other, kept⟩
      · exact .inl ⟨sent, fresh, rfl⟩
      · exact .inr ⟨other, attempts, Nat.le_refl _, kept, fun submission eq => by cases eq⟩
    | none =>
      obtain ⟨done, does, same⟩ := process_does deps input db process
      rw [same, findAdminOtp_column, column_applied (does.keeps_code submits sending)] at held
      refine .inr ⟨fun other sent => ?_, attempts, Nat.le_refl _, ?_, fun submission eq => by
        cases eq⟩
      · rw [sentCodeOf, sending] at sent
        cases sent
      · rw [findAdminOtp_column]
        exact held

/-- What is outstanding is the last code sent, never accepted, with every wrong guess counted; and
every candidate was typed for a code that was sent. -/
structure CodeRecord (deps : ConsoleDeps) (past : List ConsoleHappened) (db : ConsoleDb) :
    Prop where
  outstanding : ∀ admin otp attempts, findAdminOtp db admin = some (otp, attempts) →
    lastSent admin past = some otp ∧ wrongGuesses deps otp.salt past ≤ attempts ∧
    ∀ taken ∈ past, ¬ Accepts deps otp.salt taken
  typed : ∀ taken ∈ past, ∀ decided ∈ submitted taken,
    decided.1.otp.salt ∈ past.filterMap sentSalt
  budget : ∀ salt, wrongGuesses deps salt past ≤ maxOtpAttempts
  once : ∀ salt, past.Pairwise fun later before =>
    ¬ (Accepts deps salt later ∧ Accepts deps salt before)

theorem lastSent_cons {taken : ConsoleHappened}
    (other : ∀ otp, sentCode taken ≠ some (admin, otp)) :
    lastSent admin (taken :: past) = lastSent admin past := by
  rw [lastSent]
  cases sent : sentCode taken with
  | none => rfl
  | some code =>
    obtain ⟨receiver, otp⟩ := code
    have apart : receiver ≠ admin := by
      rintro rfl
      exact other otp sent
    simp only [if_neg apart]

theorem lastSent_sent {taken : ConsoleHappened} (sent : sentCode taken = some (admin, otp)) :
    lastSent admin (taken :: past) = some otp := by
  rw [lastSent, sent]
  exact if_pos rfl

/-- The code sent last was sent by one of the steps. -/
theorem lastSent_mem (last : lastSent admin past = some otp) :
    ∃ taken ∈ past, sentCode taken = some (admin, otp) := by
  induction past with
  | nil => cases last
  | cons taken past ih =>
    by_cases sent : ∃ newest, sentCode taken = some (admin, newest)
    · obtain ⟨newest, sent⟩ := sent
      rw [lastSent_sent sent] at last
      cases last
      exact ⟨taken, List.mem_cons_self .., sent⟩
    · rw [lastSent_cons fun newest same => sent ⟨newest, same⟩] at last
      obtain ⟨other, mem, same⟩ := ih last
      exact ⟨other, List.mem_cons_of_mem _ mem, same⟩

theorem lastSent_salt (last : lastSent admin past = some otp) :
    otp.salt ∈ past.filterMap sentSalt := by
  obtain ⟨taken, mem, sent⟩ := lastSent_mem last
  exact List.mem_filterMap.mpr ⟨taken, mem, by rw [sentSalt, sent]; rfl⟩

/-- Two outstanding codes with one salt are one code of one administrator. -/
theorem lastSent_inj (once : (past.filterMap sentSalt).Nodup)
    (one : lastSent admin past = some otp) (two : lastSent other past = some code)
    (salt : otp.salt = code.salt) : admin = other := by
  obtain ⟨first, mem, sent⟩ := lastSent_mem one
  obtain ⟨second, mem', sent'⟩ := lastSent_mem two
  have salted : sentSalt first = some otp.salt := by rw [sentSalt, sent]; rfl
  have salted' : sentSalt second = some otp.salt := by rw [sentSalt, sent', salt]; rfl
  cases filterMap_inj once mem mem' salted salted'
  rw [sent] at sent'
  cases sent'
  rfl

theorem wrongGuesses_cons (deps : ConsoleDeps) (salt : String) (taken : ConsoleHappened)
    (past : List ConsoleHappened) :
    wrongGuesses deps salt (taken :: past) =
      wrongGuesses deps salt past + if GuessesWrong deps salt taken then 1 else 0 := by
  unfold wrongGuesses
  rw [List.countP_cons]
  simp only [decide_eq_true_eq]

/-- A code that was never sent was never guessed at. -/
theorem CodeRecord.unguessed (record : CodeRecord deps past db)
    (unsent : salt ∉ past.filterMap sentSalt) :
    wrongGuesses deps salt past = 0 ∧ ∀ taken ∈ past, ¬ Accepts deps salt taken := by
  constructor
  · unfold wrongGuesses
    rw [List.countP_eq_zero]
    intro taken mem guess
    obtain ⟨decided, here, rfl, _⟩ := of_decide_eq_true guess
    exact unsent (record.typed taken mem decided here)
  · rintro taken mem ⟨decided, here, rfl, _⟩
    exact unsent (record.typed taken mem decided here)

/-- A step that decides no submission. -/
theorem CodeRecord.pass (record : CodeRecord deps past db) (none : submitted taken = none)
    (outstanding : ∀ admin otp attempts, findAdminOtp db' admin = some (otp, attempts) →
      lastSent admin (taken :: past) = some otp ∧ wrongGuesses deps otp.salt past ≤ attempts ∧
      ∀ other ∈ past, ¬ Accepts deps otp.salt other) :
    CodeRecord deps (taken :: past) db' := by
  have quiet : ∀ salt, ¬ GuessesWrong deps salt taken := by
    rintro salt ⟨decided, mem, _⟩
    rw [none] at mem
    cases mem
  have refuses : ∀ salt, ¬ Accepts deps salt taken := by
    rintro salt ⟨decided, mem, _⟩
    rw [none] at mem
    cases mem
  refine ⟨?_, ?_, ?_, ?_⟩
  · intro admin otp attempts held
    obtain ⟨last, counted, unaccepted⟩ := outstanding admin otp attempts held
    refine ⟨last, ?_, ?_⟩
    · rw [wrongGuesses_cons, if_neg (quiet otp.salt)]
      exact counted
    · exact List.forall_mem_cons.mpr ⟨refuses otp.salt, unaccepted⟩
  · intro other mem decided here
    rcases List.mem_cons.mp mem with rfl | mem
    · rw [none] at here
      cases here
    · have known := record.typed other mem decided here
      rw [List.filterMap_cons]
      split
      · exact known
      · exact List.mem_cons_of_mem _ known
  · intro salt
    rw [wrongGuesses_cons, if_neg (quiet salt)]
    exact record.budget salt
  · intro salt
    exact List.Pairwise.cons (fun other _ both => refuses salt both.1) (record.once salt)

/-- A step that decides a submission for the code that is outstanding. -/
theorem CodeRecord.decide {w w' : World ConsoleDb ConsoleProcess} {process : ConsoleProcess}
    {submission : Submission} (record : CodeRecord deps past w.store)
    (once : (past.filterMap sentSalt).Nodup) (here : w.proc slot = some process)
    (submits : submissionOf process = some submission)
    (moved : w'.store = (process.step deps input w.store).1)
    (still : StillOutstanding deps ⟨w, .act slot input, w'⟩) :
    CodeRecord deps (⟨w, .act slot input, w'⟩ :: past) w'.store := by
  have decides : submitted ⟨w, .act slot input, w'⟩ = some (submission, input.now 0) := by
    rw [submitted, actedOn_act here, submits]
    rfl
  have unsent : ∀ admin otp, sentCode ⟨w, .act slot input, w'⟩ ≠ some (admin, otp) := by
    intro admin otp
    obtain ⟨call, rfl, point⟩ := submissionOf_some submits
    rw [sentCode, actedOn_act here]
    simp [sentCodeOf, sendingOf, point]
  obtain ⟨⟨⟨code, attempts⟩, found, same, left⟩, _⟩ := still _ decides
  obtain ⟨last, counted, unaccepted⟩ := record.outstanding _ _ _ found
  dsimp only at same left
  subst same
  have guesses : ∀ salt, GuessesWrong deps salt ⟨w, .act slot input, w'⟩ ↔
      submission.otp.salt = salt ∧ submission.Wrong deps := by
    intro salt
    unfold GuessesWrong
    rw [decides]
    simp
  have accepts : ∀ salt, Accepts deps salt ⟨w, .act slot input, w'⟩ ↔
      submission.otp.salt = salt ∧ submission.verdict deps = none := by
    intro salt
    unfold Accepts
    rw [decides]
    simp
  refine ⟨?_, ?_, ?_, ?_⟩
  · intro admin otp guessed held
    rw [moved] at held
    rcases code_after held with ⟨_, _, none⟩ | ⟨_, before, fewer, there, mine⟩
    · rw [submits] at none
      cases none
    · obtain ⟨newest, known, never⟩ := record.outstanding admin otp before there
      rw [lastSent_cons (unsent admin)]
      refine ⟨newest, ?_, ?_⟩
      · rw [wrongGuesses_cons]
        split
        · rename_i wrong
          obtain ⟨salt, _⟩ := (guesses _).mp wrong
          have owner := lastSent_inj once last newest salt
          obtain ⟨_, more⟩ := mine submission submits owner
          omega
        · omega
      · refine List.forall_mem_cons.mpr ⟨fun accepted => ?_, never⟩
        obtain ⟨salt, right⟩ := (accepts _).mp accepted
        have owner := lastSent_inj once last newest salt
        obtain ⟨wrong, _⟩ := mine submission submits owner
        rw [right] at wrong
        cases wrong
  · intro other mem decided acted
    have carried : ∀ salt ∈ past.filterMap sentSalt, salt ∈
        (⟨w, Event.act slot input, w'⟩ :: past : List ConsoleHappened).filterMap sentSalt := by
      intro salt known
      rw [List.filterMap_cons]
      split
      · exact known
      · exact List.mem_cons_of_mem _ known
    rcases List.mem_cons.mp mem with rfl | mem
    · rw [decides] at acted
      cases acted
      exact carried _ (lastSent_salt last)
    · exact carried _ (record.typed other mem decided acted)
  · intro salt
    rw [wrongGuesses_cons]
    split
    · rename_i guess
      obtain ⟨rfl, wrong⟩ := (guesses _).mp guess
      have room := left wrong
      omega
    · exact record.budget salt
  · intro salt
    refine List.Pairwise.cons (fun other mem both => ?_) (record.once salt)
    obtain ⟨rfl, _⟩ := (accepts _).mp both.1
    exact unaccepted other mem both.2

/-- Where every submission was decided on the outstanding code, the record is kept. -/
theorem run_codes (run : ConsoleRun deps past w) (differ : SaltsDiffer past)
    (still : ∀ taken ∈ past, StillOutstanding deps taken) : CodeRecord deps past w.store := by
  induction run with
  | start new =>
    refine ⟨?_, ?_, ?_, ?_⟩
    · intro admin otp attempts held
      rw [findAdminOtp_column, column_blank] at held
      · cases held
      · intro row mem
        rw [codeColumn, (new.accounts row mem).2.2]
        rfl
    · intro taken mem
      cases mem
    · exact fun _ => Nat.zero_le _
    · exact fun _ => List.Pairwise.nil
  | @step past w event w' run step ih =>
    have earlier : SaltsDiffer past := by
      unfold SaltsDiffer at differ ⊢
      rw [List.filterMap_cons] at differ
      split at differ
      · exact differ
      · exact (List.nodup_cons.mp differ).2
    have record := ih earlier fun taken mem => still taken (List.mem_cons_of_mem _ mem)
    have salts := salts_apart run earlier
    have next := salts_apart (.step run step) differ
    rcases Pool.acted step with ⟨same, other⟩ | ⟨slot, input, process, rfl, here, _, moved⟩
    · refine record.pass (actedOn_other other) fun admin otp attempts held => ?_
      rw [same] at held
      have unsent : ∀ code, sentCode ⟨w, event, w'⟩ ≠ some (admin, code) := by
        intro code sent
        rw [sentCode, actedOn_other other] at sent
        cases sent
      rw [lastSent_cons unsent]
      exact record.outstanding admin otp attempts held
    · have stored : w'.store = (process.step deps input w.store).1 := by
        rw [moved]
        rfl
      cases submits : submissionOf process with
      | some submission =>
        exact record.decide salts.once here submits stored (still _ (List.mem_cons_self ..))
      | none =>
        refine record.pass ?_ fun admin otp attempts held => ?_
        · rw [submitted, actedOn_act here, submits]
          rfl
        · rw [stored] at held
          rcases code_after held with ⟨sent, rfl, _⟩ | ⟨other, before, fewer, there, _⟩
          · have sent : sentCode ⟨w, .act slot input, w'⟩ = some (admin, otp) :=
              (actedOn_act here).trans sent
            have salted : sentSalt ⟨w, .act slot input, w'⟩ = some otp.salt := by
              rw [sentSalt, sent]
              rfl
            have fresh := next.once
            rw [List.filterMap_cons_some salted] at fresh
            obtain ⟨unguessed, never⟩ := record.unguessed (List.nodup_cons.mp fresh).1
            exact ⟨lastSent_sent sent, Nat.le_of_eq unguessed, never⟩
          · obtain ⟨last, counted, never⟩ := record.outstanding admin otp before there
            refine ⟨?_, Nat.le_trans counted fewer, never⟩
            have unsent : ∀ code, sentCode ⟨w, .act slot input, w'⟩ ≠ some (admin, code) := by
              intro code sent
              exact other code ((actedOn_act here).symm.trans sent)
            rw [lastSent_cons unsent]
            exact last

/-- The owner signs in, and a code is mailed. -/
def signedInOnce : List (Event ConsoleInput ConsoleProcess) :=
  [.start (guess "correct horse"), .act 0 (stillAt 0 "token"), .act 0 (stillAt 0 "token"),
   .act 0 (stillAt 0 "unused"), .act 0 (stillAt 0 "unused")]

/-- A code typed with the owner's session, just in. -/
def typed (candidate : String) : ConsoleProcess :=
  .request ⟨"token", .otp candidate, .begin⟩

/-- Six wrong codes: all six requests find the code before the first of them is compared. -/
def sixAtOnce : List (Event ConsoleInput ConsoleProcess) :=
  let each := (List.range 6).map fun slot => .act (slot + 1) (stillAt 1 "unused")
  signedInOnce ++ List.replicate 6 (.start (typed "999999")) ++ each ++ each ++ each

/-- A wrong code, and then the right one. -/
def secondTry : List (Event ConsoleInput ConsoleProcess) :=
  let tries (slot : Nat) (candidate : String) : List (Event ConsoleInput ConsoleProcess) :=
    .start (typed candidate) :: List.replicate 3 (.act slot (stillAt 1 "unused"))
  signedInOnce ++ tries 1 "999999" ++ tries 2 "000000"

theorem sixAtOnce_run :
    ConsoleRun plainConsole (consolePlayed sixAtOnce).1 (consolePlayed sixAtOnce).2 :=
  consolePlayed_run (by decide +kernel)

theorem secondTry_run :
    ConsoleRun plainConsole (consolePlayed secondTry).1 (consolePlayed secondTry).2 :=
  consolePlayed_run (by decide +kernel)

end Telga.Proofs.Console
