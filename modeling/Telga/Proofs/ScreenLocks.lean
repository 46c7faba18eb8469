import Telga.Proofs.Visits

namespace Telga.Proofs.ScreenLocks
open Domain Persistence Application Library Visits

/-- The time a step is taken at. -/
def clockOf (taken : ServerTaken) : Option Timestamp :=
  ofActor (fun input _ => some (input.now 0)) taken

/-- What stays open to a session whose screen is locked. -/
def staysOpen : Application.Act → Bool
  | .lock | .unlock _ | .logout => true
  | _ => false

def throughBy (options : PosServerOptions) (db : PosServerDb) (input : ServerInput)
    (visit : Visit) : Option AuthContext :=
  match (visit.passage options input db).2, visit.point with
  | some (.decided (.admitted context act)), _ => if staysOpen act then none else some context
  | some (.decided (.anyone (.deposit _))), .awaiting (.form _ context) => some context
  | _, _ => none

/-- For which session a step lets a request through to what a locked screen keeps back. -/
def through (options : PosServerOptions) (taken : ServerTaken) : Option AuthContext :=
  ofActor (throughBy options taken.before.store) taken

def unlockedBy (db : PosServerDb) (input : ServerInput) (visit : Visit) : Option String :=
  match visit.point with
  | .unlocking call =>
    match (call.step input.toPinInput db.pos).2.point with
    | .returned .unlocked => some call.context.sessionId
    | _ => none
  | _ => none

/-- Which session's PIN a step finds to be the right one. -/
def unlocked (taken : ServerTaken) : Option String :=
  ofActor (unlockedBy taken.before.store) taken

/-- A session's screen is locked when a step is over. -/
def LockedAfter (options : PosServerOptions) (session : TillContext) (taken : ServerTaken) : Prop :=
  ∃ now ∈ clockOf taken, screenIsLocked options.till taken.after.store.till session now = true

/-- A session's screen is locked when a step is taken, or was locked before and its PIN has not been
given since. -/
def LockedOut (options : PosServerOptions) (session : TillContext) (earlier : List ServerTaken)
    (taken : ServerTaken) : Prop :=
  (∃ now ∈ clockOf taken,
    screenIsLocked options.till taken.before.store.till session now = true) ∨
  Since (LockedAfter options session) (fun between => unlocked between = some session.sessionId)
    earlier

/-- What is promised of a step: it lets nothing through for a session that is locked out. -/
def HeldBack (options : PosServerOptions) (earlier : List ServerTaken) (taken : ServerTaken) :
    Prop :=
  ∀ context ∈ through options taken, ¬ LockedOut options context.till earlier taken

/-- Nothing is let through for a session that is locked out, at any step on record. -/
def AllHeldBack (options : PosServerOptions) (past : List ServerTaken) : Prop :=
  ∀ newer taken older, past = newer ++ taken :: older → HeldBack options older taken

/-- A request to a route of the API that asks for a session, but to sign out. -/
def asksSession (options : PosServerOptions) (request : HttpRequest) : Bool :=
  match findRoute options.decodeURIComponent request.method (normalizePath request.path.toList)
    routes with
  | .ok (some (route, _)) => route.permission.isSome && decide (route.handler ≠ .postLogout)
  | _ => false

def besideBy (options : PosServerOptions) (db : PosServerDb) (visit : Visit) :
    List AuthContext :=
  let named := (cookieContext options db visit.request.session).toList
  match visit.point with
  | .arriving =>
    if startsWith visit.request.path.toList "/api/".toList ∧
        asksSession options visit.request = true then named
    else []
  | .awaiting .api => if asksSession options visit.request then named else []
  | .awaiting (.card context) => [context]
  | .awaiting (.form form context) => if form = .logout then [] else context :: named
  | _ => []

/-- For which sessions a request stands at an entrance beside the lock: the API's, the one for card
payments, or that of a form it was let past before. -/
def beside (options : PosServerOptions) (taken : ServerTaken) : List AuthContext :=
  (ofActor (fun _ visit => some (besideBy options taken.before.store visit)) taken).getD []

/-- The fields that set the lock. -/
def lockFields : List String := ["screenLockEnabled", "lockSeconds"]

/-- The body is one of the settings' that sets the lock. -/
def setsLock (visit : Visit) : Bool :=
  match visit.point, visit.request.body with
  | .awaiting .api, some body =>
    decide (normalizePath visit.request.path.toList = "/api/training/settings".toList) &&
      lockFields.any fun field => (body.json.text field).isSome
  | .awaiting (.form .settingsPreferences _), some body =>
    lockFields.any fun field => (body.form field).isSome
  | _, _ => false

/-- Whose lock a request asks to be set. -/
def resets (options : PosServerOptions) (taken : ServerTaken) : Option MerchantId :=
  ofActor (fun _ visit =>
    if setsLock visit then
      (cookieContext options taken.before.store visit.request.session).map (·.merchantId)
    else none) taken

/-- The lock of a shop is on. -/
def LockOn (db : PosServerDb) (merchantId : MerchantId) : Prop :=
  readSetting db.till merchantId "PIN_LOCK_ENABLED" = some "on"

instance (db : PosServerDb) (merchantId : MerchantId) : Decidable (LockOn db merchantId) :=
  inferInstanceAs (Decidable (_ = _))

/-- A step that is no request beside the lock for a session whose screen is locked, and none that
sets a lock that is on. -/
structure Careful (options : PosServerOptions) (taken : ServerTaken) : Prop where
  guarded : ∀ context ∈ beside options taken, ∀ now ∈ clockOf taken,
    screenIsLocked options.till taken.before.store.till context.till now = false
  unset : ∀ merchantId ∈ resets options taken, ¬ LockOn taken.before.store merchantId

instance (options : PosServerOptions) (taken : ServerTaken) : Decidable (Careful options taken) :=
  decidable_of_iff
    ((∀ context ∈ beside options taken, ∀ now ∈ clockOf taken,
        screenIsLocked options.till taken.before.store.till context.till now = false) ∧
      ∀ merchantId ∈ resets options taken, ¬ LockOn taken.before.store merchantId)
    ⟨fun ⟨guarded, unset⟩ => ⟨guarded, unset⟩, fun ⟨guarded, unset⟩ => ⟨guarded, unset⟩⟩

/-- The clock never goes back. -/
def Forward (past : List ServerTaken) : Prop :=
  (past.filterMap clockOf).Pairwise fun later earlier => earlier ≤ later

/-- What an earlier database leaves of a session's lock: the shop's settings of it are the same, and
its PIN has not been given since. -/
structure Kept (session : TillContext) (db db' : PosServerDb) : Prop where
  settings : LockOn db session.merchantId → ∀ key ∈ ["PIN_LOCK_ENABLED", "LOCK_SECONDS"],
    readSetting db'.till session.merchantId key = readSetting db.till session.merchantId key
  proved : ∀ entry ∈ db'.unlockedAt, entry.1 = session.sessionId → entry ∈ db.unlockedAt

/-- Each session's PIN was given last at one time. -/
def OncePerSession (db : PosServerDb) : Prop :=
  Unique (fun entry : String × Timestamp => entry.1) db.unlockedAt

theorem readSetting_same {db db' : PosServerDb} (same : db'.settings = db.settings) (merchantId : MerchantId)
    (key : String) : readSetting db'.till merchantId key = readSetting db.till merchantId key := by
  simp only [readSetting, PosServerDb.till, same]

theorem kept_of_same (settings : db'.settings = db.settings)
    (proved : ∀ entry ∈ db'.unlockedAt, entry.1 = session.sessionId → entry ∈ db.unlockedAt) :
    Kept session db db' :=
  ⟨fun _ key _ => readSetting_same settings session.merchantId key, proved⟩

theorem lockOn_of_locked
    (locked : screenIsLocked options db.till session now = true) : LockOn db session.merchantId := by
  unfold screenIsLocked at locked
  split at locked
  · cases locked
  · rename_i on
    exact not_not.mp on

/-- A session's screen is locked unless its PIN was given, and a short while ago. -/
theorem locked_iff (on : LockOn db session.merchantId) :
    screenIsLocked options db.till session now = true ↔
      ∀ entry ∈ db.unlockedAt.find? (fun entry => entry.1 = session.sessionId),
        lockSecondsFrom options.toSafeInteger (readSetting db.till session.merchantId "LOCK_SECONDS")
          * 1000 ≤ now - entry.2 := by
  have on' : readSetting db.till session.merchantId "PIN_LOCK_ENABLED" = some "on" := on
  unfold screenIsLocked
  rw [if_neg (not_not.mpr on')]
  rw [show db.till.unlockedAt = db.unlockedAt from rfl]
  cases proved : db.unlockedAt.find? fun entry => entry.1 = session.sessionId with
  | none | some entry => simp

/-- A screen that is locked stays so as time goes on, as long as its lock is kept. -/
theorem Kept.locked {now now' : Timestamp} (kept : Kept session db db')
    (once : OncePerSession db) (later : now ≤ now')
    (locked : screenIsLocked options db.till session now = true) :
    screenIsLocked options db'.till session now' = true := by
  have lockOn := lockOn_of_locked locked
  have lockOn' : LockOn db' session.merchantId :=
    (kept.settings lockOn "PIN_LOCK_ENABLED" (by simp)).trans lockOn
  apply (locked_iff lockOn').mpr
  intro entry found
  have own : entry.1 = session.sessionId := by simpa using List.find?_some found
  have there := kept.proved entry (List.mem_of_find?_eq_some found) own
  have found' := once.find? there
  rw [own] at found'
  have elapsed := (locked_iff lockOn).mp locked entry found'
  rw [kept.settings lockOn "LOCK_SECONDS" (by simp)]
  exact Int.le_trans elapsed (Int.sub_le_sub_right later entry.2)

theorem Kept.refl (session : TillContext) (db : PosServerDb) : Kept session db db :=
  kept_of_same rfl fun _ mem _ => mem

theorem Kept.trans (first : Kept session db mid) (second : Kept session mid db') :
    Kept session db db' := by
  constructor
  · intro on key mem
    have on' : LockOn mid session.merchantId :=
      (first.settings on "PIN_LOCK_ENABLED" (by simp)).trans on
    rw [second.settings on' key mem, first.settings on key mem]
  · intro entry mem own
    exact first.proved entry (second.proved entry mem own) own

theorem readSetting_write (db : PosServerDb) (merchantId owner : MerchantId) (key : String)
    (setting : String × String) (other : merchantId ≠ owner ∨ key ≠ setting.1) :
    readSetting (db.writeSetting owner setting).till merchantId key =
      readSetting db.till merchantId key := by
  have misses : ∀ row : SettingRow, decide (row.merchantId = merchantId ∧ row.key = key) = true →
      decide (row.merchantId = owner ∧ row.key = setting.1) = false := by
    intro row wanted
    obtain ⟨rfl, rfl⟩ := of_decide_eq_true wanted
    apply decide_eq_false
    rintro ⟨same, own⟩
    rcases other with apart | apart
    · exact apart same
    · exact apart own
  unfold readSetting PosServerDb.writeSetting
  simp only [PosServerDb.till]
  congr 1
  split
  · exact find?_update_other db.settings (fun _ => rfl) misses
  · rw [List.find?_append]
    have missed : [(⟨owner, setting.1, setting.2⟩ : SettingRow)].find?
        (fun row => row.merchantId = merchantId ∧ row.key = key) = none := by
      rw [List.find?_singleton, if_neg]
      intro wanted
      have hit := misses _ wanted
      simp at hit
    rw [missed, Option.or_none]

/-- Writing other settings than a lock's keeps it. -/
theorem kept_written (settings : List (String × String)) (db : PosServerDb) (owner : MerchantId)
    (others : session.merchantId ≠ owner ∨
      ∀ setting ∈ settings, setting.1 ∉ ["PIN_LOCK_ENABLED", "LOCK_SECONDS"]) :
    Kept session db (settings.foldl (fun db setting => db.writeSetting owner setting) db) := by
  induction settings generalizing db with
  | nil => exact .refl session db
  | cons setting settings ih =>
    have first : Kept session db (db.writeSetting owner setting) := by
      refine ⟨fun _ key mem => readSetting_write db _ owner key setting ?_, fun _ mem _ => mem⟩
      rcases others with apart | none
      · exact .inl apart
      · refine .inr ?_
        rintro rfl
        exact none setting List.mem_cons_self mem
    refine first.trans (ih _ (others.imp id fun none other mem => ?_))
    exact none other (List.mem_cons_of_mem _ mem)

/-- A session's entry is written or added, and old ones may be forgotten. -/
theorem marked_sublist (db : PosServerDb) (sessionId : String) (now : Timestamp) :
    (db.markUnlocked sessionId now).unlockedAt.Sublist
      (if db.unlockedAt.any fun entry => entry.1 = sessionId then
        update (fun entry => decide (entry.1 = sessionId)) (fun entry => (entry.1, now))
          db.unlockedAt
      else db.unlockedAt ++ [(sessionId, now)]) := by
  simp only [PosServerDb.markUnlocked]
  generalize (if db.unlockedAt.any fun entry => entry.1 = sessionId then _ else _) = marked
  split
  · exact List.filter_sublist
  · exact List.Sublist.refl marked

theorem written_unlockedAt (settings : List (String × String)) (db : PosServerDb)
    (owner : MerchantId) :
    (settings.foldl (fun db setting => db.writeSetting owner setting) db).unlockedAt =
      db.unlockedAt := by
  induction settings generalizing db with
  | nil => rfl
  | cons setting settings ih => exact ih (db.writeSetting owner setting)

/-- What marking a session leaves of the others. -/
theorem marked_mem {db : PosServerDb}
    (mem : entry ∈ (db.markUnlocked sessionId now).unlockedAt) :
    entry ∈ db.unlockedAt ∨ entry.1 = sessionId := by
  have marked := (marked_sublist db sessionId now).subset mem
  split at marked
  · obtain ⟨old, there, rfl⟩ := mem_update.mp marked
    split
    · rename_i own
      exact .inr (of_decide_eq_true own)
    · exact .inl there
  · rcases List.mem_append.mp marked with there | added
    · exact .inl there
    · rw [List.mem_singleton.mp added]
      exact .inr rfl

theorem once_marked (once : OncePerSession db) (sessionId : String) (now : Timestamp) :
    OncePerSession (db.markUnlocked sessionId now) := by
  refine List.Nodup.sublist ((marked_sublist db sessionId now).map _) ?_
  split
  · exact Unique.update once fun _ => rfl
  · rename_i none
    refine Unique.append once fun old mem same => ?_
    exact none (List.any_eq_true.mpr ⟨old, mem, decide_eq_true same⟩)

/-- What a step of a request does to the locks: nothing, or it writes settings it is let through to
write, or it locks a screen, or it finds a session's PIN to be the right one. -/
inductive LockTurn (options : PosServerOptions) (input : ServerInput) (db db' : PosServerDb)
    (visit : Visit) : Prop
  | nothing : db'.settings = db.settings → db'.unlockedAt = db.unlockedAt →
      LockTurn options input db db' visit
  | written : (visit.passage options input db).2 =
        some (.decided (.admitted context (.writeSettings settings))) →
      db' = settings.foldl (fun db setting => db.writeSetting context.merchantId setting)
        (visit.passage options input db).1 →
      LockTurn options input db db' visit
  | locked (sessionId : String) : db'.settings = db.settings →
      db'.unlockedAt = db.unlockedAt.filter (fun entry => ¬ entry.1 = sessionId) →
      LockTurn options input db db' visit
  | given (mid : PosServerDb) (sessionId : String) (now : Timestamp) :
      unlockedBy db input visit = some sessionId → mid.settings = db.settings →
      mid.unlockedAt = db.unlockedAt → db' = mid.markUnlocked sessionId now →
      LockTurn options input db db' visit

theorem complain_frame (done : complain input context transactionId description db = .ok db') :
    db'.settings = db.settings ∧ db'.unlockedAt = db.unlockedAt := by
  simp only [complain, PosServerDb.saveComplaintReview, bind_ok, demand_ok, pure_ok] at done
  obtain ⟨_, _, base, _, _, _, _, _, _, _, rfl⟩ := done
  exact ⟨rfl, rfl⟩

theorem saveCustomer_frame {db : PosServerDb} (done : db.saveCustomer row = .ok db') :
    db'.settings = db.settings ∧ db'.unlockedAt = db.unlockedAt := by
  simp only [PosServerDb.saveCustomer, bind_ok, demand_ok, pure_ok] at done
  obtain ⟨_, _, _, _, rfl⟩ := done
  exact ⟨rfl, rfl⟩

theorem work_frame (options : PosServerOptions) (input : ServerInput) (db : PosServerDb)
    (work : Work) : (work.step options input db).1.settings = db.settings ∧
      (work.step options input db).1.unlockedAt = db.unlockedAt := by
  cases work with
  | counter request =>
    simp only [Work.step]
    split
    · exact ⟨rfl, rfl⟩
    · exact ⟨rfl, rfl⟩
  | _ => exact ⟨rfl, rfl⟩

theorem gate_frame (checked : Checked db db') :
    db'.settings = db.settings ∧ db'.unlockedAt = db.unlockedAt := by
  rw [checked.rest]
  exact ⟨rfl, rfl⟩

/-- What an act does to the locks, once the gate has looked. -/
theorem act_turn {act : Application.Act}
    (gate : visit.passage options input db = (mid, some (.decided (.admitted context act))))
    (checked : Checked db mid) :
    LockTurn options input db (act.perform options input mid context).1 visit := by
  obtain ⟨settings, unlockedAt⟩ := gate_frame checked
  cases act with
  | writeSettings writes =>
    refine .written (by rw [gate]) ?_
    rw [gate]
    rfl
  | saveCustomer displayName phone =>
    simp only [Act.perform]
    split
    · rename_i done
      have frame := saveCustomer_frame done
      exact .nothing (frame.1.trans settings) (frame.2.trans unlockedAt)
    · exact .nothing settings unlockedAt
  | endShift =>
    simp only [Act.perform]
    split
    · exact .nothing settings unlockedAt
    · exact .nothing settings unlockedAt
  | fileComplaint transactionId description =>
    simp only [Act.perform]
    split
    · exact .nothing settings unlockedAt
    · split
      · rename_i done
        have frame := complain_frame done
        exact .nothing (frame.1.trans settings) (frame.2.trans unlockedAt)
      · exact .nothing settings unlockedAt
  | lock =>
    refine .locked context.sessionId settings ?_
    rw [← unlockedAt]
    rfl
  | _ => exact .nothing settings unlockedAt

theorem unlock_context (call : UnlockWithPin) (input : PinInput) (pos : PosDb) :
    (call.step input pos).2.context = call.context := by
  simp only [UnlockWithPin.step]
  repeat' split
  all_goals rfl

theorem unlocking_turn (call : UnlockWithPin) :
    LockTurn options input db ((⟨request, .unlocking call⟩ : Visit).step options input db).1
      ⟨request, .unlocking call⟩ := by
  have found : unlockedBy db input ⟨request, .unlocking call⟩ =
      match (call.step input.toPinInput db.pos).2.point with
      | .returned .unlocked => some call.context.sessionId
      | _ => none := rfl
  simp only [Visit.step]
  cases moved : call.step input.toPinInput db.pos with
  | mk pos next =>
    rw [moved] at found
    simp only []
    have keeps : next.context = call.context := by
      have same := unlock_context call input.toPinInput db.pos
      rw [moved] at same
      exact same
    split
    · rename_i right
      rw [right] at found
      refine .given (db.withPos pos) call.context.sessionId (input.now 0) found rfl rfl ?_
      rw [keeps]
    · exact .nothing rfl rfl
    · exact .nothing rfl rfl
    · exact .nothing rfl rfl

/-- A step of a request does to the locks what its turn says. -/
theorem step_turn (options : PosServerOptions) (input : ServerInput) (db : PosServerDb)
    (visit : Visit) : LockTurn options input db (visit.step options input db).1 visit := by
  have gated : VisitPoint.AtGate visit.point →
      LockTurn options input db (visit.step options input db).1 visit := by
    intro gate
    obtain ⟨mid, checked, ⟨awaiting, _, moved⟩ | ⟨passage, made, moved⟩⟩ :=
      Visits.gate_cases options input db visit gate
    all_goals
      obtain ⟨settings, unlockedAt⟩ := gate_frame checked
      rw [moved]
    · exact .nothing settings unlockedAt
    · cases passage with
      | admitted context act => exact act_turn made checked
      | answered | anyone => exact .nothing settings unlockedAt
  obtain ⟨request, point⟩ := visit
  cases point with
  | arriving => exact gated (.inl rfl)
  | awaiting awaiting => exact gated (.inr ⟨awaiting, rfl⟩)
  | working work =>
    obtain ⟨settings, unlockedAt⟩ := work_frame options input db work
    exact .nothing settings unlockedAt
  | unlocking call => exact unlocking_turn call
  | answered => exact .nothing rfl rfl

/-- What a setting's field is stored under. -/
def storedKey : SettingField → String
  | .slipSize => "SLIP_SIZE"
  | .line key => key
  | .profit => "PROFIT_PERCENT_BPS"
  | .toggle key => key
  | .lockSeconds => "LOCK_SECONDS"

theorem write_key {field : SettingField} (done : field.write options supplied = .ok setting) :
    setting.1 = storedKey field := by
  cases field with
  | slipSize | line key =>
    simp only [SettingField.write] at done
    split at done
    · cases done
      rfl
    · cases done
  | profit | lockSeconds =>
    simp only [SettingField.write] at done
    split at done
    · cases done
    · split at done
      all_goals
        cases done
        try rfl
  | toggle key =>
    cases done
    rfl

theorem fields_lock : ∀ field ∈ settingFields, field.1 ∉ lockFields →
    storedKey field.2 ∉ ["PIN_LOCK_ENABLED", "LOCK_SECONDS"] := by
  decide

/-- A body that holds none of the lock's fields writes none of its settings. -/
theorem settingWrites_lock {body : Body} (done : settingWrites options body = .ok writes)
    (without : ∀ field ∈ lockFields, body.text field = none) :
    ∀ setting ∈ writes, setting.1 ∉ ["PIN_LOCK_ENABLED", "LOCK_SECONDS"] := by
  unfold settingWrites at done
  obtain ⟨each, all, same⟩ := bind_ok.mp done
  cases same
  intro setting mem
  obtain ⟨_, here, rfl⟩ := List.mem_filterMap.mp mem
  obtain ⟨field, listed, own⟩ := mem_of_mapM_ok all _ here
  cases there : body.text field.1 with
  | none =>
    rw [there] at own
    cases own
  | some supplied =>
    rw [there] at own
    obtain ⟨written, done, same⟩ := bind_ok.mp own
    cases same
    rw [write_key done]
    apply fields_lock field listed
    intro lock
    rw [without _ lock] at there
    cases there

theorem acts_settings {handler : Handler}
    (acts : handler.act options db input context request params = some (.writeSettings writes)) :
    handler = .postSettings ∧ settingWrites options request.body = .ok writes := by
  cases handler with
  | postSettings =>
    simp only [Handler.act] at acts
    split at acts
    · cases acts
    · split at acts
      · cases acts
      · rename_i done
        cases acts
        exact ⟨rfl, done⟩
  | postEnrolDevice =>
    simp only [Handler.act] at acts
    repeat' split at acts
    all_goals cases acts
  | postOrder | postChapaDeposit | postBankDepositOrder | postCancelBankDepositOrder =>
    simp only [Handler.act] at acts
    split at acts
    · cases acts
    · simp at acts
  | getOrder | postCancelOrder =>
    obtain ⟨orderId, _, acts⟩ := Option.bind_eq_some_iff.mp acts
    split at acts
    · cases acts
    · cases acts
  | postAuthorizeOrder =>
    obtain ⟨orderId, _, acts⟩ := Option.bind_eq_some_iff.mp acts
    simp only [] at acts
    split at acts
    · cases acts
    · cases acts
  | _ => cases acts

theorem settings_route : ∀ route ∈ routes, route.handler = .postSettings →
    route.method = "POST" ∧ route.pattern = "/api/training/settings" := by
  decide

/-- The API lets settings be written by their own path only. -/
theorem handle_writes {call : ApiRequest}
    (passes : (handle options input db call).2 = .admitted context (.writeSettings writes)) :
    call.method = "POST" ∧
      normalizePath call.path.toList = "/api/training/settings".toList ∧
      settingWrites options call.body = .ok writes ∧
      cookieContext options db call.session = some context := by
  obtain ⟨route, passed⟩ := handle_admitted passes
  obtain ⟨_, _, acts⟩ := passed.found
  obtain ⟨listed, method, params, matched⟩ := passed.listed
  obtain ⟨own, done⟩ := acts_settings acts
  obtain ⟨post, pattern⟩ := settings_route route listed own
  rw [pattern] at matched
  exact ⟨method.symm.trans post, matchPattern_plain (by decide) matched, done,
    passed.admits.cookie⟩

/-- The forms that are handed on to the settings pass on no field of the lock, but for one. -/
theorem apiCall_settings {screen : ScreenForm}
    (handed : screen.apiCall options form = some (path, json))
    (leads : normalizePath path.toList = "/api/training/settings".toList) :
    (screen = .settingsPreferences ∧ ∀ field ∈ lockFields, json.text field = form field) ∨
      ∀ field ∈ lockFields, json.text field = none := by
  cases screen with
  | settingsPreferences =>
    cases handed
    exact .inl ⟨rfl, by simp [lockFields, passedOn, preferenceFields]⟩
  | settingsBusiness | settings =>
    cases handed
    exact .inr (by simp [lockFields, passedOn, businessFields])
  | settingsPin =>
    simp only [ScreenForm.apiCall] at handed
    split at handed
    · cases handed
      exact absurd leads (by decide)
    · cases handed
  | logout | customers | shiftEnd | reverse | complaint | webhooksChapa => cases handed
  | orderCancel orderId | orderAuthorize orderId | reprint orderId =>
    cases handed
    refine absurd leads (elsewhere 14 (by decide) ?_)
    simp only [String.toList_append, List.append_assoc]
    rw [List.getElem?_append_left (by decide)]
    decide
  | _ =>
    cases handed
    exact absurd leads (by decide)

/-- A gate that lets settings be written lets none of a lock's be, unless the body is one that sets
the lock. -/
theorem passage_writes {visit : Visit}
    (made : (visit.passage options input db).2 =
      some (.decided (.admitted context (.writeSettings writes)))) :
    cookieContext options db visit.request.session = some context ∧
      (setsLock visit = false →
        ∀ setting ∈ writes, setting.1 ∉ ["PIN_LOCK_ENABLED", "LOCK_SECONDS"]) := by
  have through := passage_letThrough made
  obtain ⟨request, point⟩ := visit
  cases through with
  | called _ get passes => exact absurd (handle_writes passes).1 get
  | paged _ _ _ _ _ _ passes =>
    have post : "GET" = "POST" := (handle_writes passes).1
    exact absurd post (by decide)
  | posted there passes =>
    obtain ⟨_, leads, done, named⟩ := handle_writes passes
    refine ⟨named, fun unset => settingWrites_lock done fun field lock => ?_⟩
    have leads : normalizePath request.path.toList = "/api/training/settings".toList := leads
    have there : request.body = some _ := there
    simp only [setsLock, there, leads, decide_true, Bool.true_and] at unset
    exact Option.not_isSome_iff_eq_none.mp (List.any_eq_false.mp unset field lock)
  | handedOn there handed passes =>
    obtain ⟨_, leads, done, named⟩ := handle_writes passes
    refine ⟨named, fun unset => settingWrites_lock done ?_⟩
    rcases apiCall_settings handed leads with ⟨rfl, same⟩ | none
    · intro field lock
      have there : request.body = some _ := there
      simp only [setsLock, there] at unset
      refine (same field lock).trans ?_
      exact Option.not_isSome_iff_eq_none.mp (List.any_eq_false.mp unset field lock)
    · exact none
  | own there acts =>
    rename_i screen
    cases screen with
    | logout | shiftEnd =>
      simp only [ScreenForm.ownAct] at acts
      split at acts
      · cases acts
      · cases acts
    | customers | complaint =>
      simp only [ScreenForm.ownAct] at acts
      split at acts
      · cases acts
      · cases acts
    | _ => cases acts

/-- A step that sets no lock that is on, and is not the right PIN of a session, keeps its lock. -/
theorem step_kept {visit : Visit}
    (unset : setsLock visit = true →
      ∀ context ∈ cookieContext options db visit.request.session, ¬ LockOn db context.merchantId)
    (ungiven : unlockedBy db input visit ≠ some session.sessionId) :
    Kept session db (visit.step options input db).1 := by
  have turn := step_turn options input db visit
  generalize (visit.step options input db).1 = db' at turn ⊢
  cases turn with
  | nothing settings unlockedAt =>
    refine kept_of_same settings fun entry mem _ => ?_
    rwa [unlockedAt] at mem
  | @written context settings made wrote =>
    obtain ⟨named, others⟩ := passage_writes made
    have checked := passage_checked options input db visit
    generalize (visit.passage options input db).1 = mid at checked wrote
    obtain ⟨same, unlockedAt⟩ := gate_frame checked
    have first : Kept session db mid := by
      refine kept_of_same same fun entry mem _ => ?_
      rwa [unlockedAt] at mem
    refine first.trans ?_
    rw [wrote]
    cases sets : setsLock visit with
    | false => exact kept_written settings mid _ (.inr (others sets))
    | true =>
      have off := unset sets context named
      by_cases own : session.merchantId = context.merchantId
      · refine ⟨fun on => ?_, fun entry mem _ => ?_⟩
        · have on : LockOn db session.merchantId :=
            (readSetting_same same _ _).symm.trans on
          rw [own] at on
          exact absurd on off
        · rwa [written_unlockedAt] at mem
      · exact kept_written settings mid _ (.inl own)
  | locked sessionId settings unlockedAt =>
    refine kept_of_same settings fun entry mem _ => ?_
    rw [unlockedAt] at mem
    exact (List.mem_filter.mp mem).1
  | given mid sessionId now found settings unlockedAt marked =>
    rw [marked]
    refine kept_of_same settings fun entry mem own => ?_
    rcases marked_mem mem with there | other
    · rwa [unlockedAt] at there
    · exact absurd (found.trans (by rw [← other, own])) ungiven

theorem step_once (once : OncePerSession db) (visit : Visit) :
    OncePerSession (visit.step options input db).1 := by
  have turn := step_turn options input db visit
  unfold OncePerSession at once
  generalize (visit.step options input db).1 = db' at turn ⊢
  cases turn with
  | nothing _ unlockedAt =>
    unfold OncePerSession
    rwa [unlockedAt]
  | written _ wrote =>
    unfold OncePerSession
    rw [wrote, written_unlockedAt, (gate_frame (passage_checked options input db visit)).2]
    exact once
  | locked sessionId _ unlockedAt =>
    unfold OncePerSession
    rw [unlockedAt]
    exact List.Nodup.sublist (List.filter_sublist.map _) once
  | given mid sessionId now _ _ unlockedAt marked =>
    rw [marked]
    apply once_marked
    unfold OncePerSession
    rwa [unlockedAt]

/-- The lock is the same after a gate has looked at the session. -/
theorem locked_checked (checked : Checked db mid) (session : TillContext) (now : Timestamp) :
    screenIsLocked options mid.till session now = screenIsLocked options db.till session now := by
  obtain ⟨settings, unlockedAt⟩ := gate_frame checked
  have proved : mid.till.unlockedAt = db.till.unlockedAt := unlockedAt
  unfold screenIsLocked
  rw [readSetting_same settings, readSetting_same settings, proved]

/-- Only signing out is let through by a route that asks for no session but to sign out. -/
theorem handle_asks {request : HttpRequest}
    (passes : (handle options input db (request.toApi body)).2 = .admitted context act)
    (kept : staysOpen act = false) :
    asksSession options request = true ∧
      cookieContext options db request.session = some context := by
  obtain ⟨route, passed⟩ := handle_admitted passes
  refine ⟨?_, passed.admits.cookie⟩
  obtain ⟨params, found, acts⟩ := passed.found
  obtain ⟨permission, asks, _⟩ := passed.allowed
  have found : findRoute options.decodeURIComponent request.method
    (normalizePath request.path.toList) routes = .ok (some (route, params)) := found
  unfold asksSession
  rw [found]
  simp only [asks, Option.isSome_some, Bool.true_and]
  apply decide_eq_true
  intro logout
  rw [logout] at acts
  cases acts
  cases kept

/-- A gate lets nothing through for a session whose screen is locked, but beside the lock. -/
theorem letThrough_open {request : HttpRequest} {act : Application.Act}
    (lets : LetThrough options input db request point context act) (kept : staysOpen act = false)
    (guarded : ∀ context ∈ besideBy options db ⟨request, point⟩,
      screenIsLocked options.till db.till context.till (input.now 0) = false) :
    screenIsLocked options.till db.till context.till (input.now 0) = false := by
  cases lets with
  | called api get passes =>
    obtain ⟨asks, named⟩ := handle_asks passes kept
    apply guarded
    simp only [besideBy, named]
    rw [if_pos ⟨api, asks⟩]
    exact List.mem_singleton_self context
  | paged mid first orderId checked admits unlocked passes =>
    obtain ⟨route, passed⟩ := handle_admitted passes
    have named : cookieContext options mid request.session = some context := passed.admits.cookie
    rw [checked.cookie, admits.cookie] at named
    cases named
    rwa [locked_checked checked] at unlocked
  | shown mid checked admits unlocked => rwa [locked_checked checked] at unlocked
  | posted there passes =>
    obtain ⟨asks, named⟩ := handle_asks passes kept
    apply guarded
    simp [besideBy, asks, named]
  | carded => exact guarded context (List.mem_singleton_self context)
  | locking | unlocking => cases kept
  | handedOn there handed passes =>
    rename_i screen waiting
    obtain ⟨route, passed⟩ := handle_admitted passes
    have named : cookieContext options db request.session = some context := passed.admits.cookie
    apply guarded
    have other : screen ≠ .logout := by
      rintro rfl
      cases handed
    simp [besideBy, other, named]
  | own there acts =>
    rename_i screen
    apply guarded
    have other : screen ≠ .logout := by
      rintro rfl
      simp only [ScreenForm.ownAct] at acts
      split at acts
      · cases acts
        cases kept
      · cases acts
    simp [besideBy, other]

theorem logout_passage (options : PosServerOptions) (input : ServerInput) (db : PosServerDb)
    (request : HttpRequest) (waiting : AuthContext) (body : ReceivedBody) (work : Work) :
    (formPassage options input db request .logout waiting body).2 ≠ .anyone work := by
  simp only [formPassage, ScreenForm.apiCall, ScreenForm.ownAct]
  rw [if_neg (by decide)]
  split
  · rintro ⟨⟩
  · rintro ⟨⟩

/-- A delivery's form is no signing out. -/
theorem delivery_form {request : HttpRequest} {work : Work}
    (made : ((⟨request, .awaiting (.form screen waiting)⟩ : Visit).passage options input db).2 =
      some (.decided (.anyone work))) : screen ≠ .logout := by
  rintro rfl
  simp only [Visit.passage] at made
  cases there : request.body with
  | none =>
    rw [there] at made
    cases made
  | some body =>
    rw [there] at made
    exact logout_passage options input db request waiting body work
      (Dispatch.decided.inj (Option.some.inj made))

theorem through_open {visit : Visit}
    (lets : throughBy options db input visit = some context)
    (guarded : ∀ context ∈ besideBy options db visit,
      screenIsLocked options.till db.till context.till (input.now 0) = false) :
    screenIsLocked options.till db.till context.till (input.now 0) = false := by
  unfold throughBy at lets
  split at lets
  · rename_i admitted act made
    split at lets
    · cases lets
    · rename_i kept
      cases lets
      exact letThrough_open (passage_letThrough made) (by simpa using kept) guarded
  · rename_i form waiting made standing
    cases lets
    obtain ⟨request, point⟩ := visit
    cases standing
    apply guarded
    simp [besideBy, delivery_form made]
  · cases lets

theorem run_once (run : Run JustStarted (ServerStep options) past w) :
    OncePerSession w.store := by
  refine run.invariant (I := fun w : ServerWorld => OncePerSession w.store) ?_ ?_
  · rintro w ⟨_, empty⟩
    unfold OncePerSession
    rw [empty]
    exact List.nodup_nil
  · intro w event w' once step
    rcases server_step step with ⟨same, _⟩ | ⟨slot, input, visit, _, _, left⟩
    · rwa [same]
    · rw [left]
      exact step_once once visit

/-- A careful step that is not the right PIN of a session keeps its lock. -/
theorem taken_kept (session : TillContext) {w w' : ServerWorld} (step : ServerStep options w event w')
    (careful : Careful options ⟨w, event, w'⟩)
    (ungiven : unlocked ⟨w, event, w'⟩ ≠ some session.sessionId) :
    Kept session w.store w'.store := by
  rcases server_step step with ⟨same, _⟩ | ⟨slot, input, visit, acts, here, left⟩
  · rw [same]
    exact .refl session w.store
  · subst acts
    rw [left]
    unfold unlocked at ungiven
    rw [ofActor_act here] at ungiven
    refine step_kept (fun sets context named => ?_) ungiven
    apply careful.unset
    rw [Option.mem_def, resets, ofActor_act here, if_pos sets]
    rw [Option.mem_def] at named
    rw [named]
    rfl

/-- A screen that was locked, its PIN not given since, is locked still. -/
theorem since_locked (run : Run JustStarted (ServerStep options) past w)
    (careful : ∀ taken ∈ past, Careful options taken) (forward : Forward past)
    (since : Since (LockedAfter options session)
      (fun between => unlocked between = some session.sessionId) past)
    (now : Timestamp) (later : ∀ was ∈ past.filterMap clockOf, was ≤ now) :
    screenIsLocked options.till w.store.till session now = true := by
  induction run generalizing now with
  | start _ =>
    obtain ⟨newer, last, older, split, _⟩ := since
    cases newer with
    | nil => cases split
    | cons _ _ => cases split
  | @step past w event w' run step ih =>
    obtain ⟨last, before⟩ := List.forall_mem_cons.mp careful
    have times : (clockOf ⟨w, event, w'⟩).toList ++ past.filterMap clockOf =
        (⟨w, event, w'⟩ :: past).filterMap clockOf := by
      rw [List.filterMap_cons]
      cases clockOf ⟨w, event, w'⟩ with
      | none => rfl
      | some _ => rfl
    unfold Forward at forward
    rw [← times] at forward later
    obtain ⟨_, forward, apart⟩ := List.pairwise_append.mp forward
    have earlier : ∀ was ∈ past.filterMap clockOf, was ≤ now :=
      fun was mem => later was (List.mem_append_right _ mem)
    rcases since.cases with ⟨time, taken, locked⟩ | ⟨since, ungiven⟩
    · have still := Kept.refl session w'.store
      refine still.locked (run_once (run.step step)) (later time ?_) locked
      exact List.mem_append_left _ (Option.mem_toList.mpr taken)
    · have kept := taken_kept session step last ungiven
      have once := run_once run
      cases clock : clockOf ⟨w, event, w'⟩ with
      | none => exact kept.locked once (Int.le_refl now) (ih before forward since now earlier)
      | some time =>
        rw [clock] at apart later
        have now_later : time ≤ now := later time (by simp)
        refine kept.locked once now_later (ih before forward since time fun was mem => ?_)
        exact apart time (by simp) was mem

theorem forward_split {newer older : List ServerTaken} {taken : ServerTaken}
    (forward : Forward (newer ++ taken :: older)) :
    Forward older ∧ ∀ now ∈ clockOf taken, ∀ was ∈ older.filterMap clockOf, was ≤ now := by
  unfold Forward at forward
  rw [List.filterMap_append] at forward
  have rest := (List.pairwise_append.mp forward).2.1
  rw [List.filterMap_cons] at rest
  cases clock : clockOf taken with
  | none =>
    rw [clock] at rest
    exact ⟨rest, by rintro _ ⟨⟩⟩
  | some time =>
    rw [clock] at rest
    obtain ⟨now, rest⟩ := List.pairwise_cons.mp rest
    refine ⟨rest, ?_⟩
    rintro _ ⟨⟩ was mem
    exact now was mem

/-- In every run whose steps are careful, while the clock goes on, nothing is let through for a
session that is locked out. -/
theorem locked_heldBack (run : Run JustStarted (ServerStep options) past w)
    (careful : ∀ taken ∈ past, Careful options taken) (forward : Forward past) :
    AllHeldBack options past := by
  intro newer taken older split context lets out
  subst split
  obtain ⟨earlier, step⟩ := run.earlier
  obtain ⟨onwards, times⟩ := forward_split forward
  have own := careful taken (List.mem_append_right _ List.mem_cons_self)
  have before : ∀ other ∈ older, Careful options other := fun other mem =>
    careful other (List.mem_append_right _ (List.mem_cons_of_mem _ mem))
  rcases server_step step with ⟨_, idle⟩ | ⟨slot, input, visit, acts, here, _⟩
  · rw [Option.mem_def, through, ofActor_idle idle] at lets
    cases lets
  · obtain ⟨w, event, w'⟩ := taken
    cases acts
    have clock : clockOf ⟨w, .act slot input, w'⟩ = some (input.now 0) := ofActor_act here
    have guarded : ∀ other ∈ besideBy options w.store visit,
        screenIsLocked options.till w.store.till other.till (input.now 0) = false := by
      intro other mem
      refine own.guarded other ?_ _ clock
      rw [beside, ofActor_act here]
      exact mem
    rw [Option.mem_def, through, ofActor_act here] at lets
    have unlocked := through_open lets guarded
    rcases out with ⟨now, taken, locked⟩ | since
    · rw [Option.mem_def, clock] at taken
      cases taken
      rw [unlocked] at locked
      cases locked
    · have locked := since_locked earlier before onwards since (input.now 0) (times _ clock)
      rw [unlocked] at locked
      cases locked

/-- A shop whose screen lock is on. -/
def lockingShop : PosServerDb :=
  { openShop with settings := [⟨"shop", "PIN_LOCK_ENABLED", "on"⟩] }

/-- A form of the till's, with the session's token. -/
def formOfTill (path : String) : HttpRequest where
  method := "POST"
  path := path
  session := some "cookie"
  body := some
    { raw := ""
      form := fun name =>
        if name = "csrfToken" then some "csrf" else if name = "pin" then some "1234" else none
      json := emptyBody }

def dashboard : HttpRequest where
  method := "GET"
  path := "/dashboard"
  session := some "cookie"

/-- The till's screen is met locked, opened with the PIN, seen, locked again and met locked. -/
def lockedTwice : List (Event ServerInput Visit) :=
  visits [dashboard, formOfTill "/unlock", dashboard, formOfTill "/lock", dashboard]
    [(0, 1), (1, 2), (1, 3), (1, 4), (1, 5), (1, 6), (1, 7), (1, 8), (2, 9), (3, 10), (3, 11),
     (4, 12)]

theorem lockedTwice_heldBack :
    AllHeldBack (plainServer featureFlags) (visitsPlayed featureFlags lockingShop lockedTwice).1 :=
  locked_heldBack (visitsPlayed_run rfl (by decide)) (by decide +kernel)
    (by unfold Forward; decide +kernel)

/-- A sale is let through to the till of a locked screen. -/
def lockedSale : List (Event ServerInput Visit) :=
  visits [saleCall] [(0, 1), (0, 2)]

theorem locked_sale_through : ¬ ∀ options past w, Run JustStarted (ServerStep options) past w →
    Forward past → AllHeldBack options past := by
  intro always
  have run : Run JustStarted (ServerStep (plainServer featureFlags))
      (visitsPlayed featureFlags lockingShop lockedSale).1 (visitsPlayed featureFlags lockingShop lockedSale).2 :=
    visitsPlayed_run rfl (by decide)
  have forward : Forward (visitsPlayed featureFlags lockingShop lockedSale).1 := by
    unfold Forward
    decide +kernel
  have last : ∃ taken older, (visitsPlayed featureFlags lockingShop lockedSale).1 = [] ++ taken :: older ∧
      (through (plainServer featureFlags) taken).map (·.till) =
        some ⟨"hash:cookie", "cashier", "shop", "till"⟩ ∧
      clockOf taken = some 2 ∧
      screenIsLocked (plainServer featureFlags).till taken.before.store.till
        ⟨"hash:cookie", "cashier", "shop", "till"⟩ 2 = true := by
    refine ⟨_, _, rfl, ?_⟩
    decide +kernel
  obtain ⟨taken, older, split, lets, clock, locked⟩ := last
  obtain ⟨context, lets, own⟩ := Option.map_eq_some_iff.mp lets
  have heldBack := always _ _ _ run forward [] taken older split context lets
  rw [own] at heldBack
  exact heldBack (.inl ⟨2, clock, locked⟩)

end Telga.Proofs.ScreenLocks
