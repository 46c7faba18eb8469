import Telga.Proofs.OldestFirst

namespace Telga.Proofs.SoftwareFees
open Domain Persistence Application Library

/-- No month that was charged is lost, and the fee's first month stays once it is set. -/
structure Keeps (db db' : Db) : Prop where
  rows : ∀ merchantId period, findCharge db merchantId period ≠ none →
    findCharge db' merchantId period ≠ none
  first : ∀ first, db.platformFeeSettings.softwareFeeFirstPeriod = some first →
    db'.platformFeeSettings.softwareFeeFirstPeriod = some first

theorem Keeps.refl (db : Db) : Keeps db db :=
  ⟨fun _ _ found => found, fun _ recorded => recorded⟩

theorem Keeps.trans (former : Keeps a b) (latter : Keeps b c) : Keeps a c :=
  ⟨fun merchantId period found => latter.rows _ _ (former.rows merchantId period found),
    fun first recorded => latter.first _ (former.first first recorded)⟩

theorem charged_iff : findCharge db merchantId period ≠ none ↔
    monthStatus db merchantId period ≠ none := by
  unfold monthStatus
  simp

theorem Untouched.charged (same : Untouched merchantId db db')
    (found : findCharge db merchantId period ≠ none) : findCharge db' merchantId period ≠ none := by
  rw [same.rows]
  exact found

/-- A month that is tried has a row afterwards. -/
theorem Tried.charged (tried : Tried merchantId period amount db db') :
    findCharge db' merchantId period ≠ none := by
  cases tried with
  | already closed same =>
    rw [same.rows]
    intro none
    rw [none] at closed
    cases closed
  | short _ _ status | taken _ _ status =>
    rw [charged_iff, status]
    simp

/-- The months tried before it keep theirs. -/
theorem Tried.keeps (tried : Tried merchantId period amount db db')
    (found : findCharge db merchantId other ≠ none) : findCharge db' merchantId other ≠ none := by
  by_cases here : other = period
  · rw [here]
    exact tried.charged
  · cases tried with
    | already _ same => exact same.charged found
    | short _ _ _ _ _ others | taken _ _ _ _ _ others =>
      rw [(others other here).1]
      exact found

theorem charge_keeps {charge : ChargeInput}
    (went : chargeSoftwareFee db charge = .ok (db', outcome)) : Keeps db db' := by
  obtain ⟨tried, others⟩ := charge_tried went
  refine ⟨fun merchantId period found => ?_, fun first recorded => ?_⟩
  · by_cases own : merchantId = charge.merchantId
    · subst own
      exact tried.keeps found
    · exact (others merchantId own).charged found
  · rcases chargeSoftwareFee_cases went with ⟨_, rfl⟩ | ⟨_, ⟨_, _, _, _, _, rfl⟩ |
      ⟨_, _, _, _, _, _, _, _, _, rfl⟩⟩
    · exact recorded
    · exact recorded
    · exact recorded

/-- A call that is past the start of the fee. -/
def Underway (run : RunDueSoftwareFees) : Prop :=
  match run.point with
  | .begin => False
  | .starting _ => False
  | _ => True

theorem underway_step (underway : Underway run) (stepped : run.step input db = (db', run')) :
    Keeps db db' ∧ Underway run' := by
  unfold Underway at underway
  cases point : run.point with
  | begin | starting now => simp [point] at underway
  | settings =>
    simp only [RunDueSoftwareFees.step, point] at stepped
    split at stepped
    · cases stepped
      exact ⟨.refl _, trivial⟩
    · cases stepped
      exact ⟨.refl _, trivial⟩
  | merchants now amount =>
    simp only [RunDueSoftwareFees.step, point] at stepped
    cases stepped
    exact ⟨.refl _, trivial⟩
  | charging now amount todo =>
    cases todo with
    | nil =>
      simp only [RunDueSoftwareFees.step, point] at stepped
      cases stepped
      exact ⟨.refl _, trivial⟩
    | cons merchantId todo =>
      simp only [RunDueSoftwareFees.step, point] at stepped
      split at stepped
      · rename_i went
        cases stepped
        exact ⟨charge_keeps (unit_ok went), trivial⟩
      · rename_i went
        cases stepped
        cases unit_error went
        exact ⟨.refl _, trivial⟩
  | outstanding now =>
    simp only [RunDueSoftwareFees.step, point] at stepped
    cases stepped
    exact ⟨.refl _, trivial⟩
  | recovering now todo =>
    cases todo with
    | nil =>
      simp only [RunDueSoftwareFees.step, point] at stepped
      cases stepped
      exact ⟨.refl _, trivial⟩
    | cons owed todo =>
      simp only [RunDueSoftwareFees.step, point] at stepped
      split at stepped
      · cases stepped
        exact ⟨.refl _, trivial⟩
      · split at stepped
        · rename_i went
          cases stepped
          exact ⟨charge_keeps (unit_ok went), trivial⟩
        · rename_i went
          cases stepped
          cases unit_error went
          exact ⟨.refl _, trivial⟩
  | returned | threw fault =>
    simp only [RunDueSoftwareFees.step, point] at stepped
    cases stepped
    exact ⟨.refl _, by simp [Underway, point]⟩

theorem underway_goes (underway : Underway run) (goes : Goes db run db' run') : Keeps db db' := by
  induction goes with
  | here => exact .refl _
  | on input stepped rest ih =>
    obtain ⟨keeps, still⟩ := underway_step underway stepped
    exact keeps.trans (ih still)

/-- A call loses no month, however far it came. -/
theorem called_keeps (called : Called now db db' run') : Keeps db db' := by
  obtain ⟨input, run, point, rfl, goes⟩ := called
  obtain ⟨same, _, next⟩ := begin_cases point input db
  rw [same] at goes
  generalize run.step input db = stepped at goes next
  obtain ⟨_, run₁⟩ := stepped
  cases recorded : db.platformFeeSettings.softwareFeeFirstPeriod with
  | none =>
    simp only [recorded] at next
    rcases starting_goes goes next with rfl | ⟨settings, rfl, _⟩
    · exact .refl _
    · refine ⟨fun _ _ found => found, fun first begun => ?_⟩
      rw [recorded] at begun
      cases begun
  | some first =>
    simp only [recorded] at next
    split at next
    · obtain ⟨rfl, _⟩ := goes_over goes (.inl next)
      exact .refl _
    · refine underway_goes ?_ goes
      unfold Underway
      rw [next]
      trivial

/-- A call that returns leaves every active shop with a row for its month. -/
theorem charging_covers {P : Period → Prop} (book : ChargeBook P db)
    (month : P (previousPeriod now)) (called : Called now db db' run')
    (ended : run'.point = .returned) (due : FeeDue db now)
    (active : merchantId ∈ activeMerchantIds db) :
    findCharge db' merchantId (previousPeriod now) ≠ none := by
  obtain ⟨mid, bookMid, swept, collects⟩ := charging_collects book month called ended due
  have tried := ((swept merchantId).1 active).charged
  have collected := collects merchantId
    (fun row mem => ⟨((mem_ownDebts bookMid).mp mem).1, ((mem_ownDebts bookMid).mp mem).2.1⟩)
    (ownDebts_unique bookMid _ _)
  have own := (collected.others (previousPeriod now) fun row mem =>
    ((mem_ownDebts bookMid).mp (settled_subset mem)).2.2).1
  rw [charged_iff, own, ← charged_iff]
  exact tried

/-- A call for a month that found its fee due. -/
def DueCall (taken : FeeTaken) (period : Period) (last : RunDueSoftwareFees) : Prop :=
  ∃ now, taken.event = .call now last ∧ FeeDue taken.before.store now ∧
    previousPeriod now = period

/-- A call was made for a month while its fee was due. -/
def CalledFor (past : List FeeTaken) (period : Period) : Prop :=
  ∃ taken ∈ past, ∃ last, DueCall taken period last

/-- Such a call was made, and returned. -/
def ReturnedFor (past : List FeeTaken) (period : Period) : Prop :=
  ∃ taken ∈ past, ∃ last, DueCall taken period last ∧ last.point = .returned

/-- Every call made so far returned. -/
def AllReturn (past : List FeeTaken) : Prop :=
  ∀ taken ∈ past, ∀ now last, taken.event = .call now last → last.point = .returned

/-- A shop was active at every step so far. -/
def ActiveThroughout (past : List FeeTaken) (merchantId : MerchantId) : Prop :=
  ∀ taken ∈ past, merchantId ∈ activeMerchantIds taken.before.store

/-- A month from the fee's first to the one before a call. -/
structure Ended (db : Db) (now : Timestamp) (period : Period) : Prop where
  month : IsMonth period
  begun : ∃ first, db.platformFeeSettings.softwareFeeFirstPeriod = some first ∧
    earlier period first = false
  upto : earlier (previousPeriod now) period = false

/-- The rows of one month of a shop. -/
def chargesOf (db : Db) (merchantId : MerchantId) (period : Period) : List SoftwareFeeCharge :=
  db.softwareFeeCharges.filter fun row => row.merchantId = merchantId ∧ row.period = period

/-- Shops that were active throughout have one row for every month that ended since the fee began,
and no shop has one for a month before. -/
structure MonthsKept (past : List FeeTaken) (db : Db) (now : Timestamp) : Prop where
  once : ∀ merchantId, ActiveThroughout past merchantId → ∀ period, Ended db now period →
    (chargesOf db merchantId period).length = 1
  begun : ∀ row ∈ db.softwareFeeCharges, ∃ first,
    db.platformFeeSettings.softwareFeeFirstPeriod = some first ∧ earlier row.period first = false

/-- Every month that ended since the fee began was called for while some shop was active. -/
def NoneMissed (past : List FeeTaken) (db : Db) (now : Timestamp) : Prop :=
  (∃ merchantId, ActiveThroughout past merchantId) → ∀ period, Ended db now period →
    ReturnedFor past period

/-- The month is none before the fee's first, and was called for. -/
def Charges (past : List FeeTaken) (db : Db) (period : Period) : Prop :=
  (∃ first, db.platformFeeSettings.softwareFeeFirstPeriod = some first ∧
    earlier period first = false) ∧ CalledFor past period

/-- What is known of the charge rows after the calls so far. -/
structure Monthly (past : List FeeTaken) (w : FeeDesk) : Prop where
  since : 0 ≤ w.clock
  book : ChargeBook (Charges past w.store) w.store
  covered : ∀ merchantId, ActiveThroughout past merchantId → ∀ period, ReturnedFor past period →
    findCharge w.store merchantId period ≠ none

theorem CalledFor.cons (called : CalledFor past period) (taken : FeeTaken) :
    CalledFor (taken :: past) period := by
  obtain ⟨before, mem, last, due⟩ := called
  exact ⟨before, List.mem_cons_of_mem _ mem, last, due⟩

theorem ActiveThroughout.tail (active : ActiveThroughout (taken :: past) merchantId) :
    ActiveThroughout past merchantId :=
  fun before mem => active before (List.mem_cons_of_mem _ mem)

/-- Rows of a kind are of any wider one. -/
theorem ChargeBook.later {P Q : Period → Prop} (book : ChargeBook P db)
    (weaker : ∀ period, P period → Q period) : ChargeBook Q db :=
  ⟨book.keys, book.priced, fun row mem => weaker _ (book.months row mem)⟩

theorem monthly_opens (w : FeeDesk) (opens : FeeOpens w) : Monthly [] w := by
  refine ⟨opens.clock, ⟨?_, ?_, ?_⟩, ?_⟩
  · rw [opens.charges]
    exact List.nodup_nil
  · simp [opens.charges]
  · simp [opens.charges]
  · rintro _ _ _ ⟨_, mem, _⟩
    cases mem

theorem Keeps.charges (keeps : Keeps db db') (charges : Charges past db period) (taken : FeeTaken) :
    Charges (taken :: past) db' period := by
  obtain ⟨⟨first, recorded, begun⟩, called⟩ := charges
  exact ⟨⟨first, keeps.first first recorded, begun⟩, called.cons taken⟩

/-- The rows of before are of the kind the rows after a step are of. -/
theorem Keeps.book {past : List FeeTaken} (keeps : Keeps db db')
    (book : ChargeBook (Charges past db) db) (taken : FeeTaken) :
    ChargeBook (Charges (taken :: past) db') db :=
  book.later fun _ charges => keeps.charges charges taken

/-- The months a call adds are the one it is for, and only when its fee is due. -/
theorem called_book {past : List FeeTaken} (book : ChargeBook (Charges past w.store) w.store)
    (called : Called now w.store db last) :
    ChargeBook (Charges (⟨w, .call now last, ⟨db, now⟩⟩ :: past) db) db := by
  have keeps := called_keeps called
  have later := keeps.book book ⟨w, .call now last, ⟨db, now⟩⟩
  by_cases due : FeeDue w.store now
  · obtain ⟨first, recorded, begun⟩ := due.begun
    refine later.called ?_ called
    exact ⟨⟨first, keeps.first first recorded, begun⟩, _, List.mem_cons_self .., last, now, rfl,
      due, rfl⟩
  · have same : db.softwareFeeCharges = w.store.softwareFeeCharges := by
      obtain ⟨settings, rfl⟩ := idle_settings called due
      rfl
    exact later.same same

theorem waived_keeps (db : Db) (merchantId : MerchantId) (period : Period) (reason : String) :
    Keeps db (waiveCharge db merchantId period reason).1 := by
  unfold waiveCharge
  split
  · exact .refl db
  · refine ⟨fun other month found => ?_, fun _ recorded => recorded⟩
    unfold findCharge at found ⊢
    rw [find?_update]
    swap
    · exact fun _ => rfl
    simpa using found

/-- A month called for before a step that is no call was called for before. -/
theorem ReturnedFor.tail (returned : ReturnedFor (taken :: past) period)
    (other : ∀ now last, taken.event ≠ .call now last) : ReturnedFor past period := by
  obtain ⟨before, mem, last, due, ended⟩ := returned
  rcases List.mem_cons.mp mem with rfl | mem
  · obtain ⟨now, same, _⟩ := due
    exact absurd same (other now last)
  · exact ⟨before, mem, last, due, ended⟩

theorem monthly_step (past : List FeeTaken) (w : FeeDesk) (event : FeeEvent) (w' : FeeDesk)
    (monthly : Monthly past w) (step : CallsInTurn w event w') :
    Monthly (⟨w, event, w'⟩ :: past) w' := by
  obtain ⟨since, book, covered⟩ := monthly
  cases step with
  | call later called =>
    rename_i now db last
    have keeps := called_keeps called
    refine ⟨Int.le_trans since later, called_book book called,
      fun merchantId active period returned => ?_⟩
    obtain ⟨taken, mem, final, due, ended⟩ := returned
    rcases List.mem_cons.mp mem with rfl | mem
    · obtain ⟨_, same, due, rfl⟩ := due
      cases same
      have listed := active _ (List.mem_cons_self ..)
      have any : ChargeBook (fun _ => True) w.store := book.later fun _ _ => trivial
      exact charging_covers any trivial called ended due listed
    · have found := covered merchantId active.tail period ⟨taken, mem, final, due, ended⟩
      exact keeps.rows _ _ found
  | waiver =>
    have keeps := waived_keeps w.store
    refine ⟨since, ((keeps _ _ _).book book _).waived _ _ _,
      fun merchantId active period returned => ?_⟩
    have found := covered merchantId active.tail period (returned.tail fun _ _ => nofun)
    exact (keeps _ _ _).rows _ _ found
  | meanwhile same first =>
    rename_i db
    have keeps : Keeps w.store db := by
      refine ⟨fun merchantId period found => ?_, fun month recorded => first.trans recorded⟩
      unfold findCharge at found ⊢
      rw [same]
      exact found
    refine ⟨since, (keeps.book book _).same same, fun merchantId active period returned => ?_⟩
    have found := covered merchantId active.tail period (returned.tail fun _ _ => nofun)
    exact keeps.rows _ _ found

/-- A month of a shop has a row exactly when it has one row. -/
theorem chargesOf_iff {P : Period → Prop} (book : ChargeBook P db) :
    (chargesOf db merchantId period).length = 1 ↔ findCharge db merchantId period ≠ none := by
  constructor
  · intro one none
    have missed := List.find?_eq_none.mp none
    have empty : chargesOf db merchantId period = [] := by
      refine List.filter_eq_nil_iff.mpr fun row mem => ?_
      exact missed row mem
    rw [empty] at one
    cases one
  · intro found
    obtain ⟨row, found⟩ := Option.ne_none_iff_exists'.mp found
    obtain ⟨mem, rfl, rfl⟩ := (findCharge_iff book).mp found
    have one := book.keys.filter mem
    simp only [Prod.mk.injEq] at one
    unfold chargesOf
    rw [one]
    rfl

/-- After every call that returns, no shop has a row for a month before the fee began; shops active
throughout have one row for every month since when each was called for while it was due; and when
all calls returned, only then. -/
theorem months_kept_iff {past : List FeeTaken} (run : Run FeeOpens CallsInTurn past w) :
    ∀ later taken before, past = later ++ taken :: before → ∀ now, Returned taken now →
      (NoneMissed (taken :: before) taken.after.store now →
        MonthsKept (taken :: before) taken.after.store now) ∧
      (AllReturn (taken :: before) → MonthsKept (taken :: before) taken.after.store now →
        NoneMissed (taken :: before) taken.after.store now) := by
  rintro later taken before rfl now _
  obtain ⟨former, step⟩ := run.earlier
  have monthly := (Run.step former step).history (H := Monthly) monthly_opens monthly_step
  obtain ⟨_, book, covered⟩ := monthly
  constructor
  · intro called
    refine ⟨fun merchantId active period ended => ?_, fun row mem => (book.months row mem).1⟩
    rw [chargesOf_iff book]
    exact covered merchantId active period (called ⟨merchantId, active⟩ period ended)
  · intro returning kept active period ended
    obtain ⟨merchantId, active⟩ := active
    have found := (chargesOf_iff book).mp (kept.once merchantId active period ended)
    obtain ⟨row, found⟩ := Option.ne_none_iff_exists'.mp found
    obtain ⟨mem, _, rfl⟩ := (findCharge_iff book).mp found
    obtain ⟨_, call, there, last, month⟩ := book.months row mem
    have ⟨at', same, _⟩ := month
    exact ⟨call, there, last, month, returning call there at' last same⟩

/-- A call in September, with which the fee begins, and the next one in December. -/
def idleAutumn : List FeeTaken :=
  let begun := called "start" 1789430400000 oneShop
  let late := called "december" 1796428800000 begun.1
  [⟨⟨begun.1, 1789430400000⟩, .call 1796428800000 late.2, ⟨late.1, 1796428800000⟩⟩,
   ⟨⟨oneShop, 0⟩, .call 1789430400000 begun.2, ⟨begun.1, 1789430400000⟩⟩]

/-- The shop in December. -/
def afterAutumn : Db :=
  (called "december" 1796428800000 (called "start" 1789430400000 oneShop).1).1

theorem idleAutumn_run : Run FeeOpens CallsInTurn idleAutumn ⟨afterAutumn, 1796428800000⟩ := by
  have opening : Run FeeOpens CallsInTurn [] ⟨oneShop, 0⟩ := .start ⟨rfl, rfl, by decide⟩
  refine .step (.step opening ?_) ?_
  · exact .call (by decide) (called_called ..)
  · exact .call (by decide) (called_called ..)

/-- November is charged in December; September and October never are. -/
theorem idleAutumn_missed : ¬ MonthsKept idleAutumn afterAutumn 1796428800000 := by
  intro kept
  have active : ActiveThroughout idleAutumn "shop" := by
    unfold ActiveThroughout
    decide +kernel
  have ended : Ended afterAutumn 1796428800000 ⟨2026, 9⟩ :=
    ⟨⟨by decide, by decide⟩, ⟨⟨2026, 9⟩, by decide +kernel, by decide⟩, by decide⟩
  have none : (chargesOf afterAutumn "shop" ⟨2026, 9⟩).length = 0 := by decide +kernel
  have one := kept.once "shop" active ⟨2026, 9⟩ ended
  omega

theorem idleAutumn_returned : AllReturn idleAutumn := by
  intro taken mem now last same
  simp only [idleAutumn, List.mem_cons, List.not_mem_nil, or_false] at mem
  rcases mem with rfl | rfl
  · cases same
    decide +kernel
  · cases same
    decide +kernel

/-- Months that pass without a call are never charged, though the fee stays on. -/
theorem month_never_charged : ¬ ∀ past w, Run FeeOpens CallsInTurn past w →
    (∀ taken ∈ past, taken.before.store.platformFeeSettings.softwareFeeEnabled = true) →
    ∀ later taken before, past = later ++ taken :: before → ∀ now, Returned taken now →
      MonthsKept (taken :: before) taken.after.store now := by
  intro always
  have enabled : ∀ taken ∈ idleAutumn,
      taken.before.store.platformFeeSettings.softwareFeeEnabled = true := by decide +kernel
  refine idleAutumn_missed (always _ _ idleAutumn_run enabled [] _ _ rfl 1796428800000 ?_)
  exact ⟨_, rfl, idleAutumn_returned _ (List.mem_cons_self ..) _ _ rfl⟩

/-- No call was made in the two months after them. -/
theorem idleAutumn_not_called : ¬ NoneMissed idleAutumn afterAutumn 1796428800000 := by
  intro called
  have kept := months_kept_iff idleAutumn_run [] _ _ rfl 1796428800000
    ⟨_, rfl, idleAutumn_returned _ (List.mem_cons_self ..) _ _ rfl⟩
  exact idleAutumn_missed (kept.1 called)

end Telga.Proofs.SoftwareFees
