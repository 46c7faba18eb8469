import Telga.Library.Debts
import Telga.Proofs.Months
import Telga.Proofs.Profits
import Telga.Proofs.SoftwareFees

namespace Telga.Proofs.SoftwareFees
open Domain Persistence Application Library

/-- How a month stands with a shop. -/
def monthStatus (db : Db) (merchantId : MerchantId) (period : Period) : Option SoftwareFeeStatus :=
  (findCharge db merchantId period).map (·.status)

/-- A shop's money and its months are as they were. -/
structure Untouched (merchantId : MerchantId) (db db' : Db) : Prop where
  selling : sellingMinor db' merchantId = sellingMinor db merchantId
  rows : ∀ period, findCharge db' merchantId period = findCharge db merchantId period
  debits : ∀ period, feeDebits db' merchantId period = feeDebits db merchantId period

/-- All but one of a shop's months are as they were. -/
def OthersKept (merchantId : MerchantId) (period : Period) (db db' : Db) : Prop :=
  ∀ other, other ≠ period → findCharge db' merchantId other = findCharge db merchantId other ∧
    feeDebits db' merchantId other = feeDebits db merchantId other

/-- What becomes of a shop when a month's fee is tried: the month was charged or waived before, or
the balance is short and it is owed, or the fee is taken. -/
inductive Tried (merchantId : MerchantId) (period : Period) (amount : Money) (db db' : Db) : Prop
  | already : (findCharge db merchantId period).all (·.status = .arrears) = false →
      Untouched merchantId db db' → Tried merchantId period amount db db'
  | short : (findCharge db merchantId period).all (·.status = .arrears) = true →
      sellingMinor db merchantId < amount.minor →
      monthStatus db' merchantId period = some .arrears →
      sellingMinor db' merchantId = sellingMinor db merchantId →
      feeDebits db' merchantId period = feeDebits db merchantId period →
      OthersKept merchantId period db db' → Tried merchantId period amount db db'
  | taken : (findCharge db merchantId period).all (·.status = .arrears) = true →
      amount.minor ≤ sellingMinor db merchantId →
      monthStatus db' merchantId period = some .paid →
      sellingMinor db' merchantId = sellingMinor db merchantId - amount.minor →
      feeDebits db' merchantId period ≠ feeDebits db merchantId period →
      OthersKept merchantId period db db' → Tried merchantId period amount db db'

theorem Untouched.refl (merchantId : MerchantId) (db : Db) : Untouched merchantId db db :=
  ⟨rfl, fun _ => rfl, fun _ => rfl⟩

theorem Untouched.trans (first : Untouched merchantId a b) (next : Untouched merchantId b c) :
    Untouched merchantId a c :=
  ⟨next.selling.trans first.selling, fun period => (next.rows period).trans (first.rows period),
    fun period => (next.debits period).trans (first.debits period)⟩

theorem Untouched.status (same : Untouched merchantId db db') (period : Period) :
    monthStatus db' merchantId period = monthStatus db merchantId period := by
  unfold monthStatus
  rw [same.rows]

theorem OthersKept.trans (first : OthersKept merchantId period a b)
    (next : OthersKept merchantId period b c) : OthersKept merchantId period a c :=
  fun other apart => ⟨(next other apart).1.trans (first other apart).1,
    (next other apart).2.trans (first other apart).2⟩

theorem Untouched.others (same : Untouched merchantId db db') (period : Period) :
    OthersKept merchantId period db db' :=
  fun other _ => ⟨same.rows other, same.debits other⟩

/-- A month is open to a charge when it has no row, or one in arrears. -/
theorem chargeable_iff : (findCharge db merchantId period).all (·.status = .arrears) = true ↔
    monthStatus db merchantId period = none ∨ monthStatus db merchantId period = some .arrears := by
  unfold monthStatus
  cases findCharge db merchantId period with
  | none | some row => simp

/-- What is tried on a shop that was left alone since is tried on it as it was. -/
theorem Untouched.tried (same : Untouched merchantId a b)
    (tried : Tried merchantId period amount b c) : Tried merchantId period amount a c := by
  cases tried with
  | already closed next =>
    rw [same.rows] at closed
    exact .already closed (same.trans next)
  | short owes less status selling debits others =>
    rw [same.rows] at owes
    rw [same.selling] at less selling
    rw [same.debits] at debits
    exact .short owes less status selling debits ((same.others period).trans others)
  | taken owes covered status selling debits others =>
    rw [same.rows] at owes
    rw [same.selling] at covered selling
    rw [same.debits] at debits
    exact .taken owes covered status selling debits ((same.others period).trans others)

theorem Tried.untouched (tried : Tried merchantId period amount a b)
    (same : Untouched merchantId b c) : Tried merchantId period amount a c := by
  cases tried with
  | already closed next => exact .already closed (next.trans same)
  | short owes less status selling debits others =>
    exact .short owes less ((same.status period).trans status) (same.selling.trans selling)
      ((same.debits period).trans debits) (others.trans (same.others period))
  | taken owes covered status selling debits others =>
    refine .taken owes covered ((same.status period).trans status) (same.selling.trans selling) ?_
      (others.trans (same.others period))
    rw [same.debits]
    exact debits

/-- Trying a month a second time changes nothing more. -/
theorem Tried.again (first : Tried merchantId period amount a b)
    (next : Tried merchantId period amount b c) : Tried merchantId period amount a c := by
  cases first with
  | already closed same => exact same.tried next
  | short owes less status selling debits others =>
    cases next with
    | already closed same =>
      exact (Tried.short owes less status selling debits others).untouched same
    | short _ _ status' selling' debits' others' =>
      exact .short owes less status' (selling'.trans selling) (debits'.trans debits)
        (others.trans others')
    | taken _ covered =>
      rw [selling] at covered
      omega
  | taken owes covered status selling debits others =>
    have closed : ¬ ((findCharge b merchantId period).all (·.status = .arrears) = true) := by
      rw [chargeable_iff, status]
      simp
    cases next with
    | already _ same => exact (Tried.taken owes covered status selling debits others).untouched same
    | short owes' => exact absurd owes' closed
    | taken owes' => exact absurd owes' closed

/-- The rows of other months and other shops are found as before. -/
theorem findCharge_other {db db' : Db} {charge : SoftwareFeeCharge}
    {conflict : List SoftwareFeeCharge → List SoftwareFeeCharge}
    (charged : Charged db.softwareFeeCharges db'.softwareFeeCharges charge conflict)
    (keeps : (conflict db.softwareFeeCharges).find?
      (fun row => row.merchantId = merchantId ∧ row.period = period) =
        findCharge db merchantId period)
    (apart : ¬ (charge.merchantId = merchantId ∧ charge.period = period)) :
    findCharge db' merchantId period = findCharge db merchantId period := by
  unfold findCharge at keeps ⊢
  rcases charged with ⟨_, same⟩ | ⟨_, same⟩
  · rw [same]
    exact keeps
  · rw [same, List.find?_append]
    simp [apart]

/-- Paying one month leaves the others as they are found. -/
theorem find_payArrears {charge : ChargeInput}
    (apart : ¬ (charge.merchantId = merchantId ∧ charge.period = period)) (db : Db) :
    (payArrears charge db.softwareFeeCharges).find?
      (fun row => row.merchantId = merchantId ∧ row.period = period) =
        findCharge db merchantId period := by
  unfold payArrears
  rw [find?_update]
  swap
  · exact fun _ => rfl
  change (findCharge db merchantId period).map _ = _
  cases found : findCharge db merchantId period with
  | none => rfl
  | some row =>
    have fits := List.find?_some found
    simp only [decide_eq_true_eq] at fits
    have missed : owing charge.merchantId charge.period row = false := by
      simp only [owing, decide_eq_false_iff_not]
      rintro ⟨merchant, month, _⟩
      exact apart ⟨merchant.symm.trans fits.1, month.symm.trans fits.2⟩
    simp [missed]

/-- The month itself is found in arrears once they are recorded, and paid once it is paid. -/
theorem monthStatus_arrears {db db' : Db} {charge : ChargeInput}
    (charged : Charged db.softwareFeeCharges db'.softwareFeeCharges (arrearsRow charge) id)
    (owes : (findCharge db charge.merchantId charge.period).all (·.status = .arrears) = true) :
    monthStatus db' charge.merchantId charge.period = some .arrears := by
  unfold monthStatus findCharge
  rcases charged with ⟨⟨row, mem, fits⟩, same⟩ | ⟨absent, same⟩
  · rw [same, id]
    cases found : db.softwareFeeCharges.find? (fun row => row.merchantId = charge.merchantId ∧
        row.period = charge.period) with
    | none =>
      have missed := List.find?_eq_none.mp found row mem
      simp only [decide_eq_true_eq] at missed
      exact absurd fits missed
    | some other =>
      unfold findCharge at owes
      rw [found] at owes
      simpa using owes
  · rw [same, List.find?_append, List.find?_eq_none.mpr]
    · simp [arrearsRow]
    · intro row mem
      simp only [decide_eq_true_eq]
      exact absent row mem

theorem monthStatus_paid {db db' : Db} {charge : ChargeInput}
    (charged : Charged db.softwareFeeCharges db'.softwareFeeCharges (paidRow charge)
      (payArrears charge))
    (owes : (findCharge db charge.merchantId charge.period).all (·.status = .arrears) = true) :
    monthStatus db' charge.merchantId charge.period = some .paid := by
  unfold monthStatus findCharge
  rcases charged with ⟨⟨row, mem, fits⟩, same⟩ | ⟨absent, same⟩
  · rw [same, payArrears, find?_update]
    swap
    · exact fun _ => rfl
    cases found : db.softwareFeeCharges.find? (fun row => row.merchantId = charge.merchantId ∧
        row.period = charge.period) with
    | none =>
      have missed := List.find?_eq_none.mp found row mem
      simp only [decide_eq_true_eq] at missed
      exact absurd fits missed
    | some other =>
      have named := List.find?_some found
      simp only [decide_eq_true_eq] at named
      unfold findCharge at owes
      rw [found] at owes
      have hit : owing charge.merchantId charge.period other = true := by
        simp only [owing, decide_eq_true_eq]
        exact ⟨named.1, named.2, by simpa using owes⟩
      simp [hit]
  · rw [same, List.find?_append, List.find?_eq_none.mpr]
    · simp [paidRow]
    · intro row mem
      simp only [decide_eq_true_eq]
      exact absent row mem

/-- What taking a fee makes of a shop's selling balance. -/
theorem selling_charged {db db' : Db} {charge : ChargeInput}
    (grown : db'.ledgerEntries = db.ledgerEntries ++
      entryRows (feePosting charge) accounts 0 (feeLegs charge)) (merchantId : MerchantId) :
    sellingMinor db' merchantId = sellingMinor db merchantId -
      if charge.merchantId = merchantId then charge.amount.minor else 0 := by
  unfold sellingMinor
  rw [netMinor_posting grown]
  · by_cases here : charge.merchantId = merchantId
    · simp [feeLegs, merchantLeg, platformLeg, legNet, signedMinor, signed, here]
      omega
    · simp [feeLegs, merchantLeg, platformLeg, legNet, here]
  · intro entry mem kind
    simp only [feeLegs, merchantLeg, platformLeg, List.mem_cons, List.not_mem_nil, or_false] at mem
    rcases mem with rfl | rfl
    · exact owner_some rfl
    · simp at kind

/-- A month is told to be charged already only when its row is not in arrears. -/
theorem already_closed (charges : chargeSoftwareFee db charge = .ok (db', .alreadyCharged)) :
    (findCharge db charge.merchantId charge.period).all (·.status = .arrears) = false := by
  unfold chargeSoftwareFee at charges
  split at charges
  · rename_i closed
    cases found : findCharge db charge.merchantId charge.period with
    | none => simp [found] at closed
    | some row => simpa [found] using closed
  · simp only [bind_ok] at charges
    obtain ⟨_, _, charges⟩ := charges
    split at charges
    · simp only [bind_ok, pure_ok, Prod.mk.injEq] at charges
      obtain ⟨_, _, _, other⟩ := charges
      cases other
    · simp only [bind_ok, pure_ok, Prod.mk.injEq] at charges
      obtain ⟨_, _, _, _, _, _, _, other⟩ := charges
      cases other

/-- A fee that is taken changes its month and its shop's balance, and nothing else of any shop. -/
theorem charge_taken {db db' : Db} {charge : ChargeInput}
    (charged : Charged db.softwareFeeCharges db'.softwareFeeCharges (paidRow charge)
      (payArrears charge))
    (grown : db'.ledgerEntries = db.ledgerEntries ++
      entryRows (feePosting charge) accounts 0 (feeLegs charge))
    (owes : (findCharge db charge.merchantId charge.period).all (·.status = .arrears) = true)
    (covered : charge.amount.minor ≤ sellingMinor db charge.merchantId) :
    Tried charge.merchantId charge.period charge.amount db db' ∧
      ∀ other, other ≠ charge.merchantId → Untouched other db db' := by
  have selling := selling_charged grown
  have debits := feeDebits_charged grown
  have apart : ∀ merchantId period, ¬ (charge.merchantId = merchantId ∧ charge.period = period) →
      findCharge db' merchantId period = findCharge db merchantId period ∧
        feeDebits db' merchantId period = feeDebits db merchantId period := by
    intro merchantId period apart
    refine ⟨findCharge_other charged (find_payArrears apart db) apart, ?_⟩
    rw [debits, if_neg apart, List.append_nil]
  refine ⟨.taken owes covered (monthStatus_paid charged owes) ?_ ?_ ?_, fun other differs => ?_⟩
  · rw [selling, if_pos rfl]
  · rw [debits, if_pos ⟨rfl, rfl⟩]
    simp
  · exact fun other differs => apart _ _ fun same => differs same.2.symm
  · refine ⟨?_, fun period => (apart _ _ fun same => differs same.1.symm).1,
      fun period => (apart _ _ fun same => differs same.1.symm).2⟩
    rw [selling, if_neg fun same => differs same.symm, Int.sub_zero]

/-- A charge that goes through tries the fee on its shop and leaves every other shop alone. -/
theorem charge_tried (charges : chargeSoftwareFee db charge = .ok (db', outcome)) :
    Tried charge.merchantId charge.period charge.amount db db' ∧
      ∀ other, other ≠ charge.merchantId → Untouched other db db' := by
  rcases chargeSoftwareFee_cases charges with ⟨rfl, rfl⟩ | ⟨owes, ⟨_, rows, _, short, charged, rfl⟩ |
    ⟨accounts, rows, _, _, covered, _, _, _, charged, rfl⟩⟩
  · exact ⟨.already (already_closed charges) (.refl _ _), fun _ _ => .refl _ _⟩
  · have apart : ∀ merchantId period, ¬ (charge.merchantId = merchantId ∧ charge.period = period) →
        findCharge { db with softwareFeeCharges := rows } merchantId period =
          findCharge db merchantId period :=
      fun _ _ apart => findCharge_other charged rfl apart
    refine ⟨.short owes short (monthStatus_arrears charged owes) rfl rfl ?_, fun other differs => ?_⟩
    · exact fun other differs => ⟨apart _ _ fun same => differs same.2.symm, rfl⟩
    · exact ⟨rfl, fun period => apart _ _ fun same => differs same.1.symm, fun _ => rfl⟩
  · exact charge_taken charged rfl owes covered

/-- One call of a sweep from a state to another, with nothing in between. -/
inductive Goes : Db → RunDueSoftwareFees → Db → RunDueSoftwareFees → Prop
  | here : Goes db run db run
  | on (input : Input) : run.step input db = (db₁, run₁) → Goes db₁ run₁ db' run' →
      Goes db run db' run'

/-- A call that has returned or thrown does nothing more. -/
theorem goes_over (goes : Goes db run db' run')
    (ended : run.point = .returned ∨ ∃ fault, run.point = .threw fault) :
    db' = db ∧ run' = run := by
  induction goes with
  | here => exact ⟨rfl, rfl⟩
  | on input stepped rest ih =>
    rcases ended with point | ⟨fault, point⟩
    · simp only [RunDueSoftwareFees.step, point, Prod.mk.injEq] at stepped
      obtain ⟨rfl, rfl⟩ := stepped
      exact ih (.inl point)
    · simp only [RunDueSoftwareFees.step, point, Prod.mk.injEq] at stepped
      obtain ⟨rfl, rfl⟩ := stepped
      exact ih (.inr ⟨fault, point⟩)

/-- A call that threw did not return. -/
theorem goes_threw (goes : Goes db run db' run') (point : run.point = .threw fault)
    (ended : run'.point = .returned) : False := by
  obtain ⟨_, rfl⟩ := goes_over goes (.inr ⟨fault, point⟩)
  rw [point] at ended
  cases ended

/-- A month was tried at every shop of a list and no other shop was touched. -/
def Swept (period : Period) (amount : Money) (todo : List MerchantId) (db db' : Db) : Prop :=
  ∀ merchantId, (merchantId ∈ todo → Tried merchantId period amount db db') ∧
    (merchantId ∉ todo → Untouched merchantId db db')

theorem charge_period (result : SoftwareFeeRunResult) (outcome : ChargeOutcome) :
    (result.charge outcome).period = result.period := by
  cases outcome <;> rfl

theorem recover_period (result : SoftwareFeeRunResult) (outcome : ChargeOutcome) :
    (result.recover outcome).period = result.period := by
  cases outcome <;> rfl

/-- A call that returns has tried its month at every shop it set out to charge, and goes on to
what is outstanding. -/
theorem charging_ends (goes : Goes db run db' run') (ended : run'.point = .returned)
    (point : run.point = .charging now amount todo) :
    ∃ mid run₁, Swept run.result.period amount todo db mid ∧
      run₁.point = .outstanding now ∧ run₁.result.period = run.result.period ∧
      Goes db run mid run₁ ∧ Goes mid run₁ db' run' := by
  induction goes generalizing todo with
  | here =>
    rw [point] at ended
    cases ended
  | on input stepped rest ih =>
    cases todo with
    | nil =>
      simp only [RunDueSoftwareFees.step, point, Prod.mk.injEq] at stepped
      obtain ⟨rfl, rfl⟩ := stepped
      refine ⟨_, _, fun merchantId => ⟨?_, fun _ => .refl _ _⟩, ?_, ?_, .on input ?_ .here, rest⟩
      · intro mem
        cases mem
      · rfl
      · rfl
      · simp only [RunDueSoftwareFees.step, point]
    | cons merchantId todo =>
      have first := stepped
      simp only [RunDueSoftwareFees.step, point] at stepped
      split at stepped
      · rename_i went
        cases stepped
        obtain ⟨tried, others⟩ := charge_tried (unit_ok went)
        obtain ⟨mid, last, swept, outstanding, month, came, goes⟩ := ih ended rfl
        rw [charge_period] at swept month
        refine ⟨mid, last, fun other => ?_, outstanding, month, .on input first came, goes⟩
        obtain ⟨again, spared⟩ := swept other
        by_cases own : other = merchantId
        · subst own
          refine ⟨fun _ => ?_, fun absent => absurd (List.mem_cons_self ..) absent⟩
          by_cases more : other ∈ todo
          · exact tried.again (again more)
          · exact tried.untouched (spared more)
        · have same := others other own
          refine ⟨fun mem => ?_, fun absent => ?_⟩
          · rcases List.mem_cons.mp mem with rfl | mem
            · exact absurd rfl own
            · exact same.tried (again mem)
          · exact same.trans (spared fun mem => absent (List.mem_cons_of_mem _ mem))
      · cases stepped
        exact (goes_threw rest rfl ended).elim

/-- The debts in a sweep's list that are one shop's, the month just charged left out. -/
def ownDebts (merchantId : MerchantId) (period : Period) (todo : List SoftwareFeeCharge) :
    List SoftwareFeeCharge :=
  todo.filter fun row => row.merchantId = merchantId ∧ row.period ≠ period

/-- Some of a shop's months were debited and are paid; the others are as they were. -/
structure Collected (merchantId : MerchantId) (paid : List SoftwareFeeCharge) (db db' : Db) :
    Prop where
  taken : ∀ row ∈ paid, monthStatus db' merchantId row.period = some .paid ∧
    feeDebits db' merchantId row.period ≠ feeDebits db merchantId row.period
  others : ∀ period, (∀ row ∈ paid, row.period ≠ period) →
    monthStatus db' merchantId period = monthStatus db merchantId period ∧
      feeDebits db' merchantId period = feeDebits db merchantId period

/-- What is collected from months that stand as they did is collected from them as they stood. -/
theorem Collected.since (same : ∀ period,
      monthStatus db₁ merchantId period = monthStatus db merchantId period ∧
        feeDebits db₁ merchantId period = feeDebits db merchantId period)
    (collected : Collected merchantId paid db₁ db') : Collected merchantId paid db db' := by
  refine ⟨fun row mem => ?_, fun period absent => ?_⟩
  · rw [← (same row.period).2]
    exact collected.taken row mem
  · rw [← (same period).1, ← (same period).2]
    exact collected.others period absent

/-- A debt that is paid first is collected with the ones paid after it. -/
theorem Collected.cons {debt : SoftwareFeeCharge}
    (status : monthStatus db₁ merchantId debt.period = some .paid)
    (debits : feeDebits db₁ merchantId debt.period ≠ feeDebits db merchantId debt.period)
    (others : OthersKept merchantId debt.period db db₁)
    (collected : Collected merchantId paid db₁ db')
    (apart : ∀ row ∈ paid, row.period ≠ debt.period) :
    Collected merchantId (debt :: paid) db db' := by
  have kept : ∀ period, period ≠ debt.period →
      monthStatus db₁ merchantId period = monthStatus db merchantId period ∧
        feeDebits db₁ merchantId period = feeDebits db merchantId period := by
    intro period differs
    obtain ⟨row, entries⟩ := others period differs
    exact ⟨by unfold monthStatus; rw [row], entries⟩
  refine ⟨fun row mem => ?_, fun period absent => ?_⟩
  · rcases List.mem_cons.mp mem with rfl | mem
    · obtain ⟨same, same'⟩ := collected.others row.period apart
      rw [same, same']
      exact ⟨status, debits⟩
    · rw [← (kept row.period (apart row mem)).2]
      exact collected.taken row mem
  · obtain ⟨first, rest⟩ := List.forall_mem_cons.mp absent
    obtain ⟨same, same'⟩ := kept period fun eq => first eq.symm
    rw [← same, ← same']
    exact collected.others period rest

/-- What a call that returns makes of the debts it set out to recover: of each shop's own those are
paid that the balance covers, in the order of the list. -/
theorem recovering_ends (goes : Goes db run db' run') (ended : run'.point = .returned)
    (point : run.point = .recovering now todo) (month : run.result.period = period)
    (listed : ∀ row ∈ ownDebts merchantId period todo,
      findCharge db merchantId row.period = some row ∧ row.status = .arrears)
    (apart : Unique (·.period) (ownDebts merchantId period todo)) :
    Collected merchantId (settled (fun row => row.amount.minor) (sellingMinor db merchantId)
      (ownDebts merchantId period todo)) db db' := by
  induction goes generalizing todo with
  | here =>
    rw [point] at ended
    cases ended
  | on input stepped rest ih =>
    cases todo with
    | nil =>
      simp only [RunDueSoftwareFees.step, point, Prod.mk.injEq] at stepped
      obtain ⟨rfl, rfl⟩ := stepped
      obtain ⟨rfl, _⟩ := goes_over rest (.inl rfl)
      exact ⟨by simp [ownDebts, settled], fun _ _ => ⟨rfl, rfl⟩⟩
    | cons owed todo =>
      simp only [RunDueSoftwareFees.step, point] at stepped
      split at stepped
      · rename_i current
        cases stepped
        have same : ownDebts merchantId period (owed :: todo) = ownDebts merchantId period todo := by
          simp [ownDebts, current, month]
        rw [same] at listed apart ⊢
        exact ih ended rfl month listed apart
      · rename_i other
        split at stepped
        · rename_i went
          cases stepped
          obtain ⟨tried, others⟩ := charge_tried (unit_ok went)
          rw [month] at other
          have ih := ih ended rfl ((recover_period _ _).trans month)
          by_cases own : owed.merchantId = merchantId
          · subst own
            have same : ownDebts owed.merchantId period (owed :: todo) =
                owed :: ownDebts owed.merchantId period todo := by
              simp [ownDebts, other]
            rw [same] at listed apart ⊢
            obtain ⟨⟨found, arrears⟩, listed⟩ := List.forall_mem_cons.mp listed
            obtain ⟨absent, apart⟩ := List.nodup_cons.mp apart
            have differs : ∀ row ∈ ownDebts owed.merchantId period todo,
                row.period ≠ owed.period :=
              fun row mem eq => absent (List.mem_map.mpr ⟨row, mem, eq⟩)
            cases tried with
            | already closed _ => simp [found, arrears] at closed
            | short _ less status selling debits others' =>
              rw [settled, if_neg (Int.not_le.mpr less), ← selling]
              refine .since (fun month => ?_) (ih (fun row mem => ?_) apart)
              · by_cases here : month = owed.period
                · subst here
                  refine ⟨?_, debits⟩
                  rw [status]
                  simp [monthStatus, found, arrears]
                · obtain ⟨row, entries⟩ := others' month here
                  exact ⟨by unfold monthStatus; rw [row], entries⟩
              · rw [(others' row.period (differs row mem)).1]
                exact listed row mem
            | taken _ covered status selling debits others' =>
              rw [settled, if_pos covered, ← selling]
              refine .cons status debits others' (ih (fun row mem => ?_) apart) ?_
              · rw [(others' row.period (differs row mem)).1]
                exact listed row mem
              · exact fun row mem => differs row (settled_subset mem)
          · have spared := others merchantId fun eq => own eq.symm
            have same : ownDebts merchantId period (owed :: todo) =
                ownDebts merchantId period todo := by
              simp [ownDebts, own]
            rw [same] at listed apart ⊢
            rw [← spared.selling]
            refine .since (fun period => ⟨spared.status period, spared.debits period⟩)
              (ih (fun row mem => ?_) apart)
            rw [spared.rows]
            exact listed row mem
        · cases stepped
          exact (goes_threw rest rfl ended).elim

/-- The charge rows: one a month of a shop, each with a price, all of months of one kind. -/
structure ChargeBook (P : Period → Prop) (db : Db) : Prop where
  keys : Unique (fun charge => (charge.merchantId, charge.period)) db.softwareFeeCharges
  priced : ∀ charge ∈ db.softwareFeeCharges, 0 < charge.amount.minor
  months : ∀ charge ∈ db.softwareFeeCharges, P charge.period

theorem ChargeBook.same {P : Period → Prop} (book : ChargeBook P db)
    (same : db'.softwareFeeCharges = db.softwareFeeCharges) : ChargeBook P db' :=
  ⟨same ▸ book.keys, same ▸ book.priced, same ▸ book.months⟩

theorem ChargeBook.updated {P : Period → Prop} (book : ChargeBook P db)
    (hit : SoftwareFeeCharge → Bool) (change : SoftwareFeeCharge → SoftwareFeeCharge)
    (keeps : ∀ row, (change row).merchantId = row.merchantId ∧ (change row).period = row.period ∧
      (change row).amount = row.amount)
    (same : db'.softwareFeeCharges = update hit change db.softwareFeeCharges) :
    ChargeBook P db' := by
  refine ⟨?_, fun row mem => ?_, fun row mem => ?_⟩
  · rw [same]
    exact book.keys.update fun row => by rw [(keeps row).1, (keeps row).2.1]
  · rw [same] at mem
    obtain ⟨old, there, rfl⟩ := mem_update.mp mem
    split
    · rw [(keeps old).2.2]
      exact book.priced old there
    · exact book.priced old there
  · rw [same] at mem
    obtain ⟨old, there, rfl⟩ := mem_update.mp mem
    split
    · rw [(keeps old).2.1]
      exact book.months old there
    · exact book.months old there

theorem ChargeBook.added {P : Period → Prop} {charge : SoftwareFeeCharge} (book : ChargeBook P db)
    (absent : ∀ row ∈ db.softwareFeeCharges,
      ¬ (row.merchantId = charge.merchantId ∧ row.period = charge.period))
    (positive : 0 < charge.amount.minor) (month : P charge.period)
    (same : db'.softwareFeeCharges = db.softwareFeeCharges ++ [charge]) : ChargeBook P db' := by
  refine ⟨?_, fun row mem => ?_, fun row mem => ?_⟩
  · rw [same]
    refine book.keys.append fun old there eq => absent old there ?_
    simpa using eq
  · rw [same] at mem
    rcases List.mem_append.mp mem with mem | mem
    · exact book.priced row mem
    · rwa [List.mem_singleton.mp mem]
  · rw [same] at mem
    rcases List.mem_append.mp mem with mem | mem
    · exact book.months row mem
    · rwa [List.mem_singleton.mp mem]

/-- A charge of a month of the kind keeps the rows in order. -/
theorem ChargeBook.charge {P : Period → Prop} {charge : ChargeInput} (book : ChargeBook P db)
    (positive : 0 < charge.amount.minor) (month : P charge.period)
    (went : chargeSoftwareFee db charge = .ok (db', outcome)) : ChargeBook P db' := by
  rcases chargeSoftwareFee_cases went with ⟨_, rfl⟩ | ⟨_, ⟨_, rows, _, _, charged, rfl⟩ |
    ⟨_, rows, _, _, _, _, _, _, charged, rfl⟩⟩
  · exact book
  · rcases charged with ⟨_, same⟩ | ⟨absent, same⟩
    · exact book.same same
    · exact book.added absent positive month same
  · rcases charged with ⟨_, same⟩ | ⟨absent, same⟩
    · unfold payArrears at same
      refine book.updated _ _ ?_ same
      exact fun _ => ⟨rfl, rfl, rfl⟩
    · exact book.added absent positive month same

/-- What a call past its beginning goes by: a month of the kind, and prices. -/
def Minded (P : Period → Prop) (run : RunDueSoftwareFees) : Prop :=
  P run.result.period ∧
  match run.point with
  | .begin => False
  | .merchants _ amount => 0 < amount.minor
  | .charging _ amount _ => 0 < amount.minor
  | .recovering _ todo => ∀ row ∈ todo, 0 < row.amount.minor ∧ P row.period
  | _ => True

theorem mem_outstanding : row ∈ outstandingCharges db ↔
    row ∈ db.softwareFeeCharges ∧ row.status = .arrears := by
  unfold outstandingCharges
  rw [(List.mergeSort_perm _ _).mem_iff, List.mem_filter, decide_eq_true_eq]

/-- A step of a call keeps the rows in order. -/
theorem ChargeBook.step {P : Period → Prop} (book : ChargeBook P db) (minded : Minded P run)
    (stepped : run.step input db = (db', run')) : ChargeBook P db' ∧ Minded P run' := by
  obtain ⟨month, known⟩ := minded
  cases point : run.point with
  | begin => simp [point] at known
  | starting now =>
    simp only [RunDueSoftwareFees.step, point] at stepped
    split at stepped
    · rename_i went
      cases stepped
      obtain ⟨_, wrote, eq⟩ := map_ok.mp (unit_ok went)
      cases eq
      obtain ⟨_, rfl⟩ := writePlatformFeeSettings_ok wrote
      exact ⟨book.same rfl, month, trivial⟩
    · rename_i went
      cases stepped
      cases unit_error went
      exact ⟨book, month, trivial⟩
  | settings =>
    simp only [RunDueSoftwareFees.step, point] at stepped
    split at stepped
    · cases stepped
      exact ⟨book, month, trivial⟩
    · rename_i on
      cases stepped
      exact ⟨book, month, Int.not_le.mp fun low => on (.inr low)⟩
  | merchants now amount =>
    simp only [RunDueSoftwareFees.step, point] at stepped
    cases stepped
    simp only [point] at known
    exact ⟨book, month, known⟩
  | charging now amount todo =>
    simp only [point] at known
    cases todo with
    | nil =>
      simp only [RunDueSoftwareFees.step, point] at stepped
      cases stepped
      exact ⟨book, month, trivial⟩
    | cons merchantId todo =>
      simp only [RunDueSoftwareFees.step, point] at stepped
      split at stepped
      · rename_i went
        cases stepped
        refine ⟨book.charge known month (unit_ok went), ?_, known⟩
        simp only [charge_period]
        exact month
      · rename_i went
        cases stepped
        cases unit_error went
        exact ⟨book, month, trivial⟩
  | outstanding now =>
    simp only [RunDueSoftwareFees.step, point] at stepped
    cases stepped
    refine ⟨book, month, fun row mem => ?_⟩
    obtain ⟨there, _⟩ := mem_outstanding.mp mem
    exact ⟨book.priced row there, book.months row there⟩
  | recovering now todo =>
    simp only [point] at known
    cases todo with
    | nil =>
      simp only [RunDueSoftwareFees.step, point] at stepped
      cases stepped
      exact ⟨book, month, trivial⟩
    | cons owed todo =>
      obtain ⟨⟨positive, kind⟩, known⟩ := List.forall_mem_cons.mp known
      simp only [RunDueSoftwareFees.step, point] at stepped
      split at stepped
      · cases stepped
        exact ⟨book, month, known⟩
      · split at stepped
        · rename_i went
          cases stepped
          refine ⟨book.charge positive kind (unit_ok went), ?_, known⟩
          simp only [recover_period]
          exact month
        · rename_i went
          cases stepped
          cases unit_error went
          exact ⟨book, month, trivial⟩
  | returned | threw fault =>
    simp only [RunDueSoftwareFees.step, point] at stepped
    cases stepped
    exact ⟨book, month, by simp [point]⟩

theorem ChargeBook.goes {P : Period → Prop} (book : ChargeBook P db) (minded : Minded P run)
    (goes : Goes db run db' run') : ChargeBook P db' := by
  induction goes with
  | here => exact book
  | on input stepped rest ih =>
    obtain ⟨next, known⟩ := book.step minded stepped
    exact ih next known

/-- One call of `runDueSoftwareFees` made at a time, as far as it came. -/
def Called (now : Timestamp) (db db' : Db) (run' : RunDueSoftwareFees) : Prop :=
  ∃ (input : Input) (run : RunDueSoftwareFees), run.point = .begin ∧ input.now 0 = now ∧
    Goes (run.step input db).1 (run.step input db).2 db' run'

/-- The fee has begun by the month before, it is switched on, and there is something to pay. -/
structure FeeDue (db : Db) (now : Timestamp) : Prop where
  begun : ∃ first, db.platformFeeSettings.softwareFeeFirstPeriod = some first ∧
    earlier (previousPeriod now) first = false
  enabled : db.platformFeeSettings.softwareFeeEnabled = true
  priced : 0 < db.platformFeeSettings.softwareFee.minor

/-- The first step of a call: it is over, or it starts the fee, or it goes on to charge. -/
theorem begin_cases {run : RunDueSoftwareFees} (point : run.point = .begin) (input : Input) (db : Db) :
    (run.step input db).1 = db ∧ (run.step input db).2.result.period = previousPeriod (input.now 0) ∧
    match db.platformFeeSettings.softwareFeeFirstPeriod with
    | none => (run.step input db).2.point = .starting (input.now 0)
    | some first =>
      if earlier (previousPeriod (input.now 0)) first then
        (run.step input db).2.point = .returned
      else (run.step input db).2.point = .settings := by
  simp only [RunDueSoftwareFees.step, point]
  cases db.platformFeeSettings.softwareFeeFirstPeriod with
  | none => exact ⟨rfl, rfl, rfl⟩
  | some first =>
    simp only
    split
    · exact ⟨rfl, rfl, rfl⟩
    · exact ⟨rfl, rfl, rfl⟩

/-- A call keeps the rows in order when its month is of the kind. -/
theorem ChargeBook.called {P : Period → Prop} (book : ChargeBook P db)
    (month : P (previousPeriod now)) (called : Called now db db' run') : ChargeBook P db' := by
  obtain ⟨input, run, point, rfl, goes⟩ := called
  obtain ⟨same, period, next⟩ := begin_cases point input db
  have minded : Minded P (run.step input db).2 := by
    refine ⟨period ▸ month, ?_⟩
    split at next
    · rw [next]
      trivial
    · split at next
      · rw [next]
        trivial
      · rw [next]
        trivial
  rw [same] at goes
  exact book.goes minded goes

/-- The month the fee begins with is all that the first call writes. -/
theorem starting_goes (goes : Goes db run db' run') (point : run.point = .starting now) :
    db' = db ∨ ∃ settings, db' = { db with platformFeeSettings := settings } ∧
      settings.softwareFeeFirstPeriod = some (periodOf now) := by
  cases goes with
  | here => exact .inl rfl
  | on input stepped rest =>
    simp only [RunDueSoftwareFees.step, point] at stepped
    split at stepped
    · rename_i went
      cases stepped
      obtain ⟨rfl, _⟩ := goes_over rest (.inl rfl)
      obtain ⟨next, wrote, eq⟩ := map_ok.mp (unit_ok went)
      cases eq
      simp only [writePlatformFeeSettings, bind_ok, demand_ok, pure_ok] at wrote
      obtain ⟨_, _, rfl⟩ := wrote
      exact .inr ⟨_, rfl, rfl⟩
    · rename_i went
      cases stepped
      obtain ⟨rfl, _⟩ := goes_over rest (.inr ⟨_, rfl⟩)
      exact .inl (unit_error went)

/-- A call that finds nothing to charge writes no more than the month the fee begins with. -/
theorem idle_settings (called : Called now db db' run') (idle : ¬ FeeDue db now) :
    ∃ settings, db' = { db with platformFeeSettings := settings } := by
  obtain ⟨input, run, point, rfl, goes⟩ := called
  obtain ⟨same, _, next⟩ := begin_cases point input db
  rw [same] at goes
  generalize run.step input db = stepped at goes next
  obtain ⟨_, run₁⟩ := stepped
  cases recorded : db.platformFeeSettings.softwareFeeFirstPeriod with
  | none =>
    simp only [recorded] at next
    rcases starting_goes goes next with rfl | ⟨settings, rfl, _⟩
    · exact ⟨_, rfl⟩
    · exact ⟨settings, rfl⟩
  | some first =>
    simp only [recorded] at next
    split at next
    · obtain ⟨rfl, _⟩ := goes_over goes (.inl next)
      exact ⟨_, rfl⟩
    · rename_i begun
      cases goes with
      | here => exact ⟨_, rfl⟩
      | on input' stepped rest =>
        simp only [RunDueSoftwareFees.step, next] at stepped
        split at stepped
        · cases stepped
          obtain ⟨rfl, _⟩ := goes_over rest (.inl rfl)
          exact ⟨_, rfl⟩
        · rename_i on
          refine absurd ⟨⟨first, recorded, by simpa using begun⟩, ?_, ?_⟩ idle
          · simpa using fun off => on (.inl off)
          · exact Int.not_le.mp fun low => on (.inr low)

/-- It touches no shop. -/
theorem idle_untouched (called : Called now db db' run') (idle : ¬ FeeDue db now)
    (merchantId : MerchantId) : Untouched merchantId db db' := by
  obtain ⟨settings, rfl⟩ := idle_settings called idle
  exact ⟨rfl, fun _ => rfl, fun _ => rfl⟩

/-- A call that returns where there is something to charge has tried its month at every active
shop, and then recovered what it could of what was outstanding. -/
theorem charging_collects {P : Period → Prop} (book : ChargeBook P db)
    (month : P (previousPeriod now)) (called : Called now db db' run')
    (ended : run'.point = .returned) (charging : FeeDue db now) :
    ∃ mid, ChargeBook P mid ∧
      Swept (previousPeriod now) db.platformFeeSettings.softwareFee (activeMerchantIds db) db mid ∧
      ∀ merchantId,
        (∀ row ∈ ownDebts merchantId (previousPeriod now) (outstandingCharges mid),
          findCharge mid merchantId row.period = some row ∧ row.status = .arrears) →
        Unique (·.period) (ownDebts merchantId (previousPeriod now) (outstandingCharges mid)) →
        Collected merchantId (settled (fun row => row.amount.minor) (sellingMinor mid merchantId)
          (ownDebts merchantId (previousPeriod now) (outstandingCharges mid))) mid db' := by
  obtain ⟨input, run, point, rfl, goes⟩ := called
  obtain ⟨⟨first, recorded, begun⟩, enabled, priced⟩ := charging
  obtain ⟨same, period, next⟩ := begin_cases point input db
  rw [same] at goes
  generalize run.step input db = stepped at goes period next
  obtain ⟨_, run₁⟩ := stepped
  simp only [recorded, begun, Bool.false_eq_true, if_false] at next
  simp only at period
  cases goes with
  | here =>
    simp only at ended
    rw [next] at ended
    cases ended
  | on second stepped rest =>
    have off : ¬ (db.platformFeeSettings.softwareFeeEnabled = false ∨
        db.platformFeeSettings.softwareFee.minor ≤ 0) := by
      rw [enabled]
      simpa using priced
    simp only [RunDueSoftwareFees.step, next, if_neg off] at stepped
    cases stepped
    cases rest with
    | here => cases ended
    | on third stepped rest =>
      simp only [RunDueSoftwareFees.step, RunDueSoftwareFees.at] at stepped
      cases stepped
      obtain ⟨mid, run₂, swept, outstanding, month', came, goes⟩ := charging_ends rest ended rfl
      simp only [period] at swept month'
      have minded : Minded P (run₁.at (.charging (second.now 0)
          db.platformFeeSettings.softwareFee (activeMerchantIds db))) :=
        ⟨period ▸ month, priced⟩
      refine ⟨mid, book.goes minded came, swept, fun merchantId listed apart => ?_⟩
      cases goes with
      | here =>
        rw [outstanding] at ended
        cases ended
      | on fourth stepped rest =>
        simp only [RunDueSoftwareFees.step, outstanding] at stepped
        cases stepped
        exact recovering_ends rest ended rfl month' listed apart

/-- The database, and the time of the last call. -/
structure FeeDesk where
  store : Db
  clock : Timestamp

inductive FeeEvent
  | call (now : Timestamp) (last : RunDueSoftwareFees)
  | waiver (merchantId : MerchantId) (period : Period) (reason : String)
  | meanwhile

/-- Calls of `runDueSoftwareFees` one after another, each at a time no earlier than the one before
and each as far as it came, whether it returned, threw or died. Between them charges are waived,
and whatever else happens leaves the charges and the fee's first month alone. -/
inductive CallsInTurn : FeeDesk → FeeEvent → FeeDesk → Prop
  | call : w.clock ≤ now → Called now w.store db last →
      CallsInTurn w (.call now last) ⟨db, now⟩
  | waiver : CallsInTurn w (.waiver merchantId period reason)
      ⟨(waiveCharge w.store merchantId period reason).1, w.clock⟩
  | meanwhile : db.softwareFeeCharges = w.store.softwareFeeCharges →
      db.platformFeeSettings.softwareFeeFirstPeriod =
        w.store.platformFeeSettings.softwareFeeFirstPeriod →
      CallsInTurn w .meanwhile ⟨db, w.clock⟩

/-- A database no fee was ever charged on, before the fee has begun. -/
structure FeeOpens (w : FeeDesk) : Prop where
  charges : w.store.softwareFeeCharges = []
  first : w.store.platformFeeSettings.softwareFeeFirstPeriod = none
  clock : 0 ≤ w.clock

abbrev FeeTaken := Taken FeeDesk FeeEvent

/-- A call worked out step by step. -/
def conduct (inputs : List Input) (db : Db) (run : RunDueSoftwareFees) : Db × RunDueSoftwareFees :=
  inputs.foldl (fun (db, run) input => run.step input db) (db, run)

theorem conduct_goes (inputs : List Input) (db : Db) (run : RunDueSoftwareFees) :
    Goes db run (conduct inputs db run).1 (conduct inputs db run).2 := by
  induction inputs generalizing db run with
  | nil => exact .here
  | cons input rest ih => exact .on input rfl (ih _ _)

/-- A call at its beginning. -/
def freshCall : RunDueSoftwareFees :=
  { result := { period := ⟨0, 0⟩ }, point := .begin }

theorem conduct_called (input : Input) (inputs : List Input) (db : Db) :
    Called (input.now 0) db (conduct (input :: inputs) db freshCall).1
      (conduct (input :: inputs) db freshCall).2 :=
  ⟨input, freshCall, rfl, rfl, conduct_goes inputs _ _⟩

/-- Waiving a month writes over no key, price or month. -/
theorem ChargeBook.waived {P : Period → Prop} (book : ChargeBook P db) (merchantId : MerchantId)
    (period : Period) (reason : String) :
    ChargeBook P (waiveCharge db merchantId period reason).1 := by
  unfold waiveCharge
  split
  · exact book
  · exact book.updated (owing merchantId period) (fun row => { row with status := .waived })
      (fun _ => ⟨rfl, rfl, rfl⟩) rfl

end Telga.Proofs.SoftwareFees
