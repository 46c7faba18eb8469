import Telga.Persistence.ReferenceCalls
import Telga.Proofs.Runs

namespace Telga.Proofs.StandingReferences
open Domain Persistence Library Persistence.ReferenceCalls

/-- What has a reference: a shop, or an order by its id. -/
inductive Owner
  | shop (merchantId : MerchantId)
  | order (id : String)
deriving DecidableEq

def Owner.isShop : Owner → Bool
  | .shop _ => true
  | .order _ => false

def ownerOf : Subject → Owner
  | .shop merchantId => .shop merchantId
  | .order input => .order input.id

/-- The reference stored for an owner. -/
def storedOf (db : DepositDb) : Owner → Option String
  | .shop merchantId => depositReferenceOf db merchantId
  | .order id => (db.topupOrders.find? fun row => row.id = id).map (·.reference)

/-- A reference is taken already: a shop's by a shop, an order's by an order. -/
def TakenFor (db : DepositDb) (reference : String) : Subject → Prop
  | .shop _ => ∃ shop ∈ db.depositReferences, shop.2 = reference
  | .order _ => ∃ row ∈ db.topupOrders, row.reference = reference

instance (db : DepositDb) (reference : String) (subject : Subject) :
    Decidable (TakenFor db reference subject) :=
  match subject with
  | .shop _ => inferInstanceAs (Decidable (∃ shop ∈ db.depositReferences, _))
  | .order _ => inferInstanceAs (Decidable (∃ row ∈ db.topupOrders, _))

/-- A shop has one reference and an id one order, and no reference is of two shops or orders. -/
structure Distinct (db : DepositDb) : Prop where
  shops : Unique (·.1) db.depositReferences
  shopReferences : Unique (·.2) db.depositReferences
  orders : Unique (·.id) db.topupOrders
  orderReferences : Unique (·.reference) db.topupOrders

abbrev Happened := Taken (World DepositDb Process) (Event CallInput Process)

/-- A call draws in a step: its slot, what it meets, and whom it draws for. -/
structure Drew where
  slot : Nat
  turn : CallInput
  subject : Subject

def drew (taken : Happened) : Option Drew :=
  match taken.event with
  | .act slot turn =>
    match taken.before.proc slot with
    | some (.call subject (.drawing _)) => some ⟨slot, turn, subject⟩
    | _ => none
  | _ => none

/-- How many draws the call in a slot has made. -/
def draws (slot : Nat) (past : List Happened) : Nat :=
  past.countP fun taken => (drew taken).any (·.slot = slot)

/-- A call returns in a step: for whom, and the reference. -/
def returned (taken : Happened) : Option (Owner × String) :=
  match taken.event with
  | .act slot _ =>
    match taken.after.proc slot with
    | some (.call subject (.returned reference)) => some (ownerOf subject, reference)
    | _ => none
  | _ => none

/-- The reason a failed statement is reported under. -/
def reason : InsertFault → Fault
  | .unique => .constraint
  | .other fault => fault

/-- What the references promise of everything that happened. -/
structure Kept (normalize : String → String) (past : List Happened) : Prop where
  stored : ∀ later taken earlier, past = later ++ taken :: earlier →
    ∀ owner reference, returned taken = some (owner, reference) →
      ∀ t ∈ later ++ [taken], storedOf t.after.store owner = some reference
  same : ∀ one ∈ past, ∀ two ∈ past, ∀ owner first second,
    returned one = some (owner, first) → returned two = some (owner, second) → first = second
  apart : ∀ one ∈ past, ∀ two ∈ past, ∀ owner other reference,
    returned one = some (owner, reference) → returned two = some (other, reference) →
      owner.isShop = other.isShop → owner = other
  distinct : ∀ taken ∈ past, Distinct taken.after.store
  few : ∀ slot, draws slot past ≤ 5
  reports : ∀ taken ∈ past, ∀ draw ∈ drew taken, ∀ raw ∈ draw.turn.drawn, ∀ fault,
    attempt draw.turn taken.before.store draw.subject (normalize raw) = .error fault →
      ¬ TakenFor taken.before.store (normalize raw) draw.subject →
        taken.after.proc draw.slot = some (.call draw.subject (.threw (.refused (reason fault))))

/-- What a draw finds as the loops expect it: the shop has no reference yet, or the very one that
was drawn, and only a reference can be what is taken of an order. -/
def Fits (db : DepositDb) (reference : String) : Subject → Prop
  | .shop merchantId => ∀ held ∈ depositReferenceOf db merchantId, held = reference
  | .order input => 0 < input.amountMinor → Present (·.id) input.id db.topupOrders →
      ∃ row ∈ db.topupOrders, row.reference = reference

instance (db : DepositDb) (reference : String) (subject : Subject) :
    Decidable (Fits db reference subject) :=
  match subject with
  | .shop merchantId => inferInstanceAs (Decidable (∀ held ∈ depositReferenceOf db merchantId, _))
  | .order input =>
    inferInstanceAs (Decidable (0 < input.amountMinor → Present (·.id) input.id db.topupOrders →
      ∃ row ∈ db.topupOrders, row.reference = reference))

/-- A step that draws and reaches the database finds it as the loops expect. -/
def Foreseen (normalize : String → String) (taken : Happened) : Prop :=
  ∀ draw ∈ drew taken, draw.turn.broken = none → ∀ raw ∈ draw.turn.drawn,
    Fits taken.before.store (normalize raw) draw.subject

instance (normalize : String → String) (taken : Happened) :
    Decidable (Foreseen normalize taken) :=
  inferInstanceAs (Decidable (∀ draw ∈ drew taken, _ → ∀ raw ∈ draw.turn.drawn, _))

section Store

variable {db db' : DepositDb} {owner other : Owner} {reference : String} {subject : Subject}
  {merchantId : MerchantId} {input : NewTopupOrder}

/-- One owner's reference was stored that had none, and nobody else's changed. -/
structure Adds (db db' : DepositDb) (owner : Owner) (reference : String) : Prop where
  fresh : storedOf db owner = none
  told : ∀ other, storedOf db' other = if other = owner then some reference else storedOf db other
  distinct : Distinct db → Distinct db'
  shops : db'.merchants = db.merchants

theorem depositReferenceOf_none :
    depositReferenceOf db merchantId = none ↔
      ∀ shop ∈ db.depositReferences, shop.1 ≠ merchantId := by
  unfold depositReferenceOf
  rw [Option.map_eq_none_iff, List.find?_eq_none]
  simp

/-- The statement for a shop sets the reference of one that has none, or does nothing. -/
theorem setDepositReference_ok
    (set : setDepositReference db merchantId reference = .ok db') :
    (¬ (Present (·.id) merchantId db.merchants ∧ depositReferenceOf db merchantId = none) ∧
      db' = db) ∨
    (∀ shop ∈ db.depositReferences, shop.2 ≠ reference) ∧
      Adds db db' (.shop merchantId) reference := by
  unfold setDepositReference at set
  split at set
  · rename_i open'
    simp only [bind_ok, demand_ok, pure_ok] at set
    obtain ⟨_, untaken, rfl⟩ := set
    have absent := depositReferenceOf_none.mp open'.2
    refine .inr ⟨untaken, open'.2, ?_, ?_, rfl⟩
    · intro other
      cases other with
      | order id => rfl
      | shop other =>
        have added : (db.depositReferences ++ [(merchantId, reference)]).find?
            (fun shop => shop.1 = other) =
              if other = merchantId then some (merchantId, reference)
              else db.depositReferences.find? fun shop => shop.1 = other :=
          find?_added (fun shop : MerchantId × String => shop.1) absent other
        change Option.map _ _ = _
        rw [added]
        by_cases same : other = merchantId
        · simp [same]
        · simp [same, storedOf, depositReferenceOf]
    · intro distinct
      exact ⟨distinct.shops.append absent, distinct.shopReferences.append untaken,
        distinct.orders, distinct.orderReferences⟩
  · rename_i closed
    cases set
    exact .inl ⟨closed, rfl⟩

theorem setDepositReference_error {fault : InsertFault}
    (set : setDepositReference db merchantId reference = .error fault) :
    fault = .unique ∧ ∃ shop ∈ db.depositReferences, shop.2 = reference := by
  unfold setDepositReference at set
  split at set
  · by_cases untaken : ∀ shop ∈ db.depositReferences, shop.2 ≠ reference
    · simp only [demand, if_pos untaken] at set
      cases set
    · simp only [demand, if_neg untaken] at set
      cases set
      push Not at untaken
      exact ⟨rfl, untaken⟩
  · cases set

/-- An order is inserted under an id and a reference that are new. -/
theorem insertTopupOrder_adds (inserted : insertTopupOrder db input reference = .ok db') :
    (∀ row ∈ db.topupOrders, row.reference ≠ reference) ∧
      Adds db db' (.order input.id) reference := by
  obtain ⟨_, fresh, _, rfl⟩ := insertTopupOrder_ok inserted
  have absent : ∀ row ∈ db.topupOrders, row.id ≠ (topupOrderRow input reference).id :=
    fun row mem => (fresh row mem).1
  have untaken : ∀ row ∈ db.topupOrders, row.reference ≠ (topupOrderRow input reference).reference :=
    fun row mem => (fresh row mem).2
  refine ⟨untaken, ?_, ?_, ?_, rfl⟩
  · change Option.map _ _ = none
    rw [Option.map_eq_none_iff, List.find?_eq_none]
    intro row mem
    simpa using (fresh row mem).1
  · intro other
    cases other with
    | shop merchantId => rfl
    | order id =>
      have added : (db.topupOrders ++ [topupOrderRow input reference]).find?
          (fun row => row.id = id) =
            if id = input.id then some (topupOrderRow input reference)
            else db.topupOrders.find? fun row => row.id = id :=
        find?_added (fun row : TopupOrderRow => row.id) absent id
      change Option.map _ _ = _
      rw [added]
      by_cases same : id = input.id
      · simp [same, topupOrderRow]
      · simp [same, storedOf]
  · intro distinct
    exact ⟨distinct.shops, distinct.shopReferences, distinct.orders.append absent,
      distinct.orderReferences.append untaken⟩

/-- An insert fails on a key only where the id or the reference is taken, of an amount the table
takes. -/
theorem insertTopupOrder_unique (refused : insertTopupOrder db input reference = .error .unique) :
    0 < input.amountMinor ∧
      ∃ row ∈ db.topupOrders, row.id = input.id ∨ row.reference = reference := by
  unfold insertTopupOrder at refused
  by_cases positive : 0 < input.amountMinor
  · refine ⟨positive, ?_⟩
    by_contra fresh
    have fresh : ∀ row ∈ db.topupOrders, row.id ≠ input.id ∧ row.reference ≠ reference := by
      intro row mem
      constructor
      · intro same
        exact fresh ⟨row, mem, .inl same⟩
      · intro same
        exact fresh ⟨row, mem, .inr same⟩
    by_cases there : Present (·.id) input.merchantId db.merchants
    · simp only [demand, if_pos positive, if_pos fresh, if_pos there] at refused
      cases refused
    · simp only [demand, if_pos positive, if_pos fresh, if_neg there] at refused
      cases refused
  · simp only [demand, if_neg positive] at refused
    cases refused

/-- A statement that went through stored the reference, or was for a shop and did nothing. -/
theorem store_ok (stored : store db subject reference = .ok db') :
    (db' = db ∧ ∃ merchantId, subject = .shop merchantId ∧
      ¬ (Present (·.id) merchantId db.merchants ∧ depositReferenceOf db merchantId = none)) ∨
    ¬ TakenFor db reference subject ∧ Adds db db' (ownerOf subject) reference := by
  cases subject with
  | shop merchantId =>
    rcases setDepositReference_ok stored with ⟨closed, same⟩ | ⟨untaken, adds⟩
    · exact .inl ⟨same, merchantId, rfl, closed⟩
    · refine .inr ⟨?_, adds⟩
      intro ⟨shop, mem, same⟩
      exact untaken shop mem same
  | order input =>
    obtain ⟨untaken, adds⟩ := insertTopupOrder_adds stored
    refine .inr ⟨?_, adds⟩
    intro ⟨row, mem, same⟩
    exact untaken row mem same

/-- A statement that finds what the loops expect fails on a key only where the reference is taken. -/
theorem store_unique (refused : store db subject reference = .error .unique)
    (fits : Fits db reference subject) : TakenFor db reference subject := by
  cases subject with
  | shop merchantId => exact (setDepositReference_error refused).2
  | order input =>
    obtain ⟨positive, row, mem, same | same⟩ := insertTopupOrder_unique refused
    · exact fits positive ⟨row, mem, same⟩
    · exact ⟨row, mem, same⟩

/-- What every step leaves true of the references. -/
structure Grows (db db' : DepositDb) : Prop where
  kept : ∀ owner reference, storedOf db owner = some reference →
    storedOf db' owner = some reference
  distinct : Distinct db → Distinct db'
  shops : ∀ merchantId, Present (·.id) merchantId db.merchants →
    Present (·.id) merchantId db'.merchants

theorem Grows.refl (db : DepositDb) : Grows db db :=
  ⟨fun _ _ stored => stored, id, fun _ there => there⟩

theorem Grows.trans {db₁ db₂ db₃ : DepositDb} (first : Grows db₁ db₂) (next : Grows db₂ db₃) :
    Grows db₁ db₃ where
  kept owner reference stored := next.kept owner reference (first.kept owner reference stored)
  distinct distinct := next.distinct (first.distinct distinct)
  shops merchantId there := next.shops merchantId (first.shops merchantId there)

theorem Adds.grows (adds : Adds db db' owner reference) : Grows db db' where
  kept other held stored := by
    rw [adds.told, if_neg]
    · exact stored
    · rintro rfl
      rw [adds.fresh] at stored
      cases stored
  distinct := adds.distinct
  shops merchantId there := by
    rw [adds.shops]
    exact there

theorem unique_keys {rows rows' : List TopupOrderRow} {view : String × String → String}
    (same : rows'.map (fun row => (row.id, row.reference)) =
      rows.map fun row => (row.id, row.reference))
    (unique : Unique (fun row : TopupOrderRow => view (row.id, row.reference)) rows) :
    Unique (fun row : TopupOrderRow => view (row.id, row.reference)) rows' := by
  have keys : ∀ rows : List TopupOrderRow,
      rows.map (fun row => view (row.id, row.reference)) =
        (rows.map fun row => (row.id, row.reference)).map view := by
    intro rows
    rw [List.map_map]
    rfl
  unfold Library.Unique at *
  rw [keys, same, ← keys]
  exact unique

theorem storedOf_order (db : DepositDb) (id : String) :
    storedOf db (.order id) =
      ((db.topupOrders.map fun row => (row.id, row.reference)).find? fun key => key.1 = id).map
        (·.2) := by
  rw [List.find?_map, Option.map_map]
  rfl

/-- The rest of the program leaves every reference where it is. -/
theorem leaves_grows {work : DepositDb → DepositDb} (leaves : Leaves work) (db : DepositDb) :
    Grows db (work db) where
  kept owner reference stored := by
    cases owner with
    | shop merchantId =>
      unfold storedOf depositReferenceOf at *
      rw [leaves.references]
      exact stored
    | order id =>
      rw [storedOf_order] at *
      rw [leaves.orders]
      exact stored
  distinct distinct := by
    constructor
    · rw [leaves.references]
      exact distinct.shops
    · rw [leaves.references]
      exact distinct.shopReferences
    · exact @unique_keys _ _ Prod.fst (leaves.orders db) distinct.orders
    · exact @unique_keys _ _ Prod.snd (leaves.orders db) distinct.orderReferences
  shops := leaves.shops db

end Store

section Steps

variable {normalize : String → String} {turn : CallInput} {db db' : DepositDb} {subject : Subject}
  {drawn : Nat} {stage : Stage} {reference raw : String} {w w' : World DepositDb Process}
  {event : Event CallInput Process}

/-- What a living process knows: a shop it draws for is on record, and other work leaves the
references alone. -/
def Known (db : DepositDb) : Process → Prop
  | .call (.shop merchantId) (.drawing _) => Present (·.id) merchantId db.merchants
  | .call (.order _) stage => stage ≠ .reading
  | .elsewhere work => Leaves work
  | _ => True

theorem attempt_ok (attempted : attempt turn db subject reference = .ok db') :
    turn.broken = none ∧ store db subject reference = .ok db' := by
  unfold attempt at attempted
  split at attempted
  · cases attempted
  · rename_i whole
    exact ⟨whole, attempted⟩

theorem attempt_unique (attempted : attempt turn db subject reference = .error .unique) :
    turn.broken = none ∧ store db subject reference = .error .unique := by
  unfold attempt at attempted
  split at attempted
  · cases attempted
  · rename_i whole
    exact ⟨whole, attempted⟩

theorem store_grows (stored : store db subject reference = .ok db') : Grows db db' := by
  rcases store_ok stored with ⟨rfl, _⟩ | ⟨_, adds⟩
  · exact .refl _
  · exact adds.grows

theorem draw_grows : Grows db (draw normalize turn db subject drawn).1 := by
  unfold draw
  split
  · exact .refl _
  · split
    · rename_i attempted
      exact store_grows (attempt_ok attempted).2
    · exact .refl _
    · exact .refl _

/-- What is drawn after a draw, is drawn for a call that goes on. -/
theorem draw_known (known : Known db (.call subject (.drawing drawn))) :
    Known (draw normalize turn db subject drawn).1
      (.call subject (draw normalize turn db subject drawn).2) := by
  have shops := (@draw_grows normalize turn db subject drawn).shops
  cases subject with
  | shop merchantId =>
    have there := shops merchantId known
    cases (draw normalize turn db (.shop merchantId) drawn).2 with
    | drawing _ => exact there
    | _ => trivial
  | order input =>
    unfold draw
    intro reads
    split at reads
    · cases reads
    · split at reads
      · cases reads
      · split at reads <;> cases reads
      · cases reads

theorem advance_known (process : Process) (known : Known db process) :
    Known (advance normalize turn db process).1 (advance normalize turn db process).2 ∧
      Grows db (advance normalize turn db process).1 := by
  cases process with
  | elsewhere work => exact ⟨known, leaves_grows known db⟩
  | call subject stage =>
    cases stage with
    | drawing drawn =>
      cases subject with
      | shop merchantId => exact ⟨draw_known known, draw_grows⟩
      | order input => exact ⟨draw_known known, draw_grows⟩
    | reading =>
      cases subject with
      | order input => exact absurd rfl known
      | shop merchantId =>
        refine ⟨?_, .refl _⟩
        change Known db (.call (.shop merchantId) (readMerchant turn db merchantId))
        unfold readMerchant
        split
        · trivial
        · split
          · rename_i there
            split
            · trivial
            · exact there
          · trivial
    | returned reference => cases subject <;> exact ⟨known, .refl _⟩
    | threw fault => cases subject <;> exact ⟨known, .refl _⟩

theorem Known.grows {process : Process} (known : Known db process) (grows : Grows db db') :
    Known db' process := by
  cases process with
  | elsewhere work => exact known
  | call subject stage =>
    cases subject with
    | order input => exact known
    | shop merchantId =>
      cases stage with
      | drawing drawn => exact grows.shops merchantId known
      | _ => trivial

theorem starts_known (process : Process) (starts : Starts db process) : Known db process := by
  cases process with
  | elsewhere work => exact starts
  | call subject stage =>
    cases subject with
    | shop merchantId =>
      cases starts
      trivial
    | order input =>
      cases starts
      intro reads
      cases reads

theorem secure_step (w : World DepositDb Process) (event : Event CallInput Process)
    (w' : World DepositDb Process) (secure : Secure Distinct Known w)
    (step : Pool (calls normalize) Starts Live w event w') : Secure Distinct Known w' := by
  refine Secure.step (R := Grows) ?_ ?_ ?_ w event w' secure step
  · intro db process _ starts
    exact starts_known process starts
  · intro turn db process distinct known _
    obtain ⟨after, grows⟩ := advance_known process known
    exact ⟨grows.distinct distinct, after, grows⟩
  · intro db db' process _ known grows
    exact known.grows grows

/-- Every step leaves true of the references what was. -/
theorem step_grows (secure : Secure Distinct Known w)
    (step : Pool (calls normalize) Starts Live w event w') : Grows w.store w'.store := by
  rcases step.acted with ⟨same, _⟩ | ⟨slot, turn, process, _, here, _, rfl⟩
  · rw [same]
    exact .refl _
  · exact (advance_known process (secure.2 _ (World.proc_mem here))).2

end Steps

/-- Nobody is calling yet, on a database its unique columns hold of. -/
def Begins (w : World DepositDb Process) : Prop :=
  Distinct w.store ∧ w.procs = []

/-- Any number of calls, and whatever else the program does, in any order. -/
abbrev Calls (normalize : String → String) :
    World DepositDb Process → Event CallInput Process → World DepositDb Process → Prop :=
  Pool (calls normalize) Starts Live

section Runs

variable {normalize : String → String} {past : List Happened} {w w' : World DepositDb Process}
  {event : Event CallInput Process} {owner : Owner} {reference : String}

theorem begins_secure (w : World DepositDb Process) (begins : Begins w) :
    Secure Distinct Known w := by
  refine ⟨begins.1, fun process mem => ?_⟩
  rw [begins.2] at mem
  cases mem

theorem run_secure (run : Run Begins (Calls normalize) past w) : Secure Distinct Known w :=
  run.invariant begins_secure secure_step

theorem run_grows (run : Run Begins (Calls normalize) past w) :
    ∀ taken ∈ past, Grows taken.before.store w.store ∧ Grows taken.after.store w.store :=
  Run.since (R := fun w w' : World DepositDb Process => Grows w.store w'.store)
    (fun w => .refl w.store) (fun _ _ _ first next => first.trans next) begins_secure secure_step
    (fun _ _ _ secure step => step_grows secure step) run

/-- The step of a call, and where the call is after it. -/
theorem act_cases {slot : Nat} {turn : CallInput} {subject : Subject} {stage : Stage}
    (step : Calls normalize w (.act slot turn) w')
    (after : w'.proc slot = some (.call subject stage)) :
    (∃ merchantId, subject = .shop merchantId ∧
      w.proc slot = some (.call (.shop merchantId) .reading) ∧ w'.store = w.store ∧
      stage = readMerchant turn w.store merchantId) ∨
    (∃ drawn, w.proc slot = some (.call subject (.drawing drawn)) ∧
      w'.store = (draw normalize turn w.store subject drawn).1 ∧
      stage = (draw normalize turn w.store subject drawn).2) ∨
    ∃ input, subject = .order input ∧ w.proc slot = some (.call subject .reading) := by
  cases step with
  | act here live moved =>
    rw [World.proc_act here, if_pos rfl] at after
    cases after
    rename_i process store'
    have advanced : advance normalize turn w.store process = (store', .call subject stage) := moved
    cases process with
    | elsewhere work => cases advanced
    | call other stage' =>
      cases stage' with
      | returned _ => cases live
      | threw _ => cases live
      | drawing drawn =>
        cases other <;> cases advanced <;> exact .inr (.inl ⟨drawn, here, rfl, rfl⟩)
      | reading =>
        cases other with
        | shop merchantId =>
          cases advanced
          exact .inl ⟨merchantId, rfl, here, rfl, rfl⟩
        | order input =>
          cases advanced
          exact .inr (.inr ⟨input, rfl, here⟩)

/-- What a step returns is stored after it, when it drew as the loops expect. -/
theorem returned_stored (secure : Secure Distinct Known w) (step : Calls normalize w event w')
    (foreseen : Foreseen normalize ⟨w, event, w'⟩)
    (returns : returned ⟨w, event, w'⟩ = some (owner, reference)) :
    storedOf w'.store owner = some reference := by
  unfold returned at returns
  split at returns
  · rename_i slot turn acted
    cases acted
    split at returns
    · rename_i subject held after
      cases returns
      rcases act_cases step after with ⟨merchantId, rfl, _, same, read⟩ |
        ⟨drawn, here, store', draws⟩ | ⟨input, rfl, here⟩
      · rw [same]
        unfold readMerchant at read
        split at read
        · cases read
        · split at read
          · split at read
            · rename_i found
              cases read
              exact found
            · cases read
          · cases read
      · have drawing : drew ⟨w, .act slot turn, w'⟩ = some ⟨slot, turn, subject⟩ := by
          simp only [drew, here]
        unfold draw at store' draws
        split at draws
        · cases draws
        · rename_i raw generated
          split at draws
          · rename_i db attempted
            cases draws
            obtain ⟨whole, stored⟩ := attempt_ok attempted
            simp only [generated, attempted] at store'
            have fits := foreseen _ drawing whole raw generated
            rw [store']
            rcases store_ok stored with ⟨rfl, merchantId, rfl, closed⟩ | ⟨_, adds⟩
            · have there := secure.2 _ (World.proc_mem here)
              cases found : depositReferenceOf w.store merchantId with
              | none => exact absurd ⟨there, found⟩ closed
              | some held =>
                rw [← fits held found]
                exact found
            · rw [adds.told, if_pos rfl]
          · split at draws <;> cases draws
          · cases draws
      · exact absurd rfl (secure.2 _ (World.proc_mem here))
    · cases returns
  · cases returns

/-- What was returned is stored at the end of a run that drew as the loops expect. -/
theorem stored_last (run : Run Begins (Calls normalize) past w)
    (foreseen : ∀ taken ∈ past, Foreseen normalize taken) {taken : Happened} (mem : taken ∈ past)
    (returns : returned taken = some (owner, reference)) :
    storedOf w.store owner = some reference := by
  have grows := (run_grows run taken mem).2
  obtain ⟨secure, step, _⟩ := run.taken begins_secure secure_step taken mem
  exact grows.kept owner reference (returned_stored secure step (foreseen taken mem) returns)

/-- One reference is of one shop, and of one order. -/
theorem Distinct.sole {db : DepositDb} {other : Owner} (distinct : Distinct db)
    (one : storedOf db owner = some reference) (two : storedOf db other = some reference)
    (alike : owner.isShop = other.isShop) : owner = other := by
  cases owner with
  | shop merchantId =>
    cases other with
    | order id => cases alike
    | shop other =>
      obtain ⟨shop, found, rfl⟩ := Option.map_eq_some_iff.mp one
      obtain ⟨shop', found', same⟩ := Option.map_eq_some_iff.mp two
      have own := distinct.shopReferences.eq (List.mem_of_find?_eq_some found')
        (List.mem_of_find?_eq_some found) same
      have first : shop.1 = merchantId := by simpa using List.find?_some found
      have second : shop'.1 = other := by simpa using List.find?_some found'
      rw [← first, ← second, own]
  | order id =>
    cases other with
    | shop merchantId => cases alike
    | order other =>
      obtain ⟨row, found, rfl⟩ := Option.map_eq_some_iff.mp one
      obtain ⟨row', found', same⟩ := Option.map_eq_some_iff.mp two
      have own := distinct.orderReferences.eq (List.mem_of_find?_eq_some found')
        (List.mem_of_find?_eq_some found) same
      have first : row.id = id := by simpa using List.find?_some found
      have second : row'.id = other := by simpa using List.find?_some found'
      rw [← first, ← second, own]

/-- How many draws a call has made where it is. -/
def Drawn : Option Process → Nat → Prop
  | some (.call _ .reading), count => count = 0
  | some (.call _ (.drawing drawn)), count => count = drawn ∧ drawn < referenceAttempts
  | _, count => count ≤ referenceAttempts

theorem Drawn.few {process : Option Process} {count : Nat} (drawn : Drawn process count) :
    count ≤ referenceAttempts := by
  unfold Drawn at drawn
  split at drawn <;> omega

theorem drew_idle (idle : ∀ slot turn, event ≠ .act slot turn) : drew ⟨w, event, w'⟩ = none := by
  cases event with
  | act slot turn => exact absurd rfl (idle slot turn)
  | start _ | crash _ => rfl

theorem draws_idle (idle : ∀ slot turn, event ≠ .act slot turn) (slot : Nat) :
    draws slot (⟨w, event, w'⟩ :: past) = draws slot past := by
  unfold draws
  rw [List.countP_cons, drew_idle idle]
  rfl

theorem drew_slot {slot : Nat} {turn : CallInput} {draw : Drew}
    (drawn : drew ⟨w, .act slot turn, w'⟩ = some draw) :
    draw.slot = slot ∧ draw.turn = turn ∧
      ∃ count, w.proc slot = some (.call draw.subject (.drawing count)) := by
  unfold drew at drawn
  simp only [] at drawn
  split at drawn
  · rename_i here
    cases drawn
    exact ⟨rfl, rfl, _, here⟩
  · cases drawn

theorem draws_other {slot other : Nat} {turn : CallInput} (differs : other ≠ slot) :
    draws other (⟨w, .act slot turn, w'⟩ :: past) = draws other past := by
  unfold draws
  rw [List.countP_cons, if_neg, Nat.add_zero]
  cases drawn : drew ⟨w, .act slot turn, w'⟩ with
  | none => simp
  | some draw =>
    have own := (drew_slot drawn).1
    simp only [Option.any_some, decide_eq_true_eq]
    intro same
    exact differs (same.symm.trans own)

/-- A step of a process that is not drawing is no draw. -/
theorem draws_still {slot : Nat} {turn : CallInput} {process : Process}
    (here : w.proc slot = some process) (still : ∀ subject drawn, process ≠ .call subject (.drawing drawn)) :
    draws slot (⟨w, .act slot turn, w'⟩ :: past) = draws slot past := by
  unfold draws
  rw [List.countP_cons, if_neg, Nat.add_zero]
  cases drawn : drew ⟨w, .act slot turn, w'⟩ with
  | none => simp
  | some draw =>
    obtain ⟨_, _, count, drawing⟩ := drew_slot drawn
    rw [here] at drawing
    exact absurd (Option.some.inj drawing) (still _ _)

theorem draws_draw {slot : Nat} {turn : CallInput} {subject : Subject} {drawn : Nat}
    (here : w.proc slot = some (.call subject (.drawing drawn))) :
    draws slot (⟨w, .act slot turn, w'⟩ :: past) = draws slot past + 1 := by
  unfold draws
  rw [List.countP_cons, if_pos]
  simp only [drew, here, Option.any_some, decide_true]

/-- A call draws as long as it has drawn less than five times. -/
theorem drawn_draw {turn : CallInput} {db : DepositDb} {subject : Subject} {drawn : Nat}
    (more : drawn < referenceAttempts) :
    Drawn (some (.call subject (draw normalize turn db subject drawn).2)) (drawn + 1) := by
  unfold draw
  split
  · exact more
  · split
    · exact more
    · split
      · rename_i again
        exact ⟨rfl, again⟩
      · exact more
    · exact more

/-- The call that takes a step has counted its draws rightly. -/
theorem drawn_act {slot : Nat} {turn : CallInput} {process process' : Process} {db : DepositDb}
    (here : w.proc slot = some process) (live : isOver process = false)
    (counted : Drawn (some process) (draws slot past))
    (advanced : advance normalize turn w.store process = (db, process')) :
    Drawn (some process') (draws slot (⟨w, .act slot turn, w'⟩ :: past)) := by
  cases process with
  | elsewhere work =>
    rw [draws_still here (by rintro _ _ ⟨⟩)]
    cases advanced
    exact counted
  | call subject stage =>
    cases stage with
    | returned _ => cases live
    | threw _ => cases live
    | drawing drawn =>
      rw [draws_draw here, counted.1]
      cases subject <;> cases advanced <;> exact drawn_draw counted.2
    | reading =>
      rw [draws_still here (by rintro _ _ ⟨⟩)]
      cases subject with
      | order input =>
        cases advanced
        exact counted
      | shop merchantId =>
        cases advanced
        have none : draws slot past = 0 := counted
        rw [none]
        unfold readMerchant
        split
        · exact Nat.zero_le _
        · split
          · split
            · exact Nat.zero_le _
            · exact ⟨rfl, by decide⟩
          · exact Nat.zero_le _

theorem drawn_step (step : Calls normalize w event w')
    (counted : ∀ slot, Drawn (w.proc slot) (draws slot past))
    (unused : ∀ slot, w.procs.length ≤ slot → draws slot past = 0) :
    (∀ slot, Drawn (w'.proc slot) (draws slot (⟨w, event, w'⟩ :: past))) ∧
      ∀ slot, w'.procs.length ≤ slot → draws slot (⟨w, event, w'⟩ :: past) = 0 := by
  cases step with
  | start starts =>
    rename_i process
    constructor
    · intro slot
      rw [draws_idle (by rintro _ _ ⟨⟩), World.proc_start]
      split
      · rename_i last
        rw [unused slot (Nat.le_of_eq last.symm)]
        cases process with
        | elsewhere work => exact Nat.zero_le _
        | call subject stage =>
          cases subject with
          | shop merchantId =>
            cases starts
            rfl
          | order input =>
            cases starts
            exact ⟨rfl, by decide⟩
      · exact counted slot
    · intro slot after
      rw [draws_idle (by rintro _ _ ⟨⟩)]
      simp only [List.length_append, List.length_cons, List.length_nil] at after
      exact unused slot (by omega)
  | crash =>
    rename_i slot
    constructor
    · intro other
      rw [draws_idle (by rintro _ _ ⟨⟩), World.proc_crash]
      split
      · exact (counted other).few
      · exact counted other
    · intro other after
      rw [draws_idle (by rintro _ _ ⟨⟩)]
      simp only [List.length_set] at after
      exact unused other after
  | act here live moved =>
    rename_i process turn store' process' slot
    have inside := World.proc_lt here
    constructor
    · intro other
      rw [World.proc_act here]
      split
      · rename_i same
        cases same
        have before := counted slot
        rw [here] at before
        have advanced : advance normalize turn w.store process = (store', process') := moved
        exact drawn_act here live before advanced
      · rename_i differs
        rw [draws_other differs]
        exact counted other
    · intro other after
      simp only [List.length_set] at after
      rw [draws_other (by omega)]
      exact unused other after

/-- No call draws more than five times. -/
theorem draws_few (run : Run Begins (Calls normalize) past w) (slot : Nat) : draws slot past ≤ 5 := by
  have counted : (∀ slot, Drawn (w.proc slot) (draws slot past)) ∧
      ∀ slot, w.procs.length ≤ slot → draws slot past = 0 := by
    refine Run.history (H := fun past w => (∀ slot, Drawn (w.proc slot) (draws slot past)) ∧
      ∀ slot, w.procs.length ≤ slot → draws slot past = 0) ?_ ?_ run
    · intro w begins
      refine ⟨fun slot => ?_, fun slot _ => rfl⟩
      unfold World.proc
      rw [begins.2]
      exact Nat.zero_le _
    · intro past w event w' counted step
      exact drawn_step step counted.1 counted.2
  exact (counted.1 slot).few

/-- Where a call is after it drew. -/
theorem drew_moved (step : Calls normalize w event w') {call : Drew}
    (drawn : drew ⟨w, event, w'⟩ = some call) :
    event = .act call.slot call.turn ∧
      ∃ count, w.proc call.slot = some (.call call.subject (.drawing count)) ∧
        w'.store = (draw normalize call.turn w.store call.subject count).1 ∧
        w'.proc call.slot =
          some (.call call.subject (draw normalize call.turn w.store call.subject count).2) := by
  cases step with
  | start _ | crash => cases drawn
  | act here live moved =>
    obtain ⟨rfl, rfl, count, drawing⟩ := drew_slot drawn
    refine ⟨rfl, count, drawing, ?_⟩
    rw [here] at drawing
    cases drawing
    rw [World.proc_act here, if_pos rfl]
    have advanced := moved
    cases subject : call.subject <;> rw [subject] at advanced <;> cases advanced <;> exact ⟨rfl, rfl⟩

/-- A failure that no reference explains is reported, when the draw found what it expects. -/
theorem failure_reported (step : Calls normalize w event w')
    (foreseen : Foreseen normalize ⟨w, event, w'⟩) {call : Drew}
    (drawn : drew ⟨w, event, w'⟩ = some call) {raw : String} (given : call.turn.drawn = some raw)
    {fault : InsertFault}
    (failed : attempt call.turn w.store call.subject (normalize raw) = .error fault)
    (untaken : ¬ TakenFor w.store (normalize raw) call.subject) :
    w'.proc call.slot = some (.call call.subject (.threw (.refused (reason fault)))) := by
  obtain ⟨_, count, _, _, after⟩ := drew_moved step drawn
  cases fault with
  | other fault =>
    rw [after]
    simp only [draw, given, failed]
    rfl
  | unique =>
    obtain ⟨whole, refused⟩ := attempt_unique failed
    exact absurd (store_unique refused (foreseen call drawn whole raw given)) untaken

/-- A draw the loops do not expect returns a reference that is not stored, or does not report what
failed. -/
theorem foreseen_of (step : Calls normalize w event w')
    (stored : ∀ owner reference, returned ⟨w, event, w'⟩ = some (owner, reference) →
      storedOf w'.store owner = some reference)
    (reports : ∀ call ∈ drew ⟨w, event, w'⟩, ∀ raw ∈ call.turn.drawn, ∀ fault,
      attempt call.turn w.store call.subject (normalize raw) = .error fault →
        ¬ TakenFor w.store (normalize raw) call.subject →
          w'.proc call.slot = some (.call call.subject (.threw (.refused (reason fault))))) :
    Foreseen normalize ⟨w, event, w'⟩ := by
  intro call drawn whole raw given
  obtain ⟨acted, count, here, store', after⟩ := drew_moved step drawn
  have attempts : attempt call.turn w.store call.subject (normalize raw) =
      store w.store call.subject (normalize raw) := by
    unfold attempt
    rw [whole]
  have given : call.turn.drawn = some raw := given
  cases subject : call.subject with
  | shop merchantId =>
    intro held found
    have found : depositReferenceOf w.store merchantId = some held := found
    have nothing : setDepositReference w.store merchantId (normalize raw) = .ok w.store := by
      unfold setDepositReference
      rw [if_neg]
      · rfl
      · rw [found]
        simp
    rw [subject] at attempts store' after
    have attempted := attempts.trans nothing
    simp only [draw, given, attempted] at store' after
    have returns : returned ⟨w, event, w'⟩ = some (.shop merchantId, normalize raw) := by
      rw [acted]
      simp only [returned, after]
      rfl
    have kept := stored _ _ returns
    rw [store'] at kept
    exact Option.some.inj (found.symm.trans kept)
  | order input =>
    intro positive there
    by_contra untaken
    obtain ⟨row, mem, same⟩ := there
    have refused : insertTopupOrder w.store input (normalize raw) = .error .unique := by
      unfold insertTopupOrder
      have clash : ¬ ∀ row ∈ w.store.topupOrders, row.id ≠ input.id ∧ row.reference ≠ normalize raw :=
        fun fresh => (fresh row mem).1 same
      simp only [demand, if_pos positive, if_neg clash]
      rfl
    rw [subject] at attempts after
    have failed := attempts.trans refused
    have reported := reports call drawn raw given .unique (by rw [subject]; exact failed)
      (by rw [subject]; exact untaken)
    rw [subject, after] at reported
    simp only [draw, given, failed] at reported
    split at reported <;> cases reported

/-- What was returned is stored after every step from then on. -/
theorem stored_since (run : Run Begins (Calls normalize) past w)
    (foreseen : ∀ taken ∈ past, Foreseen normalize taken) {later earlier : List Happened}
    {taken t : Happened} (split : past = later ++ taken :: earlier)
    (returns : returned taken = some (owner, reference)) (mem : t ∈ later ++ [taken]) :
    storedOf t.after.store owner = some reference := by
  obtain ⟨newer, older, place⟩ := List.append_of_mem mem
  have whole : past = newer ++ t :: (older ++ earlier) := by
    rw [split, ← List.singleton_append, ← List.append_assoc, place, List.append_assoc]
    rfl
  have there : taken ∈ t :: (older ++ earlier) := by
    have last : taken ∈ t :: older := by
      cases older using List.reverseRecOn with
      | nil =>
        have ends := congrArg List.getLast? place
        simp at ends
        rw [ends]
        exact List.mem_cons_self
      | append_singleton older last =>
        have ends := congrArg List.getLast? place
        rw [List.getLast?_concat, ← List.cons_append, ← List.append_assoc,
          List.getLast?_concat] at ends
        rw [Option.some.inj ends]
        exact List.mem_cons_of_mem _ (List.mem_append_right _ (List.mem_singleton_self _))
    rw [← List.cons_append]
    exact List.mem_append_left _ last
  obtain ⟨before, step⟩ := Run.earlier (whole ▸ run)
  refine stored_last (.step before step) ?_ there returns
  intro other mem
  rw [whole] at foreseen
  exact foreseen other (List.mem_append_right _ mem)

/-- The references keep what they promise exactly in the runs where every draw finds its shop
without another reference, and its order's id unused. -/
theorem references_kept (run : Run Begins (Calls normalize) past w) :
    Kept normalize past ↔ ∀ taken ∈ past, Foreseen normalize taken := by
  have steps := run.taken begins_secure secure_step
  constructor
  · intro kept taken mem
    obtain ⟨later, earlier, split⟩ := List.append_of_mem mem
    refine foreseen_of (steps taken mem).2.1 ?_ ?_
    · intro owner reference returns
      exact kept.stored later taken earlier split owner reference returns taken (by simp)
    · exact kept.reports taken mem
  · intro foreseen
    constructor
    · intro later taken earlier split owner reference returns t mem
      exact stored_since run foreseen split returns mem
    · intro one mem two mem' owner first second returns returns'
      have stored := stored_last run foreseen mem returns
      have stored' := stored_last run foreseen mem' returns'
      exact Option.some.inj (stored.symm.trans stored')
    · intro one mem two mem' owner other reference returns returns' alike
      exact (run_secure run).1.sole (stored_last run foreseen mem returns)
        (stored_last run foreseen mem' returns') alike
    · intro taken mem
      exact (steps taken mem).2.2.1
    · exact draws_few run
    · intro taken mem call drawn raw given fault failed untaken
      exact failure_reported (steps taken mem).2.1 (foreseen taken mem) drawn given failed untaken

end Runs

/-- Two shops, and no reference yet. -/
def unnamedShops : DepositDb :=
  { twoShops with
    depositReferences := [], depositLookups := [], adminUsers := [], topupOrders := []
    fundingSubmissions := [] }

theorem unnamedShops_begins : Begins ⟨unnamedShops, []⟩ :=
  ⟨⟨List.nodup_nil, List.nodup_nil, List.nodup_nil, List.nodup_nil⟩, rfl⟩

/-- A call for a shop. -/
def ensures (merchantId : MerchantId) : Event CallInput Process :=
  .start (.call (.shop merchantId) .reading)

/-- A call for an order of the first shop. -/
def saves (id : String) : Event CallInput Process :=
  .start (.call (.order
    { id, merchantId := "shop", deviceId := "till", operatorId := "operator", amountMinor := 100,
      correlationId := "", createdAt := 0, expiresAt := 10 }) (.drawing 0))

/-- A call goes on, and draws a reference if it comes to that. -/
def goes (slot : Nat) (drawn : String) : Event CallInput Process :=
  .act slot ⟨some drawn, none⟩

/-- What such events make of the two shops. -/
def unnamedRun (events : List (Event CallInput Process)) : List Happened × World DepositDb Process :=
  played (World.next (calls id)) events [] ⟨unnamedShops, []⟩

theorem unnamedRun_runs {events : List (Event CallInput Process)}
    (playable : Playable (World.May (fun _ _ => True) Live) (World.next (calls id)) events
      ⟨unnamedShops, []⟩)
    (starts : ∀ process, .start process ∈ events → ∀ db, Starts db process) :
    Run Begins (Calls id) (unnamedRun events).1 (unnamedRun events).2 := by
  have opening : Run Begins (Calls id) [] ⟨unnamedShops, []⟩ := .start unnamedShops_begins
  exact opening.play Pool.next (playable_admits starts playable)

/-- Two calls for one shop, that both read before either draws. -/
def bothRead : List (Event CallInput Process) :=
  [ensures "shop", ensures "shop", goes 0 "", goes 1 "", goes 0 "ABC", goes 1 "XYZ"]

theorem bothRead_runs : Run Begins (Calls id) (unnamedRun bothRead).1 (unnamedRun bothRead).2 := by
  refine unnamedRun_runs (by decide) ?_
  intro process mem db
  simp only [bothRead, ensures, goes, List.mem_cons, Event.start.injEq, reduceCtorEq,
    List.not_mem_nil, or_false] at mem
  rcases mem with rfl | rfl <;> rfl

/-- The second of two such calls returns a reference that is not the shop's. -/
theorem second_reference_lost : ¬ ∀ normalize past w, Run Begins (Calls normalize) past w →
    Kept normalize past := by
  intro kept
  have shop := (kept id _ _ bothRead_runs).stored [] _ _ rfl (.shop "shop") "XYZ" (by decide) _
    (List.mem_singleton_self _)
  revert shop
  decide

/-- One call after another, for two shops and two orders, while orders expire. -/
def inTurn : List (Event CallInput Process) :=
  [ensures "shop", goes 0 "", goes 0 "ABC", ensures "stall", goes 1 "", goes 1 "ABC",
    goes 1 "XYZ", saves "first", goes 2 "ABC", .start (.elsewhere fun db => expireTopupOrders db 20),
    goes 3 "", ensures "shop", goes 4 "", saves "second", goes 5 "ABC", goes 5 "XYZ"]

theorem references_kept_inTurn : Kept id (unnamedRun inTurn).1 := by
  refine (references_kept (unnamedRun_runs (by decide) ?_)).mpr (by decide)
  intro process mem db
  simp only [inTurn, ensures, saves, goes, List.mem_cons, Event.start.injEq, reduceCtorEq,
    List.not_mem_nil, or_false, false_or] at mem
  rcases mem with rfl | rfl | rfl | rfl | rfl | rfl
  · rfl
  · rfl
  · rfl
  · exact leaves_expire 20
  · rfl
  · rfl

end Telga.Proofs.StandingReferences
