import Mathlib.Data.List.Induction
import Telga.Persistence.Fees

namespace Telga.Proofs.ProviderRates
open Domain Persistence Library

/-- The stored rates, and what was saved to get there, the latest first. -/
structure Book where
  db : Db
  saved : List ProviderRateInput

/-- One call of `saveProviderRate`. A refused one leaves everything as it was. -/
def Book.save (book : Book) (input : ProviderRateInput) : Book :=
  match saveProviderRate book.db input with
  | .ok db => ⟨db, input :: book.saved⟩
  | .error _ => book

def history (db : Db) (calls : List ProviderRateInput) : Book :=
  calls.foldl Book.save ⟨db, []⟩

/-- The rate saved last for a provider and a product, or for all of its products. -/
def lastSaved (saved : List ProviderRateInput) (providerId : ProviderId)
    (productType : Option ProductId) : Option Bps :=
  (saved.find? fun input => input.providerId = providerId ∧ input.productType = productType).map
    (·.commissionBps)

/-- The rate that should apply: the product's, else the one for all products, else the platform's. -/
def governingBps (saved : List ProviderRateInput) (default : Bps) (providerId : Option ProviderId)
    (productType : ProductId) : Int :=
  ((providerId.bind fun provider =>
    lastSaved saved provider (some productType) <|> lastSaved saved provider none).getD default).value

/-- A rate says nothing about another provider, and one for a product nothing about another. -/
def Beside (input : ProviderRateInput) (providerId : Option ProviderId) (productType : ProductId) :
    Prop :=
  providerId ≠ some input.providerId ∨ ∃ other ∈ input.productType, other ≠ productType

/-- Saving succeeds, every rate that applies afterwards is the one that should, and what the saved
rate says nothing about is unaffected. -/
def Governs (book : Book) (input : ProviderRateInput) : Prop :=
  ∃ db, saveProviderRate book.db input = .ok db ∧
    (∀ providerId productType, effectiveCommissionBps db providerId productType =
      governingBps (input :: book.saved) book.db.platformFeeSettings.defaultCommissionBps providerId
        productType) ∧
    ∀ providerId productType, Beside input providerId productType →
      effectiveCommissionBps db providerId productType =
        effectiveCommissionBps book.db providerId productType

/-- The rates of one provider and one product, or of all of its products. -/
def rateFor (providerId : ProviderId) (productType : Option ProductId)
    (rate : ProviderCommissionRate) : Bool :=
  decide (rate.providerId = providerId ∧ rate.productType = productType)

def storedBps (db : Db) (providerId : ProviderId) (productType : Option ProductId) : Option Bps :=
  (db.providerCommissionRates.find? (rateFor providerId productType)).map (·.commissionBps)

theorem effective_stored (db : Db) (providerId : Option ProviderId) (productType : ProductId) :
    effectiveCommissionBps db providerId productType =
      ((providerId.bind fun provider =>
        storedBps db provider (some productType) <|> storedBps db provider none).getD
          db.platformFeeSettings.defaultCommissionBps).value := by
  cases providerId with
  | none => rfl
  | some provider =>
    have told : effectiveCommissionBps db (some provider) productType =
        ((db.providerCommissionRates.find? (rateFor provider (some productType)) <|>
          db.providerCommissionRates.find? (rateFor provider none)).map (·.commissionBps.value)).getD
          db.platformFeeSettings.defaultCommissionBps.value := by
      simp only [effectiveCommissionBps]
      split
      all_goals
        rename_i found
        change (db.providerCommissionRates.find? (rateFor provider (some productType)) <|>
          db.providerCommissionRates.find? (rateFor provider none)) = _ at found
        rw [found]
        rfl
    rw [told]
    simp only [storedBps, Option.bind_some]
    cases db.providerCommissionRates.find? (rateFor provider (some productType)) with
    | some rate => rfl
    | none => cases db.providerCommissionRates.find? (rateFor provider none) with
      | some rate | none => rfl

theorem lastSaved_cons (input : ProviderRateInput) (saved : List ProviderRateInput)
    (providerId : ProviderId) (productType : Option ProductId) :
    lastSaved (input :: saved) providerId productType =
      if input.providerId = providerId ∧ input.productType = productType then
        some input.commissionBps
      else lastSaved saved providerId productType := by
  unfold lastSaved
  rw [List.find?_cons]
  by_cases same : input.providerId = providerId ∧ input.productType = productType
  · simp [same]
  · simp [same]

/-- A rate is stored where it was saved, and every other one is stored as it was. -/
structure Stores (db db' : Db) (input : ProviderRateInput) : Prop where
  fees : db'.platformFeeSettings = db.platformFeeSettings
  ids : ∀ row ∈ db'.providerCommissionRates,
    row.id = input.id ∨ Present (·.id) row.id db.providerCommissionRates
  rates : ∀ providerId productType, storedBps db' providerId productType =
    if input.providerId = providerId ∧ input.productType = productType then
      some input.commissionBps
    else storedBps db providerId productType

theorem stored_some {db : Db} :
    storedBps db providerId productType ≠ none ↔
      db.providerCommissionRates.any (rateFor providerId productType) = true := by
  rw [storedBps, ne_eq, Option.map_eq_none_iff, List.find?_eq_none, List.any_eq_true]
  simp

theorem rateFor_other {rate : ProviderCommissionRate} (same : rateFor provider product rate = true)
    (other : ¬ (provider = providerId ∧ product = productType)) :
    rateFor providerId productType rate = false := by
  simp only [rateFor, decide_eq_true_eq] at same
  obtain ⟨rfl, rfl⟩ := same
  exact decide_eq_false other

/-- A second rate for a product takes the place of the first. -/
theorem saveProviderRate_replaces {db : Db} {input : ProviderRateInput}
    (product : input.productType ≠ none)
    (stored : storedBps db input.providerId input.productType ≠ none) :
    ∃ db', saveProviderRate db input = .ok db' ∧ Stores db db' input := by
  have there := stored_some.mp stored
  refine ⟨_, if_pos ⟨product, there⟩, rfl, ?_, ?_⟩
  · intro row mem
    obtain ⟨old, there, rfl⟩ := mem_update.mp mem
    refine .inr ⟨old, there, ?_⟩
    split <;> rfl
  · intro providerId productType
    have found := @find?_update _ (rateFor input.providerId input.productType)
      (rateFor providerId productType)
      (fun rate => { rate with commissionBps := input.commissionBps })
      db.providerCommissionRates (fun _ => rfl)
    simp only [storedBps]
    change Option.map _ ((update (rateFor input.providerId input.productType) _ _).find? _) = _
    rw [found, Option.map_map]
    by_cases same : input.providerId = providerId ∧ input.productType = productType
    · obtain ⟨rfl, rfl⟩ := same
      rw [if_pos ⟨rfl, rfl⟩]
      cases first : db.providerCommissionRates.find? (rateFor input.providerId input.productType) with
      | none => exact absurd (by simp [storedBps, first]) stored
      | some rate =>
        have hit := List.find?_some first
        simp [hit]
    · rw [if_neg same]
      refine Option.map_congr fun rate there => ?_
      cases hit : rateFor input.providerId input.productType rate with
      | false => simp [hit]
      | true =>
        have wanted := List.find?_some there
        rw [rateFor_other hit same] at wanted
        cases wanted

/-- The row of a rate that is new. -/
def rateRow (input : ProviderRateInput) : ProviderCommissionRate :=
  { id := input.id, providerId := input.providerId, productType := input.productType,
    commissionBps := input.commissionBps }

/-- A first rate is added. -/
theorem saveProviderRate_adds {db : Db} {input : ProviderRateInput}
    (fresh : ¬ Present (·.id) input.id db.providerCommissionRates)
    (none : storedBps db input.providerId input.productType = none) :
    ∃ db', saveProviderRate db input = .ok db' ∧ Stores db db' input := by
  have absent : db.providerCommissionRates.any (rateFor input.providerId input.productType) = false := by
    by_contra there
    rw [Bool.not_eq_false] at there
    exact stored_some.mpr there none
  have step : saveProviderRate db input =
      .ok { db with providerCommissionRates := db.providerCommissionRates ++ [rateRow input] } := by
    unfold saveProviderRate
    change (if input.productType ≠ .none ∧
      db.providerCommissionRates.any (rateFor input.providerId input.productType) = true then _
      else _) = _
    rw [if_neg (by simp [absent])]
    simp only [bind_ok, demand_ok, pure_ok]
    exact ⟨(), absent, (), fresh, rfl⟩
  refine ⟨_, step, rfl, ?_, ?_⟩
  · intro row mem
    rcases List.mem_append.mp mem with old | new
    · exact .inr ⟨row, old, rfl⟩
    · exact .inl (by rw [List.mem_singleton.mp new]; rfl)
  · intro providerId productType
    simp only [storedBps, List.find?_append, List.find?_cons, List.find?_nil]
    by_cases same : input.providerId = providerId ∧ input.productType = productType
    · obtain ⟨rfl, rfl⟩ := same
      rw [storedBps, Option.map_eq_none_iff] at none
      simp [none, rateFor, rateRow]
    · have misses : rateFor providerId productType (rateRow input) = false := decide_eq_false same
      simp [misses, same]

/-- A second rate for all of a provider's products is refused. -/
theorem saveProviderRate_refuses {db : Db} {input : ProviderRateInput}
    (all : input.productType = none)
    (stored : storedBps db input.providerId input.productType ≠ none) (db' : Db) :
    saveProviderRate db input ≠ .ok db' := by
  have there := stored_some.mp stored
  intro done
  change (if input.productType ≠ .none ∧ _ then _ else _) = _ at done
  rw [if_neg (by simp [all])] at done
  simp only [bind_ok, demand_ok] at done
  obtain ⟨_, absent, _⟩ := done
  exact absurd (there.symm.trans absent) (by decide)

/-- The stored rates are the ones saved last, and the ids stored are ids of the calls made. -/
structure Kept (calls : List ProviderRateInput) (book : Book) : Prop where
  stored : ∀ providerId productType,
    storedBps book.db providerId productType = lastSaved book.saved providerId productType
  ids : ∀ row ∈ book.db.providerCommissionRates, row.id ∈ calls.map (·.id)
  general : ∀ providerId, storedBps book.db providerId none ≠ none ↔
    ∃ call ∈ calls, call.providerId = providerId ∧ call.productType = none

theorem Kept.fresh {input : ProviderRateInput} (kept : Kept calls book) (new : input.id ∉ calls.map (·.id)) :
    ¬ Present (·.id) input.id book.db.providerCommissionRates := by
  intro ⟨row, mem, same⟩
  exact new (same ▸ kept.ids row mem)

/-- A call is kept exactly when it does not repeat a rate for all of a provider's products. -/
theorem Kept.saves {input : ProviderRateInput} (kept : Kept calls book) (new : input.id ∉ calls.map (·.id)) :
    (∃ db, saveProviderRate book.db input = .ok db ∧ Stores book.db db input) ∧
      (input.productType ≠ none ∨ storedBps book.db input.providerId none = none) ∨
    (∀ db, saveProviderRate book.db input ≠ .ok db) ∧
      input.productType = none ∧ storedBps book.db input.providerId none ≠ none := by
  by_cases stored : storedBps book.db input.providerId input.productType = none
  · refine .inl ⟨saveProviderRate_adds (kept.fresh new) stored, ?_⟩
    by_cases all : input.productType = none
    · rw [all] at stored
      exact .inr stored
    · exact .inl all
  · by_cases all : input.productType = none
    · refine .inr ⟨saveProviderRate_refuses all stored, all, ?_⟩
      rw [all] at stored
      exact stored
    · exact .inl ⟨saveProviderRate_replaces all stored, .inl all⟩

theorem Kept.save {input : ProviderRateInput} (kept : Kept calls book) (new : input.id ∉ calls.map (·.id)) :
    Kept (calls ++ [input]) (book.save input) := by
  have earlier : ∀ providerId, (∃ call ∈ calls ++ [input], call.providerId = providerId ∧
      call.productType = none) ↔
      (∃ call ∈ calls, call.providerId = providerId ∧ call.productType = none) ∨
        input.providerId = providerId ∧ input.productType = none := by
    intro providerId
    simp only [List.mem_append, List.mem_singleton, or_and_right, exists_or, exists_eq_left]
  rcases kept.saves new with ⟨⟨db, done, stores⟩, _⟩ | ⟨refused, all, stored⟩
  · have next : book.save input = ⟨db, input :: book.saved⟩ := by simp only [Book.save, done]
    rw [next]
    refine ⟨?_, ?_, ?_⟩
    · intro providerId productType
      rw [stores.rates, lastSaved_cons, kept.stored]
    · intro row mem
      rw [List.map_append]
      rcases stores.ids row mem with same | ⟨old, there, same⟩
      · exact List.mem_append_right _ (by simp [same])
      · exact List.mem_append_left _ (same ▸ kept.ids old there)
    · intro providerId
      rw [stores.rates, earlier, ← kept.general]
      by_cases same : input.providerId = providerId ∧ input.productType = none
      · simp [same]
      · simp [same]
  · have next : book.save input = book := by
      unfold Book.save
      cases outcome : saveProviderRate book.db input with
      | ok db => exact absurd outcome (refused db)
      | error fault => rfl
    rw [next]
    refine ⟨kept.stored, fun row mem => ?_, fun providerId => ?_⟩
    · rw [List.map_append]
      exact List.mem_append_left _ (kept.ids row mem)
    · rw [kept.general, earlier]
      constructor
      · exact .inl
      · rintro (before | ⟨rfl, _⟩)
        · exact before
        · exact (kept.general _).mp stored

/-- What the calls of a history leave stored. -/
theorem history_kept {db : Db} (unrated : db.providerCommissionRates = [])
    {calls : List ProviderRateInput} (ids : (calls.map (·.id)).Nodup) :
    Kept calls (history db calls) := by
  induction calls using List.reverseRecOn with
  | nil =>
    refine ⟨fun providerId productType => ?_, ?_, fun providerId => ?_⟩
    · simp [history, storedBps, lastSaved, unrated]
    · simp [history, unrated]
    · simp [history, storedBps, unrated]
  | append_singleton calls input ih =>
    rw [List.map_append, List.map_singleton] at ids
    have apart := List.nodup_append.mp ids
    have new : input.id ∉ calls.map (·.id) := fun mem =>
      apart.2.2 _ mem _ (List.mem_singleton_self _) rfl
    have same : history db (calls ++ [input]) = (history db calls).save input := by
      simp [history, List.foldl_append]
    rw [same]
    exact (ih apart.1).save new

theorem Kept.governs (kept : Kept calls book) (stores : Stores book.db db input) :
    (∀ providerId productType, effectiveCommissionBps db providerId productType =
      governingBps (input :: book.saved) book.db.platformFeeSettings.defaultCommissionBps providerId
        productType) ∧
    ∀ providerId productType, Beside input providerId productType →
      effectiveCommissionBps db providerId productType =
        effectiveCommissionBps book.db providerId productType := by
  constructor
  · intro providerId productType
    rw [effective_stored, stores.fees]
    cases providerId with
    | none => rfl
    | some provider =>
      simp only [governingBps, Option.bind_some, stores.rates, lastSaved_cons, kept.stored]
  · intro providerId productType beside
    rw [effective_stored, effective_stored, stores.fees]
    cases providerId with
    | none => rfl
    | some provider =>
      simp only [Option.bind_some]
      rcases beside with elsewhere | ⟨other, there, apart⟩
      · have misses : ¬ input.providerId = provider := fun same => elsewhere (by rw [same])
        rw [stores.rates, stores.rates, if_neg fun hit => misses hit.1,
          if_neg fun hit => misses hit.1]
      · have product : input.productType = some other := there
        rw [stores.rates, stores.rates, product, if_neg fun hit => apart (Option.some.inj hit.2),
          if_neg fun hit => nomatch hit.2]

/-- After any history of calls, saving a rate does what it should exactly when it is for one product,
or the first for all of the provider's products. -/
theorem rate_governs_iff (db : Db) (unrated : db.providerCommissionRates = [])
    (calls : List ProviderRateInput) (input : ProviderRateInput)
    (ids : ((calls ++ [input]).map (·.id)).Nodup) :
    Governs (history db calls) input ↔
      (input.productType = none →
        ∀ call ∈ calls, call.productType = none → call.providerId ≠ input.providerId) := by
  rw [List.map_append, List.map_singleton] at ids
  have apart := List.nodup_append.mp ids
  have new : input.id ∉ calls.map (·.id) := fun mem =>
    apart.2.2 _ mem _ (List.mem_singleton_self _) rfl
  have kept := history_kept unrated apart.1
  rcases kept.saves new with ⟨⟨db', done, stores⟩, first⟩ | ⟨refused, all, stored⟩
  · refine iff_of_true ⟨db', done, kept.governs stores⟩ ?_
    intro all call mem general same
    rcases first with product | none
    · exact product all
    · exact (kept.general _).mpr ⟨call, mem, same, general⟩ none
  · obtain ⟨call, mem, same, general⟩ := (kept.general _).mp stored
    refine iff_of_false ?_ fun first => first all call mem general same
    rintro ⟨db', done, _⟩
    exact refused db' done

/-- A provider pays three per cent on everything, then four. -/
def raised (id : String) (value : Int) (valid : ValidBps value) : ProviderRateInput :=
  { id, providerId := "provider", productType := none, commissionBps := ⟨value, valid⟩ }

theorem rate_governs_first :
    Governs (history migrated []) (raised "first" 300 (by decide)) :=
  (rate_governs_iff migrated rfl [] (raised "first" 300 (by decide)) (by decide)).mpr (by simp)

theorem second_rate_refused :
    ¬ ∀ (calls : List ProviderRateInput) (input : ProviderRateInput),
      ((calls ++ [input]).map (·.id)).Nodup → Governs (history migrated calls) input := by
  intro always
  obtain ⟨db, done, _⟩ := always [raised "first" 300 (by decide)] (raised "second" 400 (by decide))
    (by decide)
  exact saveProviderRate_refuses rfl (by decide +kernel) db done

end Telga.Proofs.ProviderRates
