import Telga.Application.TenantConnections

namespace Telga.Proofs.TenantConnections
open Domain Persistence Library Application Application.TenantConnections

variable {options : TenantRouterOptions} {router : TenantRouter} {handle other : TenantHandle}
  {merchantId : MerchantId} {past : List (Taken TenantRouter RouterEvent)}

/-- At most one connection of a merchant is open, and it is the one the next call returns and the
one an eviction closes. -/
structure Solely (options : TenantRouterOptions) (router : TenantRouter) : Prop where
  alone : ∀ one ∈ router.handed, ∀ two ∈ router.handed, one.driver ∈ router.drivers →
    two.driver ∈ router.drivers → one.merchantId = two.merchantId → one = two
  next : ∀ handle ∈ router.handed, handle.driver ∈ router.drivers → ∀ opens,
    (connect options router handle.merchantId opens).2 = .ok handle
  evicts : ∀ handle ∈ router.handed, handle.driver ∈ router.drivers →
    handle.driver ∉ (evict router handle.merchantId).drivers

/-- What is promised of a router over its life. -/
structure Routes (options : TenantRouterOptions)
    (past : List (Taken TenantRouter RouterEvent)) : Prop where
  solely : ∀ t ∈ past, Solely options t.after
  evicted : ∀ t ∈ past, ∀ merchantId, t.event = .evict merchantId →
    ∀ handle ∈ t.after.handed, handle.merchantId = merchantId →
      handle.driver ∉ t.after.drivers
  closed : ∀ t ∈ past, t.event = .closeAll →
    ∀ handle ∈ t.after.handed, handle.driver ∉ t.after.drivers
  served : ∀ t ∈ past, ∀ merchantId opens handle, t.event = .connect merchantId opens →
    (connect options t.before merchantId opens).2 = .ok handle →
      handle.driver ∈ t.after.drivers ∧ handle.merchantId = merchantId ∧
        routingRefusal options merchantId (t.after.registry merchantId) = none

/-- A change of the registry after which a merchant that was served is refused. -/
def Withdraws (options : TenantRouterOptions) (merchantId : MerchantId)
    (t : Taken TenantRouter RouterEvent) : Prop :=
  (∃ registry, t.event = .register registry) ∧
    routingRefusal options merchantId (t.before.registry merchantId) = none ∧
    routingRefusal options merchantId (t.after.registry merchantId) ≠ none

def Evicts (merchantId : MerchantId) (t : Taken TenantRouter RouterEvent) : Prop :=
  t.event = .evict merchantId

/-- A merchant that was withdrawn is evicted before its next call. -/
def Evicted (options : TenantRouterOptions) (past : List (Taken TenantRouter RouterEvent)) : Prop :=
  ∀ newer t older, past = newer ++ t :: older → ∀ merchantId opens,
    t.event = .connect merchantId opens →
      ¬ Since (Withdraws options merchantId) (Evicts merchantId) older

/-- A connection is closed while it is the one that is cached for its merchant, or while none is. -/
def ClosesCurrent (t : Taken TenantRouter RouterEvent) : Prop :=
  ∀ handle, t.event = .close handle →
    ∀ cached, t.before.cache.lookup handle.merchantId = some cached → cached = handle

instance (t : Taken TenantRouter RouterEvent) : Decidable (ClosesCurrent t) :=
  match called : t.event with
  | .close handle =>
    decidable_of_iff
      (∀ cached ∈ t.before.cache.lookup handle.merchantId, cached = handle)
      ⟨fun own handle' same => by
        rw [called] at same
        cases same
        exact own,
      fun closes => closes handle called⟩
  | .connect _ _ | .evict _ | .closeAll | .register _ =>
    isTrue fun _ same => by
      rw [called] at same
      cases same

/-- What holds of a router whatever is closed: drivers are numbered, and what is cached is open. -/
structure Kept (router : TenantRouter) : Prop where
  numbered : ∀ handle ∈ router.handed, handle.driver < router.nextDriver
  apart : ∀ one ∈ router.handed, ∀ two ∈ router.handed, one.driver = two.driver → one = two
  cached : ∀ merchantId handle, router.cache.lookup merchantId = some handle →
    handle ∈ router.handed ∧ handle.merchantId = merchantId ∧ handle.driver ∈ router.drivers

/-- Every connection that is open is the one cached for its merchant. -/
def Current (router : TenantRouter) : Prop :=
  ∀ handle ∈ router.handed, handle.driver ∈ router.drivers →
    router.cache.lookup handle.merchantId = some handle

/-- A call returns what is cached, and is refused; or it opens a connection that was not there. -/
inductive Connects (options : TenantRouterOptions) (router : TenantRouter)
    (merchantId : MerchantId) :
    TenantRouter × Except RoutingFailure TenantHandle → Prop
  | cached (handle : TenantHandle) (here : router.cache.lookup merchantId = some handle) :
      Connects options router merchantId (router, .ok handle)
  | refused (failure : RoutingFailure) (missing : router.cache.lookup merchantId = none) :
      Connects options router merchantId (router, .error failure)
  | opened (handle : TenantHandle) (missing : router.cache.lookup merchantId = none)
      (served : routingRefusal options merchantId (router.registry merchantId) = none)
      (own : handle.merchantId = merchantId) (fresh : handle.driver = router.nextDriver) :
      Connects options router merchantId
        ({ router with
            cache := router.cache.put merchantId handle
            handed := handle :: router.handed
            drivers := handle.driver :: router.drivers
            nextDriver := router.nextDriver + 1 }, .ok handle)

theorem connect_cases (options : TenantRouterOptions) (router : TenantRouter)
    (merchantId : MerchantId) (opens : Bool) :
    Connects options router merchantId (connect options router merchantId opens) := by
  cases here : router.cache.lookup merchantId with
  | some handle =>
    simp only [connect, here]
    exact .cached handle here
  | none =>
    cases record : router.registry merchantId with
    | none =>
      simp only [connect, here, record, routingRefusal]
      exact .refused _ here
    | some row =>
      cases refusal : routingRefusal options merchantId (some row) with
      | some reason =>
        simp only [connect, here, record, refusal]
        exact .refused _ here
      | none =>
        cases opens with
        | false =>
          simp only [connect, here, record, refusal]
          exact .refused _ here
        | true =>
          have served : routingRefusal options merchantId (router.registry merchantId) = none := by
            rw [record]
            exact refusal
          simp only [connect, here, record, refusal, if_true]
          exact .opened ⟨⟨merchantId, fileFor options row⟩, router.nextDriver⟩ here served rfl rfl

theorem connect_cached (here : router.cache.lookup merchantId = some handle) (opens : Bool) :
    connect options router merchantId opens = (router, .ok handle) := by
  simp only [connect, here]

theorem lookup_delete_some {name : MerchantId}
    (here : (router.cache.delete merchantId).lookup name = some handle) :
    name ≠ merchantId ∧ router.cache.lookup name = some handle := by
  by_cases same : name = merchantId
  · rw [same, Entries.lookup_delete] at here
    cases here
  · rw [Entries.lookup_delete_other same] at here
    exact ⟨same, here⟩

theorem mem_close_drivers {driver : Nat} : driver ∈ (handle.close router).drivers ↔
    driver ∈ router.drivers ∧ driver ≠ handle.driver := by
  simp [TenantHandle.close]

/-- Closing keeps what is cached open: the merchant's own entry is gone, the others have other
drivers. -/
theorem Kept.close (kept : Kept router) (known : handle ∈ router.handed) :
    Kept (handle.close router) := by
  refine ⟨kept.numbered, kept.apart, ?_⟩
  intro name cached here
  obtain ⟨differs, here⟩ := lookup_delete_some here
  obtain ⟨known', own, open'⟩ := kept.cached name cached here
  refine ⟨known', own, mem_close_drivers.mpr ⟨open', fun same => ?_⟩⟩
  have equal := kept.apart cached known' handle known same
  rw [equal] at own
  exact differs own.symm

/-- Closing the connection that is cached, or one whose merchant has none, leaves every open
connection cached. -/
theorem Current.close (current : Current router)
    (own : ∀ cached, router.cache.lookup handle.merchantId = some cached → cached = handle) :
    Current (handle.close router) := by
  intro other known' open'
  obtain ⟨open', differs⟩ := mem_close_drivers.mp open'
  have here := current other known' open'
  change (router.cache.delete handle.merchantId).lookup other.merchantId = some other
  by_cases same : other.merchantId = handle.merchantId
  · rw [same] at here
    exact absurd (congrArg TenantHandle.driver (own other here)) differs
  · rw [Entries.lookup_delete_other same]
    exact here

theorem Kept.evict (kept : Kept router) (merchantId : MerchantId) :
    Kept (TenantConnections.evict router merchantId) := by
  unfold TenantConnections.evict
  cases here : router.cache.lookup merchantId with
  | none => exact kept
  | some cached => exact kept.close (kept.cached merchantId cached here).1

theorem Current.evict (current : Current router) (kept : Kept router) (merchantId : MerchantId) :
    Current (TenantConnections.evict router merchantId) := by
  unfold TenantConnections.evict
  cases here : router.cache.lookup merchantId with
  | none => exact current
  | some cached =>
    obtain ⟨_, own, _⟩ := kept.cached merchantId cached here
    apply current.close
    intro cached' here'
    rw [own, here] at here'
    exact (Option.some.inj here').symm

/-- After an eviction no connection of the merchant is open, if each that was open was cached. -/
theorem evict_closes (current : Current router) (known : handle ∈ (evict router merchantId).handed)
    (own : handle.merchantId = merchantId) :
    handle.driver ∉ (evict router merchantId).drivers := by
  unfold TenantConnections.evict at known ⊢
  cases here : router.cache.lookup merchantId with
  | none =>
    rw [here] at known
    intro open'
    have cached := current handle known open'
    rw [own, here] at cached
    cases cached
  | some cached =>
    rw [here] at known
    intro open'
    obtain ⟨open', differs⟩ := mem_close_drivers.mp open'
    have here' := current handle known open'
    rw [own, here] at here'
    exact differs (congrArg TenantHandle.driver (Option.some.inj here').symm)

section CloseAll

theorem foldl_close_handed (handles : List TenantHandle) (router : TenantRouter) :
    (handles.foldl TenantHandle.close router).handed = router.handed ∧
      (handles.foldl TenantHandle.close router).nextDriver = router.nextDriver ∧
      (handles.foldl TenantHandle.close router).registry = router.registry := by
  induction handles generalizing router with
  | nil => exact ⟨rfl, rfl, rfl⟩
  | cons handle handles ih => exact ih (handle.close router)

theorem mem_foldl_close {driver : Nat} (handles : List TenantHandle) (router : TenantRouter) :
    driver ∈ (handles.foldl TenantHandle.close router).drivers ↔
      driver ∈ router.drivers ∧ ∀ handle ∈ handles, driver ≠ handle.driver := by
  induction handles generalizing router with
  | nil => simp
  | cons handle handles ih =>
    rw [List.foldl_cons, ih, mem_close_drivers, List.forall_mem_cons, and_assoc]

theorem closeAll_handed : (closeAll router).handed = router.handed :=
  (foldl_close_handed _ router).1

theorem closeAll_next : (closeAll router).nextDriver = router.nextDriver :=
  (foldl_close_handed _ router).2.1

/-- Every connection that is open was cached, and is closed with the others. -/
theorem closeAll_closes (current : Current router) (known : handle ∈ router.handed) :
    handle.driver ∉ (closeAll router).drivers := by
  intro open'
  obtain ⟨open', others⟩ := (mem_foldl_close _ router).mp open'
  have here := current handle known open'
  have listed : handle ∈ router.cache.map Prod.snd := by
    obtain ⟨before, after, split, _⟩ := List.lookup_eq_some_iff.mp here
    rw [split]
    simp
  exact others handle listed rfl

theorem Kept.closeAll (kept : Kept router) : Kept (TenantConnections.closeAll router) := by
  refine ⟨?_, ?_, ?_⟩
  · intro handle known
    rw [closeAll_handed] at known
    rw [closeAll_next]
    exact kept.numbered handle known
  · intro one first two second
    rw [closeAll_handed] at first second
    exact kept.apart one first two second
  · intro name handle here
    cases here

theorem Current.closeAll (current : Current router) : Current (TenantConnections.closeAll router) := by
  intro handle known open'
  rw [closeAll_handed] at known
  exact absurd open' (closeAll_closes current known)

end CloseAll

section Connect

/-- A fresh driver is none that was handed out. -/
theorem Kept.fresh (kept : Kept router) (fresh : handle.driver = router.nextDriver)
    (known : other ∈ router.handed) : other.driver ≠ handle.driver := by
  have below := kept.numbered other known
  intro same
  rw [same, fresh] at below
  exact Nat.lt_irrefl _ below

theorem Kept.connect (kept : Kept router) (merchantId : MerchantId) (opens : Bool) :
    Kept (TenantConnections.connect options router merchantId opens).1 := by
  have made := connect_cases options router merchantId opens
  generalize TenantConnections.connect options router merchantId opens = result at made
  cases made with
  | cached handle here | refused failure missing => exact kept
  | opened handle missing served own fresh =>
    refine ⟨?_, ?_, ?_⟩
    · intro other known
      rcases List.mem_cons.mp known with rfl | known
      · exact Nat.lt_of_le_of_lt (Nat.le_of_eq fresh) (Nat.lt_succ_self _)
      · exact Nat.lt_succ_of_lt (kept.numbered other known)
    · intro one first two second same
      rcases List.mem_cons.mp first with new | old
      · rcases List.mem_cons.mp second with new' | old'
        · rw [new, new']
        · rw [new] at same
          exact absurd same.symm (kept.fresh fresh old')
      · rcases List.mem_cons.mp second with new' | old'
        · rw [new'] at same
          exact absurd same (kept.fresh fresh old)
        · exact kept.apart one old two old' same
    · intro name cached here
      change (router.cache.put merchantId handle).lookup name = some cached at here
      by_cases same : name = merchantId
      · rw [same, Entries.lookup_put] at here
        rw [← Option.some.inj here, same]
        exact ⟨List.mem_cons_self .., own, List.mem_cons_self ..⟩
      · rw [Entries.lookup_put_other same] at here
        obtain ⟨known, mine, open'⟩ := kept.cached name cached here
        exact ⟨List.mem_cons_of_mem _ known, mine, List.mem_cons_of_mem _ open'⟩

theorem Current.connect (current : Current router) (kept : Kept router) (merchantId : MerchantId)
    (opens : Bool) : Current (TenantConnections.connect options router merchantId opens).1 := by
  have made := connect_cases options router merchantId opens
  generalize TenantConnections.connect options router merchantId opens = result at made
  cases made with
  | cached handle here | refused failure missing => exact current
  | opened handle missing served own fresh =>
    intro other known open'
    change (router.cache.put merchantId handle).lookup other.merchantId = some other
    rcases List.mem_cons.mp known with rfl | known
    · rw [own, Entries.lookup_put]
    · rcases List.mem_cons.mp open' with same | open'
      · exact absurd same (kept.fresh fresh known)
      · have here := current other known open'
        have differs : other.merchantId ≠ merchantId := by
          intro same
          rw [same, missing] at here
          cases here
        rw [Entries.lookup_put_other differs]
        exact here

end Connect

/-- Where every open connection is cached, the next call returns it and an eviction closes it. -/
theorem Current.solely (current : Current router) : Solely options router where
  alone one first two second open' open'' same := by
    have here := current one first open'
    have here' := current two second open''
    rw [same, here'] at here
    exact (Option.some.inj here).symm
  next handle known open' opens := by
    rw [connect_cached (current handle known open') opens]
  evicts handle known open' := by
    have known' : handle ∈ (TenantConnections.evict router handle.merchantId).handed := by
      unfold TenantConnections.evict
      cases router.cache.lookup handle.merchantId with
      | none | some _ => exact known
    exact evict_closes current known' rfl

/-- A connection that was superseded takes the cached one out of the cache and leaves it open. -/
theorem superseded_lost (kept : Kept router) (known : handle ∈ router.handed)
    (here : router.cache.lookup handle.merchantId = some other) (differs : other ≠ handle) :
    ¬ Solely options (handle.close router) := by
  intro solely
  obtain ⟨known', own, open'⟩ := kept.cached _ other here
  have apart : other.driver ≠ handle.driver :=
    fun same => differs (kept.apart other known' handle known same)
  have returned := solely.next other known' (mem_close_drivers.mpr ⟨open', apart⟩) false
  have missing : (handle.close router).cache.lookup other.merchantId = none := by
    rw [own]
    exact Entries.lookup_delete
  have made := connect_cases options (handle.close router) other.merchantId false
  generalize connected : connect options (handle.close router) other.merchantId false = result
    at made returned
  cases made with
  | cached handle' here' =>
    rw [missing] at here'
    cases here'
  | refused failure missing' => cases returned
  | opened handle' missing' served own' fresh =>
    cases returned
    exact kept.fresh fresh known' rfl

theorem Kept.run (kept : Kept router) (event : RouterEvent) (happens : Happens router event) :
    Kept (event.run options router) := by
  cases event with
  | connect merchantId opens => exact kept.connect merchantId opens
  | evict merchantId => exact kept.evict merchantId
  | closeAll => exact kept.closeAll
  | close handle => exact kept.close happens
  | register registry => exact ⟨kept.numbered, kept.apart, kept.cached⟩

/-- A step that closes no superseded connection leaves every open one cached. -/
theorem Current.run (current : Current router) (kept : Kept router) (event : RouterEvent)
    (closes : ClosesCurrent ⟨router, event, event.run options router⟩) :
    Current (event.run options router) := by
  cases event with
  | connect merchantId opens => exact current.connect kept merchantId opens
  | evict merchantId => exact current.evict kept merchantId
  | closeAll => exact current.closeAll
  | close handle => exact current.close (closes handle rfl)
  | register registry => exact current

theorem closes_of_solely (kept : Kept router) {event : RouterEvent}
    (happens : Happens router event) (solely : Solely options (event.run options router)) :
    ClosesCurrent ⟨router, event, event.run options router⟩ := by
  intro handle closes cached here
  change event = .close handle at closes
  subst closes
  by_cases same : cached = handle
  · exact same
  · exact absurd solely (superseded_lost kept happens here same)

theorem fresh_kept (registry : MerchantId → Option TenantRow) :
    Kept { registry } ∧ Current { registry } := by
  refine ⟨⟨?_, ?_, ?_⟩, ?_⟩
  · intro handle known
    cases known
  · intro one first
    cases first
  · intro name handle here
    cases here
  · intro handle known
    cases known

theorem run_kept (run : TenantRun options past router) : Kept router := by
  apply run.invariant
  · intro router ⟨registry, first⟩
    rw [first]
    exact (fresh_kept registry).1
  · intro router event router' kept step
    obtain ⟨happens, rfl⟩ := step
    exact kept.run event happens

/-- Every step leaves one connection of a merchant open at most, and that one cached, exactly if no
step closes a connection that was superseded. -/
theorem solely_iff (run : TenantRun options past router) :
    (∀ t ∈ past, Solely options t.after) ↔ ∀ t ∈ past, ClosesCurrent t := by
  refine run.within_iff (J := fun router => Kept router ∧ Current router)
    (I := Solely options) ?_ ?_ ?_
  · intro router ⟨registry, first⟩
    rw [first]
    exact fresh_kept registry
  · intro router ⟨_, current⟩
    exact current.solely
  · intro router event router' ⟨kept, current⟩ step
    obtain ⟨happens, rfl⟩ := step
    exact ⟨fun closes => ⟨kept.run event happens, current.run kept event closes⟩,
      closes_of_solely kept happens⟩

/-- In a run that closes no superseded connection, each step finds every open one cached. -/
theorem current_found (run : TenantRun options past router)
    (closes : ∀ t ∈ past, ClosesCurrent t) :
    Current router ∧ ∀ t ∈ past, Current t.before ∧ t.after = t.event.run options t.before := by
  induction run with
  | start first =>
    obtain ⟨registry, rfl⟩ := first
    exact ⟨(fresh_kept registry).2, by simp⟩
  | @step past router event router' run step ih =>
    obtain ⟨happens, rfl⟩ := step
    obtain ⟨now, earlier⟩ := List.forall_mem_cons.mp closes
    obtain ⟨current, found⟩ := ih earlier
    exact ⟨current.run (run_kept run) event now,
      List.forall_mem_cons.mpr ⟨⟨current, rfl⟩, found⟩⟩

/-- A connection that is cached for a merchant that is refused was withdrawn since, and not evicted:
it is opened for a merchant that is served. -/
theorem cached_withdrawn (run : TenantRun options past router)
    (here : router.cache.lookup merchantId = some handle)
    (refused : routingRefusal options merchantId (router.registry merchantId) ≠ none) :
    Since (Withdraws options merchantId) (Evicts merchantId) past := by
  induction run generalizing handle with
  | start first =>
    obtain ⟨registry, rfl⟩ := first
    cases here
  | @step past router event router' run step ih =>
    obtain ⟨happens, rfl⟩ := step
    have kept := run_kept run
    cases event with
    | connect name opens =>
      have lasts : ∀ router', ¬ Evicts merchantId ⟨router, .connect name opens, router'⟩ := by
        intro _ evicts
        cases evicts
      have made := connect_cases options router name opens
      simp only [RouterEvent.run] at here refused ⊢
      generalize connect options router name opens = result at made here refused ⊢
      cases made with
      | cached _ _ => exact (ih here refused).later (lasts _)
      | refused _ _ => exact (ih here refused).later (lasts _)
      | opened opened missing served own fresh =>
        change (router.cache.put name opened).lookup merchantId = some handle at here
        by_cases same : merchantId = name
        · rw [← same] at served
          exact absurd served refused
        · rw [Entries.lookup_put_other same] at here
          exact (ih here refused).later (lasts _)
    | evict name =>
      have differs : name ≠ merchantId ∧ router.cache.lookup merchantId = some handle ∧
          (evict router name).registry = router.registry := by
        simp only [RouterEvent.run, evict] at here ⊢
        cases found : router.cache.lookup name with
        | none =>
          simp only [found] at here ⊢
          refine ⟨?_, here, by trivial⟩
          intro same
          rw [same, here] at found
          cases found
        | some cached =>
          simp only [found] at here ⊢
          obtain ⟨apart, here⟩ := lookup_delete_some here
          rw [(kept.cached name cached found).2.1] at apart
          exact ⟨Ne.symm apart, here, by trivial⟩
      obtain ⟨apart, here, same⟩ := differs
      change routingRefusal options merchantId ((evict router name).registry merchantId) ≠ none
        at refused
      rw [same] at refused
      refine (ih here refused).later ?_
      intro evicts
      exact apart (RouterEvent.evict.inj evicts)
    | closeAll => cases here
    | close closed =>
      obtain ⟨_, here⟩ := lookup_delete_some here
      refine (ih here refused).later ?_
      intro evicts
      cases evicts
    | register registry =>
      by_cases served : routingRefusal options merchantId (router.registry merchantId) = none
      · exact .now ⟨⟨registry, rfl⟩, served, refused⟩
      · refine (ih here served).later ?_
        intro evicts
        cases evicts

/-- Where a merchant that is withdrawn is evicted before its next call, every connection handed out
is open, and its merchant is one that may be served. -/
theorem served_open (run : TenantRun options past router) (evicted : Evicted options past) :
    ∀ t ∈ past, ∀ merchantId opens handle, t.event = .connect merchantId opens →
      (connect options t.before merchantId opens).2 = .ok handle →
        handle.driver ∈ t.after.drivers ∧ handle.merchantId = merchantId ∧
          routingRefusal options merchantId (t.after.registry merchantId) = none := by
  intro t mem merchantId opens handle called returned
  obtain ⟨newer, older, rfl⟩ := List.append_of_mem mem
  obtain ⟨before, step⟩ := run.earlier
  obtain ⟨_, after⟩ := step
  rw [called] at after
  rw [after]
  simp only [RouterEvent.run]
  have made := connect_cases options t.before merchantId opens
  have kept := run_kept before
  generalize connect options t.before merchantId opens = result at made returned ⊢
  cases made with
  | refused _ _ => cases returned
  | cached cached here =>
    cases returned
    obtain ⟨_, own, open'⟩ := kept.cached merchantId handle here
    refine ⟨open', own, ?_⟩
    by_cases served : routingRefusal options merchantId (t.before.registry merchantId) = none
    · exact served
    · exact absurd (cached_withdrawn before here served)
        (evicted newer t older rfl merchantId opens called)
  | opened opened missing served own fresh =>
    cases returned
    exact ⟨List.mem_cons_self .., own, served⟩

/-- A router keeps one connection a merchant, hands out open ones of merchants that may be served
and leaves none open behind it, exactly if no connection is closed after it was superseded. -/
theorem routes_iff (run : TenantRun options past router) (evicted : Evicted options past) :
    Routes options past ↔ ∀ t ∈ past, ClosesCurrent t := by
  constructor
  · intro routes
    exact (solely_iff run).mp routes.solely
  · intro closes
    obtain ⟨_, found⟩ := current_found run closes
    refine ⟨(solely_iff run).mpr closes, ?_, ?_, served_open run evicted⟩
    · intro t mem merchantId called handle known own
      obtain ⟨current, after⟩ := found t mem
      rw [called] at after
      rw [after] at known ⊢
      exact evict_closes current known own
    · intro t mem called handle known
      obtain ⟨current, after⟩ := found t mem
      rw [called] at after
      rw [after] at known ⊢
      change handle ∈ (closeAll t.before).handed at known
      rw [closeAll_handed] at known
      exact closeAll_closes current known

/-- Calls on one router, one after another. -/
theorem played_run {registry : MerchantId → Option TenantRow} {events : List RouterEvent}
    (playable : Playable Happens (fun router event => event.run options router) events
      { registry }) :
    TenantRun options (played (fun router event => event.run options router) events []
        { registry }).1
      (played (fun router event => event.run options router) events [] { registry }).2 := by
  have began : TenantRun options [] { registry } := .start ⟨registry, rfl⟩
  exact began.play (fun _ _ happens => ⟨happens, rfl⟩) playable

/-- A router for ids that are lower case already. -/
def plainRouter : TenantRouterOptions where
  toLowerCase text := text
  root := "shops"
  schemaVersion := "1"
  join := defaultJoin
  joins := defaultJoin_joins

/-- A registry with one shop, that may be served. -/
def oneShop (merchantId : MerchantId) : Option TenantRow :=
  if merchantId = "shop" then
    some { merchantId, databaseName := "shop.sqlite", schemaVersion := "1", status := .active
           createdAt := 0, updatedAt := 0 }
  else none

def firstHandle : TenantHandle :=
  { merchantId := "shop", file := "shops/shop.sqlite.sqlite", driver := 0 }

/-- A connection is evicted and opened anew, and whoever held the first one closes it then. -/
def closedLate : List RouterEvent :=
  [.connect "shop" true, .evict "shop", .connect "shop" true, .close firstHandle]

/-- Where the registry does not change, no merchant is withdrawn. -/
theorem evicted_of_unchanged {registry : MerchantId → Option TenantRow} {events : List RouterEvent}
    (unchanged : ∀ event ∈ events, ∀ registry', event ≠ .register registry') :
    Evicted options (played (fun router event => event.run options router) events []
      { registry }).1 := by
  intro newer t older split merchantId opens _ since
  obtain ⟨newer', last, older', split', withdraws, _⟩ := since
  obtain ⟨⟨registry', changed⟩, _⟩ := withdraws
  have mem : last ∈ newer ++ t :: older := by
    rw [split']
    simp
  rw [← split] at mem
  rcases played_event mem with none | listed
  · cases none
  · exact unchanged _ listed registry' changed

theorem late_close_forgets : ¬ ∀ options past router, TenantRun options past router →
    Evicted options past → Routes options past := by
  intro always
  have run := @played_run plainRouter oneShop closedLate (by decide +kernel)
  have evicted := @evicted_of_unchanged plainRouter oneShop closedLate (by simp [closedLate])
  have solely := (always _ _ _ run evicted).solely _ (List.mem_cons_self ..)
  have returned := solely.next { firstHandle with driver := 1 } (by decide +kernel)
    (by decide +kernel) false
  revert returned
  decide +kernel

/-- The same, the first connection closed by its eviction only. -/
theorem routes_evicted : Routes plainRouter
    (played (fun router event => event.run plainRouter router)
      [.connect "shop" true, .evict "shop", .close firstHandle, .connect "shop" true] []
      { registry := oneShop }).1 := by
  apply (routes_iff (played_run (by decide +kernel)) (evicted_of_unchanged (by simp))).mpr
  decide +kernel

end Telga.Proofs.TenantConnections
