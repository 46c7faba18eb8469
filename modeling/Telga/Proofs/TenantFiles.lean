import Telga.Application.TenantRouting

namespace Telga.Proofs
open Domain Persistence Application Library

/-- What a merchant id is folded to before it becomes a file name. -/
def foldedId (toLowerCase : String → String) (merchantId : MerchantId) : String :=
  toLowerCase (trim merchantId)

/-- Calls made to one router, each with the registry row it finds. -/
abbrev RouterRun (options : TenantRouterOptions) :=
  Run (· = []) fun cache (call : RouterCall) cache' => cache' = (call.run options cache).1

/-- The connection a call returned. -/
def routed (options : TenantRouterOptions) (taken : Taken (List TenantConnection) RouterCall) :
    Option TenantConnection :=
  (taken.event.run options taken.before).2

/-- What is promised of the tenants' files: names that are accepted differ where the merchants do,
the router opens the file its registry row names, and no file serves two merchants. -/
structure TenantsFound (options : TenantRouterOptions)
    (past : List (Taken (List TenantConnection) RouterCall)) : Prop where
  names : ∀ one two name name', one ≠ two →
    databaseNameFor options.toLowerCase one = some name →
    databaseNameFor options.toLowerCase two = some name' → name ≠ name'
  files : ∀ taken ∈ past, ∀ merchantId record opens,
    taken.event = .connect merchantId (some record) opens →
    ∀ connection ∈ routed options taken, ∀ file ∈ tenantFileName record,
      connection.file = options.join options.root file
  apart : ∀ one ∈ past, ∀ connection ∈ routed options one,
    ∀ two ∈ past, ∀ connection' ∈ routed options two,
      connection.merchantId ≠ connection'.merchantId → connection.file ≠ connection'.file

theorem databaseNameFor_some
    (named : databaseNameFor toLowerCase merchantId = some name) :
    name = foldedId toLowerCase merchantId ++ ".sqlite" ∧
      (foldedId toLowerCase merchantId).toList.all isSafe = true := by
  unfold databaseNameFor at named
  simp only [Option.ite_none_right_eq_some, Option.some.injEq] at named
  obtain ⟨⟨_, safe⟩, rfl⟩ := named
  exact ⟨rfl, safe⟩

theorem sqlite_inj {name name' : String} (same : name ++ ".sqlite" = name' ++ ".sqlite") :
    name = name' := by
  have chars := congrArg String.toList same
  rw [String.toList_append, String.toList_append] at chars
  exact String.toList_inj.mp (List.append_cancel_right chars)

/-- Two accepted merchants have one database name exactly if their ids fold to one text. -/
theorem names_iff (first : databaseNameFor toLowerCase one = some name)
    (second : databaseNameFor toLowerCase two = some name') :
    name ≠ name' ↔ foldedId toLowerCase one ≠ foldedId toLowerCase two := by
  rw [(databaseNameFor_some first).1, (databaseNameFor_some second).1]
  refine not_congr ⟨sqlite_inj, fun same => by rw [same]⟩

theorem tenantFileName_some (named : tenantFileName record = some file) :
    ∃ base, file = base ++ ".sqlite" ∧ base.toList.all isSafe = true := by
  unfold tenantFileName at named
  simp only [Option.ite_none_right_eq_some, Option.some.injEq] at named
  obtain ⟨⟨_, safe⟩, rfl⟩ := named
  exact ⟨_, rfl, safe⟩

/-- A merchant that is served is accepted, and its row is named as the merchant is. -/
theorem served_named (serves : routingRefusal options merchantId (some record) = none) :
    databaseNameFor options.toLowerCase merchantId = some record.databaseName := by
  unfold routingRefusal at serves
  simp only [] at serves
  split at serves
  · cases serves
  · rename_i expected named
    split at serves
    · cases serves
    · rename_i same
      rw [named, ← Decidable.not_not.mp same]

/-- The file of a merchant has its extension twice. -/
def Doubled (options : TenantRouterOptions) (connection : TenantConnection) : Prop :=
  ∃ name, databaseNameFor options.toLowerCase connection.merchantId = some name ∧
    connection.file = options.join options.root (name ++ ".sqlite")

theorem connectTenant_doubled (options : TenantRouterOptions) {cache : List TenantConnection}
    (merchantId : MerchantId) (record : Option TenantRow) (opens : Bool)
    (doubled : ∀ held ∈ cache, Doubled options held) :
    (∀ held ∈ (connectTenant options cache merchantId record opens).1, Doubled options held) ∧
    ∀ connection, (connectTenant options cache merchantId record opens).2 = .ok connection →
      Doubled options connection := by
  unfold connectTenant
  cases found : cache.find? fun held => held.merchantId = merchantId with
  | some held =>
    refine ⟨doubled, fun connection same => ?_⟩
    cases same
    exact doubled held (List.mem_of_find?_eq_some found)
  | none =>
    cases serves : routingRefusal options merchantId record with
    | some refusal => exact ⟨doubled, fun connection same => by cases same⟩
    | none =>
      cases record with
      | none => exact ⟨doubled, fun connection same => by cases same⟩
      | some record =>
        cases opens with
        | false => exact ⟨doubled, fun connection same => by cases same⟩
        | true =>
          have new : Doubled options ⟨merchantId, fileFor options record⟩ :=
            ⟨record.databaseName, served_named serves, rfl⟩
          refine ⟨fun held mem => ?_, fun connection same => ?_⟩
          · rcases List.mem_append.mp mem with mem | mem
            · exact doubled held mem
            · rw [List.mem_singleton.mp mem]
              exact new
          · cases same
            exact new

theorem run_doubled (options : TenantRouterOptions) {cache : List TenantConnection}
    (call : RouterCall) (doubled : ∀ held ∈ cache, Doubled options held) :
    (∀ held ∈ (call.run options cache).1, Doubled options held) ∧
    ∀ connection ∈ (call.run options cache).2, Doubled options connection := by
  cases call with
  | connect merchantId record opens =>
    obtain ⟨kept, returned⟩ := connectTenant_doubled options merchantId record opens doubled
    refine ⟨kept, fun connection mem => returned connection ?_⟩
    simp only [RouterCall.run] at mem
    cases result : (connectTenant options cache merchantId record opens).2 with
    | error failure => simp [result, Except.toOption] at mem
    | ok held =>
      simp only [result, Except.toOption, Option.mem_def, Option.some.injEq] at mem
      rw [mem]
  | close merchantId =>
    exact ⟨fun held mem => doubled held (List.mem_filter.mp mem).1, by simp [RouterCall.run]⟩
  | closeAll => exact ⟨by simp [RouterCall.run], by simp [RouterCall.run]⟩

theorem routed_doubled (run : RouterRun options past cache) :
    ∀ taken ∈ past, ∀ connection ∈ routed options taken, Doubled options connection := by
  have all := run.taken (I := fun cache => ∀ held ∈ cache, Doubled options held)
    (by rintro _ rfl held ⟨⟩) (by
      rintro cache call _ doubled rfl
      exact (run_doubled options call doubled).1)
  intro taken mem connection
  exact (run_doubled options taken.event (all taken mem).1).2 connection

/-- The file the router opens is not the file any registry row names. -/
theorem doubled_elsewhere {connection : TenantConnection} (doubled : Doubled options connection)
    (record : TenantRow) (file : String) (named : tenantFileName record = some file) :
    connection.file ≠ options.join options.root file := by
  intro same
  obtain ⟨name, own, opened⟩ := doubled
  obtain ⟨base, rfl, safe⟩ := tenantFileName_some named
  have twice : name = base := sqlite_inj (options.joins _ _ _ (opened.symm.trans same))
  obtain ⟨rfl, _⟩ := databaseNameFor_some own
  rw [← twice, String.toList_append, List.all_append, Bool.and_eq_true] at safe
  exact absurd safe.2 (by decide)

/-- Two accepted names differ exactly if their merchants' ids fold to different texts, and so do the
files two merchants are served from; and no file that is opened is the one that a registry row
names. -/
theorem tenants_found_iff (options : TenantRouterOptions) :
    (∀ one two name name',
      databaseNameFor options.toLowerCase one = some name →
      databaseNameFor options.toLowerCase two = some name' →
      (name ≠ name' ↔ foldedId options.toLowerCase one ≠ foldedId options.toLowerCase two)) ∧
    ∀ past cache, RouterRun options past cache →
      ∀ taken ∈ past, ∀ connection ∈ routed options taken,
        (∀ record file, tenantFileName record = some file →
          connection.file ≠ options.join options.root file) ∧
        ∀ other ∈ past, ∀ connection' ∈ routed options other,
          (connection.file ≠ connection'.file ↔
            foldedId options.toLowerCase connection.merchantId ≠
              foldedId options.toLowerCase connection'.merchantId) := by
  refine ⟨fun one two name name' first second => names_iff first second, ?_⟩
  intro past cache run taken mem connection returned
  have doubled := routed_doubled run taken mem connection returned
  refine ⟨doubled_elsewhere doubled, fun other mem' connection' returned' => ?_⟩
  obtain ⟨name, own, opened⟩ := doubled
  obtain ⟨name', own', opened'⟩ := routed_doubled run other mem' connection' returned'
  rw [← names_iff own own', opened, opened']
  exact not_congr ⟨fun same => sqlite_inj (options.joins _ _ _ same), fun same => by rw [same]⟩


/-- A router for ASCII ids. -/
def plainRouter : TenantRouterOptions where
  toLowerCase text := String.ofList (text.toList.map Char.toLower)
  root := "shops"
  schemaVersion := "1"
  join := defaultJoin
  joins := defaultJoin_joins

/-- The registry row of a shop that was provisioned. -/
def provisionedRow : TenantRow where
  merchantId := "mch_1"
  databaseName := "mch_1.sqlite"
  schemaVersion := "1"
  status := .active
  createdAt := 0
  updatedAt := 0

def oneConnected : List (Taken (List TenantConnection) RouterCall) :=
  [⟨[], .connect "mch_1" (some provisionedRow) true,
    [⟨"mch_1", "shops/mch_1.sqlite.sqlite"⟩]⟩]

theorem oneConnected_run :
    RouterRun plainRouter oneConnected [⟨"mch_1", "shops/mch_1.sqlite.sqlite"⟩] :=
  .step (.start rfl) (by decide +kernel)

theorem oneConnected_elsewhere : "shops/mch_1.sqlite.sqlite" ≠ "shops/mch_1.sqlite" :=
  ((tenants_found_iff plainRouter).2 _ _ oneConnected_run _ (List.mem_singleton_self _)
    ⟨"mch_1", "shops/mch_1.sqlite.sqlite"⟩ (by decide +kernel)).1 provisionedRow "mch_1.sqlite"
    (by decide +kernel)

/-- Two shops whose ids differ in case share a name, and the router does not look where the registry
says. -/
theorem tenants_not_found :
    ¬ (∀ options past cache, RouterRun options past cache → TenantsFound options past) ∧
    databaseNameFor plainRouter.toLowerCase "Abc" =
      databaseNameFor plainRouter.toLowerCase "abc" := by
  refine ⟨fun always => ?_, by decide +kernel⟩
  have found := always _ _ _ oneConnected_run
  have same := found.files _ (List.mem_singleton_self _) "mch_1" provisionedRow true rfl
    ⟨"mch_1", "shops/mch_1.sqlite.sqlite"⟩ (by decide +kernel) "mch_1.sqlite" (by decide +kernel)
  revert same
  decide +kernel

end Telga.Proofs
