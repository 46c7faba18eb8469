import Telga.Library.Entries
import Telga.Application.TenantRouting

namespace Telga.Application.TenantConnections
open Domain Persistence Library

/-- A connection as it is handed out: its driver is told apart from every other by a number. -/
structure TenantHandle extends TenantConnection where
  driver : Nat
deriving DecidableEq

/-- The router with the registry it looks in, every connection it has returned, and the drivers
that are open. The cache is keyed by merchant. -/
structure TenantRouter where
  registry : MerchantId → Option TenantRow
  cache : Entries MerchantId TenantHandle := []
  handed : List TenantHandle := []
  drivers : List Nat := []
  nextDriver : Nat := 0

/-- A connection's own `close`: the driver is closed, and whatever is cached under the merchant is
forgotten. Closing a driver again does nothing. -/
def TenantHandle.close (router : TenantRouter) (handle : TenantHandle) : TenantRouter :=
  { router with
    drivers := router.drivers.filter (· ≠ handle.driver)
    cache := router.cache.delete handle.merchantId }

/-- Open, or reuse, the connection for one merchant; `opens` is whether its file can be opened. -/
def connect (options : TenantRouterOptions) (router : TenantRouter) (merchantId : MerchantId)
    (opens : Bool) : TenantRouter × Except RoutingFailure TenantHandle :=
  match router.cache.lookup merchantId with
  | some cached => (router, .ok cached)
  | none =>
    let record := router.registry merchantId
    match routingRefusal options merchantId record, record with
    | some refusal, _ => (router, .error (.unavailable refusal))
    | none, none => (router, .error (.unavailable .notRegistered))
    | none, some record =>
      if opens then
        let connection := { merchantId, file := fileFor options record, driver := router.nextDriver }
        ({ router with
            cache := router.cache.put merchantId connection
            handed := connection :: router.handed
            drivers := connection.driver :: router.drivers
            nextDriver := router.nextDriver + 1 }, .ok connection)
      else (router, .error .notOpened)

/-- Drop one tenant's connection. -/
def evict (router : TenantRouter) (merchantId : MerchantId) : TenantRouter :=
  match router.cache.lookup merchantId with
  | some cached => cached.close router
  | none => router

def closeAll (router : TenantRouter) : TenantRouter :=
  let closed := (router.cache.map Prod.snd).foldl TenantHandle.close router
  { closed with cache := [] }

/-- What happens to a router: it is called, a connection it once returned is closed, or the registry
changes. -/
inductive RouterEvent
  | connect (merchantId : MerchantId) (opens : Bool)
  | evict (merchantId : MerchantId)
  | closeAll
  | close (handle : TenantHandle)
  | register (registry : MerchantId → Option TenantRow)

def Happens (router : TenantRouter) : RouterEvent → Prop
  | .close handle => handle ∈ router.handed
  | _ => True

instance (router : TenantRouter) (event : RouterEvent) : Decidable (Happens router event) := by
  cases event <;> unfold Happens <;> infer_instance

def RouterEvent.run (options : TenantRouterOptions) (router : TenantRouter) :
    RouterEvent → TenantRouter
  | .connect merchantId opens => (TenantConnections.connect options router merchantId opens).1
  | .evict merchantId => TenantConnections.evict router merchantId
  | .closeAll => TenantConnections.closeAll router
  | .close handle => handle.close router
  | .register registry => { router with registry }

/-- A router's life from its creation on, whatever the registry holds then. -/
abbrev TenantRun (options : TenantRouterOptions) :=
  Run (fun router => ∃ registry, router = { registry })
    fun router (event : RouterEvent) router' =>
      Happens router event ∧ router' = event.run options router

end Telga.Application.TenantConnections
