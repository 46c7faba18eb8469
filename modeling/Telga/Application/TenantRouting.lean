import Telga.Library.Run
import Telga.Persistence.Applications

namespace Telga.Application
open Domain Persistence Library

/-- A registry row's database name, less the extension it ends in. -/
def withoutExtension (databaseName : String) : String :=
  if ".sqlite".toList <:+ databaseName.toList then
    String.ofList (databaseName.toList.take (databaseName.toList.length - 7))
  else databaseName

/-- The file a registry row names, the row being data that is checked again. -/
def tenantFileName (record : TenantRow) : Option String :=
  let base := withoutExtension record.databaseName
  if base ≠ "" ∧ base.toList.all isSafe then some (base ++ ".sqlite") else none

/-- Why a tenant cannot be routed to. -/
inductive TenantRefusal
  | notRegistered
  | unsafeName
  | provisioning
  | migrating
  | suspended
  | closed
  | failed
  | schemaBehind
  | schemaAhead
deriving DecidableEq, Repr

/-- The refusal of a tenant by its status, where it may not be served. -/
def statusRefusal : TenantStatus → Option TenantRefusal
  | .active => none
  | .provisioning => some .provisioning
  | .migrating => some .migrating
  | .suspended => some .suspended
  | .closed => some .closed
  | .failed => some .failed

/-- What the router is given: the root the files lie under and how a name is joined to it, which
keeps names apart, and the schema version that is served. -/
structure TenantRouterOptions where
  toLowerCase : String → String
  root : String
  schemaVersion : String
  join : String → String → String
  joins : ∀ root name name', join root name = join root name' → name = name'

def defaultJoin (root name : String) : String :=
  if root.toList.getLast? = some '/' ∨ root.toList.getLast? = some '\\' then root ++ name
  else root ++ "/" ++ name

theorem append_inj_right {text name name' : String} (same : text ++ name = text ++ name') :
    name = name' := by
  have chars := congrArg String.toList same
  rw [String.toList_append, String.toList_append] at chars
  exact String.toList_inj.mp (List.append_cancel_left chars)

theorem defaultJoin_joins (root name name' : String)
    (same : defaultJoin root name = defaultJoin root name') : name = name' := by
  unfold defaultJoin at same
  split at same
  · exact append_inj_right same
  · exact append_inj_right same

/-- Whether a registry row may be served, without opening anything. The name is derived again. -/
def routingRefusal (options : TenantRouterOptions) (merchantId : MerchantId)
    (record : Option TenantRow) : Option TenantRefusal :=
  match record with
  | none => some .notRegistered
  | some record =>
    match databaseNameFor options.toLowerCase merchantId with
    | none => some .unsafeName
    | some expected =>
      if record.databaseName ≠ expected then some .unsafeName
      else
        match statusRefusal record.status with
        | some refusal => some refusal
        | none =>
          if record.schemaVersion ≠ options.schemaVersion then
            if utf16 record.schemaVersion < utf16 options.schemaVersion then some .schemaBehind
            else some .schemaAhead
          else none

/-- A connection the router holds open. -/
structure TenantConnection where
  merchantId : MerchantId
  file : String
deriving DecidableEq

inductive RoutingFailure
  | unavailable (refusal : TenantRefusal)
  | notOpened
deriving DecidableEq, Repr

/-- The file of a registry row. This join is the only place a tenant's path is built. -/
def fileFor (options : TenantRouterOptions) (record : TenantRow) : String :=
  options.join options.root (record.databaseName ++ ".sqlite")

/-- What is done with the router: a merchant's connection asked for, with the registry row that is
found and whether its file can be opened, or connections closed. -/
inductive RouterCall
  | connect (merchantId : MerchantId) (record : Option TenantRow) (opens : Bool)
  | close (merchantId : MerchantId)
  | closeAll

/-- Open, or reuse, the connection for one merchant. -/
def connectTenant (options : TenantRouterOptions) (cache : List TenantConnection)
    (merchantId : MerchantId) (record : Option TenantRow) (opens : Bool) :
    List TenantConnection × Except RoutingFailure TenantConnection :=
  match cache.find? fun held => held.merchantId = merchantId with
  | some held => (cache, .ok held)
  | none =>
    match routingRefusal options merchantId record, record with
    | some refusal, _ => (cache, .error (.unavailable refusal))
    | none, none => (cache, .error (.unavailable .notRegistered))
    | none, some record =>
      if opens then
        let connection := { merchantId, file := fileFor options record }
        (cache ++ [connection], .ok connection)
      else (cache, .error .notOpened)

/-- What a call makes of the connections that are held, and the connection it returns. -/
def RouterCall.run (options : TenantRouterOptions) (cache : List TenantConnection) :
    RouterCall → List TenantConnection × Option TenantConnection
  | .connect merchantId record opens =>
    let (cache, result) := connectTenant options cache merchantId record opens
    (cache, result.toOption)
  | .close merchantId => (cache.filter fun held => held.merchantId ≠ merchantId, none)
  | .closeAll => ([], none)

end Telga.Application
