import StagedFlow.Flow.Registry
import StagedFlow.Server.Info
import StagedFlow.Tool.Handler
import StagedFlow.Trace.Config

/-!
# The store of a tool server

What plugins put into a server: providers, the shared services that flows are made from; resources,
which a plugin owns until it freezes or discards them; and registries, through which plugins hand
flows and hooks to one another. Each is a bag with keys of its own, a key standing for a type.
-/

namespace StagedFlow

/-- A limit on the number of calls at a time. -/
structure CallLimit where
  max : Nat
deriving DecidableEq

/-- The number of permits in use. -/
def CallLimit.inFlight {L : Type} (limit : CallLimit) (w : World L) : Nat := limit.max - w.permits

/-- What can be provided. -/
inductive ProviderKey where
  | value (i : Nat)
  | tools
  | auth
  | renderer
  | limit
  | info
  | trace
deriving DecidableEq

def ProviderKey.Val (X L : Type) : ProviderKey → Type
  | .value _ => Json
  | .tools => ToolRegistry X (World L)
  | .auth => AuthConfig
  | .renderer => Renderer (World L)
  | .limit => CallLimit
  | .info => ServerInfo
  | .trace => TraceConfig

instance : Named ProviderKey where
  typeName
    | .value i => "Provider<" ++ toString i ++ ">"
    | .tools => "meridian_tools::registry::ToolRegistry"
    | .auth => "meridian_tools::auth::AuthConfig"
    | .renderer => "meridian_tools::render::Renderer"
    | .limit => "example::ConcurrencyLimit"
    | .info => "meridian_core::server_info::ServerInfo"
    | .trace => "meridian_core::tracing_plugin::TracingConfig"

abbrev Providers (X L : Type) := Bag ProviderKey (ProviderKey.Val X L)

/-- The refusal of a flow that cannot do without a provider. -/
def Providers.missing (key : ProviderKey) : String :=
  "provider not registered: " ++ Named.typeName key

/-- What a plugin can own while the server is built. -/
inductive ResourceKey where
  | value (i : Nat)
  | tools
deriving DecidableEq

def ResourceKey.Val (X L : Type) : ResourceKey → Type
  | .value _ => Json
  | .tools => ToolRegistry X (World L)

instance : Named ResourceKey where
  typeName
    | .value i => "Resource<" ++ toString i ++ ">"
    | .tools => "meridian_tools::registry::ToolRegistry"

abbrev Resources (X L : Type) := Bag ResourceKey (ResourceKey.Val X L)

abbrev ServedFlow (X L : Type) :=
  Definition ProviderKey (ProviderKey.Val X L) (World L) (Handler X L)

abbrev ServedFlows (X L : Type) :=
  FlowRegistry ProviderKey (ProviderKey.Val X L) (World L) (Handler X L)

/-- Registries that plugins share. -/
inductive ApiKey where
  | list (i : Nat)
  | flows
  | hooks
deriving DecidableEq

def ApiKey.Val (X L : Type) : ApiKey → Type
  | .list _ => List Json
  | .flows => List (ServedFlow X L)
  | .hooks => HookRegistry (World L) (Handler X L)

abbrev Apis (X L : Type) := Bag ApiKey (ApiKey.Val X L)

structure Store (X L : Type) where
  providers : Providers X L
  resources : Resources X L
  apis : Apis X L
  own : L

namespace Store

variable {X L : Type}

def start (own : L) : Store X L := ⟨.empty, .empty, .empty, own⟩

def provide (store : Store X L) (key : ProviderKey) (v : key.Val X L) : Store X L :=
  { store with providers := store.providers.insert key v }

def putResource (store : Store X L) (key : ResourceKey) (v : key.Val X L) : Store X L :=
  { store with resources := store.resources.insert key v }

def putApi (store : Store X L) (key : ApiKey) (v : key.Val X L) : Store X L :=
  { store with apis := store.apis.insert key v }

def mapOwn (f : L → L) (store : Store X L) : Store X L := { store with own := f store.own }

/-- The flows that plugins have declared. -/
def flows (store : Store X L) : List (ServedFlow X L) := (store.apis.get? .flows).getD []

/-- The hooks that plugins have registered. -/
def hooks (store : Store X L) : HookRegistry (World L) (Handler X L) :=
  (store.apis.get? .hooks).getD .empty

/-- The limit on calls, if there is one. -/
def limit? (store : Store X L) : Option CallLimit := store.providers.get? .limit

/-- The world in which the server's calls run: no call was made, and every permit is free. -/
def world (store : Store X L) : World L :=
  ⟨0, (store.limit?.map CallLimit.max).getD 0, store.own⟩

/-- Makes the registry of the declared flows. -/
def boot (store : Store X L) : Task (World L) (Except RegistrationFault (ServedFlows X L)) :=
  FlowRegistry.boot store.providers store.hooks store.flows

end Store

end StagedFlow
