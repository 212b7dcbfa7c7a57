import ReverseProxy.Config.Store
import ReverseProxy.Gateway.Forward
import ReverseProxy.Gateway.State
import ReverseProxy.Plugin.Adapter
import ReverseProxy.Plugin.Chain
import ReverseProxy.Plugin.Registry
import ReverseProxy.Routing.Table

/-! # Gateways from configurations -/

namespace ReverseProxy

/-! ## Extensions -/

/-- What routes may name. -/
structure Extensions where
  plugins : Registry (Plugin Act) := { kind := "plugin" }
  adapters : Registry (Adapter Act) := { kind := "multi-backend adapter" }

namespace Extensions

def builtinPlugins : List (String × Plugin Act) :=
  [("access-log", Plugin.accessLog fun event => .record event (.done ()))]

def builtinAdapters : List (String × Adapter Act) :=
  [("failover", Adapter.failover Adapter.bodyLimit), ("header-select", Adapter.headerSelect)]

/-- Adds plugins, and then adapters. -/
def add (extensions : Extensions) (plugins : List (String × Plugin Act))
    (adapters : List (String × Adapter Act)) : Except DuplicateItem Extensions := do
  let plugins ← extensions.plugins.registerAll plugins
  let adapters ← extensions.adapters.registerAll adapters
  return { plugins, adapters }

def builtin : Except DuplicateItem Extensions := ({} : Extensions).add builtinPlugins builtinAdapters

end Extensions

/-! ## Errors -/

/-- Why a backend cannot be built. -/
inductive BackendError where
  | notFound (error : NotFound)
  | balance (error : BalanceError)
deriving DecidableEq, Repr

def BackendError.message : BackendError → String
  | notFound error => error.message
  | balance error => error.message

/-- Why a gateway cannot be built. -/
inductive BuildError where
  | notFound (error : NotFound)
  | backend (name : String) (error : BackendError)
  | noBackends (route : String)
  | missingAdapter (route : String) (count : Nat)
  | unknownAdapter (route adapter : String)
  | unknownPlugin (route plugin : String)
  | route (error : RouteError)
deriving DecidableEq, Repr

def BuildError.message : BuildError → String
  | notFound error => error.message
  | backend name error => "backend '" ++ name ++ "': " ++ error.message
  | noBackends name => "route '" ++ name ++ "' has no backends"
  | missingAdapter name count =>
    "route '" ++ name ++ "' has " ++ toString count ++ " backends but no multi_backend_adapter"
  | unknownAdapter name adapter =>
    "route '" ++ name ++ "' references unknown multi-backend adapter '" ++ adapter ++ "'"
  | unknownPlugin name plugin => "route '" ++ name ++ "' references unknown plugin '" ++ plugin ++ "'"
  | route error => error.message

/-! ## Construction -/

/-- A listener with its routes, and the backends that they reach. -/
structure Gateway where
  listener : Listener
  table : RouteTable (Handler Act)
  /-- In the order in which the routes name them. -/
  balancers : Fleet

namespace Gateway

/-- What a gateway is built from. -/
structure Plan where
  config : Config
  extensions : Extensions
  /-- The name of this machine. -/
  hostname : String

/-- The balancer of a backend, over servers that are looked up by name. -/
def balancerOf (plan : Plan) (backend : BackendSpec) : Except BackendError Balancer := do
  let servers ← (backend.servers.mapM plan.config.server).mapError .notFound
  (Balancer.build backend.policy backend.name servers plan.hostname).mapError .balance

/-- The backend with a name, and all that are built. A new one gets the next slot. -/
def backendFor (plan : Plan) (built : Fleet) (name : String) :
    Except BuildError (Backend × Fleet) :=
  match built.backend? name with
  | some backend => .ok (backend, built)
  | none => do
    let backend ← (plan.config.backend name).mapError .notFound
    let balancer ← (balancerOf plan backend).mapError (.backend name)
    return ({ name, slot := built.length }, built ++ [(name, balancer)])

def backendsFor (plan : Plan) (built : Fleet) :
    List String → Except BuildError (List Backend × Fleet)
  | [] => .ok ([], built)
  | name :: rest => do
    let (backend, built) ← backendFor plan built name
    let (backends, built) ← backendsFor plan built rest
    return (backend :: backends, built)

def pluginOf (plan : Plan) (route name : String) : Except BuildError (Plugin Act) :=
  match plan.extensions.plugins.get? name with
  | some plugin => .ok plugin
  | none => .error (.unknownPlugin route name)

/-- The adapter of a route. A route with one backend needs none and ignores the one that it names. -/
def adapterOf (plan : Plan) (route : RouteSpec) : Except BuildError (Option (Adapter Act)) :=
  if route.backends.length = 1 then .ok none
  else
    match route.adapter with
    | none => .error (.missingAdapter route.name route.backends.length)
    | some name =>
      match plan.extensions.adapters.get? name with
      | some adapter => .ok (some adapter)
      | none => .error (.unknownAdapter route.name name)

/-- The handler of a route: its plugins around each backend, and its adapter over all of them. -/
def handlerOf (plugins : List (Plugin Act)) (adapter : Option (Adapter Act)) (backends : List Backend) :
    Handler Act :=
  let handlers := backends.map fun b => (b.name, Plugin.compose plugins (Forward.handler b))
  match adapter, handlers with
  | some adapter, handlers => adapter handlers
  | none, (_, handler) :: _ => handler
  | none, [] => fun _ => return Adapter.noBackends

/-- A route, and all backends built so far. -/
def buildRoute (plan : Plan) (built : Fleet) (name : String) :
    Except BuildError (Route (Handler Act) × Fleet) := do
  let route ← (plan.config.route name).mapError .notFound
  if route.backends.isEmpty then throw (.noBackends route.name)
  let plugins ← route.plugins.mapM (pluginOf plan route.name)
  let adapter ← adapterOf plan route
  let (backends, built) ← backendsFor plan built route.backends
  return ({ name := route.name, uri := route.uri, guard := .parse route.guard
            target := handlerOf plugins adapter backends }, built)

def buildRoutes (plan : Plan) (built : Fleet) :
    List String → Except BuildError (List (Route (Handler Act)) × Fleet)
  | [] => .ok ([], built)
  | name :: rest => do
    let (route, built) ← buildRoute plan built name
    let (routes, built) ← buildRoutes plan built rest
    return (route :: routes, built)

/-- The gateway of a listener. The first thing that is missing is told. -/
def build (plan : Plan) (listener : String) : Except BuildError Gateway := do
  let listener ← (plan.config.listener listener).mapError .notFound
  let (routes, balancers) ← buildRoutes plan [] listener.routes
  let table ← (RouteTable.build routes).mapError .route
  return { listener, table, balancers }

def backendNames (gateway : Gateway) : List String :=
  (gateway.balancers.map (·.1)).mergeSort fun a b => decide (a ≤ b)

/-- A gateway at time 0. -/
def start (gateway : Gateway) (common : HealthCheck) (mode : CheckMode) (checks : CustomChecks)
    (network : Network) : State :=
  .start common mode { balancers := gateway.balancers, checks, network }

end Gateway

end ReverseProxy
