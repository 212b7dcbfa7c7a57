import ReverseProxy.Config.Schema
import ReverseProxy.Balance.Address

/-! # Rules that a configuration must keep -/

namespace ReverseProxy

/-- The kinds of named records. -/
inductive Section where
  | listener
  | route
  | backend
  | server
deriving DecidableEq, Repr

namespace Section

def name : Section → String
  | listener => "listener"
  | route => "route"
  | backend => "backend"
  | server => "server"

/-- The kind of record that this kind refers to. -/
def target : Section → Section
  | listener => route
  | route => backend
  | backend => server
  | server => server

/-- The field that lists the records below. -/
def listField : Section → String
  | listener => "routes"
  | route => "backends"
  | _ => "servers"

end Section

/-- A health check is the common one or that of a server. -/
inductive CheckPlace where
  | common
  | server (name : String)
deriving DecidableEq, Repr

inductive CheckField where
  | interval
  | timeout
deriving DecidableEq, Repr

/-- One place where a configuration breaks a rule. -/
inductive Fault where
  | duplicateName (kind : Section) (name : String)
  | unknownReference (kind : Section) (name reference : String)
  | invalidServerAddress (server address : String)
  | invalidBindAddress (listener address : String)
  | zeroDuration (place : CheckPlace) (field : CheckField)
  | missingAdapter (route : String) (count : Nat)
  | emptyList (kind : Section) (name : String)
deriving DecidableEq, Repr

namespace Fault

def place : CheckPlace → String
  | .common => "health_check"
  | .server name => "server '" ++ name ++ "'"

def field : CheckField → String
  | .interval => "interval_ms"
  | .timeout => "timeout_ms"

def message : Fault → String
  | duplicateName kind name => "duplicate " ++ kind.name ++ " name '" ++ name ++ "'"
  | unknownReference kind name reference =>
    kind.name ++ " '" ++ name ++ "' references unknown " ++ kind.target.name ++ " '" ++ reference ++ "'"
  | invalidServerAddress server address =>
    "server '" ++ server ++ "' has invalid address '" ++ address ++ "' (expected host:port)"
  | invalidBindAddress listener address =>
    "listener '" ++ listener ++ "' has invalid bind address '" ++ address ++ "'"
  | zeroDuration p f => place p ++ ": health check " ++ field f ++ " must be greater than zero"
  | missingAdapter route count =>
    "route '" ++ route ++ "' has " ++ toString count ++ " backends but no multi_backend_adapter"
  | emptyList kind name => kind.name ++ " '" ++ name ++ "' has an empty " ++ kind.listField ++ " list"

/-! ## Single rules -/

/-- Every repetition of a name, in order. `seen` are the names before. -/
def duplicates (kind : Section) : List String → List String → List Fault
  | _, [] => []
  | seen, name :: rest =>
    if name ∈ seen then duplicateName kind name :: duplicates kind seen rest
    else duplicates kind (name :: seen) rest

/-- Every reference to a record that there is not. -/
def unknown (kind : Section) (name : String) (known references : List String) : List Fault :=
  (references.filter (· ∉ known)).map (unknownReference kind name)

/-- A fault, where a condition says there is one. -/
def faultIf (condition : Bool) (fault : Fault) : List Fault := if condition then [fault] else []

def ofCheck (place : CheckPlace) (check : HealthCheck) : List Fault :=
  faultIf (check.interval = 0) (zeroDuration place .interval) ++
    faultIf (check.timeout = 0) (zeroDuration place .timeout)

def ofListener (config : Config) (l : Listener) : List Fault :=
  faultIf (!Address.isValid l.bindAddress) (invalidBindAddress l.name l.bindAddress) ++
    unknown .listener l.name (config.routes.map (·.name)) l.routes

def ofRoute (config : Config) (r : RouteSpec) : List Fault :=
  faultIf r.backends.isEmpty (emptyList .route r.name) ++
    faultIf (1 < r.backends.length && r.adapter.isNone) (missingAdapter r.name r.backends.length) ++
    unknown .route r.name (config.backends.map (·.name)) r.backends

def ofBackend (config : Config) (b : BackendSpec) : List Fault :=
  faultIf b.servers.isEmpty (emptyList .backend b.name) ++
    unknown .backend b.name (config.servers.map (·.name)) b.servers

def ofServer (s : Server) : List Fault :=
  faultIf (!Address.isValid s.address) (invalidServerAddress s.name s.address) ++
    (s.healthCheck.map (ofCheck (.server s.name))).getD []

end Fault

/-- Every fault of a configuration: names first, then listeners, routes, backends and servers. -/
def Config.faults (config : Config) : List Fault :=
  Fault.duplicates .listener [] (config.listeners.map (·.name)) ++
    Fault.duplicates .route [] (config.routes.map (·.name)) ++
    Fault.duplicates .backend [] (config.backends.map (·.name)) ++
    Fault.duplicates .server [] (config.servers.map (·.name)) ++
    config.listeners.flatMap (Fault.ofListener config) ++
    config.routes.flatMap (Fault.ofRoute config) ++
    config.backends.flatMap (Fault.ofBackend config) ++
    Fault.ofCheck .common config.healthCheck ++
    config.servers.flatMap Fault.ofServer

end ReverseProxy
