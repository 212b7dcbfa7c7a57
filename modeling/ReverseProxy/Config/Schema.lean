/-! # The configuration of a gateway -/

namespace ReverseProxy

/-- A socket to listen on and the routes it serves. -/
structure Listener where
  name : String := "default"
  bindAddress : String := "0.0.0.0:8080"
  routes : List String := []
deriving DecidableEq, Repr, Inhabited

/-- A URI, a guard and the backends that answer. A URI that ends in a slash stands for all below it. -/
structure RouteSpec where
  name : String
  uri : String
  backends : List String
  guard : String := ""
  plugins : List String := []
  adapter : Option String := none
deriving DecidableEq, Repr, Inhabited

/-- How a backend picks a server. -/
inductive Policy where
  | roundRobin
  | preferLocal
deriving DecidableEq, Repr, Inhabited

/-- A pool of servers by name. -/
structure BackendSpec where
  name : String
  servers : List String
  policy : Policy := .roundRobin
deriving DecidableEq, Repr, Inhabited

/-- What a health check does when no custom one is registered. -/
inductive CheckKind where
  | none
  | httpGet
deriving DecidableEq, Repr, Inhabited

/-- A kind of check, the pause between two of them and the time one may take, in milliseconds. -/
structure HealthCheck where
  kind : CheckKind := .httpGet
  interval : UInt64 := 10000
  timeout : UInt64 := 2000
deriving DecidableEq, Repr, Inhabited

/-- An address to forward to. Its own health check replaces the common one as a whole. -/
structure Server where
  name : String
  address : String
  pingUri : String := "/"
  healthCheck : Option HealthCheck := none
deriving DecidableEq, Repr, Inhabited

/-- Limits in seconds. -/
structure Timeouts where
  connect : UInt64 := 5
  request : UInt64 := 30
  idle : UInt64 := 60
deriving DecidableEq, Repr, Inhabited

/-- The name of this machine, if it is not to be found out. -/
structure LocalitySpec where
  hostname : Option String := none
deriving DecidableEq, Repr, Inhabited

inductive LogFormat where
  | pretty
  | compact
  | json
deriving DecidableEq, Repr, Inhabited

structure Observability where
  logLevel : String := "info"
  logFormat : LogFormat := .pretty
deriving DecidableEq, Repr, Inhabited

/-- A whole configuration. Records refer to one another by name. -/
structure Config where
  listeners : List Listener := []
  routes : List RouteSpec := []
  backends : List BackendSpec := []
  servers : List Server := []
  healthCheck : HealthCheck := {}
  timeouts : Timeouts := {}
  locality : LocalitySpec := {}
  observability : Observability := {}
deriving DecidableEq, Repr, Inhabited

/-- What the log shows by default: this program and its router at the level, the client at `warn`. -/
def Observability.filter (level : String) : String :=
  "route_gateway=" ++ level ++ ",tower_http=" ++ level ++ ",hyper=warn," ++ level

namespace HealthCheck

/-- Whole seconds of a number of milliseconds, and the milliseconds left. -/
def split (milliseconds : UInt64) : UInt64 × UInt64 := (milliseconds / 1000, milliseconds % 1000)

end HealthCheck

/-- The check of a server: its own, or else the common one. -/
def Server.check (server : Server) (common : HealthCheck) : HealthCheck := server.healthCheck.getD common

end ReverseProxy
