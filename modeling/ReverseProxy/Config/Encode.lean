import ReverseProxy.Config.Decode

/-! # The document that writes a configuration -/

namespace ReverseProxy

open Node

/-- The name of a value in a list of choices. -/
def nameIn {α : Type} [DecidableEq α] (names : List (String × α)) (value : α) : Node :=
  match names.find? (·.2 = value) with
  | some (name, _) => .text name
  | none => .null

def ofTexts (texts : List String) : Node := list (texts.map .text)

def ofOption {α : Type} (node : α → Node) : Option α → Node
  | none => .null
  | some value => node value

def ofCount (n : UInt64) : Node := .integer n.toNat

def Listener.toNode (l : Listener) : Node :=
  record [("name", .text l.name), ("bind_address", .text l.bindAddress), ("routes", ofTexts l.routes)]

def RouteSpec.toNode (r : RouteSpec) : Node :=
  record [("name", .text r.name), ("uri", .text r.uri), ("backends", ofTexts r.backends),
    ("guard", .text r.guard), ("plugins", ofTexts r.plugins),
    ("multi_backend_adapter", ofOption .text r.adapter)]

def BackendSpec.toNode (b : BackendSpec) : Node :=
  record [("name", .text b.name), ("servers", ofTexts b.servers),
    ("load_balancer", nameIn Policy.names b.policy)]

def HealthCheck.toNode (h : HealthCheck) : Node :=
  record [("kind", nameIn CheckKind.names h.kind), ("interval_ms", ofCount h.interval),
    ("timeout_ms", ofCount h.timeout)]

def Server.toNode (s : Server) : Node :=
  record [("name", .text s.name), ("address", .text s.address), ("ping_uri", .text s.pingUri),
    ("health_check", ofOption HealthCheck.toNode s.healthCheck)]

def Timeouts.toNode (t : Timeouts) : Node :=
  record [("connect_secs", ofCount t.connect), ("request_secs", ofCount t.request),
    ("idle_secs", ofCount t.idle)]

def LocalitySpec.toNode (l : LocalitySpec) : Node := record [("hostname", ofOption .text l.hostname)]

def Observability.toNode (o : Observability) : Node :=
  record [("log_level", .text o.logLevel), ("log_format", nameIn LogFormat.names o.logFormat)]

/-- Every field, with its default if it was not set. -/
def Config.toNode (c : Config) : Node :=
  record [("listeners", list (c.listeners.map Listener.toNode)),
    ("routes", list (c.routes.map RouteSpec.toNode)),
    ("backends", list (c.backends.map BackendSpec.toNode)),
    ("servers", list (c.servers.map Server.toNode)),
    ("health_check", c.healthCheck.toNode), ("timeouts", c.timeouts.toNode),
    ("locality", c.locality.toNode), ("observability", c.observability.toNode)]

end ReverseProxy
