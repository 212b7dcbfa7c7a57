import ReverseProxy.Config.Schema
import ReverseProxy.Config.Shape

/-! # The configuration that a document writes -/

namespace ReverseProxy

open Node

variable (format : Format)

/-! ## Choices -/

def Policy.names : List (String × Policy) := [("round-robin", .roundRobin), ("prefer-local", .preferLocal)]

def CheckKind.names : List (String × CheckKind) := [("none", .none), ("http-get", .httpGet)]

def LogFormat.names : List (String × LogFormat) :=
  [("pretty", .pretty), ("compact", .compact), ("json", .json)]

/-! ## Records -/

def Listener.shape : Shape Listener where
  name := "ListenerConfig"
  fields := [
    { name := "name", reads := readText, set := fun v r => { r with name := v } },
    { name := "bind_address", reads := readText, set := fun v r => { r with bindAddress := v } },
    { name := "routes", reads := readList readText, set := fun v r => { r with routes := v } }]
  blank := {}

def RouteSpec.shape : Shape RouteSpec where
  name := "RouteConfig"
  fields := [
    { name := "name", required := true, reads := readText, set := fun v r => { r with name := v } },
    { name := "uri", required := true, reads := readText, set := fun v r => { r with uri := v } },
    { name := "backends", required := true, reads := readList readText, set := fun v r => { r with backends := v } },
    { name := "guard", reads := readText, set := fun v r => { r with guard := v } },
    { name := "plugins", reads := readList readText, set := fun v r => { r with plugins := v } },
    { name := "multi_backend_adapter", reads := readOption readText, set := fun v r => { r with adapter := v } }]
  blank := { name := "", uri := "", backends := [] }

def BackendSpec.shape : Shape BackendSpec where
  name := "BackendConfig"
  fields := [
    { name := "name", required := true, reads := readText, set := fun v r => { r with name := v } },
    { name := "servers", required := true, reads := readList readText, set := fun v r => { r with servers := v } },
    { name := "load_balancer", reads := readChoice format Policy.names, set := fun v r => { r with policy := v } }]
  blank := { name := "", servers := [] }

def HealthCheck.shape : Shape HealthCheck where
  name := "HealthCheckConfig"
  fields := [
    { name := "kind", reads := readChoice format CheckKind.names, set := fun v r => { r with kind := v } },
    { name := "interval_ms", reads := readCount, set := fun v r => { r with interval := v } },
    { name := "timeout_ms", reads := readCount, set := fun v r => { r with timeout := v } }]
  blank := {}

def Server.shape : Shape Server where
  name := "ServerConfig"
  fields := [
    { name := "name", required := true, reads := readText, set := fun v r => { r with name := v } },
    { name := "address", required := true, reads := readText, set := fun v r => { r with address := v } },
    { name := "ping_uri", reads := readText, set := fun v r => { r with pingUri := v } },
    { name := "health_check", reads := readOption ((HealthCheck.shape format).read format),
      set := fun v r => { r with healthCheck := v } }]
  blank := { name := "", address := "" }

def Timeouts.shape : Shape Timeouts where
  name := "TimeoutConfig"
  fields := [
    { name := "connect_secs", reads := readCount, set := fun v r => { r with connect := v } },
    { name := "request_secs", reads := readCount, set := fun v r => { r with request := v } },
    { name := "idle_secs", reads := readCount, set := fun v r => { r with idle := v } }]
  blank := {}

def LocalitySpec.shape : Shape LocalitySpec where
  name := "LocalityConfig"
  fields := [{ name := "hostname", reads := readOption readText, set := fun v r => { r with hostname := v } }]
  blank := {}

def Observability.shape : Shape Observability where
  name := "ObservabilityConfig"
  fields := [
    { name := "log_level", reads := readText, set := fun v r => { r with logLevel := v } },
    { name := "log_format", reads := readChoice format LogFormat.names, set := fun v r => { r with logFormat := v } }]
  blank := {}

def Config.shape : Shape Config where
  name := "GatewayConfig"
  fields := [
    { name := "listeners", reads := readList (Listener.shape.read format),
      set := fun v r => { r with listeners := v } },
    { name := "routes", reads := readList (RouteSpec.shape.read format), set := fun v r => { r with routes := v } },
    { name := "backends", reads := readList ((BackendSpec.shape format).read format),
      set := fun v r => { r with backends := v } },
    { name := "servers", reads := readList ((Server.shape format).read format),
      set := fun v r => { r with servers := v } },
    { name := "health_check", reads := (HealthCheck.shape format).read format,
      set := fun v r => { r with healthCheck := v } },
    { name := "timeouts", reads := Timeouts.shape.read format, set := fun v r => { r with timeouts := v } },
    { name := "locality", reads := LocalitySpec.shape.read format, set := fun v r => { r with locality := v } },
    { name := "observability", reads := (Observability.shape format).read format,
      set := fun v r => { r with observability := v } }]
  blank := {}

/-- The configuration that a node writes. -/
def Config.ofNode (node : Node) : Decoded Config := (Config.shape format).read format node

end ReverseProxy
