import ReverseProxy.Gateway.Act
import ReverseProxy.Health.Monitor
import ReverseProxy.Url.Basic

/-! # The state of a gateway -/

namespace ReverseProxy

/-- What requests and probes act on. -/
structure World where
  balancers : Fleet := []
  checks : CustomChecks := []
  network : Network := {}

namespace World

def write (site : Site) (up : Bool) (world : World) : World :=
  { world with balancers := world.balancers.write site.backend site.position up }

/-! ## Probes -/

/-- The name that probes give. -/
def userAgent : String := "route-gateway-health-check"

/-- The request that asks a server whether it is well. A URL that makes none is no reason to ask. -/
def pingRequest? (server : Server) : Option Request :=
  match Url.ofServer server with
  | .error _ => none
  | .ok url => do
    let uri ← Uri.ofText? url.print
    return { uri, headers := [(.userAgent, Bytes.ofText userAgent)] }

/-- Asks a server over the network. -/
def ping (server : Server) (world : World) : Probe × World :=
  match pingRequest? server with
  | none => (.unhealthy, world)
  | some request =>
    let (outcome, network) := world.network.send request
    (.ofOutcome outcome, { world with network })

/-- Probes a server by its custom check, or else over the network. -/
def probe (server : Server) (world : World) : Probe × World :=
  match world.checks.call server.name with
  | some (probe, checks) => (probe, { world with checks })
  | none => ping server world

def ward : Ward World := { probe, write }

/-- Probes an endpoint once and marks it. If there is nothing to probe, it stays as it is. -/
def checkOnce (common : HealthCheck) (e : Endpoint) (world : World) : Endpoint × World :=
  if Checker.isActive world.checks common e.server then
    let (probe, world) := world.probe e.server
    ((e.mark (probe.within (e.server.check common).timeout.toNat).2).2, world)
  else (e, world)

end World

/-- A gateway at a moment. Times are in milliseconds. -/
structure State where
  now : Nat := 0
  world : World
  monitor : Monitor
  /-- What was logged, in order. -/
  events : List AccessEvent := []

namespace State

/-! ## Time -/

/-- Lets the checkers do what is due up to a time. -/
def check (till : Nat) (s : State) : State :=
  let (monitor, world) := s.monitor.run World.ward till s.world
  { s with monitor, world }

/-- Lets the checkers do what is due by now. -/
def settle (s : State) : State := s.check s.now

/-- Lets time pass, and does what is due by its end. -/
def advance (milliseconds : Nat) (s : State) : State :=
  { s with now := s.now + milliseconds }.settle

/-- Watches all balancers from time 0 on, and does what can be done at once. -/
def start (common : HealthCheck) (mode : CheckMode) (world : World) : State :=
  let monitor := world.balancers.zipIdx.foldl
    (fun m ((name, balancer), slot) => m.watch common world.checks { name, slot } balancer) { mode }
  settle { world, monitor }

/-- Goes on at a time with what waited for it. Checkers that are due at the same time come later. -/
def resume (time : Nat) (s : State) : State :=
  if time ≤ s.now then s else { s.check (time - 1) with now := time }

/-! ## Balancers -/

def balancer? (s : State) (name : String) : Option Balancer :=
  (s.world.balancers.backend? name).bind s.world.balancers.balancer?

/-- Draws the next address of a backend. -/
def drawFrom (backend : Backend) (s : State) : Except BalanceError String × State :=
  let (result, balancers) := s.world.balancers.draw backend
  (result, { s with world := { s.world with balancers } })

/-- Draws the next address of the backend with a name. -/
def draw (name : String) (s : State) : Except BalanceError String × State :=
  match s.world.balancers.backend? name with
  | some backend => s.drawFrom backend
  | none => (.error (.noHealthyEndpoint name), s)

/-- Marks an endpoint by hand. -/
def mark (name address : String) (up : Bool) (s : State) : Except BalanceError State :=
  match s.world.balancers.backend? name with
  | some backend => do
    let balancers ← s.world.balancers.mark backend address up
    return { s with world := { s.world with balancers } }
  | none => .error (.unknownEndpoint name address)

/-! ## Stopping -/

def stop (backend : String) (s : State) : State := { s with monitor := s.monitor.stop backend }

/-- Stops all checkers. -/
def shutdown (s : State) : State :=
  (s.world.balancers.map (·.1)).foldl (fun s backend => s.stop backend) s

/-! ## Handlers -/

def send (request : Request) (s : State) : Outcome × State :=
  let (outcome, network) := s.world.network.send request
  (outcome, { s with world := { s.world with network } })

def record (event : AccessEvent) (s : State) : State := { s with events := s.events ++ [event] }

/-- The time is over at the deadline. Without one, what waits for ever leaves all as it is. -/
def expire (deadline : Option Nat) (s : State) : State :=
  match deadline with
  | some time => s.resume time
  | none => s

end State

/-- Does what a handler wants. It is given up at the deadline, also if it would be done just then. -/
def Act.run {α : Type} (deadline : Option Nat) : Act α → State → Option α × State
  | done value, s => (some value, s)
  | draw backend next, s =>
    let (result, s) := s.drawFrom backend
    (next result).run deadline s
  | send request next, s =>
    match s.send request with
    | (.response response, s) => (next (.ok response)).run deadline s
    | (.failure failure, s) => (next (.error failure)).run deadline s
    | (.never, s) => (none, s.expire deadline)
  | wait milliseconds next, s =>
    if deadline.any (· ≤ s.now + milliseconds) then (none, s.expire deadline)
    else next.run deadline (s.resume (s.now + milliseconds))
  | record event next, s => next.run deadline (s.record event)

end ReverseProxy
