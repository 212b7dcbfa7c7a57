import ReverseProxy.Balance.Locality
import ReverseProxy.Balance.Pool

/-! # Balancers -/

namespace ReverseProxy

/-- One pool, or the pool of near servers and the pool of the others. -/
inductive Balancer where
  | roundRobin (pool : Pool)
  | preferLocal (backend : String) (near far : Option Pool)

namespace Balancer

def policy : Balancer → Policy
  | roundRobin _ => .roundRobin
  | preferLocal _ _ _ => .preferLocal

/-- All pools, near ones first. -/
def pools : Balancer → List Pool
  | roundRobin pool => [pool]
  | preferLocal _ near far => near.toList ++ far.toList

def endpoints (b : Balancer) : List Endpoint := b.pools.flatMap (·.ring)

/-- Selects from the far pool, if there is one. -/
def selectFar (backend : String) (near far : Option Pool) : Except BalanceError String × Balancer :=
  match far with
  | some pool =>
    let (result, pool) := pool.select
    (result, preferLocal backend near (some pool))
  | none => (.error (.noHealthyEndpoint backend), preferLocal backend near none)

/-- Selects from the near pool, and from the far one if nothing near is up. -/
def select : Balancer → Except BalanceError String × Balancer
  | roundRobin pool =>
    let (result, pool) := pool.select
    (result, roundRobin pool)
  | preferLocal backend none far => selectFar backend none far
  | preferLocal backend (some pool) far =>
    match pool.select with
    | (.ok address, pool) => (.ok address, preferLocal backend (some pool) far)
    | (.error _, pool) => selectFar backend (some pool) far

/-- A pool with a mark set, if it takes the mark. -/
def markIn (pool : Option Pool) (address : String) (up : Bool) : Option (Option Pool) :=
  match pool with
  | some pool => (pool.mark address up).toOption.map some
  | none => none

/-- Marks in the first pool that knows the address. -/
def mark (b : Balancer) (address : String) (up : Bool) : Except BalanceError Balancer :=
  match b with
  | roundRobin pool => roundRobin <$> pool.mark address up
  | preferLocal backend near far => do
    let _ ← Address.parse address
    match markIn near address up with
    | some near => return preferLocal backend near far
    | none =>
      match markIn far address up with
      | some far => return preferLocal backend near far
      | none => throw (.unknownEndpoint backend address)

/-- Sets the flag at a position of `endpoints`. -/
def write (b : Balancer) (position : Nat) (up : Bool) : Balancer :=
  match b with
  | roundRobin pool => roundRobin (pool.write position up)
  | preferLocal backend near far =>
    let first := (near.map (·.ring.length)).getD 0
    if position < first then preferLocal backend (near.map (·.write position up)) far
    else preferLocal backend near (far.map (·.write (position - first) up))

/-! ## Construction -/

/-- The near servers and the others, each in configured order. Every address must be valid. -/
def divide (this : String) : List Server → Except BalanceError (List Server × List Server)
  | [] => .ok ([], [])
  | server :: rest => do
    let address ← Address.parse server.address
    let (near, far) ← divide this rest
    return if Locality.isLocal address.host this then (server :: near, far) else (near, server :: far)

/-- A pool, unless there is nothing to put into it. -/
def poolOf (backend : String) (servers : List Server) : Except BalanceError (Option Pool) :=
  if servers.isEmpty then .ok none else some <$> Pool.ofServers backend servers

def preferringLocal (backend : String) (servers : List Server) (this : String) :
    Except BalanceError Balancer :=
  if backend = "" then .error .emptyBackendName
  else if servers.isEmpty then .error (.noServers backend)
  else do
    let (near, far) ← divide this servers
    return preferLocal backend (← poolOf backend near) (← poolOf backend far)

/-- A balancer for the servers of a backend. `this` is the name of this machine. -/
def build (policy : Policy) (backend : String) (servers : List Server) (this : String) :
    Except BalanceError Balancer :=
  match policy with
  | .roundRobin => roundRobin <$> Pool.ofServers backend servers
  | .preferLocal => preferringLocal backend servers this

end Balancer

end ReverseProxy
