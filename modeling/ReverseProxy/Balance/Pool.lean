import ReverseProxy.Config.Schema
import ReverseProxy.Balance.Address

/-! # A ring of endpoints -/

namespace ReverseProxy

/-- A server and whether it may be picked. Endpoints start up. -/
structure Endpoint where
  server : Server
  up : Bool := true
deriving DecidableEq, Repr

namespace Endpoint

def address (e : Endpoint) : String := e.server.address

/-- Sets the flag, and says whether that changed it. -/
def mark (up : Bool) (e : Endpoint) : Bool × Endpoint := (e.up ≠ up, { e with up })

end Endpoint

/-- Endpoints in configured order, and the position where the next selection begins to look. -/
structure Pool where
  backend : String
  ring : List Endpoint
  cursor : Nat
  cursor_lt : cursor < ring.length

namespace Pool

/-! ## Selection -/

/--
Goes on from `cursor` for so many steps at most, and stops behind the first endpoint that is up. Says
where that stands.
-/
def walk (ring : List Endpoint) : Nat → Nat → Option (Nat × Endpoint) × Nat
  | 0, cursor => (none, cursor)
  | steps + 1, cursor =>
    let next := (cursor + 1) % ring.length
    match ring[cursor]? with
    | some e => if e.up then (some (cursor, e), next) else walk ring steps next
    | none => (none, cursor)

theorem walk_lt {ring : List Endpoint} {steps cursor : Nat} (h : cursor < ring.length) :
    (walk ring steps cursor).2 < ring.length := by
  induction steps generalizing cursor with
  | zero => exact h
  | succ steps ih =>
    have hnext : (cursor + 1) % ring.length < ring.length := Nat.mod_lt _ (by omega)
    simp only [walk, List.getElem?_eq_getElem h]
    split
    · exact hnext
    · exact ih hnext

/-- The next endpoint that is up, once round the ring, and its position. -/
def pick (pool : Pool) : Option (Nat × Endpoint) × Pool :=
  let found := walk pool.ring pool.ring.length pool.cursor
  (found.1, { pool with cursor := found.2, cursor_lt := walk_lt pool.cursor_lt })

/-- The address of the next endpoint that is up. -/
def select (pool : Pool) : Except BalanceError String × Pool :=
  let found := pool.pick
  let result := match found.1 with
    | some (_, e) => .ok e.address
    | none => .error (.noHealthyEndpoint pool.backend)
  (result, found.2)

/-! ## Marks -/

/-- Sets the flag at a position. -/
def write (pool : Pool) (position : Nat) (up : Bool) : Pool :=
  { pool with
    ring := pool.ring.modify position fun e => (e.mark up).2
    cursor_lt := by simpa using pool.cursor_lt }

/-- The first endpoint with an address. -/
def position? (pool : Pool) (address : String) : Option Nat :=
  pool.ring.findIdx? fun e => e.address = address

/-- Sets the flag of the first endpoint with an address. -/
def mark (pool : Pool) (address : String) (up : Bool) : Except BalanceError Pool := do
  let _ ← Address.parse address
  match pool.position? address with
  | some position => return pool.write position up
  | none => throw (.unknownEndpoint pool.backend address)

/-! ## Construction -/

/-- A ring of the servers, all up. A backend needs a name and at least one server. -/
def ofServers (backend : String) (servers : List Server) : Except BalanceError Pool :=
  if backend = "" then .error .emptyBackendName
  else
    match servers with
    | [] => .error (.noServers backend)
    | server :: rest =>
      .ok {
        backend
        ring := (server :: rest).map fun s => { server := s }
        cursor := 0
        cursor_lt := by simp }

end Pool

end ReverseProxy
