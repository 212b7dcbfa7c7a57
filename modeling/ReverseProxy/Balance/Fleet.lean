import ReverseProxy.Balance.Balancer

/-! # All balancers of a gateway -/

namespace ReverseProxy

/-- A backend as handlers and checkers hold it: by the place of its balancer in the gateway. -/
structure Backend where
  name : String
  slot : Nat
deriving DecidableEq, Repr

/-- Balancers in their slots, with the names of their backends. -/
abbrev Fleet := List (String × Balancer)

namespace Fleet

/-- The first backend of a name. -/
def backend? (fleet : Fleet) (name : String) : Option Backend :=
  (fleet.findIdx? (·.1 = name)).map fun slot => { name, slot }

def balancer? (fleet : Fleet) (backend : Backend) : Option Balancer := fleet[backend.slot]?.map (·.2)

/-- Replaces the balancer of a backend. -/
def update (fleet : Fleet) (backend : Backend) (f : Balancer → Balancer) : Fleet :=
  fleet.modify backend.slot fun (name, b) => (name, f b)

/-- Draws the next address of a backend. -/
def draw (fleet : Fleet) (backend : Backend) : Except BalanceError String × Fleet :=
  match fleet.balancer? backend with
  | some b => (b.select.1, fleet.update backend fun _ => b.select.2)
  | none => (.error (.noHealthyEndpoint backend.name), fleet)

/-- Marks an endpoint by hand. -/
def mark (fleet : Fleet) (backend : Backend) (address : String) (up : Bool) : Except BalanceError Fleet :=
  match fleet.balancer? backend with
  | some b => do
    let b ← b.mark address up
    return fleet.update backend fun _ => b
  | none => .error (.unknownEndpoint backend.name address)

/-- Sets the flag at a position of the endpoints of a backend. -/
def write (fleet : Fleet) (backend : Backend) (position : Nat) (up : Bool) : Fleet :=
  fleet.update backend (·.write position up)

end Fleet

end ReverseProxy
