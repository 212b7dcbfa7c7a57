import ReverseProxy.Http.Network

/-! # Probes -/

namespace ReverseProxy

/-- What a probe comes to: a verdict after some milliseconds, or nothing for ever. -/
structure Probe where
  delay : Option Nat := some 0
  healthy : Bool := false
deriving DecidableEq, Repr

namespace Probe

def unhealthy : Probe := {}

/-- How long a probe is waited for, and what it says. One that takes longer than the limit is unhealthy. -/
def within (limit : Nat) (probe : Probe) : Nat × Bool :=
  match probe.delay with
  | some delay => if delay ≤ limit then (delay, probe.healthy) else (limit, false)
  | none => (limit, false)

/-- Only the status 200 is healthy. -/
def ofOutcome : Outcome → Probe
  | .response response => { healthy := response.status = 200 }
  | .failure _ => unhealthy
  | .never => { delay := none }

end Probe

/-- A check of its own for a server: what its probes come to, one after the other, and how many there were. -/
structure CustomCheck where
  script : List Probe
  calls : Nat := 0

namespace CustomCheck

def call (check : CustomCheck) : Probe × CustomCheck :=
  match Script.next? check.script with
  | some (probe, script) => (probe, ⟨script, check.calls + 1⟩)
  | none => (.unhealthy, ⟨[], check.calls + 1⟩)

end CustomCheck

/-- Custom checks by the names of servers. -/
abbrev CustomChecks := List (String × CustomCheck)

namespace CustomChecks

def has (checks : CustomChecks) (server : String) : Bool := checks.any (·.1 = server)

/-- Calls the check of a server, if it has one. -/
def call (checks : CustomChecks) (server : String) : Option (Probe × CustomChecks) :=
  match checks with
  | [] => none
  | (name, check) :: rest =>
    if name = server then some (check.call.1, (name, check.call.2) :: rest)
    else (CustomChecks.call rest server).map fun (probe, rest) => (probe, (name, check) :: rest)

end CustomChecks

end ReverseProxy
