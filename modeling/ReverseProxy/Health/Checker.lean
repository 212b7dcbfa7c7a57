import ReverseProxy.Balance.Fleet
import ReverseProxy.Config.Schema
import ReverseProxy.Health.Probe

/-! # Checkers -/

namespace ReverseProxy

/-- An endpoint: a backend, and a position in the order of its balancer. -/
structure Site where
  backend : Backend
  position : Nat
deriving DecidableEq, Repr

/-- Whether a checker goes on after its first probe. -/
inductive CheckMode where
  | once
  | loop
deriving DecidableEq, Repr

/-- What a checker is at. Times are in milliseconds. -/
inductive Phase where
  /-- It begins the next probe at a time. -/
  | resting (till : Nat)
  /-- It began a probe, which lasts so long and then says a verdict. -/
  | probing (since duration : Nat) (verdict : Bool)
  | finished
deriving DecidableEq, Repr

/-- Probes one endpoint again and again. -/
structure Checker where
  site : Site
  server : Server
  /-- Milliseconds from the end of a probe to the beginning of the next. -/
  interval : Nat
  /-- Milliseconds that a probe may take. -/
  timeout : Nat
  phase : Phase

namespace Checker

/-- There is something to probe. -/
def isActive (checks : CustomChecks) (common : HealthCheck) (server : Server) : Bool :=
  checks.has server.name || (server.check common).kind ≠ .none

/-- A checker that begins at a time. -/
def starting (site : Site) (server : Server) (common : HealthCheck) (now : Nat) : Checker where
  site
  server
  interval := (server.check common).interval.toNat
  timeout := (server.check common).timeout.toNat
  phase := .resting now

/-- When it does something next. -/
def due? (c : Checker) : Option Nat :=
  match c.phase with
  | .resting till => some till
  | .probing since duration _ => some (since + duration)
  | .finished => none

/-- The phase after a probe. A round of probe and rest takes a millisecond at least. -/
def afterProbe (mode : CheckMode) (interval since duration : Nat) : Phase :=
  match mode with
  | .once => .finished
  | .loop => .resting (max (since + duration + interval) (since + 1))

/-- Begins a probe. -/
def begin (c : Checker) (now : Nat) (probe : Probe) : Checker :=
  { c with phase := .probing now (probe.within c.timeout).1 (probe.within c.timeout).2 }

def stop (c : Checker) : Checker := { c with phase := .finished }

/-- How much a checker can still do until a time. Every step of it makes this less. -/
def load (till : Nat) (c : Checker) : Nat :=
  match c.phase with
  | .resting start => 2 * (till + 1 - start)
  | .probing since _ _ => 2 * (till + 1 - since) - 1
  | .finished => 0

end Checker

/-- Where probes are made and verdicts are written. -/
structure Ward (σ : Type) where
  probe : Server → σ → Probe × σ
  write : Site → Bool → σ → σ

namespace Checker

variable {σ : Type}

/-- Does what is due: begins a probe, or writes its verdict. -/
def turn (ward : Ward σ) (mode : CheckMode) (c : Checker) (world : σ) : Checker × σ :=
  match c.phase with
  | .resting till =>
    let (probe, world) := ward.probe c.server world
    (c.begin till probe, world)
  | .probing since duration verdict =>
    ({ c with phase := afterProbe mode c.interval since duration }, ward.write c.site verdict world)
  | .finished => (c, world)

theorem load_turn_lt {ward : Ward σ} {mode : CheckMode} {c : Checker} {world : σ} {time till : Nat}
    (due : c.due? = some time) (le : time ≤ till) : (c.turn ward mode world).1.load till < c.load till := by
  obtain ⟨site, server, interval, timeout, phase⟩ := c
  cases phase with
  | resting start =>
    simp only [due?, Option.some.injEq] at due
    simp only [turn, begin, load]
    omega
  | probing since duration verdict =>
    simp only [due?, Option.some.injEq] at due
    cases mode <;> simp only [turn, afterProbe, load] <;> omega
  | finished => simp [due?] at due

end Checker

end ReverseProxy
