import ReverseProxy.Balance.Fleet
import ReverseProxy.Health.Checker
import ReverseProxy.Health.StopSignal

/-! # All checkers of a gateway -/

namespace ReverseProxy

/-- A checker and where it listens: the number of a signal, and its number among the listeners. -/
structure Watch where
  checker : Checker
  signal : Nat
  listener : Nat

/-- The signals that stop checkers, and the checkers. -/
structure Monitor where
  mode : CheckMode
  /-- One for each pool, under the name of its backend. -/
  signals : List (String × StopSignal) := []
  /-- Whoever did something longest ago comes first. -/
  queue : List Watch := []

namespace Monitor

variable {σ : Type}

/-! ## Time -/

/-- How much all checkers can still do until a time. -/
def load (till : Nat) : List Watch → Nat
  | [] => 0
  | w :: rest => w.checker.load till + load till rest

theorem load_append_singleton (till : Nat) (queue : List Watch) (w : Watch) :
    load till (queue ++ [w]) = load till queue + w.checker.load till := by
  induction queue with
  | nil => simp [load]
  | cons v rest ih => simp only [List.cons_append, load, ih, Nat.add_assoc]

/-- When something is due next. -/
def earliest? (queue : List Watch) : Option Nat := (queue.filterMap (·.checker.due?)).min?

/-- The first that is due at a time does its turn and goes to the end. -/
def turn (ward : Ward σ) (mode : CheckMode) (time : Nat) : List Watch → σ → List Watch × σ
  | [], world => ([], world)
  | w :: rest, world =>
    if w.checker.due? = some time then
      let (checker, world) := w.checker.turn ward mode world
      (rest ++ [{ w with checker }], world)
    else
      let (rest, world) := turn ward mode time rest world
      (w :: rest, world)

theorem load_turn_lt {ward : Ward σ} {mode : CheckMode} {time till : Nat} {queue : List Watch} {world : σ}
    (due : earliest? queue = some time) (le : time ≤ till) :
    load till (turn ward mode time queue world).1 < load till queue := by
  have found : ∃ w ∈ queue, w.checker.due? = some time := by
    simpa using List.min?_mem due
  clear due
  induction queue generalizing world with
  | nil => simp at found
  | cons w rest ih =>
    simp only [turn]
    split
    next due =>
      have := @Checker.load_turn_lt _ ward mode w.checker world time till due le
      simp only [load_append_singleton, load]
      omega
    next other =>
      have rest_found : ∃ w ∈ rest, w.checker.due? = some time := by
        obtain ⟨v, mem, due⟩ := found
        rcases List.mem_cons.1 mem with rfl | mem
        · exact absurd due other
        · exact ⟨v, mem, due⟩
      have := @ih world rest_found
      simp only [load]
      omega

/-- Everything that is due up to a time, in order. -/
def runQueue (ward : Ward σ) (mode : CheckMode) (till : Nat) (queue : List Watch) (world : σ) :
    List Watch × σ :=
  match _due : earliest? queue with
  | none => (queue, world)
  | some time =>
    if _le : time ≤ till then
      let next := turn ward mode time queue world
      runQueue ward mode till next.1 next.2
    else (queue, world)
termination_by load till queue
decreasing_by exact load_turn_lt _due _le

def run (ward : Ward σ) (till : Nat) (m : Monitor) (world : σ) : Monitor × σ :=
  let (queue, world) := runQueue ward m.mode till m.queue world
  ({ m with queue }, world)

/-! ## Construction -/

/-- A signal for a pool, and a checker for each server that is to be probed. -/
def watchPool (common : HealthCheck) (checks : CustomChecks) (backend : Backend) (m : Monitor)
    (members : List (Server × Nat)) : Monitor :=
  let active := members.filter fun (server, _) => Checker.isActive checks common server
  let signal : StopSignal := active.foldl (fun s _ => s.subscribe.2) {}
  let watches := active.zipIdx.map fun ((server, position), listener) =>
    { checker := Checker.starting ⟨backend, position⟩ server common 0, signal := m.signals.length, listener }
  { m with signals := m.signals ++ [(backend.name, signal)], queue := m.queue ++ watches }

/-- The servers of each pool with their positions among all. -/
def membersFrom : Nat → List Pool → List (List (Server × Nat))
  | _, [] => []
  | first, pool :: rest =>
    (pool.ring.map (·.server)).zipIdx first :: membersFrom (first + pool.ring.length) rest

/-- Watches a balancer from the beginning of time. -/
def watch (common : HealthCheck) (checks : CustomChecks) (m : Monitor) (backend : Backend)
    (balancer : Balancer) : Monitor :=
  (membersFrom 0 balancer.pools).foldl (watchPool common checks backend) m

/-! ## Stopping -/

def fire (backend : String) (m : Monitor) : Monitor :=
  { m with signals := m.signals.map fun (name, s) => (name, if name = backend then s.fire else s) }

/-- A checker that hears its signal, or that it missed some, stops and leaves. -/
def obey (signals : List (String × StopSignal)) (w : Watch) : List (String × StopSignal) × Watch :=
  match signals[w.signal]? with
  | none => (signals, w)
  | some (name, s) =>
    match s.receive w.listener with
    | (some .signal, s) | (some (.missed _), s) =>
      (signals.set w.signal (name, s.leave w.listener), { w with checker := w.checker.stop })
    | (_, s) => (signals.set w.signal (name, s), w)

def obeyAll (signals : List (String × StopSignal)) : List Watch → List (String × StopSignal) × List Watch
  | [] => (signals, [])
  | w :: rest =>
    let (signals, w) := obey signals w
    let (signals, rest) := obeyAll signals rest
    (signals, w :: rest)

/-- Stops the checkers of a backend. A probe under way has no effect any more. -/
def stop (backend : String) (m : Monitor) : Monitor :=
  let m := m.fire backend
  let (signals, queue) := obeyAll m.signals m.queue
  { m with signals, queue }

end Monitor

end ReverseProxy
