import ReverseProxy.Proofs.Health.Punctual
import ReverseProxy.Proofs.Health.Wiring

/-! # Checkers among everything else -/

namespace ReverseProxy

namespace State

/-- The checker at a position of the queue does its turn, if that is due, and goes to the end. -/
def turn (position : Nat) (s : State) : State :=
  match s.monitor.queue[position]? with
  | some w =>
    if w.checker.due?.any (· ≤ s.now) then
      { s with
        world := (w.checker.turn World.ward s.monitor.mode s.world).2
        monitor := { s.monitor with
          queue := s.monitor.queue.eraseIdx position ++
            [{ w with checker := (w.checker.turn World.ward s.monitor.mode s.world).1 }] } }
    else s
  | none => s

/-- The checker at a position asks for its signal, and stops if it hears one. -/
def heed (position : Nat) (s : State) : State :=
  match s.monitor.queue[position]? with
  | some w =>
    { s with
      monitor := { s.monitor with
        signals := (Monitor.obey s.monitor.signals w).1
        queue := s.monitor.queue.set position (Monitor.obey s.monitor.signals w).2 } }
  | none => s

end State

/--
What may happen to a gateway next. Checkers do their turns late or in time, one by one and in any
order, and so they ask for their signals.
-/
inductive Happening where
  | elapse (milliseconds : Nat)
  | turn (position : Nat)
  | heed (position : Nat)
  | fire (backend : String)
  | draw (backend : Backend)
  | mark (name address : String) (up : Bool)
  | send (request : Request)
  | record (event : AccessEvent)

namespace Happening

def apply : Happening → State → State
  | elapse milliseconds, s => { s with now := s.now + milliseconds }
  | turn position, s => s.turn position
  | heed position, s => s.heed position
  | fire backend, s => { s with monitor := s.monitor.fire backend }
  | draw backend, s => (s.drawFrom backend).2
  | mark name address up, s => (s.mark name address up).toOption.getD s
  | send request, s => (s.send request).2
  | record event, s => s.record event

def run (happenings : List Happening) (s : State) : State := happenings.foldl (fun s h => h.apply s) s

theorem run_append (happenings more : List Happening) (s : State) :
    run (happenings ++ more) s = run more (run happenings s) := List.foldl_append

/-- It takes no time, and is not the turn of a checker. -/
def isInstant : Happening → Bool
  | elapse _ | turn _ => false
  | _ => true

end Happening

/-! ## Turn by turn -/

theorem Monitor.turn_eq {σ : Type} (ward : Ward σ) (mode : CheckMode) {time : Nat} {queue : List Watch}
    (world : σ) (h : ∃ w ∈ queue, w.checker.due? = some time) :
    ∃ i w, queue[i]? = some w ∧ w.checker.due? = some time ∧
      turn ward mode time queue world =
        (queue.eraseIdx i ++ [{ w with checker := (w.checker.turn ward mode world).1 }],
          (w.checker.turn ward mode world).2) := by
  induction queue with
  | nil => simp at h
  | cons first rest ih =>
    unfold turn
    split
    next hdue => exact ⟨0, first, rfl, hdue, rfl⟩
    next hdue =>
      have hrest : ∃ w ∈ rest, w.checker.due? = some time := by
        obtain ⟨w, hw, hwdue⟩ := h
        rcases List.mem_cons.mp hw with rfl | hw
        · exact absurd hwdue hdue
        · exact ⟨w, hw, hwdue⟩
      obtain ⟨i, w, hget, hwdue, hturn⟩ := ih hrest
      exact ⟨i + 1, w, hget, hwdue, by rw [hturn]; rfl⟩

namespace State

/-- What a checker at a position leaves behind it when it is due. -/
def afterTurn (position : Nat) (w : Watch) (s : State) : State :=
  { s with
    world := (w.checker.turn World.ward s.monitor.mode s.world).2
    monitor := { s.monitor with
      queue := s.monitor.queue.eraseIdx position ++
        [{ w with checker := (w.checker.turn World.ward s.monitor.mode s.world).1 }] } }

theorem turn_of_due {s : State} {position time : Nat} {w : Watch} (hget : s.monitor.queue[position]? = some w)
    (hdue : w.checker.due? = some time) (hle : time ≤ s.now) : s.turn position = s.afterTurn position w := by
  rw [turn, hget, afterTurn]
  simp [hdue, hle]

theorem heed_of_getElem? {s : State} {position : Nat} {w : Watch} (hget : s.monitor.queue[position]? = some w) :
    s.heed position =
      { s with
        monitor := { s.monitor with
          signals := (Monitor.obey s.monitor.signals w).1
          queue := s.monitor.queue.set position (Monitor.obey s.monitor.signals w).2 } } := by
  rw [heed, hget]

/-- Nothing is due by a time, or whoever is due first has a turn. -/
theorem check_cases (till : Nat) (s : State) :
    (s.check till = s ∧ Monitor.DueAfter till s.monitor.queue) ∨
      ∃ position w time, s.monitor.queue[position]? = some w ∧ w.checker.due? = some time ∧ time ≤ till ∧
        (∀ v ∈ s.monitor.queue, ∀ due, v.checker.due? = some due → time ≤ due) ∧
        s.check till = (s.afterTurn position w).check till ∧
        Monitor.load till (s.afterTurn position w).monitor.queue < Monitor.load till s.monitor.queue := by
  have hcheck : ∀ s : State, s.check till =
      { s with
        world := (Monitor.runQueue World.ward s.monitor.mode till s.monitor.queue s.world).2
        monitor := { s.monitor with
          queue := (Monitor.runQueue World.ward s.monitor.mode till s.monitor.queue s.world).1 } } :=
    fun _ => rfl
  cases hearliest : Monitor.earliest? s.monitor.queue with
  | none =>
    refine Or.inl ⟨?_, Monitor.dueAfter_of_earliest? (by simp [hearliest])⟩
    rw [hcheck, Monitor.runQueue_eq, hearliest]
  | some time =>
    by_cases hle : time ≤ till
    · have hfound : ∃ w ∈ s.monitor.queue, w.checker.due? = some time := by
        simpa using List.min?_mem hearliest
      obtain ⟨i, w, hget, hdue, hturn⟩ := Monitor.turn_eq World.ward s.monitor.mode s.world hfound
      have hless := @Monitor.load_turn_lt _ World.ward s.monitor.mode time till s.monitor.queue s.world
        hearliest hle
      rw [hturn] at hless
      refine Or.inr ⟨i, w, time, hget, hdue, hle, ?_, ?_, hless⟩
      · exact fun v hv due hv' => Monitor.earliest?_le hearliest hv hv'
      · rw [hcheck, Monitor.runQueue_eq, hearliest, hcheck]
        dsimp only
        rw [if_pos hle, hturn]
        rfl
    · refine Or.inl ⟨?_, Monitor.dueAfter_of_earliest? ?_⟩
      · rw [hcheck, Monitor.runQueue_eq, hearliest]
        dsimp only
        rw [if_neg hle]
      · intro later hlater
        rw [hearliest] at hlater
        cases hlater
        omega

/-! ## All that a gateway does -/

/-- A relation that a gateway keeps to, whatever it does at once and in whichever way it lets time pass. -/
structure Closed (R : State → State → Prop) : Prop where
  refl : ∀ s, R s s
  trans : ∀ {a b c}, R a b → R b c → R a c
  apply : ∀ {h : Happening} (s : State), h.isInstant → R s (h.apply s)
  settle : ∀ s, R s s.settle
  advance : ∀ s milliseconds, R s (s.advance milliseconds)
  resume : ∀ s time, R s (s.resume time)

namespace Closed

variable {R : State → State → Prop} (closed : Closed R)

include closed

theorem expire (s : State) (deadline : Option Nat) : R s (s.expire deadline) := by
  cases deadline with
  | none => exact closed.refl s
  | some time => exact closed.resume s time

theorem draw (s : State) (name : String) : R s (s.draw name).2 := by
  unfold State.draw
  split
  next backend _ => exact closed.apply (h := .draw backend) s rfl
  next => exact closed.refl s

theorem mark {name address : String} {up : Bool} {s after : State}
    (h : s.mark name address up = .ok after) : R s after := by
  have hmark := closed.apply (h := .mark name address up) s rfl
  rwa [Happening.apply, h] at hmark

theorem stop (s : State) (backend : String) : R s (s.stop backend) := by
  -- One checker after the other asks, and those before it have asked already.
  have hobey : ∀ (queue before : List Watch) (s : State), s.monitor.queue = before ++ queue →
      R s { s with
        monitor := { s.monitor with
          signals := (Monitor.obeyAll s.monitor.signals queue).1
          queue := before ++ (Monitor.obeyAll s.monitor.signals queue).2 } } := by
    intro queue
    induction queue with
    | nil =>
      intro before s hqueue
      rw [Monitor.obeyAll, ← hqueue]
      exact closed.refl s
    | cons w rest ih =>
      intro before s hqueue
      have hget : s.monitor.queue[before.length]? = some w := by rw [hqueue]; simp
      have hset : s.monitor.queue.set before.length (Monitor.obey s.monitor.signals w).2 =
          before ++ [(Monitor.obey s.monitor.signals w).2] ++ rest := by
        rw [hqueue]
        simp
      refine closed.trans (closed.apply (h := .heed before.length) s rfl) ?_
      rw [Happening.apply, heed_of_getElem? hget, hset]
      have hrest := ih (before ++ [(Monitor.obey s.monitor.signals w).2]) { s with
        monitor := { s.monitor with
          signals := (Monitor.obey s.monitor.signals w).1
          queue := before ++ [(Monitor.obey s.monitor.signals w).2] ++ rest } } rfl
      simp only [Monitor.obeyAll, List.append_assoc, List.singleton_append] at hrest ⊢
      exact hrest
  exact closed.trans (closed.apply (h := .fire backend) s rfl) (hobey _ [] _ rfl)

theorem shutdown (s : State) : R s s.shutdown := by
  unfold State.shutdown
  induction s.world.balancers.map (·.1) generalizing s with
  | nil => exact closed.refl s
  | cons name names ih => exact closed.trans (closed.stop s name) (ih (s.stop name))

theorem run {α : Type} (deadline : Option Nat) (act : Act α) (s : State) : R s (act.run deadline s).2 := by
  induction act generalizing s with
  | done value => exact closed.refl s
  | draw backend next ih => exact closed.trans (closed.apply (h := .draw backend) s rfl) (ih _ _)
  | send request next ih =>
    have hsend : R s (s.send request).2 := closed.apply (h := .send request) s rfl
    unfold Act.run
    split
    next response after h =>
      rw [h] at hsend
      exact closed.trans hsend (ih (.ok response) after)
    next failure after h =>
      rw [h] at hsend
      exact closed.trans hsend (ih (.error failure) after)
    next after h =>
      rw [h] at hsend
      exact closed.trans hsend (closed.expire after deadline)
  | wait milliseconds next ih =>
    unfold Act.run
    split
    · exact closed.expire s deadline
    · exact closed.trans (closed.resume s _) (ih _)
  | record event next ih => exact closed.trans (closed.apply (h := .record event) s rfl) (ih _)

theorem serve (gateway : Gateway) (timeouts : Timeouts) (fresh : Bytes) (request : Request) (s : State) :
    R s (gateway.serve timeouts fresh request s).2 := by
  unfold Gateway.serve Gateway.within
  dsimp only
  split
  · exact closed.settle s
  · exact closed.trans (closed.run _ _ s) (closed.settle _)

end Closed

def Becomes (s after : State) : Prop := ∃ happenings, Happening.run happenings s = after

theorem Becomes.refl (s : State) : Becomes s s := ⟨[], rfl⟩

theorem Becomes.trans {a b c : State} (hab : Becomes a b) (hbc : Becomes b c) : Becomes a c := by
  obtain ⟨happenings, rfl⟩ := hab
  obtain ⟨more, rfl⟩ := hbc
  exact ⟨happenings ++ more, Happening.run_append happenings more a⟩

theorem becomes_apply (h : Happening) (s : State) : Becomes s (h.apply s) := ⟨[h], rfl⟩

theorem check_becomes {till : Nat} (s : State) (h : till ≤ s.now) : Becomes s (s.check till) := by
  -- Each turn leaves less to do until then.
  induction hload : Monitor.load till s.monitor.queue using Nat.strongRecOn generalizing s with
  | ind load ih =>
    rcases s.check_cases till with ⟨hsame, -⟩ | ⟨i, w, time, hget, hdue, hle, -, hnext, hless⟩
    · rw [hsame]
      exact Becomes.refl s
    · have hturn := becomes_apply (.turn i) s
      rw [Happening.apply, turn_of_due hget hdue (Nat.le_trans hle h)] at hturn
      rw [hnext]
      exact hturn.trans (ih _ (hload ▸ hless) _ h rfl)

theorem becomes_closed : Closed Becomes where
  refl := Becomes.refl
  trans := Becomes.trans
  apply := fun s _ => becomes_apply _ s
  settle := fun s => check_becomes s (Nat.le_refl s.now)
  advance := fun s milliseconds =>
    (becomes_apply (.elapse milliseconds) s).trans (check_becomes _ (Nat.le_refl _))
  resume := by
    intro s time
    unfold resume
    split
    next => exact Becomes.refl s
    next hlt =>
      -- All that is due before the time is done just before it.
      obtain ⟨rest, rfl⟩ : ∃ rest, time = s.now + rest + 1 := ⟨time - s.now - 1, by omega⟩
      refine (becomes_apply (.elapse rest) s).trans ?_
      exact (check_becomes _ (Nat.le_refl _)).trans (becomes_apply (.elapse 1) _)

end State

/-! ## States of a gateway -/

namespace Gateway

/-- A new gateway whose checkers have not begun yet. -/
def begun (gateway : Gateway) (common : HealthCheck) (mode : CheckMode) (checks : CustomChecks)
    (network : Network) : State where
  world := { balancers := gateway.balancers, checks, network }
  monitor := Monitor.watchAll common checks { mode } gateway.balancers.zipIdx

/-- The state comes of a new gateway in which these checks were to be made. -/
def Arises (gateway : Gateway) (common : HealthCheck) (checks : CustomChecks) (s : State) : Prop :=
  ∃ mode network, State.Becomes (gateway.begun common mode checks network) s

theorem Reaches.related {R : State → State → Prop} (closed : State.Closed R) {gateway : Gateway} {s : State}
    (h : gateway.Reaches s) : ∃ common mode checks network, R (gateway.begun common mode checks network) s := by
  -- Every further step is related to what came before it.
  have hnext : ∀ {s after : State}, R s after →
      (∃ common mode checks network, R (gateway.begun common mode checks network) s) →
      ∃ common mode checks network, R (gateway.begun common mode checks network) after := by
    rintro s after hafter ⟨common, mode, checks, network, hs⟩
    exact ⟨common, mode, checks, network, closed.trans hs hafter⟩
  induction h with
  | start common mode checks network => exact ⟨common, mode, checks, network, closed.settle _⟩
  | dispatch request _ ih => exact hnext (closed.trans (closed.run none _ _) (closed.settle _)) ih
  | serve timeouts fresh request _ ih => exact hnext (closed.serve gateway timeouts fresh request _) ih
  | serveConnection timeouts fresh request _ ih =>
    exact hnext (closed.serve gateway timeouts fresh (sent request) _) ih
  | advance milliseconds _ ih => exact hnext (closed.advance _ milliseconds) ih
  | draw name _ ih => exact hnext (closed.draw _ name) ih
  | mark name address up _ hmark ih => exact hnext (closed.mark hmark) ih
  | stop name _ ih => exact hnext (closed.stop _ name) ih
  | shutdown _ ih => exact hnext (closed.shutdown _) ih

/-- Whatever a gateway does is a run of its checkers among everything else. -/
theorem Reaches.arises {gateway : Gateway} {s : State} (h : gateway.Reaches s) :
    ∃ common checks, gateway.Arises common checks s := by
  obtain ⟨common, mode, checks, network, hs⟩ := h.related State.becomes_closed
  exact ⟨common, checks, mode, network, hs⟩

end Gateway

end ReverseProxy
