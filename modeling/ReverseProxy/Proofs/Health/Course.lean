import ReverseProxy.Proofs.Health.Rounds
import ReverseProxy.Proofs.Health.Stop

/-! # What happens at endpoints, and when -/

namespace ReverseProxy

/-- How probes come out, whatever that depends on. They touch no balancer. -/
structure Prober where
  ask : Server → World → Probe × World
  ask_balancers : ∀ server world, (ask server world).2.balancers = world.balancers

namespace Prober

def ward (prober : Prober) : Ward World := { probe := prober.ask, write := World.write }

/-- Custom checks come first, and then the network. -/
def own : Prober := ⟨World.probe, Traffic.probe_balancers⟩

end Prober

/-! ## Journals -/

inductive Note where
  /-- A probe begins that will come out like this. -/
  | began (site : Site) (probe : Probe)
  | ended (site : Site) (verdict : Bool)
  | marked (site : Site) (up : Bool)
  /-- The checkers of a backend are told to stop. -/
  | fired (backend : String)

abbrev Journal := List (Nat × Note)

namespace Note

def begun? (site : Site) : Nat × Note → Option (Nat × Probe)
  | (time, began s probe) => if s = site then some (time, probe) else none
  | _ => none

def ended? (site : Site) : Nat × Note → Option (Nat × Bool)
  | (time, ended s verdict) => if s = site then some (time, verdict) else none
  | _ => none

def write? : Note → Option (Site × Bool)
  | ended site up | marked site up => some (site, up)
  | _ => none

end Note

namespace Journal

def rounds (journal : Journal) (site : Site) : Rounds where
  begun := journal.filterMap (Note.begun? site)
  ended := journal.filterMap (Note.ended? site)

/-- The last thing that a probe or a person wrote. Endpoints start up. -/
def flag (journal : Journal) (site : Site) : Bool :=
  ((journal.filterMap fun n => n.2.write?.filter (·.1 = site)).getLast?.map (·.2)).getD true

/-- The checkers of a backend were told to stop. -/
def HasFired (journal : Journal) (backend : String) : Prop := ∃ time, (time, Note.fired backend) ∈ journal

end Journal

/-! ## Steps in time -/

/-- What is noted of a checker that does its turn. -/
def Checker.note? (prober : Prober) (c : Checker) (world : World) : Option Note :=
  match c.phase with
  | .resting _ => some (.began c.site (prober.ask c.server world).1)
  | .probing _ _ verdict => some (.ended c.site verdict)
  | .finished => none

namespace State

/-- What a checker at a position leaves behind it when it is due and probes come out like this. -/
def afterTurnBy (prober : Prober) (position : Nat) (w : Watch) (s : State) : State :=
  { s with
    world := (w.checker.turn prober.ward s.monitor.mode s.world).2
    monitor := { s.monitor with
      queue := s.monitor.queue.eraseIdx position ++
        [{ w with checker := (w.checker.turn prober.ward s.monitor.mode s.world).1 }] } }

/-- The endpoint that a mark is for: the first one with the address. -/
def siteOf? (name address : String) (s : State) : Option Site := do
  let backend ← s.world.balancers.backend? name
  let b ← s.world.balancers.balancer? backend
  let position ← Endpoint.position? b.endpoints address
  return { backend, position }

end State

def Happening.isQuiet : Happening → Bool
  | heed _ | draw _ | send _ | record _ => true
  | _ => false

/--
What may happen next, and what is noted of it. Time goes on as long as nobody is due before. Whoever is due
at the same time may have a turn in any order.
-/
inductive Moment (prober : Prober) (s : State) : Option Note → State → Prop where
  | elapse (milliseconds : Nat)
      (h : ∀ w ∈ s.monitor.queue, ∀ time, w.checker.due? = some time → s.now + milliseconds ≤ time) :
    Moment prober s none { s with now := s.now + milliseconds }
  | turn {position time : Nat} {w : Watch} (hget : s.monitor.queue[position]? = some w)
      (hdue : w.checker.due? = some time) (hle : time ≤ s.now) :
    Moment prober s (w.checker.note? prober s.world) (s.afterTurnBy prober position w)
  | mark {name address : String} {up : Bool} {after : State} (h : s.mark name address up = .ok after) :
    Moment prober s ((s.siteOf? name address).map (.marked · up)) after
  | fire (name : String) : Moment prober s (some (.fired name)) ((Happening.fire name).apply s)
  | quiet {h : Happening} (hquiet : h.isQuiet) : Moment prober s none (h.apply s)

/-- One thing after the other, with the journal of it. -/
inductive Course (prober : Prober) (s : State) : Journal → State → Prop where
  | refl : Course prober s [] s
  | step {journal : Journal} {t u : State} {note : Option Note} (h : Course prober s journal t)
      (hnext : Moment prober t note u) : Course prober s (journal ++ (note.map (t.now, ·)).toList) u

namespace Course

theorem single {prober : Prober} {s t : State} {note : Option Note} (h : Moment prober s note t) :
    Course prober s (note.map (s.now, ·)).toList t := .step .refl h

theorem trans {prober : Prober} {a b c : State} {first rest : Journal} (hab : Course prober a first b)
    (hbc : Course prober b rest c) : Course prober a (first ++ rest) c := by
  induction hbc with
  | refl => rwa [List.append_nil]
  | step _ hnext ih =>
    rw [← List.append_assoc]
    exact ih.step hnext

end Course

/-! ## Gateways keep time -/

namespace State

def Prompt (s : State) : Prop := ∀ w ∈ s.monitor.queue, ∀ time, w.checker.due? = some time → s.now ≤ time

/-- From a state in which nobody is overdue, another one comes in time. -/
def Comes (s after : State) : Prop :=
  s.Prompt → after.Prompt ∧ ∃ journal, Course .own s journal after

theorem Comes.refl (s : State) : Comes s s := fun h => ⟨h, [], .refl⟩

theorem Comes.trans {a b c : State} (hab : Comes a b) (hbc : Comes b c) : Comes a c := by
  intro ha
  obtain ⟨hb, first, hfirst⟩ := hab ha
  obtain ⟨hc, rest, hrest⟩ := hbc hb
  exact ⟨hc, first ++ rest, hfirst.trans hrest⟩

theorem elapse_comes {s : State} (milliseconds : Nat)
    (h : ∀ w ∈ s.monitor.queue, ∀ time, w.checker.due? = some time → s.now + milliseconds ≤ time) :
    Comes s { s with now := s.now + milliseconds } :=
  fun _ => ⟨h, _, .single (.elapse milliseconds h)⟩

/-- What a checker does next is not due before it does it. -/
theorem turn_prompt {s : State} {position time : Nat} {w : Watch} (hs : s.Prompt)
    (hget : s.monitor.queue[position]? = some w) (hdue : w.checker.due? = some time) (prober : Prober) :
    (s.afterTurnBy prober position w).Prompt := by
  have hnow := hs w (List.mem_of_getElem? hget) time hdue
  intro v hv due hdue'
  rcases List.mem_append.mp hv with hold | hnew
  · exact hs v (List.mem_of_mem_eraseIdx hold) due hdue'
  · obtain rfl := List.mem_singleton.mp hnew
    refine Nat.le_trans hnow ?_
    revert hdue'
    unfold Checker.turn
    cases hphase : w.checker.phase with
    | resting till =>
      simp only [Checker.due?, hphase, Option.some.injEq] at hdue
      simp only [Checker.due?, Checker.begin, Option.some.injEq]
      omega
    | probing since duration verdict =>
      simp only [Checker.due?, hphase, Option.some.injEq] at hdue
      cases s.monitor.mode with
      | once => simp [Checker.due?, Checker.afterProbe]
      | loop =>
        simp only [Checker.due?, Checker.afterProbe, Option.some.injEq]
        omega
    | finished =>
      simp [Checker.due?, hphase]

theorem turn_comes {s : State} {position time : Nat} {w : Watch} (hget : s.monitor.queue[position]? = some w)
    (hdue : w.checker.due? = some time) (hle : time ≤ s.now) : Comes s (s.afterTurn position w) :=
  fun hs => ⟨turn_prompt hs hget hdue .own, _, .single (.turn hget hdue hle)⟩

/-- Everything that is due up to a time is done when it is due. -/
theorem check_comes {s : State} {till : Nat} (hle : s.now ≤ till) : Comes s { s.check till with now := till } := by
  intro hs
  induction hload : Monitor.load till s.monitor.queue using Nat.strongRecOn generalizing s with
  | ind load ih =>
    rcases s.check_cases till with ⟨hsame, hafter⟩ | ⟨i, w, time, hget, hdue, htime, hfirst, hnext, hless⟩
    · rw [hsame]
      obtain ⟨rest, rfl⟩ := Nat.exists_eq_add_of_le hle
      exact elapse_comes rest (fun v hv due hdue => (hafter v hv due hdue).le) hs
    · -- Time goes on until the first one is due, and it has its turn.
      have hnow := hs w (List.mem_of_getElem? hget) time hdue
      obtain ⟨rest, rfl⟩ := Nat.exists_eq_add_of_le hnow
      have hturn : Comes s ({ s with now := s.now + rest }.afterTurn i w) :=
        (elapse_comes rest hfirst).trans (turn_comes hget hdue (Nat.le_refl _))
      have hrest := @ih _ (hload ▸ hless) ({ s with now := s.now + rest }.afterTurn i w) htime (hturn hs).1 rfl
      have hsame : { ({ s with now := s.now + rest }.afterTurn i w).check till with now := till } =
          { s.check till with now := till } := by
        rw [hnext]
        rfl
      rw [hsame] at hrest
      exact hturn.trans (fun _ => hrest) hs

theorem settle_comes (s : State) : Comes s s.settle := check_comes (Nat.le_refl s.now)

theorem advance_comes (s : State) (milliseconds : Nat) : Comes s (s.advance milliseconds) :=
  check_comes (Nat.le_add_right s.now milliseconds)

theorem resume_comes (s : State) (time : Nat) : Comes s (s.resume time) := by
  unfold resume
  split
  next => exact Comes.refl s
  next hlt =>
    obtain ⟨rest, rfl⟩ : ∃ rest, time = s.now + rest + 1 := ⟨time - s.now - 1, by omega⟩
    refine (check_comes (Nat.le_add_right s.now rest)).trans ?_
    refine elapse_comes 1 ?_
    intro w hw due hdue
    exact Monitor.runQueue_dueAfter World.ward s.monitor.mode (s.now + rest) s.monitor.queue s.world w hw due hdue

theorem fire_comes (s : State) (name : String) : Comes s ((Happening.fire name).apply s) :=
  fun hs => ⟨hs, _, .single (.fire name)⟩

theorem quiet_comes {h : Happening} (s : State) (hquiet : h.isQuiet) : Comes s (h.apply s) := by
  refine fun hs => ⟨?_, _, .single (.quiet hquiet)⟩
  cases h with
  | heed position =>
    rcases heed_cases position s with hsame | ⟨w, -, -, hheed⟩
    · rwa [Happening.apply, hsame]
    · rw [Happening.apply, hheed]
      intro v hv due hdue
      rcases List.mem_or_eq_of_mem_set hv with hold | rfl
      · exact hs v hold due hdue
      · cases hdue
  | draw backend => exact hs
  | send request => exact hs
  | record event => exact hs
  | _ => cases hquiet

theorem mark_comes (name address : String) (up : Bool) (s : State) :
    Comes s ((Happening.mark name address up).apply s) := by
  rw [Happening.apply]
  cases h : s.mark name address up with
  | error e => exact Comes.refl s
  | ok after =>
    refine fun hs => ⟨?_, _, .single (.mark h)⟩
    have hmonitor : after.monitor = s.monitor ∧ after.now = s.now := by
      unfold mark at h
      split at h
      next backend _ =>
        obtain ⟨balancers, -, hafter⟩ := bind_eq_ok.mp h
        cases hafter
        exact ⟨rfl, rfl⟩
      next => cases h
    have hprompt : after.Prompt := by
      unfold Prompt
      rw [hmonitor.1, hmonitor.2]
      exact hs
    exact hprompt

theorem comes_closed : Closed Comes where
  refl := Comes.refl
  trans := Comes.trans
  apply := by
    intro h s hinstant
    cases h with
    | fire name => exact s.fire_comes name
    | mark name address up => exact s.mark_comes name address up
    | elapse milliseconds => cases hinstant
    | turn position => cases hinstant
    | _ => exact s.quiet_comes rfl
  settle := settle_comes
  advance := advance_comes
  resume := resume_comes

end State

end ReverseProxy
