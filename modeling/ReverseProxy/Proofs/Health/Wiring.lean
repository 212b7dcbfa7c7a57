import Mathlib.Data.List.Perm.Basic
import ReverseProxy.Proofs.Health.Signals

/-! # Every checker can be stopped -/

namespace ReverseProxy

namespace Watch

def ear (w : Watch) : Nat × Nat := (w.signal, w.listener)

def backend (w : Watch) : Backend := w.checker.site.backend

def isFinished (w : Watch) : Prop := w.checker.phase = .finished

end Watch

namespace Monitor

/-- Every checker belongs to a backend, and unless it is finished it hears the signals of that backend. -/
structure Wired (fleet : Fleet) (m : Monitor) : Prop where
  known : ∀ w ∈ m.queue, fleet.backend? w.backend.name = some w.backend
  named : ∀ w ∈ m.queue, backendOf? m.signals w.signal = some w.backend.name
  heard : ∀ w ∈ m.queue, w.isFinished ∨ (pending? m.signals w.signal w.listener).isSome
  /-- No two of them listen at one place. -/
  apart : (m.queue.map Watch.ear).Nodup

/-! ## Watching balancers -/

section Watching

variable {fleet : Fleet} {m : Monitor} {common : HealthCheck} {checks : CustomChecks} {backend : Backend}

theorem backendOf?_append {signals more : List (String × StopSignal)} {i : Nat} {name : String}
    (h : backendOf? signals i = some name) : backendOf? (signals ++ more) i = some name := by
  obtain ⟨entry, hentry, rfl⟩ := Option.map_eq_some_iff.mp h
  rw [backendOf?, List.getElem?_append_left (List.getElem?_eq_some_iff.mp hentry).1, hentry]
  rfl

theorem pending?_append {signals more : List (String × StopSignal)} {i l : Nat}
    (h : (pending? signals i l).isSome) : pending? (signals ++ more) i l = pending? signals i l := by
  obtain ⟨pending, hpending⟩ := Option.isSome_iff_exists.mp h
  obtain ⟨entry, hentry, -⟩ := Option.bind_eq_some_iff.mp hpending
  rw [pending?, List.getElem?_append_left (List.getElem?_eq_some_iff.mp hentry).1, pending?]

theorem foldl_subscribe {α : Type} (xs : List α) (s : StopSignal) :
    (xs.foldl (fun s _ => s.subscribe.2) s).listeners = s.listeners ++ List.replicate xs.length (some 0) := by
  induction xs generalizing s with
  | nil => simp
  | cons x xs ih =>
    rw [List.foldl_cons, ih, StopSignal.subscribe, List.append_assoc, List.length_cons, List.replicate_succ]
    rfl

/-- The members of a pool that are probed, with their positions. -/
def probed (common : HealthCheck) (checks : CustomChecks) (members : List (Server × Nat)) :
    List (Server × Nat) :=
  members.filter fun (server, _) => Checker.isActive checks common server

/-- The watches of a new pool, which listen to a signal of their own. -/
def watchesOf (common : HealthCheck) (backend : Backend) (signal : Nat) (active : List (Server × Nat)) :
    List Watch :=
  active.zipIdx.map fun ((server, position), listener) =>
    { checker := Checker.starting ⟨backend, position⟩ server common 0, signal, listener }

theorem watchPool_eq (common : HealthCheck) (checks : CustomChecks) (backend : Backend) (m : Monitor)
    (members : List (Server × Nat)) :
    watchPool common checks backend m members =
      { m with
        signals := m.signals ++
          [(backend.name, ⟨List.replicate (probed common checks members).length (some 0)⟩)]
        queue := m.queue ++ watchesOf common backend m.signals.length (probed common checks members) } := by
  have hsignal : (probed common checks members).foldl (fun s _ => s.subscribe.2) {} =
      StopSignal.mk (List.replicate (probed common checks members).length (some 0)) :=
    congrArg StopSignal.mk (foldl_subscribe _ {})
  rw [← hsignal]
  rfl

theorem mem_watchesOf {signal : Nat} {active : List (Server × Nat)} {w : Watch}
    (h : w ∈ watchesOf common backend signal active) :
    w.backend = backend ∧ w.signal = signal ∧ w.listener < active.length := by
  obtain ⟨⟨⟨server, position⟩, listener⟩, hmem, rfl⟩ := List.mem_map.mp h
  have hlt := (List.mem_zipIdx hmem).2.1
  exact ⟨rfl, rfl, by simpa using hlt⟩

theorem ears_watchesOf (signal : Nat) (active : List (Server × Nat)) :
    (watchesOf common backend signal active).map Watch.ear =
      (List.range active.length).map fun listener => (signal, listener) := by
  rw [watchesOf, List.map_map, List.range_eq_range', ← List.zipIdx_map_snd 0 active, List.map_map]
  rfl

theorem Wired.watchPool (h : Wired fleet m) (hbackend : fleet.backend? backend.name = some backend)
    (members : List (Server × Nat)) : Wired fleet (watchPool common checks backend m members) := by
  rw [watchPool_eq]
  constructor
  case known =>
    intro w hw
    rcases List.mem_append.mp hw with hold | hnew
    · exact h.known w hold
    · rw [(mem_watchesOf hnew).1]
      exact hbackend
  case named =>
    intro w hw
    rcases List.mem_append.mp hw with hold | hnew
    · exact backendOf?_append (h.named w hold)
    · obtain ⟨hwb, hsignal, -⟩ := mem_watchesOf hnew
      rw [hwb, hsignal, backendOf?, List.getElem?_concat_length]
      rfl
  case heard =>
    intro w hw
    rcases List.mem_append.mp hw with hold | hnew
    · refine (h.heard w hold).imp_right ?_
      intro hpending
      rwa [pending?_append hpending]
    · obtain ⟨-, hsignal, hlistener⟩ := mem_watchesOf hnew
      refine Or.inr ?_
      rw [hsignal, pending?, List.getElem?_concat_length]
      simp [hlistener]
  case apart =>
    rw [List.map_append, List.nodup_append']
    refine ⟨h.apart, ?_, ?_⟩
    · rw [ears_watchesOf]
      exact List.nodup_range.map fun a b hab => (Prod.mk.inj hab).2
    · -- The new signal comes behind all signals that somebody listens to.
      intro ear hold hnew
      obtain ⟨w, hw, rfl⟩ := List.mem_map.mp hold
      obtain ⟨v, hv, hear⟩ := List.mem_map.mp hnew
      obtain ⟨entry, hentry, -⟩ := Option.map_eq_some_iff.mp (h.named w hw)
      have hlt := (List.getElem?_eq_some_iff.mp hentry).1
      have hsame : v.signal = w.signal := (Prod.mk.inj hear).1
      have hlength := (mem_watchesOf hv).2.1
      omega

theorem Wired.watch (h : Wired fleet m) (hbackend : fleet.backend? backend.name = some backend)
    (balancer : Balancer) : Wired fleet (watch common checks m backend balancer) := by
  unfold Monitor.watch
  induction membersFrom 0 balancer.pools generalizing m with
  | nil => exact h
  | cons members rest ih => exact ih (h.watchPool hbackend members)

def watchAll (common : HealthCheck) (checks : CustomChecks) (m : Monitor)
    (entries : List ((String × Balancer) × Nat)) : Monitor :=
  entries.foldl (fun m ((name, balancer), slot) => m.watch common checks { name, slot } balancer) m

theorem Wired.watchAll (h : Wired fleet m) {entries : List ((String × Balancer) × Nat)}
    (hentries : ∀ entry ∈ entries, fleet.backend? entry.1.1 = some { name := entry.1.1, slot := entry.2 }) :
    Wired fleet (watchAll common checks m entries) := by
  induction entries generalizing m with
  | nil => exact h
  | cons entry entries ih =>
    obtain ⟨hentry, hrest⟩ := List.forall_mem_cons.mp hentries
    exact ih (h.watch hentry entry.1.2) hrest

/-! ## Which endpoints are watched -/

def sites (m : Monitor) : List Site := m.queue.map (·.checker.site)

/-- The endpoints of a balancer, in all its pools, that are probed. -/
def sitesOf (common : HealthCheck) (checks : CustomChecks) (backend : Backend) (servers : List (Server × Nat)) :
    List Site :=
  (probed common checks servers).map fun (_, position) => ⟨backend, position⟩

def allSites (common : HealthCheck) (checks : CustomChecks) (entries : List ((String × Balancer) × Nat)) :
    List Site :=
  entries.flatMap fun ((name, balancer), slot) =>
    sitesOf common checks { name, slot } (balancer.endpoints.map (·.server)).zipIdx

def checkersOf (common : HealthCheck) (checks : CustomChecks) (backend : Backend) (servers : List (Server × Nat)) :
    List Checker :=
  (probed common checks servers).map fun (server, position) =>
    Checker.starting ⟨backend, position⟩ server common 0

def allCheckers (common : HealthCheck) (checks : CustomChecks) (entries : List ((String × Balancer) × Nat)) :
    List Checker :=
  entries.flatMap fun ((name, balancer), slot) =>
    checkersOf common checks { name, slot } (balancer.endpoints.map (·.server)).zipIdx

theorem sites_allCheckers (entries : List ((String × Balancer) × Nat)) :
    (allCheckers common checks entries).map (·.site) = allSites common checks entries := by
  simp only [allCheckers, allSites, List.map_flatMap, checkersOf, sitesOf, List.map_map]
  rfl

theorem checkers_watchPool (members : List (Server × Nat)) :
    (watchPool common checks backend m members).queue.map (·.checker) =
      m.queue.map (·.checker) ++ checkersOf common checks backend members := by
  rw [watchPool_eq, List.map_append, watchesOf, List.map_map, checkersOf]
  conv_rhs => rw [← List.zipIdx_map_fst 0 (probed common checks members), List.map_map]
  rfl

theorem flatten_membersFrom (first : Nat) (pools : List Pool) :
    (membersFrom first pools).flatten = ((pools.flatMap (·.ring)).map (·.server)).zipIdx first := by
  induction pools generalizing first with
  | nil => rfl
  | cons pool pools ih =>
    rw [membersFrom, List.flatten_cons, ih, List.flatMap_cons, List.map_append, List.zipIdx_append,
      List.length_map]

theorem checkers_watch (balancer : Balancer) :
    (watch common checks m backend balancer).queue.map (·.checker) =
      m.queue.map (·.checker) ++
        checkersOf common checks backend (balancer.endpoints.map (·.server)).zipIdx := by
  have hfold : ∀ (members : List (List (Server × Nat))) (m : Monitor),
      (members.foldl (watchPool common checks backend) m).queue.map (·.checker) =
        m.queue.map (·.checker) ++ checkersOf common checks backend members.flatten := by
    intro members
    induction members with
    | nil => simp [checkersOf, probed]
    | cons pool members ih =>
      intro m
      rw [List.foldl_cons, ih, checkers_watchPool, List.append_assoc, List.flatten_cons]
      simp [checkersOf, probed]
  rw [Monitor.watch, hfold, flatten_membersFrom, Balancer.endpoints]

theorem checkers_watchAll (entries : List ((String × Balancer) × Nat)) :
    (watchAll common checks m entries).queue.map (·.checker) =
      m.queue.map (·.checker) ++ allCheckers common checks entries := by
  induction entries generalizing m with
  | nil => simp [watchAll, allCheckers]
  | cons entry entries ih =>
    rw [watchAll, List.foldl_cons, ← watchAll, ih, checkers_watch, List.append_assoc]
    rfl

theorem sites_watchAll (entries : List ((String × Balancer) × Nat)) :
    (watchAll common checks m entries).sites = m.sites ++ allSites common checks entries := by
  have hchecker : ∀ m : Monitor, m.sites = (m.queue.map (·.checker)).map (·.site) := by
    intro m
    rw [sites, List.map_map]
    rfl
  rw [hchecker, checkers_watchAll, List.map_append, ← hchecker, sites_allCheckers]

end Watching

/-! ## Steps of single checkers -/

section Steps

variable {fleet : Fleet} {m : Monitor} {w : Watch} {i : Nat}

/-- A checker that does its turn comes last, which makes no difference to what is said of all. -/
theorem perm_requeue {queue : List Watch} {next : Watch} (h : i < queue.length) :
    (queue.eraseIdx i ++ [next]).Perm (queue.set i next) := by
  have hset : i < (queue.set i next).length := by simpa using h
  have hperm := List.getElem_cons_eraseIdx_perm hset
  rw [List.getElem_set_self, List.eraseIdx_set_eq] at hperm
  exact (List.perm_append_comm).trans hperm

theorem map_set {α : Type} {queue : List Watch} {next : Watch} (f : Watch → α) (hget : queue[i]? = some w)
    (h : f next = f w) : (queue.set i next).map f = queue.map f := by
  have hmap : (queue.map f)[i]? = some (f next) := by rw [List.getElem?_map, hget, h]; rfl
  rw [List.map_set, Traffic.set_of_getElem? hmap]

theorem mem_set_cases {queue : List Watch} {next v : Watch} (hapart : (queue.map Watch.ear).Nodup)
    (hget : queue[i]? = some w) (hv : v ∈ queue.set i next) : v = next ∨ v ∈ queue ∧ v.ear ≠ w.ear := by
  obtain ⟨j, hj, rfl⟩ := List.mem_iff_getElem.mp hv
  rw [List.length_set] at hj
  obtain ⟨hi, rfl⟩ := List.getElem?_eq_some_iff.mp hget
  rw [List.getElem_set]
  split
  next => exact Or.inl rfl
  next hne =>
    refine Or.inr ⟨List.getElem_mem hj, ?_⟩
    intro hear
    have hi' : i < (queue.map Watch.ear).length := by rwa [List.length_map]
    have hj' : j < (queue.map Watch.ear).length := by rwa [List.length_map]
    have hmap : (queue.map Watch.ear)[j] = (queue.map Watch.ear)[i] := by simpa using hear
    exact hne (hapart.getElem_inj_iff.mp hmap).symm

/-- One checker does something, and takes nothing from the others. -/
theorem Wired.set {next : Watch} {signals : List (String × StopSignal)} (h : Wired fleet m)
    (hget : m.queue[i]? = some w) (hear : next.ear = w.ear) (hbackend : next.backend = w.backend)
    (hnames : ∀ j, backendOf? signals j = backendOf? m.signals j)
    (hothers : ∀ v ∈ m.queue, v.ear ≠ w.ear →
      pending? signals v.signal v.listener = pending? m.signals v.signal v.listener)
    (hnext : next.isFinished ∨ (pending? signals next.signal next.listener).isSome) :
    Wired fleet { m with signals, queue := m.queue.set i next } := by
  have hw : w ∈ m.queue := List.mem_of_getElem? hget
  constructor
  case known =>
    intro v hv
    rcases mem_set_cases h.apart hget hv with rfl | ⟨hold, -⟩
    · rw [hbackend]
      exact h.known w hw
    · exact h.known v hold
  case named =>
    intro v hv
    rw [hnames]
    rcases mem_set_cases h.apart hget hv with rfl | ⟨hold, -⟩
    · rw [(Prod.mk.inj hear).1, hbackend]
      exact h.named w hw
    · exact h.named v hold
  case heard =>
    intro v hv
    rcases mem_set_cases h.apart hget hv with rfl | ⟨hold, hne⟩
    · exact hnext
    · rw [hothers v hold hne]
      exact h.heard v hold
  case apart =>
    rw [map_set Watch.ear hget hear]
    exact h.apart

theorem Wired.perm {queue : List Watch} (h : Wired fleet m) (hperm : queue.Perm m.queue) :
    Wired fleet { m with queue } where
  known := fun w hw => h.known w (hperm.mem_iff.mp hw)
  named := fun w hw => h.named w (hperm.mem_iff.mp hw)
  heard := fun w hw => h.heard w (hperm.mem_iff.mp hw)
  apart := (hperm.map _).nodup_iff.mpr h.apart

theorem Wired.fire (h : Wired fleet m) (name : String) : Wired fleet (m.fire name) where
  known := h.known
  named := by
    intro w hw
    rw [backendOf?_fire]
    exact h.named w hw
  heard := by
    intro w hw
    rw [pending?_fire, Option.isSome_map]
    exact h.heard w hw
  apart := h.apart

theorem Wired.fleet_congr {other : Fleet} (h : Wired fleet m)
    (hsame : ∀ name, other.backend? name = fleet.backend? name) : Wired other m where
  known := by
    intro w hw
    rw [hsame]
    exact h.known w hw
  named := h.named
  heard := h.heard
  apart := h.apart

end Steps

end Monitor

end ReverseProxy
