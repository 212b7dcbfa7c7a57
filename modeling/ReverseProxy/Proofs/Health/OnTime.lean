import ReverseProxy.Proofs.Balance.Marks
import ReverseProxy.Proofs.Gateway.Assembly
import ReverseProxy.Proofs.Health.Timetable

/-! # Gateways probe on time -/

open scoped List

namespace ReverseProxy

/-! ## New checkers -/

namespace Monitor

variable {common : HealthCheck} {checks : CustomChecks} {m : Monitor}

theorem watchAll_keeps {P : Monitor → Prop}
    (hpool : ∀ backend members m, P m → P (watchPool common checks backend m members)) (h : P m)
    (entries : List ((String × Balancer) × Nat)) : P (watchAll common checks m entries) := by
  have hwatch : ∀ (members : List (List (Server × Nat))) (backend : Backend) (m : Monitor), P m →
      P (members.foldl (watchPool common checks backend) m) := by
    intro members backend
    induction members with
    | nil => exact fun _ h => h
    | cons pool members ih => exact fun m h => ih _ (hpool backend pool m h)
  induction entries generalizing m with
  | nil => exact h
  | cons entry entries ih => exact ih (hwatch _ _ m h)

def Hushed (m : Monitor) : Prop := ∀ i l, ∀ n ∈ pending? m.signals i l, n = 0

theorem Hushed.watchPool (h : Hushed m) (backend : Backend) (members : List (Server × Nat)) :
    Hushed (watchPool common checks backend m members) := by
  intro i l n hn
  rw [watchPool_eq, pending?, List.getElem?_append] at hn
  split at hn
  next => exact h i l n hn
  next =>
    obtain ⟨entry, hentry, hlistener⟩ := Option.bind_eq_some_iff.mp hn
    obtain rfl := List.mem_singleton.mp (List.mem_of_getElem? hentry)
    have hmem := List.mem_of_getElem? (Option.join_eq_some_iff.mp hlistener)
    simpa using (List.mem_replicate.mp hmem).2

theorem Hushed.not_called (h : Hushed m) (w : Watch) : ¬Called m.signals w := by
  rintro ⟨missed, hmissed⟩
  cases h _ _ _ hmissed

theorem sitesOf_nodup (backend : Backend) (servers : List Server) :
    (sitesOf common checks backend servers.zipIdx).Nodup := by
  have hpositions : ((probed common checks servers.zipIdx).map (·.2)).Nodup := by
    have hsub : (probed common checks servers.zipIdx).map (·.2) <+ servers.zipIdx.map (·.2) :=
      List.filter_sublist.map _
    rw [List.zipIdx_map_snd] at hsub
    exact hsub.nodup List.nodup_range'
  have hsites := hpositions.map fun a b (hab : Site.mk backend a = Site.mk backend b) => congrArg Site.position hab
  rwa [List.map_map] at hsites

theorem allSites_nodup (fleet : Fleet) : (allSites common checks fleet.zipIdx).Nodup := by
  refine List.nodup_flatMap.mpr ⟨fun entry _ => sitesOf_nodup _ _, ?_⟩
  have hslots : fleet.zipIdx.Pairwise fun a b => a.2 ≠ b.2 := by
    rw [← List.pairwise_map, List.zipIdx_map_snd]
    exact List.nodup_range'
  refine hslots.imp ?_
  intro a b hne site ha hb
  obtain ⟨_, -, rfl⟩ := List.mem_map.mp ha
  obtain ⟨_, -, hsame⟩ := List.mem_map.mp hb
  exact hne (congrArg (·.backend.slot) hsame).symm

theorem mem_allCheckers {fleet : Fleet} (hnodup : (fleet.map (·.1)).Nodup) {c : Checker} :
    c ∈ allCheckers common checks fleet.zipIdx ↔ ∃ site e, fleet.Knows site.backend ∧
      fleet.endpoint? site = some e ∧ Checker.isActive checks common e.server ∧
      c = Checker.starting site e.server common 0 := by
  constructor
  · intro hc
    obtain ⟨⟨⟨name, balancer⟩, slot⟩, hentry, hc⟩ := List.mem_flatMap.mp hc
    obtain ⟨⟨server, position⟩, hprobed, rfl⟩ := List.mem_map.mp hc
    obtain ⟨hserver, hactive⟩ := List.mem_filter.mp hprobed
    have hget := List.mem_zipIdx_iff_getElem?.mp hserver
    rw [List.getElem?_map, Option.map_eq_some_iff] at hget
    obtain ⟨e, he, rfl⟩ := hget
    have hbalancer : fleet.balancer? { name, slot } = some balancer := by
      rw [Fleet.balancer?, List.mem_zipIdx_iff_getElem?.mp hentry]
      rfl
    exact ⟨⟨{ name, slot }, position⟩, e, Fleet.backend?_of_mem_zipIdx hnodup hentry,
      Option.bind_eq_some_iff.mpr ⟨balancer, hbalancer, he⟩, hactive, rfl⟩
  · rintro ⟨⟨⟨name, slot⟩, position⟩, e, hknows, he, hactive, rfl⟩
    obtain ⟨balancer, hbalancer, hget⟩ := Option.bind_eq_some_iff.mp he
    obtain ⟨found, hentry⟩ := Fleet.exists_of_backend? hknows
    rw [Fleet.balancer?, hentry, Option.map_some, Option.some.injEq] at hbalancer
    obtain rfl : found = balancer := hbalancer
    refine List.mem_flatMap.mpr ⟨((name, found), slot), List.mem_zipIdx_iff_getElem?.mpr hentry, ?_⟩
    refine List.mem_map.mpr ⟨(e.server, position), List.mem_filter.mpr ⟨?_, hactive⟩, rfl⟩
    rw [List.mem_zipIdx_iff_getElem?, List.getElem?_map, hget]
    rfl

end Monitor

/-! ## Endpoints of a new gateway -/

/-- The check that a server is probed by: its own, or else the one that all servers share. -/
inductive HealthCheck.Governs (common : HealthCheck) (server : Server) : HealthCheck → Prop where
  | own {check : HealthCheck} (h : server.healthCheck = some check) : Governs common server check
  | shared (h : server.healthCheck = none) : Governs common server common

theorem HealthCheck.governs_iff {common check : HealthCheck} {server : Server} :
    common.Governs server check ↔ server.check common = check := by
  unfold Server.check
  constructor
  · rintro (h | h)
    · rw [h, Option.getD_some]
    · rw [h, Option.getD_none]
  · rintro rfl
    cases h : server.healthCheck with
    | none => exact .shared h
    | some check => exact .own h

theorem Config.Sound.check_pos {config : Config} (hsound : config.Sound) {server : Server}
    (h : server ∈ config.servers) {check : HealthCheck} (hgoverns : config.healthCheck.Governs server check) :
    0 < check.interval.toNat ∧ 0 < check.timeout.toNat := by
  have hcheck : check.Sound := by
    cases hgoverns with
    | own hown => exact (hsound.servers server h).check check hown
    | shared => exact hsound.check
  have hpos : ∀ n : UInt64, n ≠ 0 → 0 < n.toNat := by
    intro n hn
    refine Nat.pos_of_ne_zero ?_
    intro hzero
    exact hn (UInt64.toNat_inj.mp hzero)
  exact ⟨hpos _ hcheck.interval, hpos _ hcheck.timeout⟩

namespace Gateway

variable {plan : Plan} {listener : String} {gateway : Gateway}

theorem build_endpoint (hsound : plan.config.Sound) (hbuild : build plan listener = .ok gateway) {site : Site}
    {e : Endpoint} (he : gateway.balancers.endpoint? site = some e) : e.up ∧ e.server ∈ plan.config.servers := by
  obtain ⟨balancer, hbalancer, hget⟩ := Option.bind_eq_some_iff.mp he
  obtain ⟨⟨name, _⟩, hentry, rfl⟩ := Option.map_eq_some_iff.mp hbalancer
  obtain ⟨spec, hspec, hof⟩ := (build_spec hbuild).1.own name _ (List.mem_of_getElem? hentry)
  obtain ⟨servers, hservers, hne, hvalid⟩ := exists_servers hsound (hsound.backends spec (Config.mem_of_find hspec).1)
  have hnamed := balancerOf_ok hof
  rw [balancerOf, hservers] at hof
  obtain ⟨order, horder, hendpoints⟩ := Balancer.build_endpoints hnamed hne hvalid (mapError_ok.mp hof)
  have hmem := List.mem_of_getElem? hget
  rw [hendpoints] at hmem
  obtain ⟨server, hserver, rfl⟩ := List.mem_map.mp hmem
  obtain ⟨_, -, hfound⟩ := exists_of_mem_right (mapM_eq_ok.mp hservers) (horder.mem_iff.mp hserver)
  exact ⟨rfl, (Config.mem_of_find hfound).1⟩

theorem checkers_begun (gateway : Gateway) (common : HealthCheck) (mode : CheckMode) (checks : CustomChecks)
    (network : Network) : (gateway.begun common mode checks network).monitor.queue.map (·.checker) =
      Monitor.allCheckers common checks gateway.balancers.zipIdx :=
  Monitor.checkers_watchAll _

theorem begun_fresh (hsound : plan.config.Sound) (hbuild : build plan listener = .ok gateway)
    (checks : CustomChecks) (network : Network) :
    (gateway.begun plan.config.healthCheck .loop checks network).Fresh := by
  have honce := (build_spec hbuild).1.once
  have hchecker : ∀ w ∈ (gateway.begun plan.config.healthCheck .loop checks network).monitor.queue,
      ∃ site, ∃ server ∈ plan.config.servers,
        w.checker = Checker.starting site server plan.config.healthCheck 0 := by
    intro w hw
    have hmem := List.mem_map_of_mem (f := (·.checker)) hw
    rw [checkers_begun, Monitor.mem_allCheckers honce] at hmem
    obtain ⟨site, e, -, he, -, hstarting⟩ := hmem
    exact ⟨site, e.server, (build_endpoint hsound hbuild he).2, hstarting⟩
  constructor
  case now => rfl
  case mode => exact Monitor.watchAll_keeps (P := (·.mode = .loop)) (fun _ _ _ h => h) rfl _
  case wired => exact begun_wired hbuild _ _ _ _
  case sites =>
    have hsites : (gateway.begun plan.config.healthCheck .loop checks network).monitor.sites =
        Monitor.allSites plan.config.healthCheck checks gateway.balancers.zipIdx := Monitor.sites_watchAll _
    rw [hsites]
    exact Monitor.allSites_nodup _
  case resting =>
    intro w hw
    obtain ⟨site, server, -, hw⟩ := hchecker w hw
    rw [hw]
    rfl
  case uncalled =>
    have hnew : Monitor.Hushed { mode := .loop } := fun _ _ _ h => nomatch h
    have hhushed : Monitor.Hushed
        (.watchAll plan.config.healthCheck checks { mode := .loop } gateway.balancers.zipIdx) :=
      Monitor.watchAll_keeps (fun backend members _ h => h.watchPool backend members) hnew _
    exact fun w _ => hhushed.not_called w
  case positive =>
    intro w hw
    obtain ⟨site, server, hserver, hw⟩ := hchecker w hw
    rw [hw]
    exact (hsound.check_pos hserver (HealthCheck.governs_iff.mpr rfl)).1
  case up => exact fun site e he => (build_endpoint hsound hbuild he).1

end Gateway

/-! ## Custom checks -/

namespace CustomChecks

theorem call_of_has {checks : CustomChecks} {server : String} (h : checks.has server) :
    ∃ probe after, checks.call server = some (probe, after) := by
  induction checks with
  | nil => cases h
  | cons entry checks ih =>
    obtain ⟨name, check⟩ := entry
    unfold call
    by_cases hname : name = server
    · rw [if_pos hname]
      exact ⟨_, _, rfl⟩
    · have hrest : CustomChecks.has checks server := by simpa [has, hname] using h
      obtain ⟨probe, after, hcall⟩ := ih hrest
      rw [if_neg hname, hcall]
      exact ⟨_, _, rfl⟩

theorem has_of_call {checks after : CustomChecks} {server : String} {probe : Probe}
    (h : checks.call server = some (probe, after)) (name : String) : after.has name = checks.has name := by
  induction checks generalizing after with
  | nil => cases h
  | cons entry checks ih =>
    unfold call at h
    split at h
    · cases h
      rfl
    · obtain ⟨⟨probe', rest⟩, hrest, hafter⟩ := Option.map_eq_some_iff.mp h
      cases hafter
      have hsame := ih hrest
      simp only [has, List.any_cons] at hsame ⊢
      rw [hsame]

end CustomChecks

theorem World.probe_has (server : Server) (world : World) (name : String) :
    (world.probe server).2.checks.has name = world.checks.has name := by
  unfold World.probe
  split
  next probe checks hcall => exact CustomChecks.has_of_call hcall name
  next =>
    unfold World.ping
    split <;> rfl

theorem Course.checks_has {s after : State} {journal : Journal} (h : Course .own s journal after)
    (name : String) : after.world.checks.has name = s.world.checks.has name := by
  induction h with
  | refl => rfl
  | step _ hnext ih =>
    rw [← ih]
    cases hnext with
    | elapse milliseconds => rfl
    | @turn position time w hget hdue hle =>
      unfold State.afterTurnBy Checker.turn
      split
      · exact World.probe_has _ _ name
      · rfl
      · rfl
    | mark hmark =>
      unfold State.mark at hmark
      split at hmark
      · obtain ⟨balancers, -, hafter⟩ := bind_eq_ok.mp hmark
        cases hafter
        rfl
      · cases hmark
    | fire other => rfl
    | @quiet happening hquiet =>
      cases happening with
      | heed position =>
        rcases State.heed_cases position _ with hsame | ⟨w, -, -, hheed⟩
        · rw [Happening.apply, hsame]
        · rw [Happening.apply, hheed]
      | draw backend => rfl
      | send request => rfl
      | record event => rfl
      | _ => cases hquiet

/-! ## On time -/

/-- The probes of an endpoint so far, for a check that it has. -/
structure Journal.Follows (journal : Journal) (check : HealthCheck) (site : Site) (now : Nat) : Prop where
  regular : (journal.rounds site).Regular check.interval.toNat check.timeout.toNat
  apart : (journal.rounds site).begun.Pairwise fun a b =>
    (Rounds.outcome check.timeout.toNat a).1 + check.interval.toNat ≤ b.1
  window : ∀ start length,
    ((journal.rounds site).begun.filter fun b => start ≤ b.1 ∧ b.1 ≤ start + length).length ≤
      length / check.interval.toNat + 1
  /-- Nothing that is due is left out until somebody says stop. -/
  current : ¬journal.HasFired site.backend.name →
    now ≤ (journal.rounds site).due check.interval.toNat check.timeout.toNat

/-- Whoever keeps to its timetable does what its check says. -/
theorem State.Timed.follows {fresh s : State} {journal : Journal} (h : State.Timed fresh journal s) {w : Watch}
    (hw : w ∈ s.monitor.queue) {check : HealthCheck} (hinterval : w.checker.interval = check.interval.toNat)
    (htimeout : w.checker.timeout = check.timeout.toNat) (hpos : 0 < check.interval.toNat) :
    journal.Follows check w.checker.site s.now := by
  obtain ⟨hregular, hkeeps⟩ := h.kept w hw
  have hdue := hkeeps.now_le_due
  rw [hinterval, htimeout] at hregular hdue
  refine ⟨hregular, hregular.apart, hregular.window hpos, ?_⟩
  intro hfired
  exact hdue fun hfinished => hfired (h.told w hw (Or.inl hfinished))

namespace Gateway

/-- A gateway with these custom checks comes to a state. -/
def Passes (plan : Plan) (gateway : Gateway) (prober : Prober) (checks : CustomChecks) (journal : Journal)
    (s : State) : Prop :=
  ∃ network, Course prober (gateway.begun plan.config.healthCheck .loop checks network) journal s

/-- Whatever probes come to, they begin and end on time, and flags say what was written last. -/
structure OnTime (plan : Plan) (gateway : Gateway) : Prop where
  positive : ∀ server ∈ plan.config.servers, ∀ check, plan.config.healthCheck.Governs server check →
    0 < check.interval.toNat ∧ 0 < check.timeout.toNat
  servers : ∀ site e, gateway.balancers.endpoint? site = some e → e.server ∈ plan.config.servers
  /-- A custom check makes up for the kind `none`. -/
  probes : ∀ prober checks journal s, gateway.Passes plan prober checks journal s →
    ∀ site e, gateway.balancers.Knows site.backend → gateway.balancers.endpoint? site = some e →
      ∀ check, plan.config.healthCheck.Governs e.server check →
        checks.has e.server.name ∨ check.kind ≠ .none → journal.Follows check site s.now
  idle : ∀ prober checks journal s, gateway.Passes plan prober checks journal s →
    ∀ site e, gateway.balancers.Knows site.backend → gateway.balancers.endpoint? site = some e →
      ∀ check, plan.config.healthCheck.Governs e.server check →
        checks.has e.server.name = false → check.kind = .none → journal.rounds site = {}
  flags : ∀ prober checks journal s, gateway.Passes plan prober checks journal s →
    ∀ site, gateway.balancers.Knows site.backend → s.world.balancers.endpoint? site =
      (gateway.balancers.endpoint? site).map fun e => { e with up := journal.flag site }
  /-- Where there is a custom check, the network is left alone. -/
  custom : ∀ checks journal s, gateway.Passes plan .own checks journal s → ∀ server : Server,
    checks.has server.name → ∃ probe after, s.world.checks.call server.name = some (probe, after) ∧
      Prober.own.ask server s.world = (probe, { s.world with checks := after })
  /-- What a gateway does in a fixed order of checkers is among what may happen. -/
  reached : ∀ s, gateway.Reaches s → ∃ common mode checks network journal,
    Course .own (gateway.begun common mode checks network) journal s

variable {plan : Plan} {listener : String} {gateway : Gateway}

theorem begun_prompt (gateway : Gateway) (common : HealthCheck) (mode : CheckMode) (checks : CustomChecks)
    (network : Network) : (gateway.begun common mode checks network).Prompt := fun _ _ _ _ => Nat.zero_le _

theorem build_onTime (hfaults : plan.config.faults = []) (hbuild : build plan listener = .ok gateway) :
    OnTime plan gateway := by
  have hsound := Config.faults_eq_nil.mp hfaults
  have honce := (build_spec hbuild).1.once
  constructor
  case positive => exact fun server hserver check hgoverns => hsound.check_pos hserver hgoverns
  case servers => exact fun site e he => (build_endpoint hsound hbuild he).2
  case probes =>
    rintro prober checks journal s ⟨network, hcourse⟩ site e hknows he check hgoverns hactive
    obtain rfl := HealthCheck.governs_iff.mp hgoverns
    have hfresh := begun_fresh hsound hbuild checks network
    have htimed := hfresh.course hcourse
    have hmem : Checker.starting site e.server plan.config.healthCheck 0 ∈
        (gateway.begun plan.config.healthCheck .loop checks network).monitor.queue.map (·.checker) := by
      rw [checkers_begun, Monitor.mem_allCheckers honce]
      exact ⟨site, e, hknows, he, by simpa [Checker.isActive] using hactive, rfl⟩
    -- The checker of the endpoint is still there, whatever it is at.
    obtain ⟨v, hv, hstarting⟩ := List.mem_map.mp hmem
    obtain ⟨w, hw, hstop⟩ := List.mem_map.mp (htimed.roster.mem_iff.mpr (List.mem_map_of_mem hv))
    have hsame : w.checker.stop = (Checker.starting site e.server plan.config.healthCheck 0).stop := by
      rw [hstop, hstarting]
    obtain rfl : w.checker.site = site := congrArg Checker.site hsame
    exact htimed.follows hw (congrArg Checker.interval hsame) (congrArg Checker.timeout hsame)
      (hsound.check_pos (build_endpoint hsound hbuild he).2 hgoverns).1
  case idle =>
    rintro prober checks journal s ⟨network, hcourse⟩ site e hknows he check hgoverns hnone hkind
    obtain rfl := HealthCheck.governs_iff.mp hgoverns
    have hfresh := begun_fresh hsound hbuild checks network
    refine (hfresh.course hcourse).silent site ?_
    intro hsite
    obtain ⟨w, hw, rfl⟩ := List.mem_map.mp hsite
    have hmem := List.mem_map_of_mem (f := (·.checker)) hw
    rw [checkers_begun, Monitor.mem_allCheckers honce] at hmem
    obtain ⟨site', e', -, he', hactive, hstarting⟩ := hmem
    obtain rfl : w.checker.site = site' := by rw [hstarting]; rfl
    rw [he, Option.some.injEq] at he'
    subst he'
    simp [Checker.isActive, hnone, hkind] at hactive
  case flags =>
    rintro prober checks journal s ⟨network, hcourse⟩ site hknows
    exact ((begun_fresh hsound hbuild checks network).course hcourse).flags site hknows
  case custom =>
    rintro checks journal s ⟨network, hcourse⟩ server hhas
    have hstill : s.world.checks.has server.name := (hcourse.checks_has server.name).trans hhas
    obtain ⟨probe, after, hcall⟩ := CustomChecks.call_of_has hstill
    refine ⟨probe, after, hcall, ?_⟩
    change World.probe server s.world = _
    rw [World.probe, hcall]
  case reached =>
    intro s hs
    obtain ⟨common, mode, checks, network, hcomes⟩ := hs.related State.comes_closed
    obtain ⟨-, journal, hcourse⟩ := hcomes (gateway.begun_prompt common mode checks network)
    exact ⟨common, mode, checks, network, journal, hcourse⟩

/-- A server that is asked over the network, and one that is asked only if it has a custom check. -/
def watched : Plan where
  config := {
    servers := [
      { name := "s1", address := "10.0.0.1:80" },
      { name := "s2", address := "10.0.0.2:80", healthCheck := some { kind := .none, interval := 500 } }]
    backends := [{ name := "be", servers := ["s1", "s2"] }]
    routes := [{ name := "a", uri := "/", backends := ["be"] }]
    listeners := [{ routes := ["a"] }] }
  extensions := {}
  hostname := "gw"

theorem build_onTime_watched :
    watched.config.faults = [] ∧ ∃ gateway, build watched "default" = .ok gateway ∧ OnTime watched gateway ∧
      ∀ prober checks journal s, gateway.Passes watched prober checks journal s → checks.has "s2" →
        journal.Follows { kind := .none, interval := 500 } ⟨⟨"be", 0⟩, 1⟩ s.now := by
  have hontime := @build_onTime watched "default" _ (by decide) rfl
  refine ⟨by decide, _, rfl, hontime, ?_⟩
  intro prober checks journal s hpasses hhas
  -- The check of its own counts, not the one that all servers share.
  exact hontime.probes prober checks journal s hpasses ⟨⟨"be", 0⟩, 1⟩ _ rfl rfl _ (.own rfl) (.inl hhas)

end Gateway

end ReverseProxy
