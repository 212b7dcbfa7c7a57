import ReverseProxy.Proofs.Health.Flags

/-! # Stopped checkers stay stopped -/

namespace ReverseProxy

/-! ## Checkers and signals -/

namespace Monitor

/-- What happens to checkers and signals. -/
inductive Moves (m : Monitor) : Happening → Monitor → Prop where
  | fire (name : String) : Moves m (.fire name) (m.fire name)
  | turn {position : Nat} {w : Watch} (checker : Checker) (hget : m.queue[position]? = some w)
      (hbusy : ¬w.isFinished) (hsite : checker.site = w.checker.site) :
    Moves m (.turn position) { m with queue := m.queue.eraseIdx position ++ [{ w with checker }] }
  | heed {position : Nat} {w : Watch} (hget : m.queue[position]? = some w) (hcalled : Called m.signals w) :
    Moves m (.heed position) { m with
      signals := leaveAt m.signals w.signal w.listener
      queue := m.queue.set position { w with checker := w.checker.stop } }

end Monitor

theorem State.apply_monitor (h : Happening) (s : State) :
    (h.apply s).monitor = s.monitor ∨ Monitor.Moves s.monitor h (h.apply s).monitor := by
  cases h with
  | elapse milliseconds => exact Or.inl rfl
  | fire name => exact Or.inr (.fire name)
  | draw backend => exact Or.inl rfl
  | send request => exact Or.inl rfl
  | record event => exact Or.inl rfl
  | mark name address up =>
    refine Or.inl ?_
    rw [Happening.apply, mark]
    cases s.world.balancers.backend? name with
    | none => rfl
    | some backend =>
      dsimp only
      cases s.world.balancers.mark backend address up <;> rfl
  | turn position =>
    rcases turn_cases position s with hsame | ⟨w, time, hget, hdue, -, hturn⟩
    · exact Or.inl (by rw [Happening.apply, hsame])
    · rw [Happening.apply, hturn]
      exact Or.inr (.turn _ hget (Checker.not_finished_of_due hdue) (Checker.turn_site _ _ _ _))
  | heed position =>
    rcases heed_cases position s with hsame | ⟨w, hget, hcalled, hheed⟩
    · exact Or.inl (by rw [Happening.apply, hsame])
    · rw [Happening.apply, hheed]
      exact Or.inr (.heed hget hcalled)

namespace Monitor

variable {fleet : Fleet} {m next : Monitor} {h : Happening}

theorem Moves.wired (hmoves : Moves m h next) (hwired : Wired fleet m) : Wired fleet next := by
  cases hmoves with
  | fire name => exact hwired.fire name
  | @turn position w checker hget hbusy hsite =>
    have hpending := (hwired.heard w (List.mem_of_getElem? hget)).resolve_left hbusy
    have hset : Wired fleet { m with queue := m.queue.set position { w with checker } } :=
      hwired.set hget rfl (congrArg Site.backend hsite) (fun _ => rfl) (fun _ _ _ => rfl) (Or.inr hpending)
    exact hset.perm (perm_requeue (List.getElem?_eq_some_iff.mp hget).1)
  | heed hget hcalled =>
    exact hwired.set hget rfl rfl (fun j => backendOf?_leaveAt _ _ _ j)
      (fun v _ hne => pending?_leaveAt_other hne) (Or.inl rfl)

theorem Moves.sites (hmoves : Moves m h next) : next.sites.Perm m.sites := by
  cases hmoves with
  | fire name => exact List.Perm.refl _
  | @turn position w checker hget hbusy hsite =>
    have hsame : (m.queue.set position { w with checker }).map (·.checker.site) = m.queue.map (·.checker.site) :=
      map_set (·.checker.site) hget hsite
    rw [Monitor.sites, Monitor.sites, ← hsame]
    exact (perm_requeue (List.getElem?_eq_some_iff.mp hget).1).map (·.checker.site)
  | heed hget hcalled => exact List.Perm.of_eq (map_set (·.checker.site) hget rfl)

def Ended (P : Site → Prop) (m : Monitor) : Prop := ∀ w ∈ m.queue, P w.checker.site → w.isFinished

/-- The checkers of a backend are finished, or there is a signal that they have not taken. -/
def Summoned (name : String) (m : Monitor) : Prop :=
  ∀ w ∈ m.queue, w.backend.name = name → w.isFinished ∨ Called m.signals w

theorem Moves.ended {P : Site → Prop} (hmoves : Moves m h next) (hended : Ended P m) : Ended P next := by
  cases hmoves with
  | fire name => exact hended
  | @turn position w checker hget hbusy hsite =>
    intro v hv hP
    rcases List.mem_append.mp hv with hold | hnew
    · exact hended v (List.mem_of_mem_eraseIdx hold) hP
    · rw [List.mem_singleton.mp hnew, hsite] at hP
      exact absurd (hended w (List.mem_of_getElem? hget) hP) hbusy
  | heed hget hcalled =>
    intro v hv hP
    rcases List.mem_or_eq_of_mem_set hv with hold | rfl
    · exact hended v hold hP
    · rfl

theorem summoned_fire (hwired : Wired fleet m) (name : String) : Summoned name (m.fire name) := by
  intro w hw hname
  refine (hwired.heard w hw).imp_right ?_
  intro hpending
  obtain ⟨missed, hmissed⟩ := Option.isSome_iff_exists.mp hpending
  refine ⟨missed, ?_⟩
  rw [pending?_fire, hwired.named w hw, hname, hmissed]
  simp

/-- A signal is not lost until it is taken, however many follow. -/
theorem Moves.summoned {name : String} (hmoves : Moves m h next) (hwired : Wired fleet m)
    (hsummoned : Summoned name m) : Summoned name next := by
  cases hmoves with
  | fire other =>
    intro w hw hname
    refine (hsummoned w hw hname).imp_right ?_
    rintro ⟨missed, hmissed⟩
    rw [Called, pending?_fire, hmissed]
    by_cases hfired : backendOf? m.signals w.signal = some other
    · exact ⟨missed + 1, by simp [hfired]⟩
    · exact ⟨missed, by simp [hfired]⟩
  | @turn position w checker hget hbusy hsite =>
    intro v hv hname
    rcases List.mem_append.mp hv with hold | hnew
    · exact hsummoned v (List.mem_of_mem_eraseIdx hold) hname
    · -- Who has a turn is not finished, so it is one of those who are called.
      obtain rfl := List.mem_singleton.mp hnew
      have hsame : w.backend.name = name := by
        rw [← hname]
        exact congrArg (·.backend.name) hsite.symm
      exact Or.inr ((hsummoned w (List.mem_of_getElem? hget) hsame).resolve_left hbusy)
  | heed hget hcalled =>
    -- Who leaves takes only its own call, since no two listen at one place.
    intro v hv hname
    rcases mem_set_cases hwired.apart hget hv with rfl | ⟨hold, hne⟩
    · exact Or.inl rfl
    · refine (hsummoned v hold hname).imp_right ?_
      rintro ⟨missed, hmissed⟩
      exact ⟨missed, by rw [pending?_leaveAt_other hne, hmissed]⟩

end Monitor

/-! ## Runs -/

theorem Happening.run_keeps {P : State → Prop} (hstep : ∀ h s, P s → P (apply h s)) (happenings : List Happening)
    {s : State} (hs : P s) : P (run happenings s) := by
  induction happenings generalizing s with
  | nil => exact hs
  | cons h happenings ih => exact ih (hstep h s hs)

namespace State

/-- All checkers can be stopped, whatever happens. -/
def Wired (s : State) : Prop := Monitor.Wired s.world.balancers s.monitor

theorem Wired.apply {s : State} (hwired : s.Wired) (h : Happening) : (h.apply s).Wired := by
  have hmonitor : Monitor.Wired s.world.balancers (h.apply s).monitor := by
    rcases apply_monitor h s with hsame | hmoves
    · rw [hsame]
      exact hwired
    · exact hmoves.wired hwired
  exact hmonitor.fleet_congr (apply_backend? h s)

theorem Wired.run {s : State} (hwired : s.Wired) (happenings : List Happening) :
    (Happening.run happenings s).Wired :=
  Happening.run_keeps (P := Wired) (fun h _ hs => hs.apply h) happenings hwired

theorem run_ended {P : Site → Prop} {s : State} (hended : Monitor.Ended P s.monitor)
    (happenings : List Happening) : Monitor.Ended P (Happening.run happenings s).monitor := by
  apply Happening.run_keeps (P := fun s => Monitor.Ended P s.monitor)
  · intro h s hs
    rcases apply_monitor h s with hsame | hmoves
    · rwa [hsame]
    · exact hmoves.ended hs
  · exact hended

theorem run_sites (happenings : List Happening) (s : State) :
    (Happening.run happenings s).monitor.sites.Perm s.monitor.sites := by
  apply Happening.run_keeps (P := fun after => after.monitor.sites.Perm s.monitor.sites)
  · intro h after hafter
    rcases apply_monitor h after with hsame | hmoves
    · rwa [hsame]
    · exact hmoves.sites.trans hafter
  · exact List.Perm.refl _

theorem run_summoned {name : String} {s : State} (hwired : s.Wired) (hsummoned : Monitor.Summoned name s.monitor)
    (happenings : List Happening) : Monitor.Summoned name (Happening.run happenings s).monitor := by
  have hboth : (Happening.run happenings s).Wired ∧
      Monitor.Summoned name (Happening.run happenings s).monitor := by
    apply Happening.run_keeps (P := fun s => s.Wired ∧ Monitor.Summoned name s.monitor)
    · intro h s hs
      refine ⟨hs.1.apply h, ?_⟩
      rcases apply_monitor h s with hsame | hmoves
      · rw [hsame]
        exact hs.2
      · exact hmoves.summoned hs.1 hs.2
    · exact ⟨hwired, hsummoned⟩
  exact hboth.2

/-- After a signal the checkers of its backend rest only when they are finished. -/
theorem ended_of_fire {name : String} {s : State} (hwired : s.Wired) {happenings : List Happening}
    (hfire : .fire name ∈ happenings)
    (hrest : ∀ w ∈ (Happening.run happenings s).monitor.queue, w.backend.name = name →
      (Happening.run happenings s).Resting w) :
    Monitor.Ended (·.backend.name = name) (Happening.run happenings s).monitor := by
  obtain ⟨before, after, rfl⟩ := List.append_of_mem hfire
  have hbefore := hwired.run before
  have hsummoned := run_summoned (hbefore.apply (.fire name)) (Monitor.summoned_fire hbefore name) after
  rw [Happening.run_append] at hrest ⊢
  intro w hw hname
  exact (hsummoned w hw hname).resolve_right (hrest w hw hname).1

/-! ## Flags after the end -/

theorem flags_apply {name : String} {s : State} (hwired : s.Wired)
    (hended : Monitor.Ended (·.backend.name = name) s.monitor) {h : Happening} (hmark : h.marks name = false) :
    (h.apply s).world.balancers.flags name = s.world.balancers.flags name := by
  rcases apply_balancers h s with hsame | ⟨backend, op, htouches, hstep⟩
  · rw [hsame]
  · rw [hstep]
    cases htouches with
    | draw => exact Fleet.flags_select _ _ _
    | mark address up hbackend =>
      have hne := of_decide_eq_false hmark
      exact Fleet.flags_other hbackend hne _
    | @verdict position w up hget hbusy =>
      have hw := List.mem_of_getElem? hget
      have hne : w.backend.name ≠ name := fun hname => hbusy (hended w hw hname)
      exact Fleet.flags_other (hwired.known w hw) hne _

/-- With the checkers of a backend finished, its flags are what marks make of them. -/
theorem flags_run {name : String} (happenings : List Happening) {s u : State} (hwired : s.Wired)
    (hended : Monitor.Ended (·.backend.name = name) s.monitor)
    (hsame : s.world.balancers.flags name = u.world.balancers.flags name) :
    (Happening.run happenings s).world.balancers.flags name =
      (Happening.run (happenings.filter (·.marks name)) u).world.balancers.flags name := by
  induction happenings generalizing s u with
  | nil => exact hsame
  | cons h happenings ih =>
    have hnext : Monitor.Ended (·.backend.name = name) (h.apply s).monitor := run_ended hended [h]
    -- Only a mark makes a difference to the flags, and it makes the same of the same flags.
    cases hmark : h.marks name with
    | false =>
      rw [List.filter_cons_of_neg (by simp [hmark])]
      exact ih (hwired.apply h) hnext ((flags_apply hwired hended hmark).trans hsame)
    | true =>
      rw [List.filter_cons_of_pos hmark]
      cases h with
      | mark other address up =>
        obtain rfl : other = name := of_decide_eq_true hmark
        refine ih (hwired.apply _) hnext ?_
        rw [flags_mark, flags_mark, hsame]
      | _ => cases hmark

end State

/-! ## Stopping at once -/

theorem Monitor.obeyAll_ended {name : String} {signals : List (String × StopSignal)} {queue : List Watch}
    (hapart : (queue.map Watch.ear).Nodup)
    (hsummoned : ∀ w ∈ queue, w.backend.name = name → w.isFinished ∨ Called signals w) :
    ∀ w ∈ (obeyAll signals queue).2, w.backend.name = name → w.isFinished := by
  induction queue generalizing signals with
  | nil =>
    intro w hw
    cases hw
  | cons first rest ih =>
    obtain ⟨hfirst, hrest⟩ := List.forall_mem_cons.mp hsummoned
    rw [List.map_cons, List.nodup_cons] at hapart
    unfold obeyAll
    by_cases hcalled : Called signals first
    · rw [obey_of_called hcalled]
      refine List.forall_mem_cons.mpr ⟨fun _ => rfl, ih hapart.2 ?_⟩
      intro w hw hname
      have hne : w.ear ≠ first.ear := by
        intro hear
        exact hapart.1 (hear ▸ List.mem_map_of_mem hw)
      refine (hrest w hw hname).imp_right ?_
      rintro ⟨missed, hmissed⟩
      exact ⟨missed, by rw [pending?_leaveAt_other hne, hmissed]⟩
    · rw [obey_of_not_called hcalled]
      exact List.forall_mem_cons.mpr ⟨fun hname => (hfirst hname).resolve_right hcalled, ih hapart.2 hrest⟩

namespace State

theorem stop_ended {s : State} (hwired : s.Wired) (name : String) :
    Monitor.Ended (·.backend.name = name) (s.stop name).monitor :=
  Monitor.obeyAll_ended hwired.apart (Monitor.summoned_fire hwired name)

theorem foldl_stop_ended {s : State} (hwired : s.Wired) (names : List String) :
    (names.foldl (fun s name => s.stop name) s).Wired ∧ ∀ name,
      name ∈ names ∨ Monitor.Ended (·.backend.name = name) s.monitor →
        Monitor.Ended (·.backend.name = name) (names.foldl (fun s name => s.stop name) s).monitor := by
  -- What has ended stays so while the others are stopped, hence the second part of the disjunction.
  induction names generalizing s with
  | nil => exact ⟨hwired, fun name h => h.resolve_left List.not_mem_nil⟩
  | cons first names ih =>
    obtain ⟨happenings, hstop⟩ := becomes_closed.stop s first
    have hnext : (s.stop first).Wired := hstop ▸ hwired.run happenings
    refine ⟨(ih hnext).1, ?_⟩
    rintro name (hname | hended)
    · rcases List.mem_cons.mp hname with rfl | hname
      · exact (ih hnext).2 name (Or.inr (stop_ended hwired name))
      · exact (ih hnext).2 name (Or.inl hname)
    · exact (ih hnext).2 name (Or.inr (hstop ▸ run_ended hended happenings))

theorem shutdown_ended {s : State} (hwired : s.Wired) : ∀ w ∈ s.shutdown.monitor.queue, w.isFinished := by
  obtain ⟨hafter, hall⟩ := foldl_stop_ended hwired (s.world.balancers.map (·.1))
  intro w hw
  have hknown := hafter.known w hw
  have hworld : s.shutdown.world = s.world := Gateway.shutdown_world s
  rw [← shutdown, hworld] at hknown
  have hname : w.backend.name ∈ s.world.balancers.map (·.1) :=
    Fleet.backend?_isSome.mp (Option.isSome_of_eq_some hknown)
  exact hall w.backend.name (Or.inl hname) w hw rfl

end State

/-! ## Gateways -/

theorem Fleet.backend?_of_mem_zipIdx {fleet : Fleet} (h : (fleet.map (·.1)).Nodup)
    {entry : (String × Balancer) × Nat} (hentry : entry ∈ fleet.zipIdx) :
    fleet.backend? entry.1.1 = some { name := entry.1.1, slot := entry.2 } := by
  obtain ⟨⟨name, balancer⟩, slot⟩ := entry
  have hget : fleet[slot]? = some (name, balancer) := List.mem_zipIdx_iff_getElem?.mp hentry
  obtain ⟨hlt, hget⟩ := List.getElem?_eq_some_iff.mp hget
  have hfind : fleet.findIdx? (·.1 = name) = some slot := by
    rw [List.findIdx?_eq_some_iff_getElem]
    refine ⟨hlt, by simp [hget], ?_⟩
    intro j hj hname
    have hslot : slot < (fleet.map (·.1)).length := by rwa [List.length_map]
    have hsame : (fleet.map (·.1))[j] = (fleet.map (·.1))[slot] := by simpa [hget] using hname
    exact absurd (h.getElem_inj_iff.mp hsame) (Nat.ne_of_lt hj)
  rw [backend?, hfind]
  rfl

namespace Gateway

theorem begun_wired {plan : Plan} {listener : String} {gateway : Gateway} (h : build plan listener = .ok gateway)
    (common : HealthCheck) (mode : CheckMode) (checks : CustomChecks) (network : Network) :
    (gateway.begun common mode checks network).Wired := by
  have hempty : Monitor.Wired gateway.balancers { mode } :=
    ⟨nofun, nofun, nofun, List.nodup_nil⟩
  exact hempty.watchAll fun entry hentry => Fleet.backend?_of_mem_zipIdx (build_spec h).1.once hentry

theorem Arises.wired {plan : Plan} {listener : String} {gateway : Gateway}
    (h : build plan listener = .ok gateway) {common : HealthCheck} {checks : CustomChecks} {s : State}
    (hs : gateway.Arises common checks s) : s.Wired := by
  obtain ⟨mode, network, happenings, rfl⟩ := hs
  exact (begun_wired h common mode checks network).run happenings

theorem Arises.sites {gateway : Gateway} {common : HealthCheck} {checks : CustomChecks} {s : State}
    (hs : gateway.Arises common checks s) :
    s.monitor.sites.Perm (Monitor.allSites common checks gateway.balancers.zipIdx) := by
  obtain ⟨mode, network, happenings, rfl⟩ := hs
  have hbegun : (gateway.begun common mode checks network).monitor.sites =
      Monitor.allSites common checks gateway.balancers.zipIdx := Monitor.sites_watchAll _
  rw [← hbegun]
  exact State.run_sites happenings _

/-- Checkers that are told to stop do so, and have no effect any more. -/
structure Stoppable (gateway : Gateway) : Prop where
  /-- What a gateway does in a fixed order of checkers is among what it may do. -/
  reached : ∀ s, gateway.Reaches s → ∃ common checks, gateway.Arises common checks s
  /-- There is one checker for each endpoint, of whichever pool, that is to be probed. -/
  sites : ∀ common checks s, gateway.Arises common checks s →
    s.monitor.sites.Perm (Monitor.allSites common checks gateway.balancers.zipIdx)
  /-- Before time passes, checkers come to rest. -/
  rests : ∀ s : State, ∃ tasks : List Happening, (∀ task ∈ tasks, task.isTask) ∧
    ∀ w ∈ (Happening.run tasks s).monitor.queue, (Happening.run tasks s).Resting w
  /-- They do so in every order: whatever makes a difference leaves less to do. -/
  bounded : ∀ (s : State) (task : Happening), task.isTask → task.apply s = s ∨ (task.apply s).work < s.work
  /-- If the signal of a backend was sent, at any time and any number of times, its checkers rest only in the end. -/
  terminates : ∀ common checks s, gateway.Arises common checks s → ∀ name happenings,
    .fire name ∈ happenings →
    (∀ w ∈ (Happening.run happenings s).monitor.queue, w.backend.name = name →
      (Happening.run happenings s).Resting w) →
    Monitor.Ended (·.backend.name = name) (Happening.run happenings s).monitor
  /-- Who takes a signal writes nothing any more, not even what a probe under way would say. -/
  taken : ∀ (s : State) position w, s.monitor.queue[position]? = some w → Monitor.Called s.monitor.signals w →
    (s.heed position).world = s.world ∧
      (s.heed position).monitor.queue[position]? = some { w with checker := w.checker.stop }
  void : ∀ (s : State) position w, s.monitor.queue[position]? = some w → w.isFinished → s.turn position = s
  lasting : ∀ (P : Site → Prop) (s : State), Monitor.Ended P s.monitor →
    ∀ happenings, Monitor.Ended P (Happening.run happenings s).monitor
  /-- From then on, the flags of the backend are what marks by hand make of them. -/
  silent : ∀ common checks s, gateway.Arises common checks s → ∀ name,
    Monitor.Ended (·.backend.name = name) s.monitor → ∀ happenings,
      (Happening.run happenings s).world.balancers.flags name =
        (Happening.run (happenings.filter (·.marks name)) s).world.balancers.flags name
  /-- To stop a backend or a gateway is to send signals and let them be heard. -/
  stop : ∀ common checks s, gateway.Arises common checks s → ∀ name,
    Monitor.Ended (·.backend.name = name) (s.stop name).monitor
  shutdown : ∀ common checks s, gateway.Arises common checks s → ∀ w ∈ s.shutdown.monitor.queue, w.isFinished

theorem build_stoppable {plan : Plan} {listener : String} {gateway : Gateway}
    (h : build plan listener = .ok gateway) : Stoppable gateway := by
  constructor
  case reached => exact fun s hs => hs.arises
  case sites => exact fun common checks s hs => hs.sites
  case rests => exact State.exists_rest
  case bounded => exact fun s task htask => State.task_work htask s
  case terminates =>
    exact fun common checks s hs name happenings hfire hrest => State.ended_of_fire (hs.wired h) hfire hrest
  case taken =>
    intro s position w hget hcalled
    rw [State.heed_of_getElem? hget, Monitor.obey_of_called hcalled]
    exact ⟨rfl, Traffic.getElem?_set_of_getElem? hget _⟩
  case void =>
    intro s position w hget hfinished
    rcases State.turn_cases position s with hsame | ⟨v, time, hv, hdue, -, -⟩
    · exact hsame
    · rw [hget] at hv
      cases hv
      exact absurd hfinished (Checker.not_finished_of_due hdue)
  case lasting => exact fun P s hended happenings => State.run_ended hended happenings
  case silent =>
    exact fun common checks s hs name hended happenings => State.flags_run happenings (hs.wired h) hended rfl
  case stop => exact fun common checks s hs name => State.stop_ended (hs.wired h) name
  case shutdown => exact fun common checks s hs => State.shutdown_ended (hs.wired h)

/-- A backend with one server on this machine and one elsewhere. -/
def nearAndFar : Plan where
  config := {
    servers := [{ name := "s1", address := "gw:80" }, { name := "s2", address := "10.0.0.2:80" }]
    backends := [{ name := "be", servers := ["s1", "s2"], policy := .preferLocal }]
    routes := [{ name := "a", uri := "/", backends := ["be"] }]
    listeners := [{ routes := ["a"] }] }
  extensions := {}
  hostname := "gw"

theorem build_stoppable_nearAndFar :
    ∃ gateway, build nearAndFar "default" = .ok gateway ∧ Stoppable gateway :=
  ⟨_, rfl, @build_stoppable nearAndFar "default" _ rfl⟩

/-- A probe that would find the near server ill after 5 ms, and a signal before it does. -/
def interrupted : List Happening :=
  [.turn 0, .fire "be", .fire "be", .heed 1, .heed 0, .elapse 10, .turn 0, .turn 1]

example :
    (build nearAndFar "default").toOption.map (fun gateway =>
      let checks := [("s1", { script := [{ delay := some 5 }] }), ("s2", { script := [{ delay := some 5 }] })]
      let s := Happening.run interrupted (gateway.begun {} .loop checks {})
      (s.monitor.queue.map (·.checker.phase), (s.world.balancers.flags "be").map fun b => b.endpoints.map (·.up))) =
    some ([.finished, .finished], some [true, true]) := by decide

end Gateway

end ReverseProxy
