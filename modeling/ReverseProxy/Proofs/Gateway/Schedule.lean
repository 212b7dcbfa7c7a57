import ReverseProxy.Proofs.Gateway.Traffic

/-! # Every schedule is traffic -/

namespace ReverseProxy

/-! ## Checkers -/

/-- Whoever is due first does a turn, until nobody is due in time. -/
theorem Monitor.runQueue_eq {σ : Type} (ward : Ward σ) (mode : CheckMode) (till : Nat) (queue : List Watch)
    (world : σ) :
    runQueue ward mode till queue world =
      match earliest? queue with
      | none => (queue, world)
      | some time =>
        if time ≤ till then
          runQueue ward mode till (turn ward mode time queue world).1 (turn ward mode time queue world).2
        else (queue, world) := by
  rw [runQueue]
  split
  next hnone => rw [hnone]
  next time hsome =>
    rw [hsome]
    rfl

theorem Monitor.runQueue_keeps {σ : Type} {ward : Ward σ} {P : σ → Prop}
    (hprobe : ∀ server world, P world → P (ward.probe server world).2)
    (hwrite : ∀ site up world, P world → P (ward.write site up world)) (mode : CheckMode) (till : Nat)
    (queue : List Watch) {world : σ} (h : P world) : P (runQueue ward mode till queue world).2 := by
  have hchecker : ∀ (c : Checker) world, P world → P (c.turn ward mode world).2 := by
    intro c world hworld
    unfold Checker.turn
    split
    · exact hprobe _ _ hworld
    · exact hwrite _ _ _ hworld
    · exact hworld
  have hturn : ∀ time queue world, P world → P (turn ward mode time queue world).2 := by
    intro time queue
    induction queue with
    | nil => exact fun _ hworld => hworld
    | cons w rest ih =>
      intro world hworld
      unfold turn
      split
      · exact hchecker w.checker world hworld
      · exact ih world hworld
  -- A queue is served until nothing is due, so the induction is the one of its termination.
  induction queue, world using runQueue.induct ward mode till with
  | case1 queue world hdue => rwa [runQueue_eq, hdue]
  | case2 queue world time hdue hle next ih =>
    rw [runQueue_eq, hdue]
    dsimp only
    rw [if_pos hle]
    exact ih (hturn time queue world h)
  | case3 queue world time hdue hlt =>
    rw [runQueue_eq, hdue]
    dsimp only
    rwa [if_neg hlt]

namespace Traffic

/-! ## Events that leave requests alone -/

/-- Some events change balancers like this, whatever is under way. -/
def Leads (gateway : Gateway) (before after : Fleet) : Prop :=
  ∃ events, ∀ underway, (run gateway events ⟨before, underway⟩).2 = ⟨after, underway⟩

theorem leads_refl (gateway : Gateway) (fleet : Fleet) : Leads gateway fleet fleet :=
  ⟨[], fun _ => rfl⟩

theorem Leads.trans {gateway : Gateway} {a b c : Fleet} (hab : Leads gateway a b)
    (hbc : Leads gateway b c) : Leads gateway a c := by
  obtain ⟨events, hevents⟩ := hab
  obtain ⟨more, hmore⟩ := hbc
  refine ⟨events ++ more, ?_⟩
  intro underway
  rw [run_append, hevents, hmore]

theorem leads_write (gateway : Gateway) (fleet : Fleet) (site : Site) (up : Bool) :
    Leads gateway fleet (fleet.write site.backend site.position up) :=
  ⟨[.verdict site up], fun _ => rfl⟩

theorem leads_step (gateway : Gateway) {fleet : Fleet} {name : String} {backend : Backend}
    (h : fleet.backend? name = some backend) (op : Operation) :
    Leads gateway fleet (fleet.step backend op).2 := by
  refine ⟨[.ask name op], ?_⟩
  intro underway
  rw [run_cons, step]
  dsimp only
  rw [h]
  rfl

theorem probe_balancers (server : Server) (world : World) :
    (world.probe server).2.balancers = world.balancers := by
  unfold World.probe
  split
  · rfl
  · unfold World.ping
    split
    · rfl
    · rfl

theorem leads_check (gateway : Gateway) (till : Nat) (s : State) :
    Leads gateway s.world.balancers (s.check till).world.balancers := by
  unfold State.check Monitor.run
  apply @Monitor.runQueue_keeps _ World.ward fun world => Leads gateway s.world.balancers world.balancers
  · intro server world h
    rwa [World.ward, probe_balancers]
  · intro site up world h
    exact h.trans (leads_write gateway world.balancers site up)
  · exact leads_refl gateway s.world.balancers

theorem leads_resume (gateway : Gateway) (time : Nat) (s : State) :
    Leads gateway s.world.balancers (s.resume time).world.balancers := by
  unfold State.resume
  split
  · exact leads_refl gateway s.world.balancers
  · exact leads_check gateway (time - 1) s

theorem leads_expire (gateway : Gateway) (deadline : Option Nat) (s : State) :
    Leads gateway s.world.balancers (s.expire deadline).world.balancers := by
  cases deadline with
  | none => exact leads_refl gateway s.world.balancers
  | some time => exact leads_resume gateway time s

/-! ## Requests -/

theorem set_of_getElem? {α : Type} {xs : List α} {i : Nat} {x : α} (h : xs[i]? = some x) :
    xs.set i x = xs := by
  obtain ⟨hlt, rfl⟩ := List.getElem?_eq_some_iff.mp h
  exact List.set_getElem_self hlt

theorem getElem?_set_of_getElem? {α : Type} {xs : List α} {i : Nat} {x : α} (h : xs[i]? = some x)
    (y : α) : (xs.set i y)[i]? = some y := by
  obtain ⟨hlt, -⟩ := List.getElem?_eq_some_iff.mp h
  exact List.getElem?_set_self hlt

/-- Where one request got to when it was run alone from a state: events that do the same among others. -/
def Follows (gateway : Gateway) (act : Act Response) (s : State) (response : Option Response)
    (after : State) : Prop :=
  ∀ underway number, underway[number]? = some act → ∃ events left,
    (run gateway events ⟨s.world.balancers, underway⟩).2 =
      ⟨after.world.balancers, underway.set number left⟩ ∧ ∀ r ∈ response, left = .done r

theorem follows_of_leads {gateway : Gateway} (act : Act Response) {s after : State}
    (h : Leads gateway s.world.balancers after.world.balancers) : Follows gateway act s none after := by
  intro underway number hget
  obtain ⟨events, hevents⟩ := h
  refine ⟨events, act, ?_, ?_⟩
  · rw [hevents, set_of_getElem? hget]
  · intro r hr
    cases hr

theorem Follows.cons {gateway : Gateway} {act next : Act Response} {s mid after : State}
    {response : Option Response} (heard : Except SendFailure Response)
    (hstep : ∀ underway number, underway[number]? = some act →
      (step gateway (.proceed number heard) ⟨s.world.balancers, underway⟩).2 =
        ⟨mid.world.balancers, underway.set number next⟩)
    (h : Follows gateway next mid response after) : Follows gateway act s response after := by
  intro underway number hget
  obtain ⟨events, left, hevents, hleft⟩ := h _ number (getElem?_set_of_getElem? hget next)
  refine ⟨.proceed number heard :: events, left, ?_, hleft⟩
  rw [run_cons, hstep underway number hget, hevents, List.set_set]

theorem Follows.after_leads {gateway : Gateway} {act : Act Response} {s mid after : State}
    {response : Option Response} (hleads : Leads gateway s.world.balancers mid.world.balancers)
    (h : Follows gateway act mid response after) : Follows gateway act s response after := by
  intro underway number hget
  obtain ⟨first, hfirst⟩ := hleads
  obtain ⟨events, left, hevents, hleft⟩ := h underway number hget
  refine ⟨first ++ events, left, ?_, hleft⟩
  rw [run_append, hfirst, hevents]

theorem send_balancers {request : Request} {s after : State} {outcome : Outcome}
    (h : s.send request = (outcome, after)) : after.world.balancers = s.world.balancers := by
  have hafter : (s.send request).2 = after := by rw [h]
  rw [← hafter]
  rfl

/-- A handler that is run alone does what it may do among others. -/
theorem run_follows (gateway : Gateway) (deadline : Option Nat) (act : Act Response) (s : State) :
    Follows gateway act s (act.run deadline s).1 (act.run deadline s).2 := by
  induction act generalizing s with
  | done value =>
    intro underway number hget
    refine ⟨[], .done value, ?_, ?_⟩
    · rw [set_of_getElem? hget]
      rfl
    · intro r hr
      cases hr
      rfl
  | draw backend next ih =>
    refine Follows.cons (.ok Gateway.timedOut) ?_ (ih (s.drawFrom backend).1 (s.drawFrom backend).2)
    intro underway number hget
    simp only [step, hget]
    rfl
  | send request next ih =>
    unfold Act.run
    split
    next response after hsend =>
      refine Follows.cons (.ok response) ?_ (ih (.ok response) after)
      intro underway number hget
      rw [send_balancers hsend]
      simp only [step, hget, goOn]
    next failure after hsend =>
      refine Follows.cons (.error failure) ?_ (ih (.error failure) after)
      intro underway number hget
      rw [send_balancers hsend]
      simp only [step, hget, goOn]
    next after hsend =>
      apply follows_of_leads
      rw [← send_balancers hsend]
      exact leads_expire gateway deadline after
  | wait milliseconds next ih =>
    unfold Act.run
    split
    · exact follows_of_leads _ (leads_expire gateway deadline s)
    · refine Follows.after_leads (leads_resume gateway (s.now + milliseconds) s) ?_
      refine Follows.cons (.ok Gateway.timedOut) ?_ (ih (s.resume (s.now + milliseconds)))
      intro underway number hget
      simp only [step, hget, goOn]
  | record event next ih =>
    refine Follows.cons (.ok Gateway.timedOut) ?_ (ih (s.record event))
    intro underway number hget
    simp only [step, hget, goOn]
    rfl

end Traffic

/-! ## States of a gateway -/

namespace Gateway

/-- What becomes of a gateway by requests, time and whoever turns to its backends. -/
inductive Reaches (gateway : Gateway) : State → Prop
  | start (common : HealthCheck) (mode : CheckMode) (checks : CustomChecks) (network : Network) :
    Reaches gateway (gateway.start common mode checks network)
  | dispatch {s : State} (request : Request) : Reaches gateway s → Reaches gateway (gateway.dispatch request s).2
  | serve {s : State} (timeouts : Timeouts) (fresh : Bytes) (request : Request) :
    Reaches gateway s → Reaches gateway (gateway.serve timeouts fresh request s).2
  | serveConnection {s : State} (timeouts : Timeouts) (fresh : Bytes) (request : Request) :
    Reaches gateway s → Reaches gateway (gateway.serveConnection timeouts fresh request s).2
  | advance {s : State} (milliseconds : Nat) : Reaches gateway s → Reaches gateway (s.advance milliseconds)
  | draw {s : State} (name : String) : Reaches gateway s → Reaches gateway (s.draw name).2
  | mark {s after : State} (name address : String) (up : Bool) :
    Reaches gateway s → s.mark name address up = .ok after → Reaches gateway after
  | stop {s : State} (name : String) : Reaches gateway s → Reaches gateway (s.stop name)
  | shutdown {s : State} : Reaches gateway s → Reaches gateway s.shutdown

/-- A state has the balancers that some traffic leaves. -/
def Left (gateway : Gateway) (s : State) : Prop :=
  ∃ events underway, (Traffic.run gateway events (Traffic.start gateway)).2 = ⟨s.world.balancers, underway⟩

theorem Left.leads {gateway : Gateway} {s after : State} (h : gateway.Left s)
    (hleads : Traffic.Leads gateway s.world.balancers after.world.balancers) : gateway.Left after := by
  obtain ⟨events, underway, hevents⟩ := h
  obtain ⟨more, hmore⟩ := hleads
  refine ⟨events ++ more, underway, ?_⟩
  rw [Traffic.run_append, hevents, hmore]

theorem Left.follows {gateway : Gateway} {s after : State} (event : Event) {act : Act Response}
    {response : Option Response} (h : gateway.Left s)
    (harrive : ∀ t, Traffic.step gateway event t = ([], t.arrive act))
    (hfollows : Traffic.Follows gateway act s response after) : gateway.Left after := by
  obtain ⟨events, underway, hevents⟩ := h
  have hget : (underway ++ [act])[underway.length]? = some act := List.getElem?_concat_length
  obtain ⟨more, left, hmore, -⟩ := hfollows (underway ++ [act]) underway.length hget
  refine ⟨events ++ event :: more, (underway ++ [act]).set underway.length left, ?_⟩
  rw [Traffic.run_append, hevents, Traffic.run_cons, harrive]
  exact hmore

theorem Left.check {gateway : Gateway} {s : State} (h : gateway.Left s) (till : Nat) :
    gateway.Left (s.check till) :=
  h.leads (Traffic.leads_check gateway till s)

theorem Left.serve {gateway : Gateway} {s : State} (h : gateway.Left s) (timeouts : Timeouts)
    (fresh : Bytes) (request : Request) : gateway.Left (gateway.serve timeouts fresh request s).2 := by
  unfold Gateway.serve Gateway.within
  dsimp only
  split
  · exact h.check s.now
  · apply Left.check
    exact h.follows (.route { request with headers := request.headers.setDefault .requestId fresh })
      (fun t => rfl) (Traffic.run_follows gateway _ _ s)

theorem shutdown_world (s : State) : s.shutdown.world = s.world := by
  unfold State.shutdown
  induction s.world.balancers.map (·.1) generalizing s with
  | nil => rfl
  | cons name names ih => exact ih (s.stop name)

theorem Reaches.left {gateway : Gateway} {s : State} (h : gateway.Reaches s) : gateway.Left s := by
  induction h with
  | start common mode checks network =>
    apply Left.check
    exact ⟨[], [], rfl⟩
  | @dispatch s request _ ih =>
    apply Left.check
    exact ih.follows (.dispatch request) (fun t => rfl) (Traffic.run_follows gateway none _ s)
  | serve timeouts fresh request _ ih => exact ih.serve timeouts fresh request
  | serveConnection timeouts fresh request _ ih => exact ih.serve timeouts fresh (sent request)
  | advance milliseconds _ ih => exact Left.check ih _
  | @draw s name _ ih =>
    unfold State.draw
    split
    next backend hbackend => exact ih.leads (Traffic.leads_step gateway hbackend .select)
    next => exact ih
  | @mark s after name address up _ hmark ih =>
    unfold State.mark at hmark
    split at hmark
    next backend hbackend =>
      have hleads := Traffic.leads_step gateway hbackend (.mark address up)
      rw [Fleet.step] at hleads
      cases hfleet : s.world.balancers.mark backend address up with
      | error e =>
        rw [hfleet] at hmark
        cases hmark
      | ok fleet =>
        rw [hfleet] at hmark hleads
        cases hmark
        exact ih.leads hleads
    next => cases hmark
  | stop name _ ih => exact ih
  | @shutdown s _ ih =>
    unfold Left at ih ⊢
    rwa [shutdown_world]

end Gateway

end ReverseProxy
