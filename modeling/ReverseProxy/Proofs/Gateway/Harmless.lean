import ReverseProxy.Proofs.Balance.Footprint
import ReverseProxy.Proofs.Gateway.Construction
import ReverseProxy.Proofs.Health.Punctual

/-! # What requests leave alone -/

namespace ReverseProxy

/-! ## All balancers but their cursors -/

namespace Fleet

def rewound (fleet : Fleet) : Fleet := fleet.map fun (name, b) => (name, b.rewound)

@[simp] theorem rewound_backend? (fleet : Fleet) (name : String) :
    fleet.rewound.backend? name = fleet.backend? name := by
  rw [backend?, rewound, List.findIdx?_map, backend?]
  rfl

@[simp] theorem rewound_balancer? (fleet : Fleet) (backend : Backend) :
    fleet.rewound.balancer? backend = (fleet.balancer? backend).map (·.rewound) := by
  rw [balancer?, rewound, List.getElem?_map, balancer?, Option.map_map, Option.map_map]
  rfl

theorem rewound_update {fleet : Fleet} {backend : Backend} {f g : Balancer → Balancer}
    (h : ∀ b, fleet.balancer? backend = some b → (f b).rewound = g b.rewound) :
    (fleet.update backend f).rewound = fleet.rewound.update backend g := by
  apply List.ext_getElem?
  intro i
  simp only [rewound, update, List.getElem?_map, List.getElem?_modify, Option.map_eq_map, Option.map_map]
  cases hget : fleet[i]? with
  | none => rfl
  | some entry =>
    by_cases hi : backend.slot = i
    · subst hi
      simp [h entry.2 (by rw [balancer?, hget]; rfl)]
    · simp [hi]

/-- A draw moves the cursor of the pool that it gets an address from, and else nothing. -/
inductive Drawn (fleet : Fleet) (backend : Backend) : Except BalanceError String × Fleet → Prop where
  | nothing (e : BalanceError) : Drawn fleet backend (.error e, fleet)
  | moved {b next : Balancer} {i : Nat} {pool : Pool} {address : String}
      (hbalancer : fleet.balancer? backend = some b) (hpool : b.pools[i]? = some pool)
      (haddress : pool.select.1 = .ok address) (hpools : next.pools = b.pools.set i pool.select.2)
      (hsame : next.rewound = b.rewound) :
    Drawn fleet backend (.ok address, fleet.update backend fun _ => next)

theorem update_self_eq {fleet : Fleet} {backend : Backend} {b : Balancer}
    (h : fleet.balancer? backend = some b) : (fleet.update backend fun _ => b) = fleet := by
  apply List.ext_getElem?
  intro i
  simp only [update, List.getElem?_modify]
  cases hget : fleet[i]? with
  | none => rfl
  | some entry =>
    by_cases hi : backend.slot = i
    · subst hi
      rw [balancer?, hget, Option.map_some, Option.some.injEq] at h
      simp [← h]
    · simp [hi]

theorem draw_drawn (fleet : Fleet) (backend : Backend) : fleet.Drawn backend (fleet.draw backend) := by
  cases h : fleet.balancer? backend with
  | none =>
    rw [draw, h]
    exact .nothing _
  | some b =>
    rw [draw_eq h]
    generalize hfound : b.select = found
    have hselected : b.Selected found := hfound ▸ b.select_selected
    cases hselected with
    | nothing e =>
      rw [update_self_eq h]
      exact .nothing e
    | drawn hpool haddress hpools hsame => exact .moved h hpool haddress hpools hsame

theorem Drawn.rewound {fleet : Fleet} {backend : Backend} {found : Except BalanceError String × Fleet}
    (h : fleet.Drawn backend found) : found.2.rewound = fleet.rewound := by
  cases h with
  | nothing e => rfl
  | @moved b next _ _ _ hbalancer _ _ _ hsame =>
    have hrewound : fleet.rewound.balancer? backend = some b.rewound := by simp [hbalancer]
    rw [rewound_update (g := fun _ => b.rewound) fun _ _ => hsame, update_self_eq hrewound]

theorem Drawn.eq_of_not_ok {fleet : Fleet} {backend : Backend} {found : Except BalanceError String × Fleet}
    (h : fleet.Drawn backend found) (hnone : ∀ a, found.1 ≠ .ok a) : found.2 = fleet := by
  cases h with
  | nothing e => rfl
  | moved => exact absurd rfl (hnone _)

/-- What an operation makes of everything but the cursors does not depend on where they stand. -/
theorem rewound_step {a b : Fleet} (h : a.rewound = b.rewound) (backend : Backend) (op : Operation) :
    (a.step backend op).2.rewound = (b.step backend op).2.rewound := by
  cases op with
  | select =>
    -- The two draws may move different cursors, but nothing else.
    have ha := (a.draw_drawn backend).rewound
    have hb := (b.draw_drawn backend).rewound
    exact (ha.trans h).trans hb.symm
  | mark address up =>
    -- A mark does not look at a cursor, so it may as well come after the rewinding.
    have hstep : ∀ fleet : Fleet, (fleet.step backend (.mark address up)).2.rewound =
        (fleet.rewound.step backend (.mark address up)).2 := by
      intro fleet
      cases hget : fleet.balancer? backend with
      | none => simp [step, mark, hget, Operation.marking]
      | some balancer =>
        have hrewound : fleet.rewound.balancer? backend = some balancer.rewound := by simp [hget]
        rw [step, step, mark_eq hget, mark_eq hrewound, Balancer.rewound_mark]
        cases balancer.mark address up with
        | error e => rfl
        | ok next =>
          change (fleet.update backend fun _ => next).rewound = fleet.rewound.update backend fun _ => next.rewound
          exact rewound_update fun _ _ => rfl
    rw [hstep, hstep, h]
  | verdict position up =>
    have hstep : ∀ fleet : Fleet, (fleet.step backend (.verdict position up)).2.rewound =
        (fleet.rewound.step backend (.verdict position up)).2 := by
      intro fleet
      exact rewound_update (g := (·.write position up)) fun b _ => (b.rewound_write position up).symm
    rw [hstep, hstep, h]
  | list => exact h

end Fleet

/-! ## Requests among other events -/

namespace Event

/-- The event is about requests, and not about probes or somebody who turns to a backend. -/
def isRequest : Event → Bool
  | verdict _ _ | ask _ _ => false
  | _ => true

/-- The event makes one request go on, or gives it up. -/
def isOf (number : Nat) : Event → Bool
  | proceed n _ | abandon n => n = number
  | _ => false

end Event

namespace Traffic

theorem step_request {gateway : Gateway} {event : Event} (h : event.isRequest) (t : Traffic) :
    (∃ underway, step gateway event t = ([], { t with underway })) ∨
      ∃ backend underway, step gateway event t =
        ([⟨backend, .select, .selected (t.fleet.draw backend).1⟩],
          { fleet := (t.fleet.draw backend).2, underway }) := by
  cases event with
  | dispatch request => exact Or.inl ⟨_, rfl⟩
  | route request => exact Or.inl ⟨_, rfl⟩
  | proceed number heard =>
    unfold step
    dsimp only
    split
    next backend next _ => exact Or.inr ⟨backend, _, rfl⟩
    next => exact Or.inl ⟨_, rfl⟩
    next => exact Or.inl ⟨_, rfl⟩
    next => exact Or.inl ⟨_, rfl⟩
    next => exact Or.inl ⟨t.underway, rfl⟩
  | abandon number => exact Or.inl ⟨_, rfl⟩
  | verdict site up => cases h
  | ask name op => cases h

theorem step_request_rewound {gateway : Gateway} {event : Event} (h : event.isRequest) (t : Traffic) :
    (step gateway event t).2.fleet.rewound = t.fleet.rewound := by
  rcases step_request h t with ⟨underway, hstep⟩ | ⟨backend, underway, hstep⟩
  · rw [hstep]
  · rw [hstep]
    exact (t.fleet.draw_drawn backend).rewound

theorem step_other_rewound {gateway : Gateway} {event : Event} (h : event.isRequest = false)
    {t u : Traffic} (hsame : t.fleet.rewound = u.fleet.rewound) :
    (step gateway event t).2.fleet.rewound = (step gateway event u).2.fleet.rewound := by
  cases event with
  | verdict site up => exact Fleet.rewound_step hsame site.backend (.verdict site.position up)
  | ask name op =>
    have hbackend : t.fleet.backend? name = u.fleet.backend? name := by
      rw [← Fleet.rewound_backend?, hsame, Fleet.rewound_backend?]
    unfold step
    dsimp only
    rw [hbackend]
    cases u.fleet.backend? name with
    | none => exact hsame
    | some backend => exact Fleet.rewound_step hsame backend op
  | _ => cases h

theorem run_rewound (gateway : Gateway) (events : List Event) {t u : Traffic}
    (h : t.fleet.rewound = u.fleet.rewound) :
    (run gateway events t).2.fleet.rewound =
      (run gateway (events.filter (!·.isRequest)) u).2.fleet.rewound := by
  induction events generalizing t u with
  | nil => exact h
  | cons event events ih =>
    rw [run_cons]
    cases hrequest : event.isRequest with
    | true =>
      -- Only the first run has this event. The cursors may differ from here on.
      rw [List.filter_cons_of_neg (by simp [hrequest])]
      exact ih ((step_request_rewound hrequest t).trans h)
    | false =>
      rw [List.filter_cons_of_pos (by simp [hrequest]), run_cons]
      exact ih (step_other_rewound hrequest h)

/-! ## One request among others -/

def deedsOf (gateway : Gateway) (number : Nat) : List Event → Traffic → List Deed
  | [], _ => []
  | event :: events, t =>
    (if event.isOf number then (step gateway event t).1 else []) ++
      deedsOf gateway number events (step gateway event t).2

/-- Nothing differs but how far one request got. -/
structure Beside (number : Nat) (t u : Traffic) : Prop where
  fleet : t.fleet = u.fleet
  length : t.underway.length = u.underway.length
  others : ∀ i, i ≠ number → t.underway[i]? = u.underway[i]?

theorem Beside.refl (number : Nat) (t : Traffic) : Beside number t t := ⟨rfl, rfl, fun _ _ => rfl⟩

theorem Beside.arrive {number : Nat} {t u : Traffic} (h : Beside number t u) (act : Act Response) :
    Beside number (t.arrive act) (u.arrive act) := by
  refine ⟨h.fleet, by simp [Traffic.arrive, h.length], ?_⟩
  intro i hi
  simp only [Traffic.arrive, List.getElem?_append, h.length, h.others i hi]

theorem Beside.goOn {number : Nat} {t u : Traffic} (h : Beside number t u) (n : Nat) (act : Act Response) :
    Beside number (t.goOn n act) (u.goOn n act) := by
  refine ⟨h.fleet, by simp [Traffic.goOn, h.length], ?_⟩
  intro i hi
  simp only [Traffic.goOn, List.getElem?_set, h.length, h.others i hi]

theorem Beside.perform {number : Nat} {t u : Traffic} (h : Beside number t u) (backend : Backend)
    (op : Operation) : Beside number (t.perform backend op).2 (u.perform backend op).2 :=
  ⟨by simp only [Traffic.perform, h.fleet], h.length, h.others⟩

/-- Every other event does the same with it and without it. -/
theorem Beside.step {gateway : Gateway} {number : Nat} {t u : Traffic} (h : Beside number t u) {event : Event}
    (hother : event.isOf number = false) :
    Beside number (step gateway event t).2 (step gateway event u).2 := by
  cases event with
  | dispatch request => exact h.arrive (gateway.table.dispatch request)
  | route request => exact h.arrive (gateway.route request)
  | proceed n heard =>
    have hn : n ≠ number := by simpa [Event.isOf] using hother
    unfold Traffic.step
    dsimp only
    rw [← h.others n hn]
    split
    next backend next _ =>
      have hnext := (h.perform backend .select).goOn n (next (t.fleet.draw backend).1)
      rwa [h.fleet] at hnext ⊢
    next next _ => exact h.goOn n (next heard)
    next next _ => exact h.goOn n next
    next next _ => exact h.goOn n next
    next => exact h
  | abandon n => exact h.goOn n (.done Gateway.timedOut)
  | verdict site up => exact h.perform site.backend (.verdict site.position up)
  | ask name op =>
    unfold Traffic.step
    dsimp only
    rw [h.fleet]
    cases u.fleet.backend? name with
    | none => exact h
    | some backend => exact h.perform backend op

/-- A step of the request itself, if it is given no address, only makes the request go on. -/
theorem step_own {gateway : Gateway} {number : Nat} {event : Event} (hown : event.isOf number) {t u : Traffic}
    (h : Beside number t u)
    (hnone : ∀ d ∈ (step gateway event t).1, ∀ a, d.answer ≠ .selected (.ok a)) :
    Beside number (step gateway event t).2 u := by
  have hset : ∀ act, Beside number (t.goOn number act) u := by
    intro act
    refine ⟨h.fleet, by simp [goOn, h.length], ?_⟩
    intro i hi
    rw [goOn, List.getElem?_set_ne (Ne.symm hi), h.others i hi]
  cases event with
  | proceed n heard =>
    obtain rfl : n = number := by simpa [Event.isOf] using hown
    unfold step at hnone ⊢
    dsimp only at hnone ⊢
    split
    next backend next hget =>
      rw [hget] at hnone
      have hdraw : ∀ a, (t.fleet.draw backend).1 ≠ .ok a := by
        intro a ha
        exact hnone _ (List.mem_singleton_self _) a (congrArg Answer.selected ha)
      have hfleet : (t.fleet.draw backend).2 = t.fleet := (t.fleet.draw_drawn backend).eq_of_not_ok hdraw
      simp only [perform, Fleet.step, hfleet]
      exact hset (next (t.fleet.draw backend).1)
    next next _ => exact hset (next heard)
    next next _ => exact hset next
    next next _ => exact hset next
    next => exact h
  | abandon n =>
    obtain rfl : n = number := by simpa [Event.isOf] using hown
    exact hset (.done Gateway.timedOut)
  | _ => cases hown

theorem run_beside (gateway : Gateway) (number : Nat) (events : List Event) {t u : Traffic}
    (h : Beside number t u)
    (hnone : ∀ d ∈ deedsOf gateway number events t, ∀ a, d.answer ≠ .selected (.ok a)) :
    Beside number (run gateway events t).2 (run gateway (events.filter (!·.isOf number)) u).2 := by
  induction events generalizing t u with
  | nil => exact h
  | cons event events ih =>
    rw [deedsOf, List.forall_mem_append] at hnone
    rw [run_cons]
    cases hown : event.isOf number with
    | true =>
      -- Only the first run has this event. Without an address it moves nothing but the request.
      rw [if_pos hown] at hnone
      rw [List.filter_cons_of_neg (by simp [hown])]
      exact ih (step_own hown h hnone.1) hnone.2
    | false =>
      rw [List.filter_cons_of_pos (by simp [hown]), run_cons]
      exact ih (h.step hown) hnone.2

end Traffic

/-! ## Requests that no backend sees -/

namespace Gateway

/-- The request is answered before any backend is asked. -/
inductive Refused (plan : Plan) (gateway : Gateway) (request : Request) : Response → Prop where
  | noMatch (h : gateway.table.decide request = .noMatch) :
    Refused plan gateway request (.ofText 404 "no matching route")
  | guardError {e : GuardError} (h : gateway.table.decide request = .guardError e) :
    Refused plan gateway request (.ofText 500 "route guard error")
  /-- A route that keeps the body for the next backend takes no longer one than it can keep. -/
  | tooLarge {r : Route (Handler Act)} {spec : RouteSpec} {limit : Nat}
      (h : gateway.table.decide request = .route r) (hspec : plan.config.route r.name = .ok spec)
      (hadapter : adapterOf plan spec = .ok (some (Adapter.failover limit)))
      (hbody : limit < request.body.length) :
    Refused plan gateway request (.ofText 413 "request body too large")

theorem Refused.dispatch {plan : Plan} {listener : String} {gateway : Gateway} {request : Request}
    {response : Response} (hbuild : build plan listener = .ok gateway)
    (h : Refused plan gateway request response) : gateway.table.dispatch request = .done response := by
  cases h with
  | noMatch h =>
    rw [RouteTable.dispatch, h]
    rfl
  | guardError h =>
    rw [RouteTable.dispatch, h]
    rfl
  | @tooLarge r spec limit h hspec hadapter hbody =>
    obtain ⟨plugins, adapter, backends, -, hadapter', -, -, htarget⟩ := assembled_of_decide hbuild h hspec
    rw [hadapter] at hadapter'
    cases hadapter'
    rw [RouteTable.dispatch, h]
    dsimp only
    rw [htarget, handlerOf, Adapter.failover, if_pos hbody]
    rfl

/-- Whatever takes no time and turns to nobody leaves the whole state as it is. -/
theorem dispatch_of_done {gateway : Gateway} {request : Request} {response : Response} {s : State}
    (h : gateway.table.dispatch request = .done response) (hs : s.Punctual) :
    gateway.dispatch request s = (some response, s) := by
  rw [Gateway.dispatch, h, Act.run]
  exact Prod.ext rfl (State.settle_of_punctual hs)

theorem serve_of_done {gateway : Gateway} {timeouts : Timeouts} {fresh : Bytes} {request : Request}
    {response : Response} {s : State}
    (h : gateway.table.dispatch { request with headers := request.headers.setDefault .requestId fresh } =
      .done response)
    (hs : s.Punctual) : (gateway.serve timeouts fresh request s).2 = s := by
  -- A path that never reaches the table is answered just as fast.
  have hroute : ∃ answer,
      gateway.route { request with headers := request.headers.setDefault .requestId fresh } = .done answer := by
    unfold Gateway.route
    split
    · exact ⟨response, h⟩
    · exact ⟨notFound, rfl⟩
  obtain ⟨answer, hanswer⟩ := hroute
  unfold Gateway.serve Gateway.within
  dsimp only
  split
  · exact State.settle_of_punctual hs
  · rw [hanswer]
    exact State.settle_of_punctual hs

/-! ## All requests -/

/-- Requests do no harm to what they share. -/
structure Harmless (plan : Plan) (gateway : Gateway) : Prop where
  /-- They write no flag: without them all would be the same but the cursors. -/
  flags : ∀ t events, (Traffic.run gateway events t).2.fleet.rewound =
    (Traffic.run gateway (events.filter (!·.isRequest)) t).2.fleet.rewound
  /-- A single step moves the cursor of the pool that it gets an address from, and else nothing. -/
  cursors : ∀ t event, event.isRequest →
    (∃ underway, Traffic.step gateway event t = ([], { t with underway })) ∨
      ∃ backend found underway, t.fleet.Drawn backend found ∧ Traffic.step gateway event t =
        ([⟨backend, .select, .selected found.1⟩], { fleet := found.2, underway })
  /-- A request that is given no address might as well have done nothing. -/
  spared : ∀ t number events,
    (∀ d ∈ Traffic.deedsOf gateway number events t, ∀ a, d.answer ≠ .selected (.ok a)) →
    Traffic.Beside number (Traffic.run gateway events t).2
      (Traffic.run gateway (events.filter (!·.isOf number)) t).2
  /-- A request that is refused leaves the whole state as it is. -/
  refused : ∀ s, gateway.Reaches s → ∀ request response, Refused plan gateway request response →
    gateway.dispatch request s = (some response, s)
  refusedServed : ∀ s, gateway.Reaches s → ∀ timeouts fresh request response,
    Refused plan gateway { request with headers := request.headers.setDefault .requestId fresh } response →
    (gateway.serve timeouts fresh request s).2 = s

theorem build_harmless {plan : Plan} {listener : String} {gateway : Gateway}
    (h : build plan listener = .ok gateway) : Harmless plan gateway := by
  constructor
  case flags => exact fun t events => Traffic.run_rewound gateway events rfl
  case cursors =>
    intro t event hrequest
    rcases Traffic.step_request hrequest t with hnothing | ⟨backend, underway, hstep⟩
    · exact Or.inl hnothing
    · exact Or.inr ⟨backend, _, underway, t.fleet.draw_drawn backend, hstep⟩
  case spared =>
    exact fun t number events hnone => Traffic.run_beside gateway number events (.refl number t) hnone
  case refused =>
    exact fun s hs request response hrefused => dispatch_of_done (hrefused.dispatch h) hs.punctual
  case refusedServed =>
    exact fun s hs timeouts fresh request response hrefused => serve_of_done (hrefused.dispatch h) hs.punctual

/-- One route has a guard that cannot be asked, and the other one keeps three bytes at most. -/
def turningAway : Plan where
  config := {
    servers := [{ name := "s1", address := "10.0.0.1:80" }, { name := "s2", address := "10.0.0.2:80" }]
    backends := [{ name := "be1", servers := ["s1"] }, { name := "be2", servers := ["s2"] }]
    routes := [
      { name := "a", uri := "/a", guard := "unsure", backends := ["be1"] },
      { name := "b", uri := "/b", backends := ["be2", "be1"], adapter := some "failover" }]
    listeners := [{ routes := ["a", "b"] }] }
  extensions := {
    adapters := { kind := "adapter", items := [("failover", Adapter.failover 3)] } }
  hostname := "gw"

theorem build_harmless_turningAway : ∃ gateway,
    build turningAway "default" = .ok gateway ∧ Harmless turningAway gateway ∧
      Refused turningAway gateway { uri := .relative ⟨"/", none⟩ } (.ofText 404 "no matching route") ∧
      Refused turningAway gateway { uri := .relative ⟨"/a", none⟩ } (.ofText 500 "route guard error") ∧
      Refused turningAway gateway { uri := .relative ⟨"/b", none⟩, body := [1, 2, 3, 4] }
        (.ofText 413 "request body too large") :=
  ⟨_, rfl, @build_harmless turningAway "default" _ rfl, .noMatch rfl, .guardError rfl,
    .tooLarge rfl rfl rfl (by decide)⟩

end Gateway

end ReverseProxy
