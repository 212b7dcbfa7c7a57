import ReverseProxy.Proofs.Gateway.AccessLog
import ReverseProxy.Proofs.Gateway.Trail

/-! # What failures tell -/

namespace ReverseProxy

/-! ## Failures -/

inductive Failure where
  | noMatch
  | badGuard
  | tooLarge
  | noEndpoint (backend : String)
  | unusable (backend : String)
  | unsent (backend : String) (failure : SendFailure)
deriving DecidableEq

namespace Failure

/-- What is answered. Of a backend it tells the name, and of servers and requests nothing. -/
def answer : Failure → Response
  | noMatch => RouteTable.noMatchingRoute
  | badGuard => RouteTable.routeGuardError
  | tooLarge => Adapter.tooLarge
  | noEndpoint backend => .ofText 503 (BalanceError.noHealthyEndpoint backend).message
  | unusable backend => Forward.unavailable backend
  | unsent backend failure => Forward.failed backend failure

/-- How the backend that was asked last failed. -/
def ofTrail? (trail : List Incident) : Option Failure :=
  match trail.reverse with
  | .drew backend (.error _) :: _ => some (noEndpoint backend.name)
  | .drew backend (.ok address) :: _ =>
    if (Authority.ofText? address).isNone then some (unusable backend.name) else none
  | .sent _ (.error failure) :: .drew backend _ :: _ => some (unsent backend.name failure)
  | _ => none

theorem ofTrail?_append {trail : List Incident} {f : Failure} (h : ofTrail? trail = some f)
    (before : List Incident) : ofTrail? (before ++ trail) = some f := by
  unfold ofTrail? at h ⊢
  rw [List.reverse_append]
  split at h
  next heq => rwa [heq]
  next heq => rwa [heq]
  next heq => rwa [heq]
  next => cases h

theorem ofTrail?_response (before : List Incident) (request : Request) (response : Response) :
    ofTrail? (before ++ [.sent request (.ok response)]) = none := by
  rw [ofTrail?, List.reverse_concat]

end Failure

/-- A handler is given up, hands on what a server says, or answers that it failed to ask one. -/
inductive Told : List Incident → Option Response → Prop where
  | nothing (trail : List Incident) : Told trail none
  | response (before : List Incident) (request : Request) (response : Response) :
    Told (before ++ [.sent request (.ok response)]) (some response)
  | failure {trail : List Incident} {f : Failure} (h : Failure.ofTrail? trail = some f) :
    Told trail (some f.answer)

theorem Told.prepend {trail : List Incident} {answer : Option Response} (h : Told trail answer)
    (before : List Incident) : Told (before ++ trail) answer := by
  cases h with
  | nothing => exact .nothing _
  | response first request response =>
    rw [← List.append_assoc]
    exact .response _ request response
  | failure h => exact .failure (Failure.ofTrail?_append h before)

/-! ## Handlers -/

namespace Act

/-- In a gateway with these balancers the handler tells only this much. -/
def Plain (fleet : Fleet) (handler : Handler Act) : Prop :=
  ∀ request deadline s, State.Serves fleet s →
    Told ((handler request).trail deadline s) ((handler request).run deadline s).1

end Act

open Act

variable {fleet : Fleet}

theorem Forward.handler_plain {backend : Backend} (hknows : fleet.Knows backend) :
    Plain fleet (handler backend) := by
  intro request deadline s hs
  have herror := @State.Serves.draw_error fleet s hs backend hknows
  simp only [handler, trail, run]
  cases hdraw : (s.drawFrom backend).1 with
  | error e =>
    obtain rfl := herror hdraw
    exact .failure (f := .noEndpoint backend.name) rfl
  | ok address =>
    cases hauthority : Authority.ofText? address with
    | none =>
      simp only [hauthority]
      exact .failure (f := .unusable backend.name) (by simp [Failure.ofTrail?, trail, hauthority])
    | some authority =>
      simp only [hauthority, trail, run]
      cases hsend : (s.drawFrom backend).2.send (outgoing request authority) with
      | mk outcome after =>
        cases outcome with
        | response response => exact .response [_] _ response
        | failure failure => exact .failure (f := .unsent backend.name failure) rfl
        | never => exact .nothing _

/-! ## Plugins -/

namespace Plugin

/-- The plugin hands an answer on as it is. It may change the request, take its time, or give up. -/
def Relays (plugin : Plugin Act) : Prop :=
  ∀ next request deadline s, ((plugin next request).run deadline s).1 = none ∨
    ∃ inner before, State.Becomes s before ∧
      (plugin next request).trail deadline s = (next inner).trail deadline before ∧
      ((plugin next request).run deadline s).1 = ((next inner).run deadline before).1

theorem Relays.plain {plugin : Plugin Act} (h : plugin.Relays) {next : Handler Act} (hnext : Plain fleet next) :
    Plain fleet (plugin next) := by
  intro request deadline s hs
  rcases h next request deadline s with hnone | ⟨inner, before, hbefore, htrail, hrun⟩
  · exact hnone ▸ .nothing _
  · rw [htrail, hrun]
    exact hnext inner deadline before (hs.becomes hbefore)

theorem logger_relays : logger.Relays := by
  intro next request deadline s
  refine Or.inr ⟨request, s, State.Becomes.refl s, ?_, ?_⟩
  · refine (trail_bind deadline (next request) _ s).trans ?_
    rcases (next request).run deadline s with ⟨_ | response, after⟩ <;> exact List.append_nil _
  · refine (congrArg Prod.fst (run_bind deadline (next request) _ s)).trans ?_
    rcases (next request).run deadline s with ⟨_ | response, after⟩ <;> rfl

theorem stall_relays (milliseconds : Nat) : (stall (Act.wait milliseconds (.done ()))).Relays := by
  intro next request deadline s
  have hact : stall (Act.wait milliseconds (.done ())) next request = .wait milliseconds (next request) := rfl
  rw [hact, trail, run]
  by_cases hlate : deadline.any (· ≤ s.now + milliseconds)
  · exact Or.inl (by rw [if_pos hlate])
  · rw [if_neg hlate, if_neg hlate]
    exact Or.inr ⟨request, _, State.becomes_closed.resume s _, rfl, rfl⟩

end Plugin

/-! ## Adapters -/

namespace Adapter

/-- The adapter hands on what one of its handlers answers, or says that it cannot keep a body. -/
inductive Relays : Adapter Act → Prop where
  | picks {adapter : Adapter Act} (h : adapter.Picks) : Relays adapter
  | failover (limit : Nat) : Relays (failover limit)

/-- Whatever was answered before, the last answer is one that a handler gave. -/
theorem firstAvailable_plain {handlers : List (Handler Act)} (h : ∀ handler ∈ handlers, Plain fleet handler)
    (hne : handlers ≠ []) (request : Request) (last : Response) (deadline : Option Nat) {s : State}
    (hs : State.Serves fleet s) :
    Told ((firstAvailable request last handlers).trail deadline s)
      ((firstAvailable request last handlers).run deadline s).1 := by
  induction handlers generalizing last s with
  | nil => exact absurd rfl hne
  | cons handler rest ih =>
    obtain ⟨hhandler, hrest⟩ := List.forall_mem_cons.mp h
    have htold := hhandler request deadline s hs
    have hafter := State.becomes_closed.run deadline (handler request) s
    rw [firstAvailable, bind_eq, trail_bind, run_bind]
    rcases hfirst : (handler request).run deadline s with ⟨_ | response, after⟩
    · exact .nothing _
    · rw [hfirst] at htold hafter
      dsimp only
      by_cases hagain : response.status = 503 ∧ rest ≠ []
      · rw [if_pos hagain.1]
        exact (ih hrest hagain.2 response (hs.becomes hafter)).prepend _
      · -- Nobody is asked any more, so this is the answer.
        have hdone : (if response.status = 503 then firstAvailable request response rest else return response) =
            Act.done response := by
          by_cases hstatus : response.status = 503
          · obtain rfl : rest = [] := by
              by_contra hmore
              exact hagain ⟨hstatus, hmore⟩
            exact if_pos hstatus
          · exact if_neg hstatus
        rw [hdone]
        exact (List.append_nil _).symm ▸ htold

end Adapter

/-! ## Routes -/

namespace Gateway

/-- How a gateway fails at a request by which it was told this much. -/
inductive Fails (plan : Plan) (gateway : Gateway) (request : Request) : List Incident → Failure → Prop where
  | noMatch (h : gateway.table.decide request = .noMatch) : Fails plan gateway request [] .noMatch
  | badGuard {e : GuardError} (h : gateway.table.decide request = .guardError e) :
    Fails plan gateway request [] .badGuard
  | tooLarge {r : Route (Handler Act)} {spec : RouteSpec} {limit : Nat}
      (hdecide : gateway.table.decide request = .route r) (hspec : plan.config.route r.name = .ok spec)
      (hadapter : adapterOf plan spec = .ok (some (Adapter.failover limit))) (hbody : limit < request.body.length) :
    Fails plan gateway request [] .tooLarge
  | backend {trail : List Incident} {f : Failure} (h : Failure.ofTrail? trail = some f) :
    Fails plan gateway request trail f

/-- A gateway answers nothing, or what a server says, or how it failed. -/
inductive Answered (plan : Plan) (gateway : Gateway) (request : Request) :
    List Incident → Option Response → Prop where
  | nothing (trail : List Incident) : Answered plan gateway request trail none
  | response (before : List Incident) (sent : Request) (response : Response) :
    Answered plan gateway request (before ++ [.sent sent (.ok response)]) (some response)
  | failure {trail : List Incident} {f : Failure} (h : Fails plan gateway request trail f) :
    Answered plan gateway request trail (some f.answer)

theorem Answered.of_told {plan : Plan} {gateway : Gateway} {request : Request} {trail : List Incident}
    {answer : Option Response} (h : Told trail answer) : Answered plan gateway request trail answer := by
  cases h with
  | nothing => exact .nothing _
  | response before sent response => exact .response before sent response
  | failure h => exact .failure (.backend h)

/-- Whatever the route adds to its backends hands their answers on. -/
structure Relayed (plan : Plan) (spec : RouteSpec) : Prop where
  plugins : ∀ name ∈ spec.plugins, ∀ plugin, plan.extensions.plugins.get? name = some plugin → plugin.Relays
  adapter : ∀ a, adapterOf plan spec = .ok (some a) → a.Relays

variable {plan : Plan} {listener : String} {gateway : Gateway} {request : Request} {trail : List Incident}

theorem Fails.unique {f g : Failure} (hf : Fails plan gateway request trail f)
    (hg : Fails plan gateway request trail g) : f = g := by
  cases hf with
  | noMatch h =>
    cases hg with
    | noMatch => rfl
    | badGuard h' => cases h.symm.trans h'
    | tooLarge h' => cases h.symm.trans h'
    | backend h' => cases h'
  | badGuard h =>
    cases hg with
    | noMatch h' => cases h.symm.trans h'
    | badGuard => rfl
    | tooLarge h' => cases h.symm.trans h'
    | backend h' => cases h'
  | tooLarge h =>
    cases hg with
    | noMatch h' => cases h.symm.trans h'
    | badGuard h' => cases h.symm.trans h'
    | tooLarge => rfl
    | backend h' => cases h'
  | backend h =>
    cases hg with
    | backend h' => exact Option.some.inj (h.symm.trans h')
    | _ => cases h

theorem Answered.eq_answer {f : Failure} {response : Response}
    (h : Answered plan gateway request trail (some response)) (hf : Fails plan gateway request trail f) :
    response = f.answer := by
  cases h with
  | response before sent =>
    generalize htrail : before ++ [Incident.sent sent (.ok response)] = trail at hf
    cases hf with
    | backend h =>
      rw [← htrail, Failure.ofTrail?_response] at h
      cases h
    | _ => cases before <;> cases htrail
  | failure hg => rw [hg.unique hf]

theorem handlers_plain {spec : RouteSpec} (hrelayed : Relayed plan spec) {plugins : List (Plugin Act)}
    (hplugins : spec.plugins.mapM (pluginOf plan spec.name) = .ok plugins) {backend : Backend}
    (hknows : fleet.Knows backend) : Plain fleet (Plugin.compose plugins (Forward.handler backend)) := by
  refine Plugin.compose_keeps ?_ (Forward.handler_plain hknows)
  intro plugin hplugin next hnext
  obtain ⟨name, hname, hfound⟩ := exists_of_mem_right (mapM_eq_ok.mp hplugins) hplugin
  exact (hrelayed.plugins name hname plugin (pluginOf_eq_ok.mp hfound)).plain hnext

theorem handlerOf_answered {spec : RouteSpec} {r : Route (Handler Act)} {plugins : List (Plugin Act)}
    {adapter : Option (Adapter Act)} {backends : List Backend} (hrelayed : Relayed plan spec)
    (hplugins : spec.plugins.mapM (pluginOf plan spec.name) = .ok plugins)
    (hadapter : adapterOf plan spec = .ok adapter) (hne : backends ≠ [])
    (hknows : ∀ b ∈ backends, gateway.balancers.Knows b) (hdecide : gateway.table.decide request = .route r)
    (hspec : plan.config.route r.name = .ok spec) (deadline : Option Nat) {s : State}
    (hs : s.Serves gateway.balancers) :
    Answered plan gateway request ((handlerOf plugins adapter backends request).trail deadline s)
      ((handlerOf plugins adapter backends request).run deadline s).1 := by
  have hhandler : ∀ b ∈ backends, Plain gateway.balancers (Plugin.compose plugins (Forward.handler b)) :=
    fun b hb => handlers_plain hrelayed hplugins (hknows b hb)
  cases adapter with
  | none =>
    obtain ⟨backend, rest, rfl⟩ := List.exists_cons_of_ne_nil hne
    exact .of_told (hhandler backend List.mem_cons_self request deadline s hs)
  | some adapter =>
    cases hrelayed.adapter adapter hadapter with
    | picks hpicks =>
      obtain ⟨entry, hentry, heq⟩ := hpicks _ (mt List.map_eq_nil_iff.mp hne) request
      obtain ⟨backend, hbackend, rfl⟩ := List.mem_map.mp hentry
      rw [handlerOf, heq]
      exact .of_told (hhandler backend hbackend request deadline s hs)
    | failover limit =>
      rw [handlerOf, Adapter.failover]
      split
      next hbody => exact .failure (.tooLarge hdecide hspec hadapter hbody)
      next =>
        have hall : ∀ handler ∈ backends.map fun b => Plugin.compose plugins (Forward.handler b),
            Plain gateway.balancers handler := by
          intro handler hmem
          obtain ⟨backend, hbackend, rfl⟩ := List.mem_map.mp hmem
          exact hhandler backend hbackend
        rw [List.map_map]
        exact .of_told
          (Adapter.firstAvailable_plain hall (mt List.map_eq_nil_iff.mp hne) request _ deadline hs)

/-- The routes that take this request hand on what their backends answer. -/
def Relays (plan : Plan) (gateway : Gateway) (request : Request) : Prop :=
  ∀ r spec, gateway.table.decide request = .route r → plan.config.route r.name = .ok spec → Relayed plan spec

theorem dispatch_answered (hbuild : build plan listener = .ok gateway) (hrelays : Relays plan gateway request)
    (deadline : Option Nat) {s : State} (hs : s.Serves gateway.balancers) :
    Answered plan gateway request ((gateway.table.dispatch request).trail deadline s)
      ((gateway.table.dispatch request).run deadline s).1 := by
  unfold RouteTable.dispatch
  cases hdecide : gateway.table.decide request with
  | noMatch => exact .failure (.noMatch hdecide)
  | guardError e => exact .failure (.badGuard hdecide)
  | route r =>
    obtain ⟨spec, plugins, adapter, backends, hspec, hplugins, hadapter, hnames, hne, hknows, htarget⟩ :=
      exists_of_decide hbuild hdecide
    have hbackends : backends ≠ [] := by
      rintro rfl
      exact hne hnames.symm
    dsimp only
    rw [htarget]
    exact handlerOf_answered (hrelays r spec hdecide hspec) hplugins hadapter hbackends hknows hdecide hspec
      deadline hs

theorem build_serves (hbuild : build plan listener = .ok gateway) {s : State} (hs : gateway.Reaches s) :
    s.Serves gateway.balancers := by
  have hnamed : gateway.balancers.Named := by
    intro backend b hknows hb
    obtain ⟨found, hentry⟩ := Fleet.exists_of_backend? hknows
    rw [Fleet.balancer?, hentry, Option.map_some, Option.some.injEq] at hb
    obtain ⟨spec, hspec, hof⟩ := (build_spec hbuild).1.own _ found (List.mem_of_getElem? hentry)
    obtain ⟨servers, -, hbalancer⟩ := bind_eq_ok.mp hof
    rw [← hb, ← (Config.mem_of_find hspec).2]
    exact Balancer.build_isOf (mapError_ok.mp hbalancer)
  obtain ⟨common, checks, mode, network, hbecomes⟩ := hs.arises
  exact State.Serves.becomes ⟨hnamed, fun _ => rfl⟩ hbecomes

theorem relayed_of_builtin (h : Extensions.builtin = .ok plan.extensions) (spec : RouteSpec) :
    Relayed plan spec := by
  constructor
  · intro name _ plugin hplugin
    obtain rfl := Extensions.builtin_plugin h hplugin
    exact Plugin.logger_relays
  · intro a ha
    obtain ⟨name, hname⟩ := get?_of_adapterOf ha
    rcases Extensions.builtin_adapter h hname with rfl | rfl
    · exact .picks Adapter.headerSelect_picks
    · exact .failover Adapter.bodyLimit

/-! ## Two runs -/

/-- What a gateway answers by itself tells how it failed, and at which backend, and nothing else. -/
structure Reticent (plan : Plan) (gateway : Gateway) : Prop where
  serves : ∀ s, gateway.Reaches s → s.Serves gateway.balancers
  /-- This is what plugins and adapters get to see, whatever they make of it. -/
  backends : ∀ backend, gateway.balancers.Knows backend → Plain gateway.balancers (Forward.handler backend)
  lasting : ∀ s after, s.Serves gateway.balancers → State.Becomes s after → after.Serves gateway.balancers
  answers : ∀ s, gateway.Reaches s → ∀ request, Relays plan gateway request → ∀ deadline,
    Answered plan gateway request ((gateway.table.dispatch request).trail deadline s)
      ((gateway.table.dispatch request).run deadline s).1
  once : ∀ request trail f g, Fails plan gateway request trail f → Fails plan gateway request trail g → f = g
  builtin : Extensions.builtin = .ok plan.extensions → ∀ request, Relays plan gateway request
  /-- Whatever another gateway, its servers, its state and its request are like. -/
  same : ∀ plan' listener' gateway', build plan' listener' = .ok gateway' →
    ∀ s s', gateway.Reaches s → gateway'.Reaches s' →
    ∀ request request', Relays plan gateway request → Relays plan' gateway' request' →
    ∀ deadline deadline' f,
      Fails plan gateway request ((gateway.table.dispatch request).trail deadline s) f →
      Fails plan' gateway' request' ((gateway'.table.dispatch request').trail deadline' s') f →
    ∀ response response', ((gateway.table.dispatch request).run deadline s).1 = some response →
      ((gateway'.table.dispatch request').run deadline' s').1 = some response' → response = response'

theorem build_reticent (hbuild : build plan listener = .ok gateway) : Reticent plan gateway := by
  constructor
  case serves => exact fun s hs => build_serves hbuild hs
  case backends => exact fun backend hknows => Forward.handler_plain hknows
  case lasting => exact fun s after hs hbecomes => hs.becomes hbecomes
  case answers =>
    exact fun s hs request hrelays deadline => dispatch_answered hbuild hrelays deadline (build_serves hbuild hs)
  case once => exact fun request trail f g hf hg => hf.unique hg
  case builtin => exact fun h request r spec _ _ => relayed_of_builtin h spec
  case same =>
    intro plan' listener' gateway' hbuild' s s' hs hs' request request' hrelays hrelays' deadline deadline' f hf hf'
      response response' hresponse hresponse'
    have hfirst := dispatch_answered hbuild hrelays deadline (build_serves hbuild hs)
    have hsecond := dispatch_answered hbuild' hrelays' deadline' (build_serves hbuild' hs')
    rw [hresponse] at hfirst
    rw [hresponse'] at hsecond
    calc response = f.answer := hfirst.eq_answer hf
      _ = response' := (hsecond.eq_answer hf').symm

/-- Two backends of a route, one of them on this machine. -/
def twofold : Plan where
  config := {
    servers := [{ name := "s1", address := "10.0.0.1:80" }, { name := "s2", address := "localhost:80" }]
    backends := [{ name := "be1", servers := ["s1", "s2"], policy := .preferLocal },
      { name := "be2", servers := ["s1"] }]
    routes := [{
      name := "a", uri := "/a", backends := ["be1", "be2"], guard := "x-tenant=1", plugins := ["access-log"]
      adapter := some "failover" }]
    listeners := [{ routes := ["a"] }] }
  extensions := {
    plugins := { kind := "plugin", items := Extensions.builtinPlugins }
    adapters := { kind := "adapter", items := Extensions.builtinAdapters } }
  hostname := "gw"

theorem build_reticent_twofold : ∃ gateway, build twofold "default" = .ok gateway ∧ Reticent twofold gateway :=
  ⟨_, rfl, @build_reticent twofold "default" _ rfl⟩

end Gateway

end ReverseProxy
