import ReverseProxy.Proofs.Gateway.Construction
import ReverseProxy.Proofs.Gateway.Outcome
import ReverseProxy.Proofs.Plugin.Layers
import ReverseProxy.Proofs.Plugin.Registry

/-! # How often a request is logged -/

namespace ReverseProxy

namespace Request

/-- One event if there is an answer, and none without. -/
def logged (request : Request) (answer : Option Response) : List AccessEvent :=
  (answer.map fun response => request.event response.status).toList

theorem logged_congr {inner request : Request} {told answer : Option Response}
    (hevent : inner.event = request.event) (hstatus : told.map (·.status) = answer.map (·.status)) :
    inner.logged told = request.logged answer := by
  have hboth : ∀ (r : Request) (a : Option Response), r.logged a = ((a.map (·.status)).map r.event).toList := by
    intro r a
    cases a <;> rfl
  rw [hboth, hboth, hevent, hstatus]

end Request

/-! ## Handlers and plugins -/

namespace Act

def Quiet (handler : Handler Act) : Prop :=
  ∀ request log answer, (handler request).Yields log answer → log = []

def LogsOnce (handler : Handler Act) : Prop :=
  ∀ request log answer, (handler request).Yields log answer → log = request.logged answer

end Act

open Act

theorem Forward.handler_quiet (backend : Backend) : Quiet (handler backend) := by
  intro request log answer h
  cases h with
  | draw result h =>
    cases result with
    | error e => exact (yields_done h).1
    | ok address =>
      dsimp only at h
      split at h
      · exact (yields_done h).1
      · cases h with
        | send result h => cases result <;> exact (yields_done h).1
        | unheard => rfl

namespace Plugin

def logger : Plugin Act := accessLog fun event => .record event (.done ())

/--
A plugin that does not show in the log. It hands each request on once, with nothing changed of what
is logged of it, and keeps the status of the answer. Before, it may give up.
-/
def Discreet (plugin : Plugin Act) : Prop :=
  ∀ next request log answer, (plugin next request).Yields log answer →
    (log = [] ∧ answer = none) ∨
      ∃ inner told, inner.event = request.event ∧ (next inner).Yields log told ∧
        told.map (·.status) = answer.map (·.status)

theorem Discreet.quiet {plugin : Plugin Act} (h : plugin.Discreet) {next : Handler Act} (hnext : Quiet next) :
    Quiet (plugin next) := by
  intro request log answer hyields
  rcases h next request log answer hyields with ⟨hlog, -⟩ | ⟨inner, told, -, hinner, -⟩
  · exact hlog
  · exact hnext inner log told hinner

theorem Discreet.logsOnce {plugin : Plugin Act} (h : plugin.Discreet) {next : Handler Act}
    (hnext : LogsOnce next) : LogsOnce (plugin next) := by
  intro request log answer hyields
  rcases h next request log answer hyields with ⟨rfl, rfl⟩ | ⟨inner, told, hevent, hinner, hstatus⟩
  · rfl
  · rw [hnext inner log told hinner, Request.logged_congr hevent hstatus]

theorem logger_logsOnce {next : Handler Act} (h : Quiet next) : LogsOnce (logger next) := by
  intro request log answer hyields
  rcases yields_bind hyields with ⟨rfl, hnone⟩ | ⟨first, response, rest, hfirst, hrest, rfl⟩
  · exact h request log none hnone
  · rw [h request first _ hfirst]
    cases hrest with
    | record _ hdone =>
      obtain ⟨rfl, rfl⟩ := yields_done hdone
      rfl

theorem tag_discreet (name : String) : (tag (m := Act) name).Discreet := by
  intro next request log answer hyields
  have hevent := event_inward [name] request
  rw [tag_eq] at hyields
  rcases yields_bind hyields with ⟨rfl, hnone⟩ | ⟨first, response, rest, hfirst, hrest, rfl⟩
  · exact Or.inr ⟨_, none, hevent, hnone, rfl⟩
  · obtain ⟨rfl, rfl⟩ := yields_done hrest
    rw [List.append_nil]
    exact Or.inr ⟨_, some response, hevent, hfirst, rfl⟩

theorem stall_discreet (milliseconds : Nat) : (stall (Act.wait milliseconds (.done ()))).Discreet := by
  intro next request log answer hyields
  cases hyields with
  | wait _ h => exact Or.inr ⟨request, answer, rfl, h, rfl⟩
  | late => exact Or.inl ⟨rfl, rfl⟩

/-- What the other plugins of a chain are, they hide neither the event nor that there is one only. -/
theorem compose_cases {registry : Registry (Plugin Act)} {names : List String} {plugins : List (Plugin Act)}
    (hplugins : List.Forall₂ (fun name plugin => registry.get? name = some plugin) names plugins)
    (hlogger : registry.get? "access-log" = some logger)
    (hothers : ∀ name ∈ names, name ≠ "access-log" → ∀ plugin, registry.get? name = some plugin → plugin.Discreet)
    {base : Handler Act} (hbase : Quiet base) :
    (names.count "access-log" = 0 → Quiet (compose plugins base)) ∧
      (names.count "access-log" = 1 → LogsOnce (compose plugins base)) := by
  -- From the innermost plugin on: all is quiet until the logger comes, and then one event is all.
  induction hplugins with
  | nil => exact ⟨fun _ => hbase, nofun⟩
  | @cons name plugin names plugins hplugin _ ih =>
    obtain ⟨hquiet, honce⟩ := ih fun name hname => hothers name (List.mem_cons_of_mem _ hname)
    by_cases hname : name = "access-log"
    · subst hname
      cases hlogger.symm.trans hplugin
      rw [List.count_cons_self]
      exact ⟨nofun, fun hcount => logger_logsOnce (hquiet (Nat.succ.inj hcount))⟩
    · have hdiscreet := hothers name List.mem_cons_self hname plugin hplugin
      rw [List.count_cons_of_ne hname]
      exact ⟨fun hcount => hdiscreet.quiet (hquiet hcount), fun hcount => hdiscreet.logsOnce (honce hcount)⟩

end Plugin

/-! ## Adapters -/

namespace Adapter

/-- The adapter hands each request to one of its handlers, as it is. -/
def Picks (adapter : Adapter Act) : Prop :=
  ∀ handlers, handlers ≠ [] → ∀ request, ∃ entry ∈ handlers, adapter handlers request = entry.2 request

theorem headerSelect_picks : Picks headerSelect := by
  intro handlers hne request
  have hchosen : ∃ entry ∈ handlers, choose handlers request = some entry.2 := by
    unfold choose
    cases hnamed : (request.headers.text? backendName).bind (BackendHandlers.get? handlers) with
    | none =>
      obtain ⟨entry, rest, rfl⟩ := List.exists_cons_of_ne_nil hne
      exact ⟨entry, List.mem_cons_self, rfl⟩
    | some handler =>
      obtain ⟨name, -, hget⟩ := Option.bind_eq_some_iff.mp hnamed
      obtain ⟨entry, hfind, rfl⟩ := Option.map_eq_some_iff.mp hget
      exact ⟨entry, List.mem_of_find?_eq_some hfind, rfl⟩
  obtain ⟨entry, hentry, hchoose⟩ := hchosen
  refine ⟨entry, hentry, ?_⟩
  rw [headerSelect, hchoose]

theorem lastBackend_picks : Picks lastBackend := by
  intro handlers hne request
  refine ⟨handlers.getLast hne, List.getLast_mem hne, ?_⟩
  rw [lastBackend, List.getLast?_eq_getLast_of_ne_nil hne]

/-- Each handler that is asked in vain leaves an event, and the one that is asked last leaves its own. -/
theorem firstAvailable_logs {handlers : List (Handler Act)} (h : ∀ handler ∈ handlers, LogsOnce handler)
    (hne : handlers ≠ []) {request : Request} {last : Response} {log : List AccessEvent}
    {answer : Option Response} (hyields : (firstAvailable request last handlers).Yields log answer) :
    ∃ k < handlers.length, log = List.replicate k (request.event 503) ++ request.logged answer ∧
      ∀ response, answer = some response → response.status = 503 → k + 1 = handlers.length := by
  induction handlers generalizing last log with
  | nil => exact absurd rfl hne
  | cons handler rest ih =>
    obtain ⟨hhandler, hrest⟩ := List.forall_mem_cons.mp h
    rcases yields_bind hyields with ⟨rfl, hnone⟩ | ⟨first, response, more, hfirst, hmore, rfl⟩
    · exact ⟨0, Nat.succ_pos _, hhandler request log none hnone, nofun⟩
    · rw [hhandler request first _ hfirst]
      split at hmore
      next hstatus =>
        -- The event of a 503 stays in the log, and the next handler is asked.
        have hevent : request.logged (some response) = [request.event 503] := by
          rw [Request.logged, ← hstatus]
          rfl
        rw [hevent]
        by_cases hnil : rest = []
        · subst hnil
          obtain ⟨rfl, rfl⟩ := yields_done hmore
          exact ⟨0, Nat.succ_pos _, by rw [hevent]; rfl, fun _ _ _ => rfl⟩
        · obtain ⟨k, hk, rfl, hlast⟩ := ih hrest hnil hmore
          exact ⟨k + 1, Nat.succ_lt_succ hk, rfl, fun r hr h503 => congrArg Nat.succ (hlast r hr h503)⟩
      next hstatus =>
        obtain ⟨rfl, rfl⟩ := yields_done hmore
        refine ⟨0, Nat.succ_pos _, List.append_nil _, ?_⟩
        intro r hr h503
        cases hr
        exact absurd h503 hstatus

end Adapter

namespace Extensions

theorem builtin_eq : builtin = .ok {
    plugins := { kind := "plugin", items := [("access-log", Plugin.logger)] }
    adapters := {
      kind := "multi-backend adapter"
      items := [("header-select", Adapter.headerSelect), ("failover", Adapter.failover Adapter.bodyLimit)] } } := rfl

theorem builtin_plugin {extensions : Extensions} (h : builtin = .ok extensions) {name : String} {plugin : Plugin Act}
    (hplugin : extensions.plugins.get? name = some plugin) : plugin = Plugin.logger := by
  obtain rfl := Except.ok.inj (builtin_eq.symm.trans h)
  exact (Prod.mk.inj (List.mem_singleton.mp (Registry.mem_of_get? hplugin))).2

theorem builtin_adapter {extensions : Extensions} (h : builtin = .ok extensions) {name : String} {a : Adapter Act}
    (ha : extensions.adapters.get? name = some a) :
    a = Adapter.headerSelect ∨ a = Adapter.failover Adapter.bodyLimit := by
  obtain rfl := Except.ok.inj (builtin_eq.symm.trans h)
  rcases List.mem_cons.mp (Registry.mem_of_get? ha) with hselect | hfailover
  · exact .inl (Prod.mk.inj hselect).2
  · exact .inr (Prod.mk.inj (List.mem_singleton.mp hfailover)).2

end Extensions

/-! ## Routes -/

namespace Gateway

theorem get?_of_adapterOf {plan : Plan} {spec : RouteSpec} {a : Adapter Act}
    (h : adapterOf plan spec = .ok (some a)) : ∃ name, plan.extensions.adapters.get? name = some a := by
  unfold adapterOf at h
  split at h
  · cases h
  · split at h
    · cases h
    next name _ =>
      split at h
      next found hfound =>
        cases h
        exact ⟨name, hfound⟩
      · cases h

/-- The route logs by one plugin, and its other plugins do not show in the log. -/
structure Logging (plan : Plan) (spec : RouteSpec) : Prop where
  once : spec.plugins.count "access-log" = 1
  logger : plan.extensions.plugins.get? "access-log" = some Plugin.logger
  others : ∀ name ∈ spec.plugins, name ≠ "access-log" →
    ∀ plugin, plan.extensions.plugins.get? name = some plugin → plugin.Discreet

/-- What is logged of a request, by the adapter of its route. -/
structure Logged (plan : Plan) (spec : RouteSpec) (request : Request) (log : List AccessEvent)
    (answer : Option Response) : Prop where
  /-- Where one backend is asked, the answer is logged once. -/
  one : ∀ adapter, adapterOf plan spec = .ok adapter → (∀ a, adapter = some a → a.Picks) →
    log = request.logged answer
  /-- Where one backend is asked after the other, each of them leaves an event. -/
  failover : ∀ limit, adapterOf plan spec = .ok (some (Adapter.failover limit)) →
    request.body.length ≤ limit →
    ∃ k < spec.backends.length, log = List.replicate k (request.event 503) ++ request.logged answer ∧
      ∀ response, answer = some response → response.status = 503 → k + 1 = spec.backends.length
  /-- Of a body that cannot be kept nothing is logged. -/
  tooLarge : ∀ limit, adapterOf plan spec = .ok (some (Adapter.failover limit)) →
    limit < request.body.length → log = [] ∧ answer = some Adapter.tooLarge

theorem pluginOf_eq_ok {plan : Plan} {route name : String} {plugin : Plugin Act} :
    pluginOf plan route name = .ok plugin ↔ plan.extensions.plugins.get? name = some plugin := by
  unfold pluginOf
  split
  next found h => rw [h, Except.ok.injEq, Option.some.injEq]
  next h => rw [h]; exact ⟨nofun, nofun⟩

/-- What all plugins and adapters keep of handlers, a route has, if the handlers of its backends have it. -/
theorem handlerOf_keeps {P : Handler Act → Prop} {plan : Plan} {spec : RouteSpec} {plugins : List (Plugin Act)}
    {adapter : Option (Adapter Act)} {backends : List Backend}
    (hplugins : spec.plugins.mapM (pluginOf plan spec.name) = .ok plugins)
    (hadapter : adapterOf plan spec = .ok adapter) (hnames : backends.map (·.name) = spec.backends)
    (hne : spec.backends ≠ [])
    (hwraps : ∀ name plugin, plan.extensions.plugins.get? name = some plugin → ∀ next, P next → P (plugin next))
    (hadapts : ∀ name a, plan.extensions.adapters.get? name = some a →
      ∀ handlers, handlers ≠ [] → (∀ entry ∈ handlers, P entry.2) → P (a handlers))
    (hbackends : ∀ backend ∈ backends, P (Forward.handler backend)) : P (handlerOf plugins adapter backends) := by
  have hnil : backends ≠ [] := by
    rintro rfl
    exact hne hnames.symm
  have hhandler : ∀ backend ∈ backends, P (Plugin.compose plugins (Forward.handler backend)) := by
    intro backend hmem
    refine Plugin.compose_keeps ?_ (hbackends backend hmem)
    intro plugin hplugin
    obtain ⟨name, -, hfound⟩ := exists_of_mem_right (mapM_eq_ok.mp hplugins) hplugin
    exact hwraps name plugin (pluginOf_eq_ok.mp hfound)
  cases adapter with
  | none =>
    obtain ⟨backend, rest, rfl⟩ := List.exists_cons_of_ne_nil hnil
    exact hhandler backend List.mem_cons_self
  | some adapter =>
    obtain ⟨name, hget⟩ := get?_of_adapterOf hadapter
    exact hadapts name adapter hget _ (mt List.map_eq_nil_iff.mp hnil) (List.forall_mem_map.mpr hhandler)

theorem handlers_logsOnce {plan : Plan} {spec : RouteSpec} (h : Logging plan spec)
    {plugins : List (Plugin Act)} (hplugins : spec.plugins.mapM (pluginOf plan spec.name) = .ok plugins)
    (backend : Backend) : LogsOnce (Plugin.compose plugins (Forward.handler backend)) := by
  have hfound := (mapM_eq_ok.mp hplugins).imp fun _ _ => pluginOf_eq_ok.mp
  exact (Plugin.compose_cases hfound h.logger h.others (Forward.handler_quiet backend)).2 h.once

theorem handlerOf_logged {plan : Plan} {spec : RouteSpec} (h : Logging plan spec)
    {plugins : List (Plugin Act)} {adapter : Option (Adapter Act)} {backends : List Backend}
    (hplugins : spec.plugins.mapM (pluginOf plan spec.name) = .ok plugins)
    (hadapter : adapterOf plan spec = .ok adapter) (hnames : backends.map (·.name) = spec.backends)
    (hne : spec.backends ≠ []) {request : Request} {log : List AccessEvent} {answer : Option Response}
    (hyields : (handlerOf plugins adapter backends request).Yields log answer) :
    Logged plan spec request log answer := by
  have hlength : spec.backends.length = backends.length := by rw [← hnames, List.length_map]
  have hbackends : backends ≠ [] := by
    rintro rfl
    exact hne hnames.symm
  have hhandlers := handlers_logsOnce h hplugins
  constructor
  case one =>
    intro found hfound hpicks
    cases hadapter.symm.trans hfound
    cases adapter with
    | none =>
      obtain ⟨backend, rest, rfl⟩ := List.exists_cons_of_ne_nil hbackends
      exact hhandlers backend request log answer hyields
    | some adapter =>
      obtain ⟨entry, hentry, heq⟩ := hpicks adapter rfl _ (mt List.map_eq_nil_iff.mp hbackends) request
      obtain ⟨backend, -, rfl⟩ := List.mem_map.mp hentry
      rw [handlerOf, heq] at hyields
      exact hhandlers backend request log answer hyields
  case failover =>
    intro limit hfound hbody
    cases hadapter.symm.trans hfound
    rw [handlerOf, Adapter.failover, if_neg (Nat.not_lt.mpr hbody), List.map_map] at hyields
    have hall : ∀ handler ∈ backends.map fun b => Plugin.compose plugins (Forward.handler b),
        LogsOnce handler := by
      intro handler hmem
      obtain ⟨backend, -, rfl⟩ := List.mem_map.mp hmem
      exact hhandlers backend
    have hlogs := Adapter.firstAvailable_logs hall (mt List.map_eq_nil_iff.mp hbackends) hyields
    rwa [List.length_map, ← hlength] at hlogs
  case tooLarge =>
    intro limit hfound hbody
    cases hadapter.symm.trans hfound
    rw [handlerOf, Adapter.failover, if_pos hbody] at hyields
    exact yields_done hyields

/--
How often a request is logged that a route with one logger answers. It is once if one backend is
asked, but with failover it is once for each backend that is asked.
-/
theorem run_logged {plan : Plan} {listener : String} {gateway : Gateway} {request : Request}
    {r : Route (Handler Act)} {spec : RouteSpec} (hbuild : build plan listener = .ok gateway)
    (hdecide : gateway.table.decide request = .route r) (hspec : plan.config.route r.name = .ok spec)
    (h : Logging plan spec) (deadline : Option Nat) (s : State) :
    ∃ log, ((gateway.table.dispatch request).run deadline s).2.events = s.events ++ log ∧
      Logged plan spec request log ((gateway.table.dispatch request).run deadline s).1 := by
  obtain ⟨plugins, adapter, backends, hplugins, hadapter, hnames, hne, htarget⟩ :=
    assembled_of_decide hbuild hdecide hspec
  have hdispatch : gateway.table.dispatch request = handlerOf plugins adapter backends request := by
    rw [RouteTable.dispatch, hdecide]
    dsimp only
    rw [htarget]
  obtain ⟨log, hyields, hevents⟩ := Act.run_yields deadline (gateway.table.dispatch request) s
  refine ⟨log, hevents, ?_⟩
  rw [hdispatch] at hyields ⊢
  exact handlerOf_logged h hplugins hadapter hnames hne hyields

/-- Two backends, one of them asked after the other, behind a trace and a log. -/
def failingOver : Plan where
  config := {
    servers := [
      { name := "s1", address := "127.1.0.1:18081" }, { name := "s2", address := "127.1.0.2:18082" }]
    backends := [{ name := "be1", servers := ["s1"] }, { name := "be2", servers := ["s2"] }]
    routes := [{
      name := "a", uri := "/", backends := ["be1", "be2"], plugins := ["trace", "access-log"]
      adapter := some "failover" }]
    listeners := [{ routes := ["a"] }] }
  extensions := {
    plugins := { kind := "plugin", items := ("trace", Plugin.tag "t") :: Extensions.builtinPlugins }
    adapters := { kind := "adapter", items := Extensions.builtinAdapters } }
  hostname := "gw"

/-- The gateway when nothing has happened yet and nobody is probed. -/
def unwatched (gateway : Gateway) (network : Network) : State where
  world := { balancers := gateway.balancers, network }
  monitor := { mode := .once }

theorem logging_failingOver {spec : RouteSpec} (h : failingOver.config.route "a" = .ok spec) :
    Logging failingOver spec := by
  have hplugins : spec.plugins = ["trace", "access-log"] := by
    cases h
    rfl
  refine ⟨by rw [hplugins]; decide, rfl, ?_⟩
  intro name hname hne plugin hplugin
  obtain rfl : name = "trace" := by simpa [hplugins, hne] using hname
  cases hplugin
  exact Plugin.tag_discreet "t"

/-- Only the server of the second backend can be reached. -/
def halfReachable : Network := { servers := [("127.1.0.2:18082", [.answer {}])] }

theorem run_logged_failingOver : ∃ gateway r spec log,
    build failingOver "default" = .ok gateway ∧ gateway.table.decide {} = .route r ∧
      failingOver.config.route r.name = .ok spec ∧ Logging failingOver spec ∧
      ((gateway.table.dispatch {}).run none (gateway.unwatched halfReachable)).2.events = log ∧
      Logged failingOver spec {} log
        ((gateway.table.dispatch {}).run none (gateway.unwatched halfReachable)).1 := by
  obtain ⟨log, hevents, hlogged⟩ :=
    @run_logged failingOver "default" _ {} _ _ rfl rfl rfl (logging_failingOver rfl) none
      (unwatched _ halfReachable)
  exact ⟨_, _, _, log, rfl, rfl, rfl, logging_failingOver rfl, hevents, hlogged⟩

/-- A request that no server takes leaves two events. -/
theorem dispatch_logs_twice :
    (build failingOver "default").toOption.map (fun gateway =>
      let (answer, after) := (gateway.table.dispatch {}).run none (gateway.unwatched {})
      (answer.map (·.status), after.events)) =
    some (some 503, [⟨"GET", "/", "-", 503⟩, ⟨"GET", "/", "-", 503⟩]) := by decide

/-- The first of two events may tell a status that the client does not see. -/
example :
    (build failingOver "default").toOption.map (fun gateway =>
      let (answer, after) := (gateway.table.dispatch {}).run none (gateway.unwatched halfReachable)
      (answer.map (·.status), after.events.map (·.status))) =
    some (some 200, [503, 200]) := by decide

end Gateway

end ReverseProxy
