import ReverseProxy.Proofs.Gateway.AccessLog
import ReverseProxy.Proofs.Gateway.Trail

/-! # The id of a request on its way -/

namespace ReverseProxy

/-! ## What an act keeps to -/

namespace Incident

def response? : Incident → Option Response
  | sent _ (.ok response) => some response
  | _ => none

end Incident

namespace Act

variable {α β : Type}

/--
Whatever the act is told from here on, all that it logs is `logs`, and so is an answer `post`. The
responses that servers sent so far come with it.
-/
def KeepsTo (logs : AccessEvent → Prop) (post : List Response → α → Prop) : Act α → List Response → Prop
  | done value, got => post got value
  | draw _ next, got => ∀ result, (next result).KeepsTo logs post got
  | send _ next, got => (∀ response, (next (.ok response)).KeepsTo logs post (got ++ [response])) ∧
      ∀ failure, (next (.error failure)).KeepsTo logs post got
  | wait _ next, got => next.KeepsTo logs post got
  | record event next, got => logs event ∧ next.KeepsTo logs post got

variable {logs : AccessEvent → Prop} {post : List Response → β → Prop}

theorem keepsTo_bind {act : Act α} {f : α → Act β} {got : List Response} :
    (act.bind f).KeepsTo logs post got ↔ act.KeepsTo logs (fun got value => (f value).KeepsTo logs post got) got := by
  induction act generalizing got with
  | done value => rfl
  | draw backend next ih => simp [Act.bind, KeepsTo, ih]
  | send request next ih => simp [Act.bind, KeepsTo, ih]
  | wait milliseconds next ih => simp [Act.bind, KeepsTo, ih]
  | record event next ih => simp [Act.bind, KeepsTo, ih]

theorem KeepsTo.mono {post weaker : List Response → α → Prop} {act : Act α} {got : List Response}
    (h : act.KeepsTo logs post got) (hpost : ∀ got value, post got value → weaker got value) :
    act.KeepsTo logs weaker got := by
  induction act generalizing got with
  | done value => exact hpost got value h
  | draw backend next ih => exact fun result => ih result (h result)
  | send request next ih => exact ⟨fun response => ih _ (h.1 response), fun failure => ih _ (h.2 failure)⟩
  | wait milliseconds next ih => exact ih h
  | record event next ih => exact ⟨h.1, ih h.2⟩

/-- A run logs what its act keeps to, and so it answers, given what servers sent on the way. -/
theorem KeepsTo.run {post : List Response → α → Prop} {act : Act α} {got : List Response}
    (h : act.KeepsTo logs post got) (deadline : Option Nat) (s : State) :
    (∃ log, (act.run deadline s).2.events = s.events ++ log ∧ ∀ event ∈ log, logs event) ∧
      ∀ value, (act.run deadline s).1 = some value →
        post (got ++ (act.trail deadline s).filterMap Incident.response?) value := by
  induction act generalizing got s with
  | done value =>
    refine ⟨⟨[], by simp [Act.run]⟩, ?_⟩
    rintro value ⟨⟩
    simpa [trail, KeepsTo] using h
  | draw backend next ih => exact ih (s.drawFrom backend).1 (h (s.drawFrom backend).1) (s.drawFrom backend).2
  | send request next ih =>
    have hsame : (s.send request).2.events = s.events := rfl
    simp only [Act.run, trail]
    cases hsend : s.send request with
    | mk outcome after =>
      rw [hsend] at hsame
      cases outcome with
      | response response =>
        have hnext := ih (.ok response) (h.1 response) after
        rwa [hsame, List.append_assoc] at hnext
      | failure failure =>
        have hnext := ih (.error failure) (h.2 failure) after
        rwa [hsame] at hnext
      | never =>
        refine ⟨⟨[], by simpa [State.expire_events] using hsame⟩, ?_⟩
        rintro value ⟨⟩
  | wait milliseconds next ih =>
    simp only [Act.run, trail]
    split
    · refine ⟨⟨[], by simp [State.expire_events]⟩, ?_⟩
      rintro value ⟨⟩
    · have hnext := ih h (s.resume (s.now + milliseconds))
      rwa [State.resume_events] at hnext
  | record event next ih =>
    obtain ⟨⟨log, hevents, hlogs⟩, hanswer⟩ := ih h.2 (s.record event)
    refine ⟨⟨event :: log, ?_, List.forall_mem_cons.mpr ⟨h.1, hlogs⟩⟩, hanswer⟩
    rw [Act.run, hevents, State.record, List.append_assoc]
    rfl

end Act

open Act

/-! ## Ids -/

namespace Response

def ids (response : Response) : List Bytes := response.headers.values .requestId

theorem ids_ofText (status : Nat) (text : String) : (ofText status text).ids = [] := rfl

/-- The response brings no id, or else those of the last response that a server sent. -/
def BringsOnly (got : List Response) (response : Response) : Prop :=
  response.ids = [] ∨ ∃ upstream ∈ got.getLast?, upstream.ids = response.ids

end Response

namespace Act

/-- The handler logs under the id of its request, and brings no id of its own. -/
def LeavesId (handler : Handler Act) : Prop :=
  ∀ request got, (handler request).KeepsTo (·.requestId = request.headers.requestId) Response.BringsOnly got

theorem leavesId_done {response : Response} (h : response.ids = []) : LeavesId fun _ => .done response :=
  fun _ _ => .inl h

end Act

theorem Forward.handler_leavesId (backend : Backend) : LeavesId (handler backend) := by
  rintro request got (e | address)
  · exact .inl (Response.ids_ofText _ _)
  · dsimp only
    split
    next => exact .inl (Response.ids_ofText _ _)
    next authority _ =>
      refine ⟨fun response => ?_, fun failure => .inl (Response.ids_ofText _ _)⟩
      exact .inr ⟨response, List.getLast?_concat, rfl⟩

namespace Plugin

/-- Around a handler that leaves ids alone, the plugin leaves them alone as well. -/
def LeavesId (plugin : Plugin Act) : Prop := ∀ next, Act.LeavesId next → Act.LeavesId (plugin next)

theorem logger_leavesId : logger.LeavesId := by
  intro next h request got
  refine keepsTo_bind.mpr ((h request got).mono fun got response hresponse => ?_)
  exact ⟨rfl, hresponse⟩

theorem tag_leavesId (name : String) : (tag (m := Act) name).LeavesId := by
  intro next h request got
  have hid : (inward [name] request).headers.requestId = request.headers.requestId := by
    rw [inward, requestId_marked]
  rw [tag_eq, bind_eq, keepsTo_bind, ← hid]
  refine (h (inward [name] request) got).mono fun got response hresponse => ?_
  have hids : (outward [name] response).ids = response.ids := by
    rw [Response.ids, outward, values_marked_other (by decide), Response.ids]
  simpa [KeepsTo, Response.BringsOnly, hids] using hresponse

theorem stall_leavesId (milliseconds : Nat) : (stall (Act.wait milliseconds (.done ()))).LeavesId :=
  fun _ h request got => h request got

theorem reply_leavesId {response : Response} (h : response.ids = []) : (reply (m := Act) response).LeavesId :=
  fun _ _ => leavesId_done h

end Plugin

namespace Adapter

/-- Over handlers that leave ids alone, the adapter leaves them alone as well. -/
def LeavesId (adapter : Adapter Act) : Prop :=
  ∀ handlers, handlers ≠ [] → (∀ entry ∈ handlers, Act.LeavesId entry.2) → Act.LeavesId (adapter handlers)

theorem Picks.leavesId {adapter : Adapter Act} (h : adapter.Picks) : adapter.LeavesId := by
  intro handlers hne hall request got
  obtain ⟨entry, hentry, heq⟩ := h handlers hne request
  exact heq ▸ hall entry hentry request got

theorem firstAvailable_leavesId {handlers : List (Handler Act)} (h : ∀ handler ∈ handlers, Act.LeavesId handler)
    (request : Request) {last : Response} {got : List Response} (hlast : last.BringsOnly got) :
    (firstAvailable request last handlers).KeepsTo (·.requestId = request.headers.requestId)
      Response.BringsOnly got := by
  induction handlers generalizing last got with
  | nil => exact hlast
  | cons handler rest ih =>
    obtain ⟨hhandler, hrest⟩ := List.forall_mem_cons.mp h
    rw [firstAvailable, bind_eq, keepsTo_bind]
    refine (hhandler request got).mono fun got response hresponse => ?_
    split
    next => exact ih hrest hresponse
    next => exact hresponse

theorem failover_leavesId (limit : Nat) : (failover limit).LeavesId := by
  intro handlers _ h request got
  unfold failover
  split
  next => exact .inl (Response.ids_ofText _ _)
  next => exact firstAvailable_leavesId (List.forall_mem_map.mpr h) request (.inl (Response.ids_ofText _ _))

end Adapter

/-! ## Gateways -/

/-- Whatever routes may name leaves ids alone. -/
structure Extensions.LeavesIds (extensions : Extensions) : Prop where
  plugins : ∀ name plugin, extensions.plugins.get? name = some plugin → plugin.LeavesId
  adapters : ∀ name adapter, extensions.adapters.get? name = some adapter → adapter.LeavesId

theorem Extensions.leavesIds_of_builtin {extensions : Extensions} (h : builtin = .ok extensions) :
    extensions.LeavesIds where
  plugins name plugin hplugin := builtin_plugin h hplugin ▸ Plugin.logger_leavesId
  adapters name adapter hadapter := by
    rcases builtin_adapter h hadapter with rfl | rfl
    · exact Adapter.headerSelect_picks.leavesId
    · exact Adapter.failover_leavesId _

namespace Gateway

variable {plan : Plan} {listener : String} {gateway : Gateway}

theorem dispatch_leavesId (hbuild : build plan listener = .ok gateway) (h : plan.extensions.LeavesIds) :
    Act.LeavesId gateway.table.dispatch := by
  intro request got
  unfold RouteTable.dispatch
  cases hdecide : gateway.table.decide request with
  | noMatch => exact .inl (Response.ids_ofText _ _)
  | guardError e => exact .inl (Response.ids_ofText _ _)
  | route r =>
    obtain ⟨spec, plugins, adapter, backends, -, hplugins, hadapter, hnames, hne, -, htarget⟩ :=
      exists_of_decide hbuild hdecide
    dsimp only
    rw [htarget]
    exact handlerOf_keeps (P := Act.LeavesId) hplugins hadapter hnames hne h.plugins h.adapters
      (fun backend _ => Forward.handler_leavesId backend) request got

/-! ## Serving -/

/-- The request with an id: its own, or else a fresh one. -/
def stamped (fresh : Bytes) (request : Request) : Request :=
  { request with headers := request.headers.setDefault .requestId fresh }

def idOf (fresh : Bytes) (request : Request) : Bytes := (request.headers.first? .requestId).getD fresh

/-- What the table makes of a request within a number of milliseconds. Without any it is not asked. -/
def attempt (gateway : Gateway) (limit : Nat) (request : Request) (s : State) : Option Response × State :=
  if limit = 0 then (none, s) else (gateway.table.dispatch request).run (some (s.now + limit)) s

def lastHeard? (gateway : Gateway) (limit : Nat) (request : Request) (s : State) : Option Response :=
  if limit = 0 then none
  else (((gateway.table.dispatch request).trail (some (s.now + limit)) s).filterMap Incident.response?).getLast?

theorem first?_stamped (fresh : Bytes) (request : Request) :
    (stamped fresh request).headers.first? .requestId = some (idOf fresh request) :=
  Headers.first?_setDefault _ _ _

theorem requestId_stamped (fresh : Bytes) (request : Request) :
    (stamped fresh request).headers.requestId = (idOf fresh request).visible?.getD "-" := by
  rw [Headers.requestId, Headers.text?, first?_stamped, Option.bind_some]

theorem ids_withLength (method : String) (response : Response) : (withLength method response).ids = response.ids := by
  unfold withLength
  split
  · rfl
  · exact Headers.values_setDefault_other (by decide) _ _

theorem first?_withRequestId {request : Request} {id : Bytes} (h : request.headers.first? .requestId = some id)
    (response : Response) :
    (withRequestId request response).headers.first? .requestId =
      some ((response.headers.first? .requestId).getD id) := by
  rw [withRequestId, h]
  exact Headers.first?_setDefault _ _ _

theorem serve_eq {request : Request} (hpath : request.uri.path.startsWith "/" = true) (timeouts : Timeouts)
    (fresh : Bytes) (s : State) :
    gateway.serve timeouts fresh request s =
      let (answer, after) := gateway.attempt (timeouts.request.toNat * 1000) (stamped fresh request) s
      (withRequestId (stamped fresh request) (withLength request.method (answer.getD timedOut)), after.settle) := by
  have hroute : gateway.route (stamped fresh request) = gateway.table.dispatch (stamped fresh request) := if_pos hpath
  unfold serve within attempt
  split
  · rfl
  · rw [← hroute]
    rfl

/-- How the id of a request comes through while it is served. -/
structure Continued (plan : Plan) (gateway : Gateway) (timeouts : Timeouts) (fresh : Bytes) (request : Request)
    (s : State) : Prop where
  /-- An id that the request has is left as it is. -/
  own : request.headers.has .requestId = true → stamped fresh request = request
  added : request.headers.has .requestId = false →
    stamped fresh request = { request with headers := request.headers ++ [(.requestId, fresh)] }
  carried : (stamped fresh request).headers.first? .requestId = some (idOf fresh request)
  /-- It is the request with the id that the table is asked with. -/
  asked : gateway.serve timeouts fresh request s =
    let (answer, after) := gateway.attempt (timeouts.request.toNat * 1000) (stamped fresh request) s
    (withRequestId (stamped fresh request) (withLength request.method (answer.getD timedOut)), after.settle)
  logged : plan.extensions.LeavesIds →
    ∃ log, (gateway.serve timeouts fresh request s).2.events = s.events ++ log ∧
      ∀ event ∈ log, event.requestId = (idOf fresh request).visible?.getD "-"
  /-- The answer has an id in any case. It is the one of the request, unless it brings one of its own. -/
  answered : (gateway.serve timeouts fresh request s).1.headers.first? .requestId =
    some (((gateway.attempt (timeouts.request.toNat * 1000) (stamped fresh request) s).1.bind
      fun answer => answer.headers.first? .requestId).getD (idOf fresh request))
  /-- An id of its own is one that the server gave it. -/
  brought : plan.extensions.LeavesIds → ∀ answer id,
    (gateway.attempt (timeouts.request.toNat * 1000) (stamped fresh request) s).1 = some answer →
    answer.headers.first? .requestId = some id →
    ∃ upstream ∈ gateway.lastHeard? (timeouts.request.toNat * 1000) (stamped fresh request) s,
      upstream.headers.first? .requestId = some id

theorem attempt_keeps (h : Act.LeavesId gateway.table.dispatch) (limit : Nat) (request : Request) (s : State) :
    (∃ log, (gateway.attempt limit request s).2.events = s.events ++ log ∧
        ∀ event ∈ log, event.requestId = request.headers.requestId) ∧
      ∀ answer, (gateway.attempt limit request s).1 = some answer → answer.ids = [] ∨
        ∃ upstream ∈ gateway.lastHeard? limit request s, upstream.ids = answer.ids := by
  unfold attempt lastHeard?
  split
  · exact ⟨⟨[], (List.append_nil _).symm, nofun⟩, nofun⟩
  · exact (h request []).run (some (s.now + limit)) s

theorem continued (hbuild : build plan listener = .ok gateway) {request : Request}
    (hpath : request.uri.path.startsWith "/" = true) (timeouts : Timeouts) (fresh : Bytes) (s : State) :
    Continued plan gateway timeouts fresh request s := by
  have hkeeps := fun h =>
    attempt_keeps (dispatch_leavesId hbuild h) (timeouts.request.toNat * 1000) (stamped fresh request) s
  constructor
  case own =>
    intro hhas
    rw [stamped, Headers.setDefault, if_pos hhas]
  case added =>
    intro hhas
    rw [stamped, Headers.setDefault, if_neg (by simp [hhas])]
  case carried => exact first?_stamped fresh request
  case asked => exact serve_eq hpath timeouts fresh s
  case logged =>
    intro h
    obtain ⟨⟨log, hevents, hlog⟩, -⟩ := hkeeps h
    refine ⟨log, ?_, fun event hevent => (hlog event hevent).trans (requestId_stamped fresh request)⟩
    rw [serve_eq hpath, ← hevents]
    rfl
  case answered =>
    have hids : ∀ response : Response, response.headers.first? .requestId = response.ids.head? := fun _ => rfl
    rw [serve_eq hpath, first?_withRequestId (first?_stamped fresh request), hids, ids_withLength]
    cases (gateway.attempt (timeouts.request.toNat * 1000) (stamped fresh request) s).1 <;> rfl
  case brought =>
    intro h answer id hanswer hid
    rcases (hkeeps h).2 answer hanswer with hnone | ⟨upstream, hupstream, hids⟩
    · rw [Headers.first?, show answer.headers.values .requestId = [] from hnone] at hid
      cases hid
    · exact ⟨upstream, hupstream, (congrArg List.head? hids).trans hid⟩

/-- Every request comes through a gateway with its id, and is logged under it if plugins and adapters leave ids alone. -/
theorem build_continued :
    (∀ extensions, Extensions.builtin = .ok extensions → extensions.LeavesIds) ∧
      ∀ plan listener gateway, build plan listener = .ok gateway → ∀ timeouts fresh request s,
        request.uri.path.startsWith "/" = true → Continued plan gateway timeouts fresh request s :=
  ⟨fun _ h => Extensions.leavesIds_of_builtin h, fun _ _ _ hbuild timeouts fresh _ s hpath =>
    continued hbuild hpath timeouts fresh s⟩

theorem leavesIds_failingOver : failingOver.extensions.LeavesIds where
  plugins name plugin hplugin := by
    rcases List.mem_cons.mp (Registry.mem_of_get? hplugin) with htrace | hlogger
    · obtain ⟨-, rfl⟩ := Prod.mk.inj htrace
      exact Plugin.tag_leavesId "t"
    · obtain ⟨-, rfl⟩ := Prod.mk.inj (List.mem_singleton.mp hlogger)
      exact Plugin.logger_leavesId
  adapters name a ha := by
    rcases List.mem_cons.mp (Registry.mem_of_get? ha) with hfailover | hselect
    · obtain ⟨-, rfl⟩ := Prod.mk.inj hfailover
      exact Adapter.failover_leavesId _
    · obtain ⟨-, rfl⟩ := Prod.mk.inj (List.mem_singleton.mp hselect)
      exact Adapter.headerSelect_picks.leavesId

/-- The server of the second backend answers with an id of its own. -/
def naming : Network where
  servers := [("127.1.0.2:18082", [.answer { headers := [(.requestId, Bytes.ofText "up")] }])]

theorem build_continued_naming : ∃ gateway,
    build failingOver "default" = .ok gateway ∧ failingOver.extensions.LeavesIds ∧
      ({} : Request).uri.path.startsWith "/" = true ∧
      (∃ log, (gateway.serve {} [0x37] {} (gateway.unwatched naming)).2.events = [] ++ log ∧
        ∀ event ∈ log, event.requestId = "7") ∧
      (gateway.serve {} [0x37] {} (gateway.unwatched naming)).1.headers.first? .requestId =
        some (Bytes.ofText "up") := by
  have hpath : ({} : Request).uri.path.startsWith "/" = true := String.startsWith_string_iff.mpr (by decide)
  refine ⟨_, rfl, leavesIds_failingOver, hpath, ?logged, ?answered⟩
  case logged =>
    exact (build_continued.2 failingOver "default" _ rfl {} [0x37] {} _ hpath).logged leavesIds_failingOver
  case answered =>
    exact (build_continued.2 failingOver "default" _ rfl {} [0x37] {} _ hpath).answered

end Gateway

end ReverseProxy
