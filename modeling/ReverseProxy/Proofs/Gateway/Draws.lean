import ReverseProxy.Proofs.Gateway.AccessLog

/-! # Which backends a route draws from -/

namespace ReverseProxy

namespace Act

variable {α β : Type} {named other : Backend → Prop}

/-- Whatever the act is told, it draws from no other backends. -/
def DrawsFrom (named : Backend → Prop) : Act α → Prop
  | done _ => True
  | draw backend next => named backend ∧ ∀ result, (next result).DrawsFrom named
  | send _ next => ∀ result, (next result).DrawsFrom named
  | wait _ next => next.DrawsFrom named
  | record _ next => next.DrawsFrom named

theorem DrawsFrom.mono {act : Act α} (h : act.DrawsFrom named) (hsub : ∀ backend, named backend → other backend) :
    act.DrawsFrom other := by
  induction act with
  | done value => trivial
  | draw backend next ih => exact ⟨hsub backend h.1, fun result => ih result (h.2 result)⟩
  | send request next ih => exact fun result => ih result (h result)
  | wait milliseconds next ih => exact ih h
  | record event next ih => exact ih h

theorem DrawsFrom.bind {act : Act α} {f : α → Act β} (h : act.DrawsFrom named)
    (hf : ∀ value, (f value).DrawsFrom named) : (act.bind f).DrawsFrom named := by
  induction act with
  | done value => exact hf value
  | draw backend next ih => exact ⟨h.1, fun result => ih result (h.2 result)⟩
  | send request next ih => exact fun result => ih result (h result)
  | wait milliseconds next ih => exact ih h
  | record event next ih => exact ih h

def StaysWithin (named : Backend → Prop) (handler : Handler Act) : Prop :=
  ∀ request, (handler request).DrawsFrom named

/-- The act draws from this backend first, and from none after that. -/
def DrawsOnce (backend : Backend) (act : Act α) : Prop :=
  ∃ next, act = .draw backend next ∧ ∀ result, (next result).DrawsFrom fun _ => False

theorem DrawsOnce.drawsFrom {backend : Backend} {act : Act α} (h : act.DrawsOnce backend) (hnamed : named backend) :
    act.DrawsFrom named := by
  obtain ⟨next, rfl, hnext⟩ := h
  exact ⟨hnamed, fun result => (hnext result).mono fun _ hfalse => hfalse.elim⟩

end Act

open Act

theorem Forward.handler_drawsOnce (backend : Backend) (request : Request) :
    (handler backend request).DrawsOnce backend := by
  refine ⟨_, rfl, ?_⟩
  rintro (e | address)
  · trivial
  · dsimp only
    split
    next => trivial
    next => rintro (failure | response) <;> trivial

/-! ## Plugins and adapters -/

/-- Around a handler, the plugin draws from no backends but those of the handler. -/
def Plugin.DrawsNothing (plugin : Plugin Act) : Prop :=
  ∀ named next, StaysWithin named next → StaysWithin named (plugin next)

theorem Plugin.logger_drawsNothing : logger.DrawsNothing :=
  fun _ _ h request => (h request).bind fun _ => trivial

namespace Adapter

/-- Over some handlers, the adapter draws from no backends but theirs. -/
def DrawsNothing (adapter : Adapter Act) : Prop :=
  ∀ named handlers, handlers ≠ [] → (∀ entry ∈ handlers, StaysWithin named entry.2) →
    StaysWithin named (adapter handlers)

theorem Picks.drawsNothing {adapter : Adapter Act} (h : adapter.Picks) : adapter.DrawsNothing := by
  intro named handlers hne hall request
  obtain ⟨entry, hentry, heq⟩ := h handlers hne request
  exact heq ▸ hall entry hentry request

theorem firstAvailable_drawsFrom {named : Backend → Prop} {handlers : List (Handler Act)} {request : Request}
    (h : ∀ handler ∈ handlers, StaysWithin named handler) (last : Response) :
    (firstAvailable request last handlers).DrawsFrom named := by
  induction handlers generalizing last with
  | nil => trivial
  | cons handler rest ih =>
    obtain ⟨hhandler, hrest⟩ := List.forall_mem_cons.mp h
    refine (hhandler request).bind fun response => ?_
    split
    next => exact ih hrest response
    next => trivial

theorem failover_drawsNothing (limit : Nat) : (failover limit).DrawsNothing := by
  intro named handlers _ h request
  unfold failover
  split
  next => trivial
  next => exact firstAvailable_drawsFrom (List.forall_mem_map.mpr h) _

end Adapter

/-- Whatever routes may name draws on its own from nobody. -/
structure Extensions.DrawNothing (extensions : Extensions) : Prop where
  plugins : ∀ name plugin, extensions.plugins.get? name = some plugin → plugin.DrawsNothing
  adapters : ∀ name adapter, extensions.adapters.get? name = some adapter → adapter.DrawsNothing

theorem Extensions.drawNothing_of_builtin {extensions : Extensions} (h : builtin = .ok extensions) :
    extensions.DrawNothing where
  plugins name plugin hplugin := builtin_plugin h hplugin ▸ Plugin.logger_drawsNothing
  adapters name adapter hadapter := by
    rcases builtin_adapter h hadapter with rfl | rfl
    · exact Adapter.headerSelect_picks.drawsNothing
    · exact Adapter.failover_drawsNothing _

/-! ## Routes -/

namespace Gateway

theorem Assembled.staysWithin {plan : Plan} {fleet : Fleet} {name : String} {route : Route (Handler Act)}
    {spec : RouteSpec} (h : Assembled plan fleet name route) (hspec : plan.config.route name = .ok spec)
    (hne : spec.backends ≠ []) (hextensions : plan.extensions.DrawNothing) :
    StaysWithin (fun backend => backend.name ∈ spec.backends ∧ fleet.Knows backend) route.target := by
  obtain ⟨found, plugins, adapter, backends, hfound, hplugins, hadapter, hnames, hknows, rfl⟩ := h
  cases hfound.symm.trans hspec
  refine handlerOf_keeps hplugins hadapter hnames hne (fun name plugin h => hextensions.plugins name plugin h _)
    (fun name a h => hextensions.adapters name a h _) ?_
  intro backend hmem request
  refine (Forward.handler_drawsOnce backend request).drawsFrom ⟨?_, hknows backend hmem⟩
  exact hnames ▸ List.mem_map_of_mem hmem

end Gateway

end ReverseProxy
