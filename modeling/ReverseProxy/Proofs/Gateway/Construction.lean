import Mathlib.Data.List.Nodup
import ReverseProxy.Gateway.Server
import ReverseProxy.Proofs.Config.Soundness
import ReverseProxy.Proofs.Routing.Dispatch

/-! # What a gateway is built from -/

open scoped List

namespace ReverseProxy

/-! ## Slots -/

namespace Fleet

theorem backend?_append {fleet : Fleet} {name : String} {backend : Backend}
    (h : fleet.backend? name = some backend) (rest : Fleet) :
    Fleet.backend? (fleet ++ rest) name = some backend := by
  rw [backend?, Option.map_eq_some_iff] at h ⊢
  obtain ⟨slot, hfind, rfl⟩ := h
  refine ⟨slot, ?_, rfl⟩
  rw [List.findIdx?_append, hfind, Option.some_or]

theorem backend?_new {fleet : Fleet} {name : String} (h : fleet.backend? name = none)
    (balancer : Balancer) :
    Fleet.backend? (fleet ++ [(name, balancer)]) name = some { name, slot := fleet.length } := by
  rw [backend?, Option.map_eq_none_iff] at h
  rw [backend?, List.findIdx?_append, h]
  simp

theorem backend?_isSome {fleet : Fleet} {name : String} :
    (fleet.backend? name).isSome ↔ name ∈ fleet.map (·.1) := by
  rw [backend?, Option.isSome_map, List.findIdx?_isSome, List.any_eq_true, List.mem_map]
  simp only [decide_eq_true_eq]

theorem backend?_name {fleet : Fleet} {name : String} {backend : Backend}
    (h : fleet.backend? name = some backend) : backend.name = name := by
  obtain ⟨slot, -, rfl⟩ := Option.map_eq_some_iff.mp h
  rfl

theorem exists_of_backend? {fleet : Fleet} {name : String} {backend : Backend}
    (h : fleet.backend? name = some backend) :
    ∃ balancer, fleet[backend.slot]? = some (name, balancer) := by
  obtain ⟨slot, hfind, rfl⟩ := Option.map_eq_some_iff.mp h
  obtain ⟨hlt, hname, -⟩ := List.findIdx?_eq_some_iff_getElem.mp hfind
  refine ⟨fleet[slot].2, ?_⟩
  rw [List.getElem?_eq_getElem hlt, Option.some.injEq]
  exact Prod.ext (of_decide_eq_true hname) rfl

theorem slot_ne {fleet : Fleet} {name other : String} {a b : Backend} (ha : fleet.backend? name = some a)
    (hb : fleet.backend? other = some b) (hne : name ≠ other) : a.slot ≠ b.slot := by
  obtain ⟨x, hx⟩ := exists_of_backend? ha
  obtain ⟨y, hy⟩ := exists_of_backend? hb
  intro hslot
  rw [hslot, hy, Option.some.injEq, Prod.mk.injEq] at hx
  exact hne hx.1.symm

/-- The backend is the one that its name stands for. -/
def Knows (fleet : Fleet) (backend : Backend) : Prop := fleet.backend? backend.name = some backend

theorem Knows.of_backend? {fleet : Fleet} {name : String} {backend : Backend}
    (h : fleet.backend? name = some backend) : fleet.Knows backend := by
  unfold Knows
  rwa [backend?_name h]

theorem Knows.eq_of_slot {fleet : Fleet} {a b : Backend} (ha : fleet.Knows a) (hb : fleet.Knows b)
    (h : a.slot = b.slot) : a = b := by
  by_contra hne
  have hname : a.name ≠ b.name := by
    intro hname
    cases a
    cases b
    simp_all
  exact slot_ne ha hb hname h

end Fleet

/-! ## Building -/

namespace Gateway

/-- Backends are built once each, and as they are configured. -/
structure Built (plan : Plan) (fleet : Fleet) : Prop where
  once : (fleet.map (·.1)).Nodup
  own : ∀ name balancer, (name, balancer) ∈ fleet →
    ∃ spec, plan.config.backend name = .ok spec ∧ balancerOf plan spec = .ok balancer

theorem built_nil (plan : Plan) : Built plan [] := by
  constructor
  · exact List.nodup_nil
  · intro name balancer h
    cases h

theorem backendFor_spec {plan : Plan} {built more : Fleet} {name : String} {backend : Backend}
    (hbuilt : Built plan built) (h : backendFor plan built name = .ok (backend, more)) :
    Built plan more ∧ built <+: more ∧ more.backend? name = some backend := by
  unfold backendFor at h
  split at h
  next found hfound =>
    cases h
    exact ⟨hbuilt, List.prefix_rfl, hfound⟩
  next hnone =>
    obtain ⟨spec, hspec, h⟩ := bind_eq_ok.mp h
    obtain ⟨balancer, hbalancer, h⟩ := bind_eq_ok.mp h
    cases h
    rw [mapError_ok] at hspec hbalancer
    refine ⟨⟨?_, ?_⟩, List.prefix_append _ _, Fleet.backend?_new hnone balancer⟩
    · have hnew : name ∉ built.map (·.1) := by
        rw [← Fleet.backend?_isSome, hnone]
        simp
      rw [List.map_append, List.nodup_append']
      refine ⟨hbuilt.once, List.nodup_singleton _, ?_⟩
      rwa [List.map_singleton, List.disjoint_singleton]
    · intro name' balancer' hmem
      rcases List.mem_append.mp hmem with hold | hnew
      · exact hbuilt.own name' balancer' hold
      · cases List.mem_singleton.mp hnew
        exact ⟨spec, hspec, hbalancer⟩

theorem backendsFor_spec {plan : Plan} {names : List String} {built more : Fleet}
    {backends : List Backend} (hbuilt : Built plan built)
    (h : backendsFor plan built names = .ok (backends, more)) :
    Built plan more ∧ built <+: more ∧ backends.map (·.name) = names ∧
      ∀ b ∈ backends, more.backend? b.name = some b := by
  induction names generalizing built backends with
  | nil =>
    cases h
    exact ⟨hbuilt, List.prefix_rfl, rfl, by simp⟩
  | cons name names ih =>
    unfold backendsFor at h
    obtain ⟨⟨backend, next⟩, hfirst, h⟩ := bind_eq_ok.mp h
    obtain ⟨⟨others, last⟩, hrest, h⟩ := bind_eq_ok.mp h
    cases h
    obtain ⟨hnext, hext, hfound⟩ := backendFor_spec hbuilt hfirst
    obtain ⟨hmore, hext', hnames, hothers⟩ := ih hnext hrest
    have hname := Fleet.backend?_name hfound
    refine ⟨hmore, hext.trans hext', by rw [List.map_cons, hname, hnames], ?_⟩
    intro b hb
    rcases List.mem_cons.mp hb with rfl | hb
    -- What was found first stays found while the others are built.
    · obtain ⟨rest, rfl⟩ := hext'
      rw [hname]
      exact Fleet.backend?_append hfound rest
    · exact hothers b hb

/-- A route hands on to the backends that its specification names, in that order. -/
def Assembled (plan : Plan) (fleet : Fleet) (name : String) (route : Route (Handler Act)) : Prop :=
  ∃ spec plugins adapter backends, plan.config.route name = .ok spec ∧
    spec.plugins.mapM (pluginOf plan spec.name) = .ok plugins ∧ adapterOf plan spec = .ok adapter ∧
    backends.map (·.name) = spec.backends ∧ (∀ b ∈ backends, fleet.backend? b.name = some b) ∧
    route = {
      name := spec.name, uri := spec.uri, guard := .parse spec.guard
      target := handlerOf plugins adapter backends }

theorem Assembled.exists_spec {plan : Plan} {fleet : Fleet} {name : String} {route : Route (Handler Act)}
    (h : Assembled plan fleet name route) : ∃ spec, plan.config.route name = .ok spec ∧ route.name = name := by
  obtain ⟨spec, _, _, _, hspec, _, _, _, _, rfl⟩ := h
  exact ⟨spec, hspec, (Config.mem_of_find hspec).2⟩

theorem Assembled.extend {plan : Plan} {fleet more : Fleet} {name : String} {route : Route (Handler Act)}
    (h : Assembled plan fleet name route) (hext : fleet <+: more) : Assembled plan more name route := by
  obtain ⟨spec, plugins, adapter, backends, hspec, hplugins, hadapter, hnames, hfound, hroute⟩ := h
  obtain ⟨rest, rfl⟩ := hext
  exact ⟨spec, plugins, adapter, backends, hspec, hplugins, hadapter, hnames,
    fun b hb => Fleet.backend?_append (hfound b hb) rest, hroute⟩

theorem buildRoute_spec {plan : Plan} {built more : Fleet} {name : String} {route : Route (Handler Act)}
    (hbuilt : Built plan built) (h : buildRoute plan built name = .ok (route, more)) :
    Built plan more ∧ built <+: more ∧ Assembled plan more name route := by
  unfold buildRoute at h
  obtain ⟨spec, hspec, h⟩ := bind_eq_ok.mp h
  rw [mapError_ok] at hspec
  split at h
  · cases h
  · obtain ⟨plugins, hplugins, h⟩ := bind_eq_ok.mp h
    obtain ⟨adapter, hadapter, h⟩ := bind_eq_ok.mp h
    obtain ⟨⟨backends, next⟩, hbackends, h⟩ := bind_eq_ok.mp h
    cases h
    obtain ⟨hmore, hext, hnames, hfound⟩ := backendsFor_spec hbuilt hbackends
    exact ⟨hmore, hext, spec, plugins, adapter, backends, hspec, hplugins, hadapter, hnames, hfound, rfl⟩

theorem buildRoutes_spec {plan : Plan} {names : List String} {built more : Fleet}
    {routes : List (Route (Handler Act))} (hbuilt : Built plan built)
    (h : buildRoutes plan built names = .ok (routes, more)) :
    Built plan more ∧ built <+: more ∧ List.Forall₂ (Assembled plan more) names routes := by
  induction names generalizing built routes with
  | nil =>
    cases h
    exact ⟨hbuilt, List.prefix_rfl, List.Forall₂.nil⟩
  | cons name names ih =>
    unfold buildRoutes at h
    obtain ⟨⟨route, next⟩, hfirst, h⟩ := bind_eq_ok.mp h
    obtain ⟨⟨others, last⟩, hrest, h⟩ := bind_eq_ok.mp h
    cases h
    obtain ⟨hnext, hext, hroute⟩ := buildRoute_spec hbuilt hfirst
    obtain ⟨hmore, hext', hothers⟩ := ih hnext hrest
    exact ⟨hmore, hext.trans hext', List.Forall₂.cons (hroute.extend hext') hothers⟩

theorem build_spec {plan : Plan} {name : String} {gateway : Gateway} (h : build plan name = .ok gateway) :
    Built plan gateway.balancers ∧ ∀ group ∈ gateway.table.groups, ∀ route ∈ group.routes,
      ∃ name ∈ gateway.listener.routes, Assembled plan gateway.balancers name route := by
  unfold build at h
  obtain ⟨listener, -, h⟩ := bind_eq_ok.mp h
  obtain ⟨⟨routes, balancers⟩, hroutes, h⟩ := bind_eq_ok.mp h
  obtain ⟨table, htable, h⟩ := bind_eq_ok.mp h
  cases h
  rw [mapError_ok] at htable
  obtain ⟨hbuilt, -, hassembled⟩ := buildRoutes_spec (built_nil plan) hroutes
  refine ⟨hbuilt, ?_⟩
  intro group hgroup route hroute
  obtain ⟨i, hi, rfl⟩ := List.mem_iff_getElem.mp (RouteTable.mem_of_build htable hgroup hroute)
  obtain ⟨hlen, hget⟩ := List.forall₂_iff_get.mp hassembled
  have hi' : i < listener.routes.length := by omega
  exact ⟨listener.routes[i], List.getElem_mem hi', hget i hi' hi⟩

theorem buildRoutes_backends {plan : Plan} {names : List String} {built more : Fleet}
    {routes : List (Route (Handler Act))} (h : buildRoutes plan built names = .ok (routes, more)) :
    ∀ name ∈ names, ∀ spec, plan.config.route name = .ok spec → spec.backends ≠ [] := by
  induction names generalizing built more routes with
  | nil =>
    intro name hname
    cases hname
  | cons first names ih =>
    unfold buildRoutes at h
    obtain ⟨⟨route, next⟩, hfirst, h⟩ := bind_eq_ok.mp h
    obtain ⟨⟨others, last⟩, hrest, h⟩ := bind_eq_ok.mp h
    intro name hname spec hspec
    rcases List.mem_cons.mp hname with rfl | hname
    · unfold buildRoute at hfirst
      obtain ⟨found, hfound, hfirst⟩ := bind_eq_ok.mp hfirst
      rw [mapError_ok, hspec] at hfound
      cases hfound
      intro hnil
      rw [hnil] at hfirst
      cases hfirst
    · exact ih hrest name hname spec hspec

theorem backends_ne_nil {plan : Plan} {listener name : String} {gateway : Gateway} {spec : RouteSpec}
    (h : build plan listener = .ok gateway) (hname : name ∈ gateway.listener.routes)
    (hspec : plan.config.route name = .ok spec) : spec.backends ≠ [] := by
  unfold build at h
  obtain ⟨found, -, h⟩ := bind_eq_ok.mp h
  obtain ⟨⟨routes, balancers⟩, hroutes, h⟩ := bind_eq_ok.mp h
  obtain ⟨table, -, h⟩ := bind_eq_ok.mp h
  cases h
  exact buildRoutes_backends hroutes name hname spec hspec

theorem exists_of_decide {plan : Plan} {listener : String} {gateway : Gateway} {request : Request}
    {r : Route (Handler Act)} (hbuild : build plan listener = .ok gateway)
    (hdecide : gateway.table.decide request = .route r) :
    ∃ spec plugins adapter backends, plan.config.route r.name = .ok spec ∧
      spec.plugins.mapM (pluginOf plan spec.name) = .ok plugins ∧ adapterOf plan spec = .ok adapter ∧
      backends.map (·.name) = spec.backends ∧ spec.backends ≠ [] ∧
      (∀ b ∈ backends, gateway.balancers.Knows b) ∧ r.target = handlerOf plugins adapter backends := by
  obtain ⟨-, hassembled⟩ := build_spec hbuild
  obtain ⟨group, hgroup, hr⟩ := RouteTable.mem_of_decide hdecide
  obtain ⟨name, hname, spec, plugins, adapter, backends, hspec, hplugins, hadapter, hnames, hknows, rfl⟩ :=
    hassembled group hgroup r hr
  refine ⟨spec, plugins, adapter, backends, ?_, hplugins, hadapter, hnames, backends_ne_nil hbuild hname hspec,
    hknows, rfl⟩
  rw [(Config.mem_of_find hspec).2]
  exact hspec

theorem assembled_of_decide {plan : Plan} {listener : String} {gateway : Gateway} {request : Request}
    {r : Route (Handler Act)} {spec : RouteSpec} (hbuild : build plan listener = .ok gateway)
    (hdecide : gateway.table.decide request = .route r) (hspec : plan.config.route r.name = .ok spec) :
    ∃ plugins adapter backends, spec.plugins.mapM (pluginOf plan spec.name) = .ok plugins ∧
      adapterOf plan spec = .ok adapter ∧ backends.map (·.name) = spec.backends ∧ spec.backends ≠ [] ∧
      r.target = handlerOf plugins adapter backends := by
  obtain ⟨found, plugins, adapter, backends, hfound, hplugins, hadapter, hnames, hne, -, htarget⟩ :=
    exists_of_decide hbuild hdecide
  cases hfound.symm.trans hspec
  exact ⟨plugins, adapter, backends, hplugins, hadapter, hnames, hne, htarget⟩

end Gateway

end ReverseProxy
