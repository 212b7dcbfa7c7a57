import ReverseProxy.Proofs.Gateway.Draws
import ReverseProxy.Proofs.Gateway.Schedule

/-! # A gateway is the product of its balancers -/

namespace ReverseProxy.Gateway

/-- What is done to backends when these events happen to a new gateway. -/
def deeds (gateway : Gateway) (events : List Event) : List Deed :=
  (Traffic.run gateway events (Traffic.start gateway)).1

/-- Among all traffic a backend is as a balancer that stands alone. -/
structure Alone (gateway : Gateway) (backend : Backend) (balancer : Balancer) : Prop where
  told : ∀ events, Traffic.told backend (gateway.deeds events) =
    (balancer.run (Traffic.asked backend (gateway.deeds events))).1
  left : ∀ events, (Traffic.run gateway events (Traffic.start gateway)).2.fleet.balancer? backend =
    some (balancer.run (Traffic.asked backend (gateway.deeds events))).2
  /-- What concerns others makes no difference. -/
  independent : ∀ events more,
    Traffic.asked backend (gateway.deeds events) = Traffic.asked backend (gateway.deeds more) →
    Traffic.told backend (gateway.deeds events) = Traffic.told backend (gateway.deeds more)

structure IsProduct (plan : Plan) (gateway : Gateway) : Prop where
  /-- No backend is built twice. -/
  once : (gateway.balancers.map (·.1)).Nodup
  /-- All routes that name a backend are handed the same one. -/
  handed : ∀ group ∈ gateway.table.groups, ∀ route ∈ group.routes,
    ∃ name ∈ gateway.listener.routes, Assembled plan gateway.balancers name route
  /-- The handler of a backend draws once, and from that backend. -/
  own : ∀ backend request, (Forward.handler backend request).DrawsOnce backend
  /-- So a route draws only from the backends that it names, unless its plugins or its adapter draw as well. -/
  named : plan.extensions.DrawNothing → ∀ group ∈ gateway.table.groups, ∀ route ∈ group.routes,
    ∃ spec, plan.config.route route.name = .ok spec ∧
      Act.StaysWithin (fun backend => backend.name ∈ spec.backends ∧ gateway.balancers.Knows backend) route.target
  builtin : Extensions.builtin = .ok plan.extensions → plan.extensions.DrawNothing
  apart : ∀ name other backend foreign, gateway.balancers.backend? name = some backend →
    gateway.balancers.backend? other = some foreign → backend.slot = foreign.slot → name = other
  alone : ∀ name ∈ gateway.balancers.map (·.1), ∃ backend spec balancer,
    gateway.balancers.backend? name = some backend ∧ plan.config.backend name = .ok spec ∧
      balancerOf plan spec = .ok balancer ∧ Alone gateway backend balancer
  /-- Requests that are served one after the other are such traffic, too. -/
  reached : ∀ s, gateway.Reaches s → gateway.Left s

theorem alone_of_balancer? {gateway : Gateway} {backend : Backend} {balancer : Balancer}
    (h : gateway.balancers.balancer? backend = some balancer) : Alone gateway backend balancer := by
  have hrun : ∀ events, _ := fun events =>
    @Traffic.run_alone gateway events (Traffic.start gateway) backend balancer h
  refine ⟨fun events => (hrun events).1, fun events => (hrun events).2, ?_⟩
  intro events more hasked
  calc Traffic.told backend (gateway.deeds events)
      = (balancer.run (Traffic.asked backend (gateway.deeds events))).1 := (hrun events).1
    _ = (balancer.run (Traffic.asked backend (gateway.deeds more))).1 := by rw [hasked]
    _ = Traffic.told backend (gateway.deeds more) := (hrun more).1.symm

theorem build_isProduct {plan : Plan} {listener : String} {gateway : Gateway}
    (h : build plan listener = .ok gateway) : IsProduct plan gateway := by
  obtain ⟨hbuilt, hassembled⟩ := build_spec h
  constructor
  case once => exact hbuilt.once
  case handed => exact hassembled
  case own => exact Forward.handler_drawsOnce
  case named =>
    intro hextensions group hgroup route hroute
    obtain ⟨name, hname, hroute⟩ := hassembled group hgroup route hroute
    obtain ⟨spec, hspec, hroutename⟩ := hroute.exists_spec
    refine ⟨spec, hroutename ▸ hspec, ?_⟩
    exact hroute.staysWithin hspec (backends_ne_nil h hname hspec) hextensions
  case builtin => exact Extensions.drawNothing_of_builtin
  case apart =>
    intro name other backend foreign hname hother hslot
    by_contra hne
    exact Fleet.slot_ne hname hother hne hslot
  case alone =>
    intro name hmem
    obtain ⟨backend, hbackend⟩ := Option.isSome_iff_exists.mp (Fleet.backend?_isSome.mpr hmem)
    obtain ⟨balancer, hget⟩ := Fleet.exists_of_backend? hbackend
    obtain ⟨spec, hspec, hbalancer⟩ := hbuilt.own name balancer (List.mem_of_getElem? hget)
    refine ⟨backend, spec, balancer, hbackend, hspec, hbalancer, alone_of_balancer? ?_⟩
    rw [Fleet.balancer?, hget]
    rfl
  case reached => exact fun s hs => hs.left

/-- Two routes share a backend, and two backends share a server. -/
def sharing : Plan where
  config := {
    servers := [{ name := "s1", address := "10.0.0.1:80" }, { name := "s2", address := "10.0.0.2:80" }]
    backends := [{ name := "be1", servers := ["s1", "s2"] }, { name := "be2", servers := ["s2"] }]
    routes := [
      { name := "a", uri := "/a", backends := ["be1"] },
      { name := "b", uri := "/b", backends := ["be2", "be1"], adapter := some "failover" }]
    listeners := [{ routes := ["a", "b"] }] }
  extensions := {
    adapters := { kind := "adapter", items := Extensions.builtinAdapters } }
  hostname := "gw"

theorem drawNothing_sharing : sharing.extensions.DrawNothing where
  plugins name plugin h := nomatch Registry.mem_of_get? h
  adapters name adapter h := by
    rcases List.mem_cons.mp (Registry.mem_of_get? h) with hfailover | hselect
    · obtain ⟨-, rfl⟩ := Prod.mk.inj hfailover
      exact Adapter.failover_drawsNothing _
    · obtain ⟨-, rfl⟩ := Prod.mk.inj (List.mem_singleton.mp hselect)
      exact Adapter.headerSelect_picks.drawsNothing

theorem build_isProduct_sharing : ∃ gateway,
    build sharing "default" = .ok gateway ∧ IsProduct sharing gateway ∧ sharing.extensions.DrawNothing := by
  cases h : build sharing "default" with
  | ok gateway => exact ⟨gateway, rfl, build_isProduct h, drawNothing_sharing⟩
  | error e =>
    have hok : (build sharing "default").toBool = true := by decide
    rw [h] at hok
    cases hok

/-- Two requests meet. The second one finds nobody at `be2` and goes on to `be1`. -/
def crossing : List Event := [
  .dispatch { uri := .relative ⟨"/b", none⟩ }, .proceed 0 (.error .connect),
  .dispatch { uri := .relative ⟨"/a", none⟩ }, .proceed 1 (.error .connect),
  .proceed 0 (.error .connect), .proceed 0 (.error .connect)]

example :
    (build sharing "default").toOption.map (fun gateway =>
      (Traffic.told ⟨"be1", 0⟩ (gateway.deeds crossing)).filterMap Answer.selection?) =
    some [.ok "10.0.0.1:80", .ok "10.0.0.2:80"] := by decide

end ReverseProxy.Gateway
