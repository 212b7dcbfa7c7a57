import ReverseProxy.Proofs.Balance.Division
import ReverseProxy.Proofs.Config.Soundness
import ReverseProxy.Proofs.Gateway.Construction
import ReverseProxy.Proofs.Plugin.Registry

/-! # When a gateway can be built -/

namespace ReverseProxy

/-! ## What validation leaves open -/

/-- The routes with some names, once for each time that they are named. -/
def Config.listed (config : Config) (names : List String) : List RouteSpec :=
  names.filterMap fun name => (config.route name).toOption

namespace Config

theorem mem_listed {config : Config} {names : List String} {spec : RouteSpec} :
    spec ∈ config.listed names ↔ ∃ name ∈ names, config.route name = .ok spec := by
  unfold listed
  rw [List.mem_filterMap]
  simp only [toOption_eq_some]

theorem listed_cons {config : Config} {name : String} {spec : RouteSpec} (h : config.route name = .ok spec)
    (names : List String) : config.listed (name :: names) = spec :: config.listed names := by
  rw [listed, List.filterMap_cons, h]
  rfl

theorem listed_names {config : Config} {names : List String} (h : names ⊆ config.routes.map (·.name)) :
    (config.listed names).map (·.name) = names := by
  induction names with
  | nil => rfl
  | cons name names ih =>
    obtain ⟨hname, hnames⟩ := List.cons_subset.mp h
    obtain ⟨spec, hspec⟩ := exists_find .route hname
    rw [listed_cons hspec, List.map_cons, ih hnames, (mem_of_find hspec).2]

end Config

/-- A route can be built of what is registered. -/
structure RouteSpec.Fits (extensions : Extensions) (r : RouteSpec) : Prop where
  plugins : ∀ name ∈ r.plugins, extensions.plugins.contains name
  adapter : 2 ≤ r.backends.length → ∃ name, r.adapter = some name ∧ extensions.adapters.contains name
  backends : "" ∉ r.backends
  uri : r.uri ≠ ""

/-- The routes of a URI without a guard. -/
def RouteSpec.unguardedAt (uri : String) (specs : List RouteSpec) : List RouteSpec :=
  specs.filter fun r => r.uri = uri ∧ r.guard = ""

namespace Gateway

/-- Every route can be built, and no two of them take all requests of one URI. -/
structure Fit (extensions : Extensions) (specs : List RouteSpec) : Prop where
  routes : ∀ r ∈ specs, r.Fits extensions
  single : ∀ uri, (RouteSpec.unguardedAt uri specs).length ≤ 1

/-- What may still be wrong with a route, and the error that says so. -/
inductive RouteReason (extensions : Extensions) (r : RouteSpec) : BuildError → Prop where
  | plugin {name : String} (h : name ∈ r.plugins) (hnot : ¬extensions.plugins.contains name) :
    RouteReason extensions r (.unknownPlugin r.name name)
  | adapter {name : String} (hmany : 2 ≤ r.backends.length) (h : r.adapter = some name)
      (hnot : ¬extensions.adapters.contains name) :
    RouteReason extensions r (.unknownAdapter r.name name)
  | backend (h : "" ∈ r.backends) : RouteReason extensions r (.backend "" (.balance .emptyBackendName))

/--
What may still be wrong with the routes of a listener. Nothing is missing from the configuration, no
list in it is empty, and all addresses are valid.
-/
inductive Reason (extensions : Extensions) (specs : List RouteSpec) : BuildError → Prop where
  | route {r : RouteSpec} {e : BuildError} (h : r ∈ specs) (hr : RouteReason extensions r e) :
    Reason extensions specs e
  | emptyUri {r : RouteSpec} (h : r ∈ specs) (huri : r.uri = "") :
    Reason extensions specs (.route (.emptyUri r.name))
  | multipleUnguarded {uri : String} (h : 2 ≤ (RouteSpec.unguardedAt uri specs).length) :
    Reason extensions specs
      (.route (.multipleUnguarded uri ((RouteSpec.unguardedAt uri specs).map (·.name))))

theorem RouteReason.not_fits {extensions : Extensions} {r : RouteSpec} {e : BuildError}
    (h : RouteReason extensions r e) : ¬r.Fits extensions := by
  intro hfits
  cases h with
  | plugin h hnot => exact hnot (hfits.plugins _ h)
  | adapter hmany h hnot =>
    obtain ⟨name, hname, hcontains⟩ := hfits.adapter hmany
    cases hname.symm.trans h
    exact hnot hcontains
  | backend h => exact hfits.backends h

theorem Reason.not_fit {extensions : Extensions} {specs : List RouteSpec} {e : BuildError}
    (h : Reason extensions specs e) : ¬Fit extensions specs := by
  intro hfit
  cases h with
  | route h hr => exact hr.not_fits (hfit.routes _ h)
  | emptyUri h huri => exact (hfit.routes _ h).uri huri
  | multipleUnguarded h => exact absurd (hfit.single _) (Nat.not_le.mpr h)

/-! ## Backends -/

variable {plan : Plan}

theorem exists_servers (hsound : plan.config.Sound) {spec : BackendSpec} (hspec : spec.Sound plan.config) :
    ∃ servers, spec.servers.mapM plan.config.server = .ok servers ∧ servers ≠ [] ∧
      ∀ s ∈ servers, Address.isValid s.address := by
  rcases mapM_cases plan.config.server spec.servers with ⟨servers, h⟩ | ⟨name, hname, e, herror, -⟩
  · have hall := mapM_eq_ok.mp h
    refine ⟨servers, h, ?_, ?_⟩
    · rintro rfl
      exact hspec.ne_nil (List.forall₂_nil_right_iff.mp hall)
    · intro s hs
      obtain ⟨name, -, hfound⟩ := exists_of_mem_right hall hs
      exact (hsound.servers s (Config.mem_of_find hfound).1).address
  · obtain ⟨s, hs⟩ := Config.exists_find .server (hspec.servers hname)
    rw [Config.server, hs] at herror
    cases herror

theorem balancerOf_error (hsound : plan.config.Sound) {spec : BackendSpec} (hspec : spec.Sound plan.config)
    {e : BackendError} (h : balancerOf plan spec = .error e) :
    spec.name = "" ∧ e = .balance .emptyBackendName := by
  obtain ⟨servers, hservers, hne, hvalid⟩ := exists_servers hsound hspec
  have hbalancer : balancerOf plan spec =
      (Balancer.build spec.policy spec.name servers plan.hostname).mapError .balance := by
    rw [balancerOf, hservers]
    rfl
  rw [hbalancer] at h
  by_cases hname : spec.name = ""
  · rw [hname, Balancer.build_unnamed] at h
    cases h
    exact ⟨hname, rfl⟩
  · obtain ⟨b, hb⟩ := Balancer.exists_build spec.policy plan.hostname hname hne hvalid
    rw [hb] at h
    cases h

theorem balancerOf_ok {spec : BackendSpec} {balancer : Balancer} (h : balancerOf plan spec = .ok balancer) :
    spec.name ≠ "" := by
  intro hname
  obtain ⟨servers, -, hbuild⟩ := bind_eq_ok.mp h
  rw [mapError_ok, hname, Balancer.build_unnamed] at hbuild
  cases hbuild

theorem backendFor_error (hsound : plan.config.Sound) {built : Fleet} {name : String} {e : BuildError}
    (hname : name ∈ plan.config.backends.map (·.name)) (h : backendFor plan built name = .error e) :
    name = "" ∧ e = .backend "" (.balance .emptyBackendName) := by
  obtain ⟨spec, hspec⟩ := Config.exists_find .backend hname
  obtain ⟨hmem, rfl⟩ := Config.mem_of_find hspec
  unfold backendFor at h
  split at h
  · cases h
  · rw [Config.backend, hspec] at h
    rcases bind_eq_error.mp h with h | ⟨found, hfound, h⟩
    · cases h
    · cases hfound
      rcases bind_eq_error.mp h with h | ⟨balancer, -, h⟩
      · obtain ⟨error, herror, rfl⟩ := mapError_error.mp h
        obtain ⟨hempty, rfl⟩ := balancerOf_error hsound (hsound.backends spec hmem) herror
        exact ⟨hempty, by rw [hempty]⟩
      · cases h

theorem backendsFor_error (hsound : plan.config.Sound) {names : List String} {built : Fleet}
    {e : BuildError} (hnames : names ⊆ plan.config.backends.map (·.name))
    (h : backendsFor plan built names = .error e) :
    "" ∈ names ∧ e = .backend "" (.balance .emptyBackendName) := by
  induction names generalizing built with
  | nil => cases h
  | cons name names ih =>
    obtain ⟨hname, hnames⟩ := List.cons_subset.mp hnames
    unfold backendsFor at h
    rcases bind_eq_error.mp h with h | ⟨⟨backend, next⟩, -, h⟩
    · obtain ⟨rfl, he⟩ := backendFor_error hsound hname h
      exact ⟨List.mem_cons_self, he⟩
    · rcases bind_eq_error.mp h with h | ⟨⟨others, last⟩, -, h⟩
      · obtain ⟨hmem, he⟩ := ih hnames h
        exact ⟨List.mem_cons_of_mem name hmem, he⟩
      · cases h

/-! ## Routes -/

theorem pluginOf_ok {route name : String} {plugin : Plugin Act}
    (h : pluginOf plan route name = .ok plugin) : plan.extensions.plugins.contains name := by
  unfold pluginOf at h
  split at h
  next found hget => rw [Registry.contains, hget]; rfl
  next => cases h

theorem plugins_error {spec : RouteSpec} {e : BuildError}
    (h : spec.plugins.mapM (pluginOf plan spec.name) = .error e) : RouteReason plan.extensions spec e := by
  rcases mapM_cases (pluginOf plan spec.name) spec.plugins with
    ⟨plugins, hok⟩ | ⟨name, hname, e', he, herror⟩
  · rw [hok] at h
    cases h
  · rw [herror] at h
    cases h
    unfold pluginOf at he
    split at he
    · cases he
    next hget =>
      cases he
      exact .plugin hname (by rw [Registry.contains, hget]; decide)

theorem adapterOf_ok {spec : RouteSpec} {adapter : Option (Adapter Act)}
    (h : adapterOf plan spec = .ok adapter) (hmany : 2 ≤ spec.backends.length) :
    ∃ name, spec.adapter = some name ∧ plan.extensions.adapters.contains name := by
  unfold adapterOf at h
  rw [if_neg (by omega)] at h
  split at h
  · cases h
  next name hname =>
    split at h
    next found hget => exact ⟨name, hname, by rw [Registry.contains, hget]; rfl⟩
    next => cases h

theorem adapterOf_error {spec : RouteSpec} (hspec : spec.Sound plan.config) {e : BuildError}
    (h : adapterOf plan spec = .error e) : RouteReason plan.extensions spec e := by
  have hne : 0 < spec.backends.length := List.length_pos_iff.mpr hspec.ne_nil
  unfold adapterOf at h
  split at h
  · cases h
  next hone =>
    have hmany : 2 ≤ spec.backends.length := by omega
    split at h
    next hnone =>
      have hsome := hspec.adapter hmany
      rw [hnone] at hsome
      cases hsome
    next name hname =>
      split at h
      · cases h
      next hget =>
        cases h
        exact .adapter hmany hname (by rw [Registry.contains, hget]; decide)

theorem buildRoute_error (hsound : plan.config.Sound) {built : Fleet} {name : String} {e : BuildError}
    (hname : name ∈ plan.config.routes.map (·.name)) (h : buildRoute plan built name = .error e) :
    ∃ spec, plan.config.route name = .ok spec ∧ RouteReason plan.extensions spec e := by
  obtain ⟨spec, hfound⟩ := Config.exists_find .route hname
  have hspec := hsound.routes spec (Config.mem_of_find hfound).1
  refine ⟨spec, hfound, ?_⟩
  unfold buildRoute at h
  rw [Config.route, hfound] at h
  rcases bind_eq_error.mp h with h | ⟨found, hsame, h⟩
  · cases h
  cases hsame
  split at h
  next hempty => exact absurd (List.isEmpty_iff.mp hempty) hspec.ne_nil
  next =>
    rcases bind_eq_error.mp h with h | ⟨plugins, -, h⟩
    · exact plugins_error h
    rcases bind_eq_error.mp h with h | ⟨adapter, -, h⟩
    · exact adapterOf_error hspec h
    rcases bind_eq_error.mp h with h | ⟨⟨backends, more⟩, -, h⟩
    · obtain ⟨hmem, rfl⟩ := backendsFor_error hsound hspec.backends h
      exact .backend hmem
    · cases h

theorem buildRoutes_error (hsound : plan.config.Sound) {names : List String} {built : Fleet} {e : BuildError}
    (hnames : names ⊆ plan.config.routes.map (·.name)) (h : buildRoutes plan built names = .error e) :
    ∃ spec ∈ plan.config.listed names, RouteReason plan.extensions spec e := by
  induction names generalizing built with
  | nil => cases h
  | cons name names ih =>
    obtain ⟨hname, hnames⟩ := List.cons_subset.mp hnames
    unfold buildRoutes at h
    rcases bind_eq_error.mp h with h | ⟨⟨route, next⟩, -, h⟩
    · obtain ⟨spec, hfound, hreason⟩ := buildRoute_error hsound hname h
      exact ⟨spec, Config.mem_listed.mpr ⟨name, List.mem_cons_self, hfound⟩, hreason⟩
    · rcases bind_eq_error.mp h with h | ⟨⟨others, last⟩, -, h⟩
      · obtain ⟨spec, hspec, hreason⟩ := ih hnames h
        obtain ⟨name', hname', hfound⟩ := Config.mem_listed.mp hspec
        exact ⟨spec, Config.mem_listed.mpr ⟨name', List.mem_cons_of_mem name hname', hfound⟩, hreason⟩
      · cases h

/-- A route with the name, the URI and the guard of its specification. -/
structure Specifies (spec : RouteSpec) (route : Route (Handler Act)) : Prop where
  name : route.name = spec.name
  uri : route.uri = spec.uri
  guard : route.guard = .parse spec.guard

theorem listed_of_assembled {fleet : Fleet} {names : List String} {routes : List (Route (Handler Act))}
    (h : List.Forall₂ (Assembled plan fleet) names routes) :
    List.Forall₂ Specifies (plan.config.listed names) routes := by
  induction h with
  | nil => exact .nil
  | @cons name route names routes hroute _ ih =>
    obtain ⟨spec, plugins, adapter, backends, hfound, -, -, -, -, rfl⟩ := hroute
    rw [Config.listed_cons hfound]
    exact .cons ⟨rfl, rfl, rfl⟩ ih

theorem unguardedAt_of_specifies {specs : List RouteSpec} {routes : List (Route (Handler Act))}
    (h : List.Forall₂ Specifies specs routes) (uri : String) :
    List.Forall₂ Specifies (RouteSpec.unguardedAt uri specs) (RouteTable.unguardedAt uri routes) := by
  rw [RouteSpec.unguardedAt, RouteTable.unguardedAt, List.filter_filter]
  refine List.rel_filter ?_ h
  intro spec route hspecifies
  simp [hspecifies.uri, hspecifies.guard, Guard.isGuarded_parse, and_comm]

theorem names_of_specifies {specs : List RouteSpec} {routes : List (Route (Handler Act))}
    (h : List.Forall₂ Specifies specs routes) : routes.map (·.name) = specs.map (·.name) := by
  induction h with
  | nil => rfl
  | cons hfirst _ ih => rw [List.map_cons, List.map_cons, hfirst.name, ih]

/-! ## Which backends are built -/

theorem backendFor_names {built more : Fleet} {name : String} {backend : Backend}
    (h : backendFor plan built name = .ok (backend, more)) {other : String} :
    other ∈ more.map (·.1) ↔ other ∈ built.map (·.1) ∨ other = name := by
  unfold backendFor at h
  split at h
  next found hfound =>
    cases h
    have hold : name ∈ built.map (·.1) := Fleet.backend?_isSome.mp (by rw [hfound]; rfl)
    constructor
    · exact Or.inl
    · rintro (h | rfl)
      · exact h
      · exact hold
  next =>
    obtain ⟨spec, -, h⟩ := bind_eq_ok.mp h
    obtain ⟨balancer, -, h⟩ := bind_eq_ok.mp h
    cases h
    rw [List.map_append, List.mem_append, List.map_singleton, List.mem_singleton]

theorem backendsFor_names {names : List String} {built more : Fleet} {backends : List Backend}
    (h : backendsFor plan built names = .ok (backends, more)) {other : String} :
    other ∈ more.map (·.1) ↔ other ∈ built.map (·.1) ∨ other ∈ names := by
  induction names generalizing built backends with
  | nil =>
    cases h
    simp
  | cons name names ih =>
    unfold backendsFor at h
    obtain ⟨⟨backend, next⟩, hfirst, h⟩ := bind_eq_ok.mp h
    obtain ⟨⟨others, last⟩, hrest, h⟩ := bind_eq_ok.mp h
    cases h
    rw [ih hrest, backendFor_names hfirst, List.mem_cons, or_assoc]

theorem buildRoute_names {built more : Fleet} {name : String} {route : Route (Handler Act)}
    (h : buildRoute plan built name = .ok (route, more)) :
    ∃ spec, plan.config.route name = .ok spec ∧
      ∀ other, other ∈ more.map (·.1) ↔ other ∈ built.map (·.1) ∨ other ∈ spec.backends := by
  unfold buildRoute at h
  obtain ⟨spec, hspec, h⟩ := bind_eq_ok.mp h
  refine ⟨spec, mapError_ok.mp hspec, ?_⟩
  split at h
  · cases h
  · obtain ⟨plugins, -, h⟩ := bind_eq_ok.mp h
    obtain ⟨adapter, -, h⟩ := bind_eq_ok.mp h
    obtain ⟨⟨backends, next⟩, hbackends, h⟩ := bind_eq_ok.mp h
    cases h
    intro other
    exact backendsFor_names hbackends

theorem buildRoutes_names {names : List String} {built more : Fleet} {routes : List (Route (Handler Act))}
    (h : buildRoutes plan built names = .ok (routes, more)) {other : String} :
    other ∈ more.map (·.1) ↔
      other ∈ built.map (·.1) ∨ ∃ spec ∈ plan.config.listed names, other ∈ spec.backends := by
  induction names generalizing built routes with
  | nil =>
    cases h
    simp [Config.listed]
  | cons name names ih =>
    unfold buildRoutes at h
    obtain ⟨⟨route, next⟩, hfirst, h⟩ := bind_eq_ok.mp h
    obtain ⟨⟨others, last⟩, hrest, h⟩ := bind_eq_ok.mp h
    cases h
    obtain ⟨spec, hspec, hnames⟩ := buildRoute_names hfirst
    rw [ih hrest, hnames, Config.listed_cons hspec, List.exists_mem_cons_iff, or_assoc]

/-! ## Gateways -/

theorem fits_of_assembled {fleet : Fleet} {spec : RouteSpec} {route : Route (Handler Act)}
    (hbuilt : Built plan fleet) (h : Assembled plan fleet spec.name route)
    (hspec : plan.config.route spec.name = .ok spec) (huri : route.uri ≠ "") : spec.Fits plan.extensions := by
  obtain ⟨spec', plugins, adapter, backends, hfound, hplugins, hadapter, hnames, hbackends, rfl⟩ := h
  rw [hspec] at hfound
  cases hfound
  refine ⟨?_, adapterOf_ok hadapter, ?_, huri⟩
  · intro name hname
    obtain ⟨plugin, -, hplugin⟩ := exists_of_mem_left (mapM_eq_ok.mp hplugins) hname
    exact pluginOf_ok hplugin
  · intro hempty
    -- A backend that a route holds was built, and none is built without a name.
    rw [← hnames] at hempty
    obtain ⟨b, hb, hname⟩ := List.mem_map.mp hempty
    obtain ⟨balancer, hget⟩ := Fleet.exists_of_backend? (hbackends b hb)
    obtain ⟨own, hown, hbalancer⟩ := hbuilt.own _ _ (List.mem_of_getElem? hget)
    exact balancerOf_ok hbalancer ((Config.mem_of_find hown).2.trans hname)

theorem fit_of_build {listener : Listener} (hfound : plan.config.listener listener.name = .ok listener)
    {gateway : Gateway} (h : build plan listener.name = .ok gateway) :
    Fit plan.extensions (plan.config.listed listener.routes) := by
  unfold build at h
  rw [hfound] at h
  obtain ⟨found, hsame, h⟩ := bind_eq_ok.mp h
  cases hsame
  obtain ⟨⟨routes, balancers⟩, hroutes, h⟩ := bind_eq_ok.mp h
  obtain ⟨table, htable, -⟩ := bind_eq_ok.mp h
  obtain ⟨hcompiles, -⟩ := RouteTable.build_eq_ok.mp (mapError_ok.mp htable)
  obtain ⟨hbuilt, -, hassembled⟩ := buildRoutes_spec (built_nil plan) hroutes
  constructor
  · intro spec hmem
    obtain ⟨name, hname, hspec⟩ := Config.mem_listed.mp hmem
    obtain ⟨route, hroute, hassembled⟩ := exists_of_mem_left hassembled hname
    obtain ⟨-, rfl⟩ := Config.mem_of_find hspec
    exact fits_of_assembled hbuilt hassembled hspec (hcompiles.named route hroute)
  · intro uri
    rw [(unguardedAt_of_specifies (listed_of_assembled hassembled) uri).length_eq]
    exact hcompiles.single uri

theorem reason_of_build (hsound : plan.config.Sound) {listener : Listener}
    (hl : listener ∈ plan.config.listeners) {e : BuildError} (h : build plan listener.name = .error e) :
    Reason plan.extensions (plan.config.listed listener.routes) e := by
  unfold build at h
  rw [Config.listener, Config.find_self .listener hsound.listenerNames hl] at h
  rcases bind_eq_error.mp h with h | ⟨found, hsame, h⟩
  · cases h
  cases hsame
  rcases bind_eq_error.mp h with h | ⟨⟨routes, balancers⟩, hroutes, h⟩
  · obtain ⟨spec, hspec, hreason⟩ := buildRoutes_error hsound (hsound.listeners listener hl).routes h
    exact .route hspec hreason
  rcases bind_eq_error.mp h with h | ⟨table, -, h⟩
  · obtain ⟨error, htable, rfl⟩ := mapError_error.mp h
    obtain ⟨-, -, hassembled⟩ := buildRoutes_spec (built_nil plan) hroutes
    have hspecifies := listed_of_assembled hassembled
    rcases RouteTable.build_error htable with ⟨route, hroute, huri, rfl⟩ | ⟨uri, hmany, rfl⟩
    · obtain ⟨spec, hspec, hsame⟩ := exists_of_mem_right hspecifies hroute
      rw [hsame.name]
      exact .emptyUri hspec (hsame.uri ▸ huri)
    · have hunguarded := unguardedAt_of_specifies hspecifies uri
      rw [names_of_specifies hunguarded]
      exact .multipleUnguarded (by rw [hunguarded.length_eq]; exact hmany)
  · cases h

theorem backendNames_of_build {listener : Listener}
    (hfound : plan.config.listener listener.name = .ok listener) {gateway : Gateway}
    (h : build plan listener.name = .ok gateway) :
    gateway.backendNames.Pairwise (· < ·) ∧
      ∀ name, name ∈ gateway.backendNames ↔
        ∃ r ∈ plan.config.listed listener.routes, name ∈ r.backends := by
  refine ⟨sort_strict (build_spec h).1.once, ?_⟩
  intro name
  unfold build at h
  rw [hfound] at h
  obtain ⟨found, hsame, h⟩ := bind_eq_ok.mp h
  cases hsame
  obtain ⟨⟨routes, balancers⟩, hroutes, h⟩ := bind_eq_ok.mp h
  obtain ⟨table, -, h⟩ := bind_eq_ok.mp h
  cases h
  rw [backendNames, List.mem_mergeSort, buildRoutes_names hroutes]
  simp

/-- It can be told from the routes of a listener whether a gateway can be built, and for which backends. -/
structure Assembles (plan : Plan) (listener : Listener) : Prop where
  listed : (plan.config.listed listener.routes).map (·.name) = listener.routes
  builds : (∃ gateway, build plan listener.name = .ok gateway) ↔
    Fit plan.extensions (plan.config.listed listener.routes)
  fails : ∀ e, build plan listener.name = .error e →
    Reason plan.extensions (plan.config.listed listener.routes) e
  sorted : ∀ gateway, build plan listener.name = .ok gateway → gateway.backendNames.Pairwise (· < ·)
  backends : ∀ gateway, build plan listener.name = .ok gateway → ∀ name,
    name ∈ gateway.backendNames ↔ ∃ r ∈ plan.config.listed listener.routes, name ∈ r.backends

theorem assembles_of_faults_eq_nil (h : plan.config.faults = []) {listener : Listener}
    (hl : listener ∈ plan.config.listeners) : Assembles plan listener := by
  have hsound := Config.faults_eq_nil.mp h
  have hfound := Config.find_self .listener hsound.listenerNames hl
  constructor
  case listed => exact Config.listed_names (hsound.listeners listener hl).routes
  case builds =>
    constructor
    · rintro ⟨gateway, hok⟩
      exact fit_of_build hfound hok
    · intro hfit
      cases hbuild : build plan listener.name with
      | ok gateway => exact ⟨gateway, rfl⟩
      | error e => exact absurd hfit (reason_of_build hsound hl hbuild).not_fit
  case fails => exact fun e he => reason_of_build hsound hl he
  case sorted => exact fun gateway hok => (backendNames_of_build hfound hok).1
  case backends => exact fun gateway hok => (backendNames_of_build hfound hok).2

/-- A listener may name a route twice, as long as the route has a guard. -/
def repeating : Plan where
  config := {
    servers := [{ name := "s1", address := "10.0.0.1:80" }]
    backends := [{ name := "b", servers := ["s1"] }, { name := "a", servers := ["s1"] }]
    routes := [
      { name := "guarded", uri := "/", backends := ["b", "a", "b"], guard := "x=1"
        adapter := some "failover" },
      { name := "open", uri := "/", backends := ["b"], adapter := some "unknown" }]
    listeners := [{ routes := ["guarded", "open", "guarded"] }] }
  extensions := {
    adapters := { kind := "adapter", items := Extensions.builtinAdapters } }
  hostname := "gw"

theorem assembles_repeating :
    (repeating.config.faults = [] ∧
        { routes := ["guarded", "open", "guarded"] } ∈ repeating.config.listeners) ∧
      Assembles repeating { routes := ["guarded", "open", "guarded"] } :=
  ⟨by decide, assembles_of_faults_eq_nil (by decide) (by decide)⟩

example : (build repeating "default").toBool = true := by decide

end Gateway

end ReverseProxy
