import ReverseProxy.Proofs.Gateway.Construction
import ReverseProxy.Proofs.Http.Header
import ReverseProxy.Proofs.Plugin.Calls

/-! # Which backend a request asks for -/

namespace ReverseProxy

/-! ## Names and places -/

namespace BackendHandlers

variable {m : Type → Type} [Monad m]

theorem getElem?_traced (handlers : BackendHandlers m) (start i : Nat) :
    (handlers.traced start)[i]? = handlers[i]?.map fun entry => (entry.1, tracing (start + i) entry.2) := by
  induction handlers generalizing start i with
  | nil => rfl
  | cons entry rest ih =>
    cases i with
    | zero => rfl
    | succ i =>
      rw [traced, List.getElem?_cons_succ, List.getElem?_cons_succ, ih, Nat.succ_add_eq_add_succ]

theorem names_traced (handlers : BackendHandlers m) (start : Nat) : (handlers.traced start).names = handlers.names := by
  induction handlers generalizing start with
  | nil => rfl
  | cons entry rest ih => exact congrArg (entry.1 :: ·) (ih (start + 1))

end BackendHandlers

namespace Adapter

/-- The first value that says which backend is wanted is just this name, and can be read. -/
def AsksFor (request : Request) (name : String) : Prop :=
  ∃ value, request.headers.first? backendName = some value ∧ value.all Bytes.isVisible = true ∧
    Bytes.ofText name = value

/-- Where the backend stands that a request is for: the first one of the name that it asks for, or else the first. -/
inductive Selects (names : List String) (request : Request) : Nat → Prop where
  | named {before after : List String} {name : String} (hnames : names = before ++ name :: after)
      (hasks : AsksFor request name) (hbefore : name ∉ before) : Selects names request before.length
  | first (hnames : names ≠ []) (hno : ∀ name ∈ names, ¬AsksFor request name) : Selects names request 0

theorem asksFor_iff {request : Request} {name : String} :
    AsksFor request name ↔ request.headers.text? backendName = some name := by
  rw [Headers.text?, Option.bind_eq_some_iff]
  constructor
  · rintro ⟨value, hfirst, hvisible, rfl⟩
    obtain ⟨text, htext⟩ := Option.isSome_iff_exists.mp ((Bytes.visible?_isSome _).trans hvisible)
    -- The text that is read has the same bytes as the name.
    have hsame : Bytes.text? (Bytes.ofText text) = Bytes.text? (Bytes.ofText name) := by
      rw [Bytes.ofText_of_visible? htext]
    rw [Bytes.text?_ofText, Bytes.text?_ofText, Option.some.injEq] at hsame
    exact ⟨_, hfirst, hsame ▸ htext⟩
  · rintro ⟨value, hfirst, htext⟩
    have hvisible : value.all Bytes.isVisible = true := by
      rw [← Bytes.visible?_isSome, htext, Option.isSome_some]
    exact ⟨value, hfirst, hvisible, Bytes.ofText_of_visible? htext⟩

theorem AsksFor.unique {request : Request} {name other : String} (h : AsksFor request name)
    (hother : AsksFor request other) : name = other :=
  Option.some.inj ((asksFor_iff.mp h).symm.trans (asksFor_iff.mp hother))

theorem Selects.unique {names : List String} {request : Request} {position other : Nat}
    (h : Selects names request position) (hother : Selects names request other) : position = other := by
  cases h with
  | @named before after name hnames hasks hbefore =>
    cases hother with
    | @named before' after' name' hnames' hasks' hbefore' =>
      obtain rfl := hasks.unique hasks'
      have hplace := congrArg (List.idxOf name) (hnames.symm.trans hnames')
      rwa [List.idxOf_append_of_notMem hbefore, List.idxOf_append_of_notMem hbefore', List.idxOf_cons_self,
        List.idxOf_cons_self] at hplace
    | first hne hno => exact absurd hasks (hno name (by simp [hnames]))
  | first hne hno =>
    cases hother with
    | @named before' after' name' hnames' hasks' _ => exact absurd hasks' (hno name' (by simp [hnames']))
    | first => rfl

variable {m : Type → Type}

theorem get?_eq_some {handlers : BackendHandlers m} {name : String} {handler : Handler m}
    (h : handlers.get? name = some handler) :
    ∃ before after, handlers = before ++ (name, handler) :: after ∧ name ∉ before.map (·.1) := by
  obtain ⟨⟨found, _⟩, hfind, rfl⟩ := Option.map_eq_some_iff.mp h
  obtain ⟨hname, before, after, rfl, hbefore⟩ := List.find?_eq_some_iff_append.mp hfind
  obtain rfl : found = name := by simpa using hname
  refine ⟨before, after, rfl, ?_⟩
  rintro hmem
  obtain ⟨entry, hentry, hsame⟩ := List.mem_map.mp hmem
  simpa [hsame] using hbefore entry hentry

theorem get?_eq_none {handlers : BackendHandlers m} {name : String} (h : handlers.get? name = none) :
    name ∉ handlers.names := by
  rw [BackendHandlers.get?, Option.map_eq_none_iff, List.find?_eq_none] at h
  rintro hmem
  obtain ⟨entry, hentry, rfl⟩ := List.mem_map.mp hmem
  simpa using h entry hentry

theorem exists_choose {handlers : BackendHandlers m} (hne : handlers ≠ []) (request : Request) :
    ∃ position entry, handlers[position]? = some entry ∧ Selects handlers.names request position ∧
      choose handlers request = some entry.2 := by
  unfold choose
  cases hnamed : (request.headers.text? backendName).bind handlers.get? with
  | some handler =>
    obtain ⟨name, htext, hget⟩ := Option.bind_eq_some_iff.mp hnamed
    obtain ⟨before, after, rfl, hbefore⟩ := get?_eq_some hget
    refine ⟨before.length, (name, handler), by simp, ?_, rfl⟩
    have hselects : Selects (before.map (·.1) ++ name :: after.map (·.1)) request (before.map (·.1)).length :=
      .named rfl (asksFor_iff.mpr htext) hbefore
    rwa [List.length_map, ← List.map_cons (f := (·.1)) (a := (name, handler)), ← List.map_append] at hselects
  | none =>
    obtain ⟨entry, rest, rfl⟩ := List.exists_cons_of_ne_nil hne
    refine ⟨0, entry, rfl, .first (List.cons_ne_nil _ _) fun name hname hasks => ?_, rfl⟩
    rw [asksFor_iff.mp hasks] at hnamed
    exact get?_eq_none hnamed hname

variable [Monad m]

theorem headerSelect_of_choose {handlers : BackendHandlers m} {request : Request} {handler : Handler m}
    (h : choose handlers request = some handler) : headerSelect handlers request = handler request := by
  rw [headerSelect, h]

/-- What the adapter makes of a request, and which calls it takes. -/
structure Selected (handlers : BackendHandlers m) (request : Request) : Prop where
  /-- One handler is called, with the request as it came, and what it answers is the answer. -/
  one : handlers ≠ [] → ∃ position entry, handlers[position]? = some entry ∧
    Selects handlers.names request position ∧ headerSelect handlers request = entry.2 request ∧
    headerSelect.observed handlers request = (do
      let response ← entry.2 request
      return (response, [⟨position, request, response⟩]))
  unasked : handlers = [] →
    headerSelect handlers request = pure (Response.ofText 503 "no backends configured") ∧
    headerSelect.observed handlers request = pure (Response.ofText 503 "no backends configured", [])

theorem headerSelect_selected [LawfulMonad m] (handlers : BackendHandlers m) (request : Request) :
    Selected handlers request := by
  constructor
  case one =>
    intro hne
    have hne' : handlers.traced 0 ≠ [] := by
      cases handlers with
      | nil => exact absurd rfl hne
      | cons entry rest => exact List.cons_ne_nil _ _
    obtain ⟨position, entry, hentry, hselects, hchoose⟩ := exists_choose hne request
    obtain ⟨position', traced, htraced, hselects', hchoose'⟩ := exists_choose hne' request
    -- To write the calls down does not change whose turn it is.
    rw [BackendHandlers.names_traced] at hselects'
    obtain rfl := hselects.unique hselects'
    rw [BackendHandlers.getElem?_traced, hentry, Option.map_some, Option.some.injEq, Nat.zero_add] at htraced
    subst htraced
    refine ⟨position, entry, hentry, hselects, headerSelect_of_choose hchoose, ?_⟩
    rw [observed, headerSelect_of_choose hchoose', run_tracing]
    simp only [List.nil_append]
  case unasked =>
    rintro rfl
    have hnone : ∀ {n : Type → Type}, choose (m := n) [] request = none := by
      intro n
      unfold choose BackendHandlers.get?
      cases request.headers.text? backendName <;> rfl
    refine ⟨by rw [headerSelect, hnone]; rfl, ?_⟩
    rw [observed, BackendHandlers.traced, headerSelect, hnone]
    rfl

end Adapter

/-! ## Routes -/

namespace Gateway

/-- The request goes as it is through the plugins of the route to one of its backends, the one that it asks for. -/
def HandsOn (plan : Plan) (gateway : Gateway) (spec : RouteSpec) (request : Request) : Prop :=
  ∃ plugins position backend, spec.plugins.mapM (pluginOf plan spec.name) = .ok plugins ∧
    Adapter.Selects spec.backends request position ∧ spec.backends[position]? = some backend.name ∧
    gateway.balancers.Knows backend ∧
    gateway.table.dispatch request = Plugin.compose plugins (Forward.handler backend) request

/-- A route with one backend asks no adapter, but it does what the adapter would do. -/
theorem handlerOf_chosen {plan : Plan} {spec : RouteSpec} {name : String} {adapter : Option (Adapter Act)}
    {backends : List Backend} (plugins : List (Plugin Act)) (request : Request)
    (hadapter : adapterOf plan spec = .ok adapter) (hname : spec.adapter = some name)
    (hselect : plan.extensions.adapters.get? name = some Adapter.headerSelect)
    (hnames : backends.map (·.name) = spec.backends) (hne : spec.backends ≠ []) :
    ∃ position backend, Adapter.Selects spec.backends request position ∧ backends[position]? = some backend ∧
      handlerOf plugins adapter backends request = Plugin.compose plugins (Forward.handler backend) request := by
  let handlers : BackendHandlers Act := backends.map fun b => (b.name, Plugin.compose plugins (Forward.handler b))
  have hhandlers : handlers ≠ [] := by
    rintro h
    rw [List.map_eq_nil_iff] at h
    rw [h] at hnames
    exact hne hnames.symm
  have hsame : handlers.names = spec.backends := by rw [← hnames, BackendHandlers.names, List.map_map]; rfl
  obtain ⟨position, entry, hentry, hselects, hchoose⟩ := Adapter.exists_choose hhandlers request
  rw [hsame] at hselects
  rw [List.getElem?_map, Option.map_eq_some_iff] at hentry
  obtain ⟨backend, hbackend, rfl⟩ := hentry
  refine ⟨position, backend, hselects, hbackend, ?_⟩
  rw [adapterOf, hname] at hadapter
  split at hadapter
  next hlength =>
    cases hadapter
    rw [← hnames, List.length_map] at hlength
    obtain ⟨only, rfl⟩ := List.length_eq_one_iff.mp hlength
    obtain ⟨rfl, rfl⟩ : position = 0 ∧ backend = only := by
      cases position with
      | zero => exact ⟨rfl, (Option.some.inj hbackend).symm⟩
      | succ => cases hbackend
    rfl
  next =>
    dsimp only at hadapter
    rw [hselect] at hadapter
    cases hadapter
    exact Adapter.headerSelect_of_choose hchoose

theorem build_handsOn {plan : Plan} {listener name : String} {gateway : Gateway} {request : Request}
    {r : Route (Handler Act)} {spec : RouteSpec} (hbuild : build plan listener = .ok gateway)
    (hdecide : gateway.table.decide request = .route r) (hspec : plan.config.route r.name = .ok spec)
    (hname : spec.adapter = some name) (hselect : plan.extensions.adapters.get? name = some Adapter.headerSelect) :
    HandsOn plan gateway spec request := by
  obtain ⟨found, plugins, adapter, backends, hfound, hplugins, hadapter, hnames, hne, hknows, htarget⟩ :=
    exists_of_decide hbuild hdecide
  cases hfound.symm.trans hspec
  obtain ⟨position, backend, hselects, hbackend, hhandler⟩ :=
    handlerOf_chosen plugins request hadapter hname hselect hnames hne
  refine ⟨plugins, position, backend, hplugins, hselects, ?_, hknows backend (List.mem_of_getElem? hbackend), ?_⟩
  · rw [← hnames, List.getElem?_map, hbackend, Option.map_some]
  · rw [RouteTable.dispatch, hdecide]
    dsimp only
    rw [htarget, hhandler]

/-- Whatever a request asks for, the adapter stays with the handlers of its route. -/
theorem headerSelect_staysInside {m : Type → Type} [Monad m] [LawfulMonad m] :
    (∀ (handlers : BackendHandlers m) request, Adapter.Selected handlers request) ∧
      ∀ plan listener gateway request r spec name, build plan listener = .ok gateway →
        gateway.table.decide request = .route r → plan.config.route r.name = .ok spec → spec.adapter = some name →
        plan.extensions.adapters.get? name = some Adapter.headerSelect → HandsOn plan gateway spec request :=
  ⟨Adapter.headerSelect_selected, fun _ _ _ _ _ _ _ hbuild hdecide hspec hname hselect =>
    build_handsOn hbuild hdecide hspec hname hselect⟩

/-- A route that names one of its backends twice. -/
def blueGreen : Plan where
  config := {
    servers := [{ name := "s1", address := "10.0.0.1:80" }, { name := "s2", address := "10.0.0.2:80" }]
    backends := [{ name := "blue", servers := ["s1"] }, { name := "green", servers := ["s2"] }]
    routes := [{
      name := "a", uri := "/", backends := ["blue", "green", "green"], plugins := ["access-log"]
      adapter := some "header-select" }]
    listeners := [{ routes := ["a"] }] }
  extensions := {
    plugins := { kind := "plugin", items := Extensions.builtinPlugins }
    adapters := { kind := "adapter", items := Extensions.builtinAdapters } }
  hostname := "gw"

/-- The name that is asked for first counts. -/
def forGreen : Request where
  headers := [(Adapter.backendName, Bytes.ofText "green"), (Adapter.backendName, Bytes.ofText "blue")]

theorem headerSelect_forGreen :
    LawfulMonad Id ∧ Adapter.Selected (m := Id) [] forGreen ∧ ∃ gateway r spec,
      build blueGreen "default" = .ok gateway ∧ gateway.table.decide forGreen = .route r ∧
        blueGreen.config.route r.name = .ok spec ∧ spec.adapter = some "header-select" ∧
        blueGreen.extensions.adapters.get? "header-select" = some Adapter.headerSelect ∧
        ∃ plugins backend, backend.name = "green" ∧ gateway.balancers.Knows backend ∧
          gateway.table.dispatch forGreen = Plugin.compose plugins (Forward.handler backend) forGreen := by
  have hgateway :=
    (@headerSelect_staysInside Id _ _).2 blueGreen "default" _ forGreen _ _ "header-select" rfl rfl rfl rfl rfl
  obtain ⟨plugins, position, backend, -, hselects, hname, hknows, hdispatch⟩ := hgateway
  have hgreen : Adapter.Selects ["blue", "green", "green"] forGreen 1 :=
    @Adapter.Selects.named _ forGreen ["blue"] ["green"] "green" rfl ⟨_, rfl, by decide, rfl⟩ (by decide)
  obtain rfl := hselects.unique hgreen
  exact ⟨inferInstance, (headerSelect_staysInside.1 [] forGreen), _, _, _, rfl, rfl, rfl, rfl, rfl, plugins, backend,
    (Option.some.inj hname).symm, hknows, hdispatch⟩

end Gateway

end ReverseProxy
