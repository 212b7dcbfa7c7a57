import Mathlib.Data.List.Nodup
import ReverseProxy.Config.Store

/-! # Which configurations have no faults -/

namespace ReverseProxy

/-! ## Single rules -/

namespace Fault

@[simp] theorem faultIf_eq_nil {condition : Bool} {fault : Fault} :
    faultIf condition fault = [] ↔ condition = false := by
  cases condition <;> simp [faultIf]

@[simp] theorem unknown_eq_nil {kind : Section} {name : String} {known references : List String} :
    unknown kind name known references = [] ↔ references ⊆ known := by
  rw [unknown, List.map_eq_nil_iff, List.filter_eq_nil_iff]
  simp [List.subset_def]

theorem duplicates_eq_nil {kind : Section} {seen names : List String} :
    duplicates kind seen names = [] ↔ names.Nodup ∧ ∀ name ∈ names, name ∉ seen := by
  induction names generalizing seen with
  | nil => simp [duplicates]
  | cons name names ih =>
    rw [duplicates]
    by_cases hseen : name ∈ seen
    · simp [hseen]
    · rw [if_neg hseen, ih, List.nodup_cons, List.forall_mem_cons]
      simp only [List.mem_cons, not_or]
      constructor
      · rintro ⟨hnodup, hnew⟩
        exact ⟨⟨fun hmem => (hnew name hmem).1 rfl, hnodup⟩, hseen, fun other h => (hnew other h).2⟩
      · rintro ⟨⟨hnot, hnodup⟩, -, hnew⟩
        exact ⟨hnodup, fun other h => ⟨fun heq => hnot (heq ▸ h), hnew other h⟩⟩

@[simp] theorem duplicates_nil_eq_nil {kind : Section} {names : List String} :
    duplicates kind [] names = [] ↔ names.Nodup := by
  simp [duplicates_eq_nil]

end Fault

/-! ## Records -/

/-- An address to listen on, and routes that there are. -/
structure Listener.Sound (config : Config) (l : Listener) : Prop where
  address : Address.isValid l.bindAddress
  routes : l.routes ⊆ config.routes.map (·.name)

/-- At least one backend, an adapter for more of them, and only backends that there are. -/
structure RouteSpec.Sound (config : Config) (r : RouteSpec) : Prop where
  ne_nil : r.backends ≠ []
  adapter : 1 < r.backends.length → r.adapter.isSome
  backends : r.backends ⊆ config.backends.map (·.name)

/-- At least one server, and only servers that there are. -/
structure BackendSpec.Sound (config : Config) (b : BackendSpec) : Prop where
  ne_nil : b.servers ≠ []
  servers : b.servers ⊆ config.servers.map (·.name)

structure HealthCheck.Sound (check : HealthCheck) : Prop where
  interval : check.interval ≠ 0
  timeout : check.timeout ≠ 0

structure Server.Sound (s : Server) : Prop where
  address : Address.isValid s.address
  check : ∀ check ∈ s.healthCheck, check.Sound

namespace Fault

theorem ofCheck_eq_nil {place : CheckPlace} {check : HealthCheck} :
    ofCheck place check = [] ↔ check.Sound := by
  simp only [ofCheck, List.append_eq_nil_iff, faultIf_eq_nil, decide_eq_false_iff_not]
  exact ⟨fun ⟨hinterval, htimeout⟩ => ⟨hinterval, htimeout⟩, fun h => ⟨h.interval, h.timeout⟩⟩

theorem ofListener_eq_nil {config : Config} {l : Listener} : ofListener config l = [] ↔ l.Sound config := by
  simp only [ofListener, List.append_eq_nil_iff, faultIf_eq_nil, unknown_eq_nil, Bool.not_eq_false']
  exact ⟨fun ⟨haddress, hroutes⟩ => ⟨haddress, hroutes⟩, fun h => ⟨h.address, h.routes⟩⟩

theorem ofRoute_eq_nil {config : Config} {r : RouteSpec} : ofRoute config r = [] ↔ r.Sound config := by
  simp only [ofRoute, List.append_eq_nil_iff, faultIf_eq_nil, unknown_eq_nil]
  constructor
  · rintro ⟨⟨hne, hadapter⟩, hbackends⟩
    refine ⟨by simpa using hne, ?_, hbackends⟩
    intro hmany
    simpa [hmany] using hadapter
  · rintro ⟨hne, hadapter, hbackends⟩
    refine ⟨⟨by simpa using hne, ?_⟩, hbackends⟩
    by_cases hmany : 1 < r.backends.length
    · simpa [hmany] using hadapter hmany
    · simp [hmany]

theorem ofBackend_eq_nil {config : Config} {b : BackendSpec} :
    ofBackend config b = [] ↔ b.Sound config := by
  simp only [ofBackend, List.append_eq_nil_iff, faultIf_eq_nil, unknown_eq_nil, List.isEmpty_eq_false_iff]
  exact ⟨fun ⟨hne, hservers⟩ => ⟨hne, hservers⟩, fun h => ⟨h.ne_nil, h.servers⟩⟩

theorem ofServer_eq_nil {s : Server} : ofServer s = [] ↔ s.Sound := by
  simp only [ofServer, List.append_eq_nil_iff, faultIf_eq_nil, Bool.not_eq_false']
  constructor
  · rintro ⟨haddress, hcheck⟩
    refine ⟨haddress, ?_⟩
    intro check hmem
    rw [Option.mem_def.mp hmem] at hcheck
    exact ofCheck_eq_nil.mp hcheck
  · rintro ⟨haddress, hcheck⟩
    refine ⟨haddress, ?_⟩
    cases h : s.healthCheck with
    | none => rfl
    | some check => exact ofCheck_eq_nil.mpr (hcheck check h)

end Fault

/-! ## Configurations -/

namespace Config

/-- Names are given once in each section, and every record is sound. -/
structure Sound (config : Config) : Prop where
  listenerNames : (config.listeners.map (·.name)).Nodup
  routeNames : (config.routes.map (·.name)).Nodup
  backendNames : (config.backends.map (·.name)).Nodup
  serverNames : (config.servers.map (·.name)).Nodup
  listeners : ∀ l ∈ config.listeners, l.Sound config
  routes : ∀ r ∈ config.routes, r.Sound config
  backends : ∀ b ∈ config.backends, b.Sound config
  check : config.healthCheck.Sound
  servers : ∀ s ∈ config.servers, s.Sound

theorem faults_eq_nil {config : Config} : config.faults = [] ↔ config.Sound := by
  simp only [faults, List.append_eq_nil_iff, List.flatMap_eq_nil_iff, Fault.duplicates_nil_eq_nil,
    Fault.ofListener_eq_nil, Fault.ofRoute_eq_nil, Fault.ofBackend_eq_nil, Fault.ofCheck_eq_nil,
    Fault.ofServer_eq_nil, and_assoc]
  constructor
  · rintro ⟨hlistenerNames, hrouteNames, hbackendNames, hserverNames, hlisteners, hroutes, hbackends, hcheck,
      hservers⟩
    exact ⟨hlistenerNames, hrouteNames, hbackendNames, hserverNames, hlisteners, hroutes, hbackends, hcheck,
      hservers⟩
  · intro h
    exact ⟨h.listenerNames, h.routeNames, h.backendNames, h.serverNames, h.listeners, h.routes, h.backends,
      h.check, h.servers⟩

/-! ## Records by name -/

section Find

variable {α : Type} {kind : Section} {nameOf : α → String} {records : List α} {name : String} {record : α}

theorem mem_of_find (h : find kind nameOf records name = .ok record) :
    record ∈ records ∧ nameOf record = name := by
  unfold find at h
  split at h
  next found hfind =>
    cases h
    exact ⟨List.mem_of_find?_eq_some hfind, by simpa using List.find?_some hfind⟩
  next => cases h

theorem exists_find (kind : Section) (h : name ∈ records.map nameOf) :
    ∃ record, find kind nameOf records name = .ok record := by
  unfold find
  cases hfind : records.find? (nameOf · = name) with
  | some record => exact ⟨record, rfl⟩
  | none =>
    obtain ⟨record, hrecord, hname⟩ := List.mem_map.mp h
    have hnone := List.find?_eq_none.mp hfind record hrecord
    simp [hname] at hnone

theorem find_self (kind : Section) (hnodup : (records.map nameOf).Nodup) (h : record ∈ records) :
    find kind nameOf records (nameOf record) = .ok record := by
  obtain ⟨found, hfound⟩ := exists_find kind (List.mem_map_of_mem (f := nameOf) h)
  obtain ⟨hmem, hname⟩ := mem_of_find hfound
  rw [hfound, List.inj_on_of_nodup_map hnodup hmem h hname]

end Find

end Config

end ReverseProxy
