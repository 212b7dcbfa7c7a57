import Mathlib.Algebra.BigOperators.Group.List.Basic
import Mathlib.Data.List.Count
import ReverseProxy.Proofs.Config.Soundness

/-! # How often each fault is told -/

namespace ReverseProxy

/-! ## What is broken, counted record by record -/

def HealthCheck.duration (check : HealthCheck) : CheckField → UInt64
  | .interval => check.interval
  | .timeout => check.timeout

namespace Config

def names (config : Config) : Section → List String
  | .listener => config.listeners.map (·.name)
  | .route => config.routes.map (·.name)
  | .backend => config.backends.map (·.name)
  | .server => config.servers.map (·.name)

/-- The records that refer to others: the name of each, and what it lists. -/
def lists (config : Config) : Section → List (String × List String)
  | .listener => config.listeners.map fun l => (l.name, l.routes)
  | .route => config.routes.map fun r => (r.name, r.backends)
  | .backend => config.backends.map fun b => (b.name, b.servers)
  | .server => []

/-- All that the records of a name list. -/
def references (config : Config) (kind : Section) (name : String) : List String :=
  ((config.lists kind).filter (·.1 = name)).flatMap (·.2)

/-- How often the configuration breaks a rule in the way that a fault tells. -/
def breaches (config : Config) : Fault → Nat
  | .duplicateName kind name => (config.names kind).count name - 1
  | .unknownReference kind name reference =>
    if reference ∈ config.names kind.target then 0 else (config.references kind name).count reference
  | .invalidServerAddress server address =>
    config.servers.countP fun s => ¬Address.isValid s.address ∧ s.name = server ∧ s.address = address
  | .invalidBindAddress listener address =>
    config.listeners.countP fun l => ¬Address.isValid l.bindAddress ∧ l.name = listener ∧ l.bindAddress = address
  | .zeroDuration .common field => if config.healthCheck.duration field = 0 then 1 else 0
  | .zeroDuration (.server name) field =>
    config.servers.countP fun s => s.name = name ∧ ∃ check ∈ s.healthCheck, check.duration field = 0
  | .missingAdapter route count =>
    config.routes.countP fun r =>
      (1 < r.backends.length ∧ r.adapter = none) ∧ r.name = route ∧ r.backends.length = count
  | .emptyList .route name => config.routes.countP fun r => r.backends = [] ∧ r.name = name
  | .emptyList .backend name => config.backends.countP fun b => b.servers = [] ∧ b.name = name
  | .emptyList _ _ => 0

end Config

/-! ## Single rules -/

namespace Fault

variable {ρ : Type} {f : Fault}

theorem count_faultIf (condition : Bool) (fault f : Fault) :
    (faultIf condition fault).count f = if condition ∧ fault = f then 1 else 0 := by
  cases condition <;> simp [faultIf, List.count_singleton]

theorem count_flatMap_append (records : List ρ) (g h : ρ → List Fault) :
    (records.flatMap fun r => g r ++ h r).count f = (records.flatMap g).count f + (records.flatMap h).count f := by
  simp [List.count_flatMap, Function.comp_def]

/-- Where each record gives the fault once or not at all, the records that give it are counted. -/
theorem count_flatMap_eq_countP (records : List ρ) {g : ρ → List Fault} {p : ρ → Prop} [DecidablePred p]
    (h : ∀ r, (g r).count f = if p r then 1 else 0) : (records.flatMap g).count f = records.countP p := by
  induction records with
  | nil => rfl
  | cons r records ih =>
    rw [List.flatMap_cons, List.count_append, ih, h, List.countP_cons]
    by_cases hr : p r <;> simp [hr, Nat.add_comm]

theorem count_flatMap_faultIf (records : List ρ) (condition : ρ → Bool) (fault : ρ → Fault) :
    (records.flatMap fun r => faultIf (condition r) (fault r)).count f =
      records.countP fun r => condition r ∧ fault r = f :=
  count_flatMap_eq_countP records fun r => count_faultIf (condition r) (fault r) f

/-- A name that stands before the list is told each time, and any other each time but the first. -/
theorem count_duplicates (kind : Section) (seen names : List String) (name : String) :
    (duplicates kind seen names).count (duplicateName kind name) =
      if name ∈ seen then names.count name else names.count name - 1 := by
  induction names generalizing seen with
  | nil => simp [duplicates]
  | cons first names ih =>
    rw [duplicates]
    split
    next hseen =>
      rw [List.count_cons, ih, List.count_cons]
      by_cases hname : first = name
      · subst hname
        simp [hseen]
      · simp [hname]
    next hseen =>
      rw [ih, List.count_cons]
      by_cases hname : first = name
      · subst hname
        simp [hseen]
      · simp [hname, Ne.symm hname]

theorem of_mem_duplicates {kind : Section} {seen names : List String} (h : f ∈ duplicates kind seen names) :
    ∃ name, f = duplicateName kind name := by
  induction names generalizing seen with
  | nil => cases h
  | cons first names ih =>
    rw [duplicates] at h
    split at h
    next =>
      rcases List.mem_cons.mp h with rfl | h
      · exact ⟨first, rfl⟩
      · exact ih h
    next => exact ih h

@[simp] theorem count_duplicates_other {kind : Section} (h : ∀ name, f ≠ duplicateName kind name)
    (names : List String) : (duplicates kind [] names).count f = 0 := by
  refine List.count_eq_zero.mpr fun hmem => ?_
  obtain ⟨name, rfl⟩ := of_mem_duplicates hmem
  exact h name rfl

theorem count_unknown (kind : Section) (owner name reference : String) (known references : List String) :
    (unknown kind owner known references).count (unknownReference kind name reference) =
      if owner = name ∧ reference ∉ known then references.count reference else 0 := by
  have hinjective : Function.Injective (unknownReference kind owner) := fun a b h => by cases h; rfl
  by_cases howner : owner = name
  · subst howner
    rw [unknown, List.count_map_of_injective _ _ hinjective]
    by_cases hknown : reference ∈ known
    · rw [if_neg (by simpa using hknown)]
      exact List.count_eq_zero.mpr (by simp [hknown])
    · rw [if_pos ⟨rfl, hknown⟩]
      exact List.count_filter (by simpa using hknown)
  · rw [if_neg fun h => howner h.1]
    refine List.count_eq_zero.mpr fun hmem => ?_
    obtain ⟨other, -, heq⟩ := List.mem_map.mp hmem
    cases heq
    exact howner rfl

theorem count_ofCheck (place : CheckPlace) (check : HealthCheck) (f : Fault) :
    (ofCheck place check).count f =
      match f with
      | zeroDuration p field => if p = place ∧ check.duration field = 0 then 1 else 0
      | _ => 0 := by
  rw [ofCheck, List.count_append, count_faultIf, count_faultIf]
  cases f with
  | zeroDuration p field => cases field <;> simp [HealthCheck.duration, and_comm, eq_comm]
  | _ => simp

end Fault

/-! ## Sections -/

namespace Config

open Fault

variable (config : Config) {f : Fault}

/-- The references of the records of a kind that lead nowhere. -/
def strays (kind : Section) : List Fault :=
  (config.lists kind).flatMap fun r => unknown kind r.1 (config.names kind.target) r.2

theorem count_strays (kind : Section) (name reference : String) :
    (config.strays kind).count (unknownReference kind name reference) =
      if reference ∈ config.names kind.target then 0 else (config.references kind name).count reference := by
  rw [strays, references]
  induction config.lists kind with
  | nil => simp
  | cons r lists ih =>
    rw [List.flatMap_cons, List.count_append, ih, count_unknown]
    by_cases hknown : reference ∈ config.names kind.target <;> by_cases hname : r.1 = name <;>
      simp [hknown, hname]

@[simp] theorem count_strays_other {kind : Section}
    (h : ∀ name reference, f ≠ unknownReference kind name reference) : (config.strays kind).count f = 0 := by
  refine List.count_eq_zero.mpr fun hmem => ?_
  obtain ⟨r, -, hmem⟩ := List.mem_flatMap.mp hmem
  obtain ⟨reference, -, rfl⟩ := List.mem_map.mp hmem
  exact h _ reference rfl

theorem count_listeners (f : Fault) :
    (config.listeners.flatMap (ofListener config)).count f =
      (config.listeners.countP fun l =>
        !Address.isValid l.bindAddress ∧ invalidBindAddress l.name l.bindAddress = f) +
        (config.strays .listener).count f := by
  rw [strays, lists, List.flatMap_map, ← count_flatMap_faultIf, ← count_flatMap_append]
  rfl

theorem count_routes (f : Fault) :
    (config.routes.flatMap (ofRoute config)).count f =
      (config.routes.countP fun r => r.backends.isEmpty ∧ emptyList .route r.name = f) +
        (config.routes.countP fun r =>
          (1 < r.backends.length && r.adapter.isNone) ∧ missingAdapter r.name r.backends.length = f) +
        (config.strays .route).count f := by
  rw [strays, lists, List.flatMap_map, ← count_flatMap_faultIf, ← count_flatMap_faultIf, ← count_flatMap_append,
    ← count_flatMap_append]
  rfl

theorem count_backends (f : Fault) :
    (config.backends.flatMap (ofBackend config)).count f =
      (config.backends.countP fun b => b.servers.isEmpty ∧ emptyList .backend b.name = f) +
        (config.strays .backend).count f := by
  rw [strays, lists, List.flatMap_map, ← count_flatMap_faultIf, ← count_flatMap_append]
  rfl

/-- What is wrong with the checks that servers have of their own. -/
def ownChecks : List Fault := config.servers.flatMap fun s => (s.healthCheck.map (ofCheck (.server s.name))).getD []

theorem count_ownChecks (name : String) (field : CheckField) :
    config.ownChecks.count (zeroDuration (.server name) field) =
      config.servers.countP fun s => s.name = name ∧ ∃ check ∈ s.healthCheck, check.duration field = 0 := by
  refine count_flatMap_eq_countP _ fun s => ?_
  cases s.healthCheck with
  | none => simp
  | some check => simp [count_ofCheck, eq_comm]

@[simp] theorem count_ownChecks_other (h : ∀ name field, f ≠ zeroDuration (.server name) field) :
    config.ownChecks.count f = 0 := by
  refine List.count_eq_zero.mpr fun hmem => ?_
  obtain ⟨s, -, hmem⟩ := List.mem_flatMap.mp hmem
  cases hcheck : s.healthCheck with
  | none => simp [hcheck] at hmem
  | some check =>
    rw [hcheck, Option.map_some, Option.getD_some, ← List.count_pos_iff, count_ofCheck] at hmem
    cases f with
    | zeroDuration place field =>
      simp only at hmem
      split at hmem
      next hplace => exact h s.name field (by rw [hplace.1])
      next => cases hmem
    | _ => cases hmem

theorem count_servers (f : Fault) :
    (config.servers.flatMap ofServer).count f =
      (config.servers.countP fun s => !Address.isValid s.address ∧ invalidServerAddress s.name s.address = f) +
        config.ownChecks.count f := by
  rw [ownChecks, ← count_flatMap_faultIf, ← count_flatMap_append]
  rfl

/-! ## All faults -/

theorem count_faults (f : Fault) : config.faults.count f = config.breaches f := by
  simp only [faults, List.count_append, count_listeners, count_routes, count_backends, count_servers, count_ofCheck]
  -- Each fault can only be told by the part that looks for it. The other parts give none.
  cases f with
  | duplicateName kind name => cases kind <;> simp [breaches, names, count_duplicates]
  | unknownReference kind name reference => cases kind <;> simp [breaches, lists, references, count_strays]
  | invalidServerAddress server address => simp [breaches]
  | invalidBindAddress listener address => simp [breaches]
  | zeroDuration place field => cases place <;> simp [breaches, count_ownChecks]
  | missingAdapter route count => simp [breaches]
  | emptyList kind name => cases kind <;> simp [breaches]

/-- Sound configurations are accepted, and of others each breach is told, as often as it is made. -/
structure Judged : Prop where
  accepted : config.faults = [] ↔ config.Sound
  counted : ∀ f, config.faults.count f = config.breaches f

theorem faults_judged : Judged config := ⟨faults_eq_nil, config.count_faults⟩

example :
    faults { backends := [{ name := "b", servers := ["s", "s"] }, { name := "b", servers := [] }] } =
      [duplicateName .backend "b", unknownReference .backend "b" "s", unknownReference .backend "b" "s",
        emptyList .backend "b"] := by decide

end Config

end ReverseProxy
