import Mathlib.Data.List.Perm.Basic
import ReverseProxy.Proofs.Balance.Address
import ReverseProxy.Proofs.Balance.Priority

/-! # What a balancer that prefers near servers is built from -/

open scoped List

namespace ReverseProxy

/-! ## One rotation -/

theorem Pool.ofServers_eq {backend : String} {servers : List Server} {pool : Pool}
    (h : Pool.ofServers backend servers = .ok pool) :
    pool.backend = backend ∧ pool.ring = servers.map fun s => { server := s } := by
  unfold Pool.ofServers at h
  split at h
  · cases h
  · cases servers with
    | nil => cases h
    | cons server rest =>
      cases h
      exact ⟨rfl, rfl⟩

theorem Pool.ofServers_servers {backend : String} {servers : List Server} {pool : Pool}
    (h : Pool.ofServers backend servers = .ok pool) : pool.servers = servers := by
  rw [Pool.servers, (Pool.ofServers_eq h).2, List.map_map]
  exact List.map_id servers

theorem Pool.exists_ofServers {backend : String} {servers : List Server} (hname : backend ≠ "")
    (hne : servers ≠ []) : ∃ pool, Pool.ofServers backend servers = .ok pool := by
  unfold Pool.ofServers
  rw [if_neg hname]
  cases servers with
  | nil => exact absurd rfl hne
  | cons server rest => exact ⟨_, rfl⟩

/-! ## The two sides -/

namespace Tandem

def nears (this : String) (servers : List Server) : List Server :=
  servers.filter fun s => isNear this s.address

def fars (this : String) (servers : List Server) : List Server :=
  servers.filter fun s => !isNear this s.address

/-- Two rotations, each built like any other from the servers of its side. -/
def ofServers (backend this : String) (servers : List Server) : Tandem where
  backend
  this
  near := (Pool.ofServers backend (nears this servers)).toOption
  far := (Pool.ofServers backend (fars this servers)).toOption

theorem isNear_of_parse {this text : String} {a : Address} (h : Address.parse text = .ok a) :
    isNear this text = Locality.isLocal a.host this := by
  rw [isNear, h]

theorem divide_eq {this : String} {servers : List Server}
    (hvalid : ∀ s ∈ servers, Address.isValid s.address) :
    Balancer.divide this servers = .ok (nears this servers, fars this servers) := by
  induction servers with
  | nil => rfl
  | cons s servers ih =>
    obtain ⟨a, ha⟩ := Address.exists_parse (hvalid s List.mem_cons_self)
    have hrest := ih fun s' hs' => hvalid s' (List.mem_cons_of_mem s hs')
    have hnear : isNear this s.address = Locality.isLocal a.host this := isNear_of_parse ha
    rw [Balancer.divide, ha, hrest]
    cases hlocal : Locality.isLocal a.host this <;> rw [hlocal] at hnear
    · simp only [nears, fars, List.filter_cons, hnear, hlocal, bind, Except.bind]
      rfl
    · simp only [nears, fars, List.filter_cons, hnear, hlocal, bind, Except.bind]
      rfl

theorem poolOf_eq {backend : String} (servers : List Server) (hname : backend ≠ "") :
    Balancer.poolOf backend servers = .ok (Pool.ofServers backend servers).toOption := by
  unfold Balancer.poolOf
  cases servers with
  | nil => rw [Pool.ofServers, if_neg hname]; rfl
  | cons s servers =>
    obtain ⟨pool, hpool⟩ := Pool.exists_ofServers hname (List.cons_ne_nil s servers)
    rw [hpool]
    rfl

theorem build_eq {backend this : String} {servers : List Server} (hname : backend ≠ "")
    (hne : servers ≠ []) (hvalid : ∀ s ∈ servers, Address.isValid s.address) :
    Balancer.build .preferLocal backend servers this = .ok (ofServers backend this servers).balancer := by
  have hsome : ¬servers.isEmpty := by simpa using hne
  rw [Balancer.build, Balancer.preferringLocal, if_neg hname, if_neg hsome, divide_eq hvalid]
  simp only [bind, Except.bind, poolOf_eq _ hname]
  rfl

/-- A side has just the endpoints for its servers, also if there are none. -/
theorem side_ring {backend : String} (servers : List Server) (hname : backend ≠ "") :
    (Pool.ofServers backend servers).toOption.elim [] (·.ring) = servers.map fun s => { server := s } := by
  cases servers with
  | nil => rw [Pool.ofServers, if_neg hname]; rfl
  | cons s servers =>
    obtain ⟨pool, hpool⟩ := Pool.exists_ofServers hname (List.cons_ne_nil s servers)
    rw [hpool]
    exact (Pool.ofServers_eq hpool).2

theorem side_keeps {backend : String} {own : String → Prop} {servers : List Server}
    (hown : ∀ s ∈ servers, own s.address) :
    Keeps backend own (Pool.ofServers backend servers).toOption := by
  intro pool hpool
  cases hbuilt : Pool.ofServers backend servers with
  | error e => simp [hbuilt, Except.toOption] at hpool
  | ok built =>
    rw [hbuilt] at hpool
    cases hpool
    refine ⟨(Pool.ofServers_eq hbuilt).1, ?_⟩
    intro a ha
    rw [Pool.addresses, Pool.ofServers_servers hbuilt] at ha
    obtain ⟨s, hs, rfl⟩ := List.mem_map.mp ha
    exact hown s hs

theorem ofServers_sorted (backend this : String) (servers : List Server) :
    (ofServers backend this servers).Sorted := by
  constructor
  · apply side_keeps
    intro s hs
    exact (List.mem_filter.mp hs).2
  · apply side_keeps
    intro s hs
    exact (Bool.not_eq_true' _).mp (List.mem_filter.mp hs).2

/-! ## Runs of what was built -/

theorem endpoints_servers (t : Tandem) :
    t.endpoints.map (·.server) = t.near.elim [] Pool.servers ++ t.far.elim [] Pool.servers := by
  obtain ⟨backend, this, near, far⟩ := t
  rw [endpoints, List.map_append]
  cases near <;> cases far <;> rfl

theorem stepIn_servers (backend : String) (op : Operation) (side : Option Pool) :
    (Pool.stepIn backend op side).2.elim [] Pool.servers = side.elim [] Pool.servers := by
  cases side with
  | none => rfl
  | some pool => exact pool.step_servers op

theorem step_servers (op : Operation) (t : Tandem) :
    (t.step op).2.endpoints.map (·.server) = t.endpoints.map (·.server) := by
  rcases step_cases op t with hsame | ⟨op', hnear | hfar⟩
  · rw [hsame]
  · rw [hnear, endpoints_servers, endpoints_servers, onNear, stepIn_servers]
  · rw [hfar, endpoints_servers, endpoints_servers, onFar, stepIn_servers]

theorem run_servers (ops : List Operation) (t : Tandem) :
    (t.run ops).2.endpoints.map (·.server) = t.endpoints.map (·.server) :=
  @Operation.run_keeps _ step (·.endpoints.map (·.server) = t.endpoints.map (·.server))
    (fun op other h => (step_servers op other).trans h) ops t rfl

theorem Sorted.run {t : Tandem} (h : t.Sorted) (ops : List Operation) : (t.run ops).2.Sorted :=
  Operation.run_keeps (fun op _ hother => hother.step op) ops h

/-- A selection is one of the near rotation, or one of the far rotation, or moves nothing. -/
structure Chooses (t : Tandem) : Prop where
  near : ∀ pool ∈ t.near, pool.anyUp → ∃ a, pool.select.1 = .ok a ∧
    t.balancer.select = (.ok a, .preferLocal t.backend (some pool.select.2) t.far)
  far : ¬t.near.any Pool.anyUp → ∀ pool ∈ t.far, pool.anyUp → ∃ a, pool.select.1 = .ok a ∧
    t.balancer.select = (.ok a, .preferLocal t.backend t.near (some pool.select.2))
  nowhere : ¬t.near.any Pool.anyUp → ¬t.far.any Pool.anyUp →
    t.balancer.select = (.error (.noHealthyEndpoint t.backend), t.balancer)

theorem Sorted.chooses {t : Tandem} (h : t.Sorted) : t.Chooses := by
  have hselect : ∀ {result next}, t.step .select = (.selected result, next) →
      t.balancer.select = (result, next.balancer) := by
    intro result next hstep
    have heq := select_eq h
    rw [hstep, Balancer.step] at heq
    injection heq with hresult hnext
    injection hresult with hresult
    exact Prod.ext hresult hnext
  refine ⟨?_, ?_, ?_⟩
  · intro pool hpool hup
    obtain ⟨a, ha⟩ := Pool.select_of_anyUp hup
    have hany : t.near.any Pool.anyUp := by rwa [Option.mem_def.mp hpool]
    have hstep : t.step .select = (.selected (.ok a), { t with near := some pool.select.2 }) := by
      rw [Tandem.step, if_pos hany, Tandem.onNear, Option.mem_def.mp hpool, Pool.stepIn, Pool.step, ha]
    exact ⟨a, ha, hselect hstep⟩
  · intro hdown pool hpool hup
    obtain ⟨a, ha⟩ := Pool.select_of_anyUp hup
    have hany : t.far.any Pool.anyUp := by rwa [Option.mem_def.mp hpool]
    have hstep : t.step .select = (.selected (.ok a), { t with far := some pool.select.2 }) := by
      rw [Tandem.step, if_neg hdown, if_pos hany, Tandem.onFar, Option.mem_def.mp hpool, Pool.stepIn, Pool.step,
        ha]
    exact ⟨a, ha, hselect hstep⟩
  · intro hnear hfar
    apply hselect
    rw [Tandem.step, if_neg hnear, if_neg hfar]

end Tandem

/-! ## Near servers first -/

namespace Balancer

open Tandem

@[simp] theorem build_unnamed (policy : Policy) (servers : List Server) (this : String) :
    build policy "" servers this = .error .emptyBackendName := by
  cases policy <;> rfl

theorem exists_build {backend : String} {servers : List Server} (policy : Policy) (this : String)
    (hname : backend ≠ "") (hne : servers ≠ []) (hvalid : ∀ s ∈ servers, Address.isValid s.address) :
    ∃ b, build policy backend servers this = .ok b := by
  cases policy with
  | roundRobin =>
    obtain ⟨pool, hpool⟩ := Pool.exists_ofServers hname hne
    exact ⟨.roundRobin pool, by rw [build, hpool]; rfl⟩
  | preferLocal => exact ⟨_, build_eq hname hne hvalid⟩

/-- A balancer over servers does what a near rotation and a far one do, and keeps them apart. -/
structure NearFirst (backend this : String) (servers : List Server) (b : Balancer) : Prop where
  /-- No server is lost, and none comes twice. -/
  whole : (nears this servers ++ fars this servers).Perm servers
  nears_order : nears this servers <+ servers
  fars_order : fars this servers <+ servers
  apart : ∀ s ∈ nears this servers, ∀ s' ∈ fars this servers, s.address ≠ s'.address
  fresh : b.endpoints = (nears this servers ++ fars this servers).map fun s => { server := s }
  /-- Everybody is told the same, and what is left stays the same. -/
  same : ∀ ops, b.run ops =
    (((Tandem.ofServers backend this servers).run ops).1,
      ((Tandem.ofServers backend this servers).run ops).2.balancer)
  /-- Later on as well, a selection moves one rotation at most, and the near one if that can serve. -/
  chooses : ∀ ops, ((Tandem.ofServers backend this servers).run ops).2.Chooses
  lists : ∀ ops, (b.run ops).2.endpoints.map (·.server) = nears this servers ++ fars this servers

theorem ofServers_endpoints {backend : String} (this : String) (servers : List Server)
    (hname : backend ≠ "") :
    (Tandem.ofServers backend this servers).endpoints =
      (nears this servers ++ fars this servers).map fun s => { server := s } := by
  rw [List.map_append, ← side_ring (nears this servers) hname, ← side_ring (fars this servers) hname]
  rfl

theorem build_nearFirst {backend this : String} {servers : List Server} (hname : backend ≠ "")
    (hne : servers ≠ []) (hvalid : ∀ s ∈ servers, Address.isValid s.address) :
    ∃ b, build .preferLocal backend servers this = .ok b ∧ NearFirst backend this servers b := by
  have hsorted := ofServers_sorted backend this servers
  have hfresh := ofServers_endpoints this servers hname
  refine ⟨_, build_eq hname hne hvalid, ?_⟩
  constructor
  case whole => exact List.filter_append_perm _ servers
  case nears_order => exact List.filter_sublist
  case fars_order => exact List.filter_sublist
  case apart =>
    intro s hs s' hs' haddress
    have hnear := (List.mem_filter.mp hs).2
    have hfar := (List.mem_filter.mp hs').2
    rw [haddress] at hnear
    simp [hnear] at hfar
  case fresh => rw [balancer_endpoints, hfresh]
  case same => exact fun ops => run_eq hsorted ops
  case chooses => exact fun ops => (hsorted.run ops).chooses
  case lists =>
    intro ops
    rw [run_eq hsorted ops, balancer_endpoints, run_servers, hfresh, List.map_map]
    exact List.map_id _

/-- Two servers here and two elsewhere, one of them twice. -/
def mixed : List Server := [
  { name := "s1", address := "10.0.0.2:80" },
  { name := "s2", address := "gw.example:80" },
  { name := "s3", address := "10.0.0.2:80" },
  { name := "s4", address := "localhost:81" }]

theorem build_nearFirst_mixed :
    ("be" ≠ "" ∧ mixed ≠ [] ∧ ∀ s ∈ mixed, Address.isValid s.address) ∧
      ∃ b, build .preferLocal "be" mixed "gw" = .ok b ∧ NearFirst "be" "gw" mixed b :=
  ⟨by decide, build_nearFirst (by decide) (by decide) (by decide)⟩

end Balancer

end ReverseProxy
