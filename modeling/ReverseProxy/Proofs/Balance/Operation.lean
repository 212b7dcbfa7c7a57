import ReverseProxy.Balance.Balancer

/-! # Operations on pools and balancers -/

namespace ReverseProxy

/-- What is done to a pool or a balancer. -/
inductive Operation where
  | select
  | mark (address : String) (up : Bool)
  /-- A probe of the endpoint at a position ends. -/
  | verdict (position : Nat) (up : Bool)
  | list

inductive Answer where
  | selected (result : Except BalanceError String)
  | marked (result : Except BalanceError Unit)
  | noted
  | listed (endpoints : List (String × Bool))

def Answer.selection? : Answer → Option (Except BalanceError String)
  | selected result => some result
  | _ => none

namespace Operation

def run {σ : Type} (step : Operation → σ → Answer × σ) : List Operation → σ → List Answer × σ
  | [], s => ([], s)
  | op :: ops, s =>
    let first := step op s
    let rest := run step ops first.2
    (first.1 :: rest.1, rest.2)

/-- A mark that is refused changes nothing. -/
def marking {σ : Type} (s : σ) : Except BalanceError σ → Answer × σ
  | .ok next => (.marked (.ok ()), next)
  | .error e => (.marked (.error e), s)

@[simp] theorem run_cons {σ : Type} (step : Operation → σ → Answer × σ) (op : Operation)
    (ops : List Operation) (s : σ) :
    run step (op :: ops) s =
      ((step op s).1 :: (run step ops (step op s).2).1, (run step ops (step op s).2).2) := rfl

section Run

variable {σ τ : Type} {step : Operation → σ → Answer × σ}

theorem run_keeps {P : σ → Prop} (hstep : ∀ op s, P s → P (step op s).2) (ops : List Operation) {s : σ}
    (h : P s) : P (run step ops s).2 := by
  induction ops generalizing s with
  | nil => exact h
  | cons op ops ih => exact ih (hstep op s h)

/-- Where every operation is told the same and stays in a relation, so does a run. -/
theorem run_simulates {step' : Operation → τ → Answer × τ} {R : σ → τ → Prop}
    (hstep : ∀ op s t, R s t → (step op s).1 = (step' op t).1 ∧ R (step op s).2 (step' op t).2)
    (ops : List Operation) {s : σ} {t : τ} (h : R s t) :
    (run step ops s).1 = (run step' ops t).1 ∧ R (run step ops s).2 (run step' ops t).2 := by
  induction ops generalizing s t with
  | nil => exact ⟨rfl, h⟩
  | cons op ops ih =>
    obtain ⟨hanswer, hnext⟩ := hstep op s t h
    obtain ⟨hanswers, hlast⟩ := ih hnext
    exact ⟨List.cons_eq_cons.mpr ⟨hanswer, hanswers⟩, hlast⟩

end Run

end Operation

namespace Endpoint

def listing (endpoints : List Endpoint) : List (String × Bool) := endpoints.map fun e => (e.address, e.up)

def write (endpoints : List Endpoint) (q : Nat) (up : Bool) : List Endpoint :=
  endpoints.modify q fun e => (e.mark up).2

theorem write_servers (endpoints : List Endpoint) (q : Nat) (up : Bool) :
    (write endpoints q up).map (·.server) = endpoints.map (·.server) := by
  apply List.ext_getElem?
  intro i
  simp only [write, List.getElem?_map, List.getElem?_modify, Option.map_eq_map, Option.map_map]
  split <;> rfl

end Endpoint

namespace Pool

def step (op : Operation) (pool : Pool) : Answer × Pool :=
  match op with
  | .select => (.selected pool.select.1, pool.select.2)
  | .mark address up => Operation.marking pool (pool.mark address up)
  | .verdict position up => (.noted, pool.write position up)
  | .list => (.listed (Endpoint.listing pool.ring), pool)

def run : List Operation → Pool → List Answer × Pool := Operation.run step

@[simp] theorem write_length (pool : Pool) (q : Nat) (up : Bool) :
    (pool.write q up).ring.length = pool.ring.length := by
  simp [write]

@[simp] theorem write_cursor (pool : Pool) (q : Nat) (up : Bool) :
    (pool.write q up).cursor = pool.cursor := rfl

def servers (pool : Pool) : List Server := pool.ring.map (·.server)

@[simp] theorem write_servers (pool : Pool) (q : Nat) (up : Bool) :
    (pool.write q up).servers = pool.servers :=
  Endpoint.write_servers pool.ring q up

def addresses (pool : Pool) : List String := pool.servers.map (·.address)

theorem mark_of_error {pool : Pool} {address : String} {e : BalanceError} (up : Bool)
    (h : Address.parse address = .error e) : pool.mark address up = .error e := by
  rw [mark, h]
  rfl

theorem mark_of_ok {pool : Pool} {address : String} {a : Address} (up : Bool)
    (h : Address.parse address = .ok a) :
    pool.mark address up =
      match pool.position? address with
      | some q => .ok (pool.write q up)
      | none => .error (.unknownEndpoint pool.backend address) := by
  rw [mark, h]
  cases pool.position? address <;> rfl

theorem position?_eq_none {pool : Pool} {address : String} :
    pool.position? address = none ↔ address ∉ pool.addresses := by
  rw [position?, List.findIdx?_eq_none_iff]
  simp only [addresses, servers, List.map_map, List.mem_map, not_exists, not_and]
  exact forall₂_congr fun _ _ => decide_eq_false_iff_not

/-- A mark is a verdict on the first endpoint with its address. -/
theorem mark_eq {pool next : Pool} {address : String} {up : Bool}
    (h : pool.mark address up = .ok next) :
    ∃ q, pool.position? address = some q ∧ next = pool.write q up := by
  simp only [mark, bind, Except.bind] at h
  split at h
  · cases h
  · split at h
    next q hq =>
      cases h
      exact ⟨q, hq, rfl⟩
    next => cases h

theorem step_cases {op : Operation} (pool : Pool) (hop : op ≠ .select) :
    (pool.step op).2 = pool ∨ ∃ q up, (pool.step op).2 = pool.write q up := by
  cases op with
  | select => exact absurd rfl hop
  | mark address up =>
    simp only [step]
    cases h : pool.mark address up with
    | error e => exact Or.inl rfl
    | ok next =>
      obtain ⟨q, -, rfl⟩ := mark_eq h
      exact Or.inr ⟨q, up, rfl⟩
  | verdict q up => exact Or.inr ⟨q, up, rfl⟩
  | list => exact Or.inl rfl

theorem step_selection? {op : Operation} (pool : Pool) (hop : op ≠ .select) :
    (pool.step op).1.selection? = none := by
  cases op with
  | select => exact absurd rfl hop
  | mark address up =>
    rw [step]
    cases pool.mark address up <;> rfl
  | verdict q up => rfl
  | list => rfl

theorem step_backend (op : Operation) (pool : Pool) : (pool.step op).2.backend = pool.backend := by
  by_cases hop : op = .select
  · rw [hop]; rfl
  · rcases step_cases pool hop with h | ⟨q, up, h⟩
    · rw [h]
    · rw [h]; rfl

theorem step_servers (op : Operation) (pool : Pool) : (pool.step op).2.servers = pool.servers := by
  by_cases hop : op = .select
  · rw [hop]; rfl
  · rcases step_cases pool hop with h | ⟨q, up, h⟩
    · rw [h]
    · rw [h, write_servers]

theorem step_addresses (op : Operation) (pool : Pool) :
    (pool.step op).2.addresses = pool.addresses := by
  rw [addresses, step_servers, addresses]

theorem step_length (op : Operation) (pool : Pool) :
    (pool.step op).2.ring.length = pool.ring.length := by
  simpa [servers] using congrArg List.length (pool.step_servers op)

theorem run_backend (ops : List Operation) (pool : Pool) : (pool.run ops).2.backend = pool.backend :=
  @Operation.run_keeps _ step (·.backend = pool.backend) (fun op p hp => (p.step_backend op).trans hp) ops pool rfl

theorem run_servers (ops : List Operation) (pool : Pool) : (pool.run ops).2.servers = pool.servers :=
  @Operation.run_keeps _ step (·.servers = pool.servers) (fun op p hp => (p.step_servers op).trans hp) ops pool rfl

end Pool

namespace Balancer

def step (op : Operation) (b : Balancer) : Answer × Balancer :=
  match op with
  | .select => (.selected b.select.1, b.select.2)
  | .mark address up => Operation.marking b (b.mark address up)
  | .verdict position up => (.noted, b.write position up)
  | .list => (.listed (Endpoint.listing b.endpoints), b)

def run : List Operation → Balancer → List Answer × Balancer := Operation.run step

section PreferLocal

variable (backend : String) (near far : Option Pool)

theorem endpoints_preferLocal :
    (preferLocal backend near far).endpoints = near.elim [] (·.ring) ++ far.elim [] (·.ring) := by
  cases near <;> cases far <;> simp [endpoints, pools]

theorem write_preferLocal (q : Nat) (up : Bool) :
    (preferLocal backend near far).write q up =
      if q < (near.elim [] (·.ring)).length then preferLocal backend (near.map (·.write q up)) far
      else preferLocal backend near (far.map (·.write (q - (near.elim [] (·.ring)).length) up)) := by
  cases near <;> rfl

end PreferLocal

end Balancer

end ReverseProxy
