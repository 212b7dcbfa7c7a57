import Mathlib.Data.List.Count
import ReverseProxy.Proofs.Balance.Division
import ReverseProxy.Proofs.Except

/-! # What a mark does, and for how long -/

namespace ReverseProxy

/-! ## Flags by address -/

namespace Endpoint

def flag? (endpoints : List Endpoint) (address : String) : Option Bool :=
  (endpoints.find? (·.address = address)).map (·.up)

def position? (endpoints : List Endpoint) (address : String) : Option Nat :=
  endpoints.findIdx? (·.address = address)

theorem write_append (near far : List Endpoint) (q : Nat) (up : Bool) :
    write (near ++ far) q up =
      if q < near.length then write near q up ++ far else near ++ write far (q - near.length) up := by
  unfold write
  induction near generalizing q with
  | nil => simp
  | cons e near ih =>
    cases q with
    | zero => simp
    | succ q => by_cases hq : q < near.length <;> simp [ih, hq]

theorem position?_append (near far : List Endpoint) (address : String) :
    position? (near ++ far) address =
      (position? near address).or ((position? far address).map (· + near.length)) :=
  List.findIdx?_append

theorem write_addresses (endpoints : List Endpoint) (q : Nat) (up : Bool) :
    (write endpoints q up).map (·.address) = endpoints.map (·.address) := by
  have hservers := congrArg (List.map Server.address) (write_servers endpoints q up)
  rw [List.map_map, List.map_map] at hservers
  exact hservers

/-- A flag that is written where an address stands first is the flag of the address. -/
theorem flag?_write (endpoints : List Endpoint) (q : Nat) (up : Bool) (address : String) :
    flag? (write endpoints q up) address =
      if position? endpoints address = some q then some up else flag? endpoints address := by
  unfold flag? position? write
  induction endpoints generalizing q with
  | nil => simp
  | cons e endpoints ih =>
    have hmark : (e.mark up).2.address = e.address := rfl
    by_cases he : e.address = address
    · cases q with
      | zero =>
        rw [List.modify_zero_cons, List.find?_cons_of_pos (by simpa [hmark] using he)]
        simp [List.findIdx?_cons, he, mark]
      | succ q => simp [List.findIdx?_cons, he]
    · cases q with
      | zero => simp [List.findIdx?_cons, hmark, he]
      | succ q => simp [List.findIdx?_cons, he, ih]

theorem address_of_position? {endpoints : List Endpoint} {address : String} {q : Nat}
    (h : position? endpoints address = some q) : (endpoints.map (·.address))[q]? = some address := by
  obtain ⟨hlt, haddress, -⟩ := List.findIdx?_eq_some_iff_getElem.mp h
  rw [List.getElem?_map, List.getElem?_eq_getElem hlt]
  simpa using haddress

theorem up_of_flag? {endpoints : List Endpoint} {address : String} {up : Bool}
    (hone : (endpoints.map (·.address)).count address ≤ 1) (h : flag? endpoints address = some up)
    {e : Endpoint} (he : e ∈ endpoints) (haddress : e.address = address) : e.up = up := by
  induction endpoints with
  | nil => cases he
  | cons first endpoints ih =>
    rw [List.map_cons, List.count_cons] at hone
    by_cases hfirst : first.address = address
    · have hnone : address ∉ endpoints.map (·.address) := by
        rw [if_pos (by simpa using hfirst)] at hone
        exact List.count_eq_zero.mp (by omega)
      have hup : first.up = up := by simpa [flag?, hfirst] using h
      rcases List.mem_cons.mp he with rfl | he
      · exact hup
      · exact absurd (List.mem_map.mpr ⟨e, he, haddress⟩) hnone
    · rcases List.mem_cons.mp he with rfl | he
      · exact absurd haddress hfirst
      · refine ih (by simpa [hfirst] using hone) ?_ he
        simpa [flag?, hfirst] using h

end Endpoint

/-! ## Operations on balancers -/

theorem Pool.select_ok {pool : Pool} {a : String} (h : pool.select.1 = .ok a) :
    ∃ e ∈ pool.ring, e.up ∧ e.address = a := by
  rcases pick_cases pool with ⟨_, q, _, e, -, -, hget, hup, hpick⟩ | ⟨-, hpick⟩
  · rw [select, hpick] at h
    cases h
    exact ⟨e, List.mem_of_getElem? hget, hup, rfl⟩
  · rw [select, hpick] at h
    cases h

namespace Balancer

open Endpoint

def addresses (b : Balancer) : List String := b.endpoints.map (·.address)

theorem write_endpoints (b : Balancer) (q : Nat) (up : Bool) :
    (b.write q up).endpoints = Endpoint.write b.endpoints q up := by
  cases b with
  | roundRobin pool => simp [write, endpoints, pools, Pool.write, Endpoint.write]
  | preferLocal backend near far =>
    rw [write_preferLocal, endpoints_preferLocal, write_append]
    split
    · rw [endpoints_preferLocal]
      cases near <;> simp [Endpoint.write, Pool.write]
    · rw [endpoints_preferLocal]
      cases far <;> simp [Endpoint.write, Pool.write]

theorem markIn_eq {side next : Option Pool} {address : String} {up : Bool}
    (h : markIn side address up = some next) :
    ∃ pool q, side = some pool ∧ pool.position? address = some q ∧ next = some (pool.write q up) := by
  cases side with
  | none => cases h
  | some pool =>
    cases hpool : pool.mark address up with
    | error e =>
      rw [markIn, hpool] at h
      cases h
    | ok marked =>
      rw [markIn, hpool] at h
      cases h
      obtain ⟨q, hq, rfl⟩ := Pool.mark_eq hpool
      exact ⟨pool, q, rfl, hq, rfl⟩

theorem position?_of_markIn {side : Option Pool} {address : String} {a : Address} {up : Bool}
    (ha : Address.parse address = .ok a) (h : markIn side address up = none) :
    position? (side.elim [] (·.ring)) address = none := by
  cases side with
  | none => rfl
  | some pool =>
    rw [markIn, Pool.mark_of_ok up ha] at h
    cases hq : pool.position? address with
    | none => exact hq
    | some q =>
      rw [hq] at h
      cases h

theorem mark_eq {b next : Balancer} {address : String} {up : Bool} (h : b.mark address up = .ok next) :
    ∃ q, position? b.endpoints address = some q ∧ next = b.write q up := by
  cases b with
  | roundRobin pool =>
    cases hpool : pool.mark address up with
    | error e =>
      rw [mark, hpool] at h
      cases h
    | ok marked =>
      rw [mark, hpool] at h
      cases h
      obtain ⟨q, hq, rfl⟩ := Pool.mark_eq hpool
      refine ⟨q, ?_, rfl⟩
      rw [endpoints, pools, List.flatMap_singleton]
      exact hq
  | preferLocal backend near far =>
    obtain ⟨parsed, hparse, -⟩ := bind_eq_ok.mp h
    rw [Tandem.mark_preferLocal up hparse] at h
    cases hnear : markIn near address up with
    | some side =>
      rw [hnear] at h
      cases h
      obtain ⟨pool, q, rfl, hq, rfl⟩ := markIn_eq hnear
      have hlt : q < pool.ring.length := (List.findIdx?_eq_some_iff_getElem.mp hq).1
      refine ⟨q, ?_, (if_pos hlt).symm⟩
      rw [endpoints_preferLocal, position?_append, Option.elim_some, position?, ← Pool.position?, hq]
      rfl
    | none =>
      rw [hnear] at h
      cases hfar : markIn far address up with
      | none =>
        rw [hfar] at h
        cases h
      | some side =>
        rw [hfar] at h
        cases h
        obtain ⟨pool, q, rfl, hq, rfl⟩ := markIn_eq hfar
        -- Nobody near has the address, so who is first among the far ones is first of all.
        refine ⟨q + (near.elim [] (·.ring)).length, ?_, ?_⟩
        · rw [endpoints_preferLocal, position?_append, position?_of_markIn hparse hnear, Option.none_or,
            Option.elim_some, position?, ← Pool.position?, hq]
          rfl
        · rw [write_preferLocal, if_neg (by omega), Nat.add_sub_cancel]
          rfl

/-- A selection writes no flag, and tells the address of somebody on a ring who is up. -/
structure Selects (b : Balancer) (ring : List Endpoint) (found : Except BalanceError String × Balancer) :
    Prop where
  same : found.2.endpoints = b.endpoints
  up : ∀ a, found.1 = .ok a → ∃ e ∈ ring, e.up ∧ e.address = a

theorem selectFar_spec (backend : String) (near far : Option Pool) :
    Selects (preferLocal backend near far) (far.elim [] (·.ring)) (selectFar backend near far) := by
  cases far with
  | none => exact ⟨rfl, fun a h => nomatch h⟩
  | some pool =>
    constructor
    · rw [endpoints_preferLocal, selectFar, endpoints_preferLocal]
      rfl
    · exact fun a h => Pool.select_ok h

theorem select_spec (b : Balancer) : Selects b b.endpoints b.select := by
  cases b with
  | roundRobin pool =>
    constructor
    · rfl
    · intro a h
      rw [endpoints, pools, List.flatMap_singleton]
      exact Pool.select_ok h
  | preferLocal backend near far =>
    have hfar : ∀ {a}, (selectFar backend near far).1 = .ok a →
        ∃ e ∈ (preferLocal backend near far).endpoints, e.up ∧ e.address = a := by
      intro a h
      obtain ⟨e, he, hup⟩ := (selectFar_spec backend near far).up a h
      exact ⟨e, by rw [endpoints_preferLocal]; exact List.mem_append_right _ he, hup⟩
    cases near with
    | none => exact ⟨(selectFar_spec backend none far).same, fun a h => hfar h⟩
    | some pool =>
      by_cases hup : pool.anyUp
      · obtain ⟨a, ha⟩ := Pool.select_of_anyUp hup
        have hpool : pool.select = (.ok a, pool.select.2) := by rw [← ha]
        rw [select, hpool]
        constructor
        · rw [endpoints_preferLocal, endpoints_preferLocal]
          rfl
        · intro a' h
          cases h
          obtain ⟨e, he, hup⟩ := Pool.select_ok ha
          exact ⟨e, by rw [endpoints_preferLocal]; exact List.mem_append_left _ he, hup⟩
      · rw [select, Pool.select_of_not_anyUp hup]
        exact ⟨(selectFar_spec backend (some pool) far).same, fun a h => hfar h⟩

/-! ## Single steps -/

/-- Only a flag is ever written, and only the one that the operation is about. -/
theorem step_endpoints (op : Operation) (b : Balancer) :
    (b.step op).2.endpoints = b.endpoints ∨
      ∃ q up, (op = .verdict q up ∨
          ∃ address, op = .mark address up ∧ position? b.endpoints address = some q) ∧
        (b.step op).2.endpoints = Endpoint.write b.endpoints q up := by
  cases op with
  | select => exact Or.inl b.select_spec.same
  | mark address up =>
    rw [step]
    cases h : b.mark address up with
    | error e => exact Or.inl rfl
    | ok next =>
      obtain ⟨q, hq, rfl⟩ := mark_eq h
      exact Or.inr ⟨q, up, Or.inr ⟨address, rfl, hq⟩, write_endpoints b q up⟩
  | verdict q up => exact Or.inr ⟨q, up, Or.inl rfl, write_endpoints b q up⟩
  | list => exact Or.inl rfl

theorem step_addresses (op : Operation) (b : Balancer) : (b.step op).2.addresses = b.addresses := by
  rcases step_endpoints op b with h | ⟨q, up, -, h⟩
  · rw [addresses, h, addresses]
  · rw [addresses, h, write_addresses, addresses]

/-! ## What is done against a mark -/

/-- The operation writes the other flag to somebody with the address. -/
def Overrules (addresses : List String) (address : String) (up : Bool) : Operation → Prop
  | .mark a up' => a = address ∧ up' = !up
  | .verdict q up' => addresses[q]? = some address ∧ up' = !up
  | _ => False

theorem step_flag? {op : Operation} {b : Balancer} {address : String} {up : Bool}
    (hop : ¬Overrules b.addresses address up op) (h : flag? b.endpoints address = some up) :
    flag? (b.step op).2.endpoints address = some up := by
  rcases step_endpoints op b with hsame | ⟨q, up', hwho, hwrite⟩
  · rwa [hsame]
  rw [hwrite, flag?_write]
  split
  next hq =>
    -- Whatever writes here is about the address, and so it can only say the same again.
    have haddress := address_of_position? hq
    rcases hwho with rfl | ⟨a, rfl, ha⟩
    · have hup : up' ≠ !up := fun heq => hop ⟨haddress, heq⟩
      simpa using hup
    · have hsame : a = address := Option.some.inj ((address_of_position? ha).symm.trans haddress)
      have hup : up' ≠ !up := fun heq => hop ⟨hsame, heq⟩
      simpa using hup
  next => exact h

theorem run_addresses (ops : List Operation) (b : Balancer) : (b.run ops).2.addresses = b.addresses :=
  @Operation.run_keeps _ step (·.addresses = b.addresses) (fun op other h => (step_addresses op other).trans h)
    ops b rfl

section Later

variable {b : Balancer} {address : String} {up : Bool} {later : List Operation}

theorem run_flag? (hlater : ∀ op ∈ later, ¬Overrules b.addresses address up op)
    (h : flag? b.endpoints address = some up) : flag? (b.run later).2.endpoints address = some up := by
  induction later generalizing b with
  | nil => exact h
  | cons op later ih =>
    obtain ⟨hop, hlater⟩ := List.forall_mem_cons.mp hlater
    rw [← step_addresses op b] at hlater
    exact ih hlater (step_flag? hop h)

theorem step_not_selected (hone : b.addresses.count address ≤ 1) (h : flag? b.endpoints address = some false)
    (op : Operation) : (b.step op).1 ≠ .selected (.ok address) := by
  intro hstep
  cases op with
  | select =>
    obtain ⟨e, he, hup, haddress⟩ := b.select_spec.up address (Answer.selected.inj hstep)
    rw [up_of_flag? hone h he haddress] at hup
    cases hup
  | mark a up =>
    rw [step] at hstep
    cases hmark : b.mark a up with
    | error e => rw [hmark] at hstep; cases hstep
    | ok next => rw [hmark] at hstep; cases hstep
  | verdict q up => cases hstep
  | list => cases hstep

theorem run_not_selected (hone : b.addresses.count address ≤ 1)
    (hlater : ∀ op ∈ later, ¬Overrules b.addresses address false op)
    (h : flag? b.endpoints address = some false) : .selected (.ok address) ∉ (b.run later).1 := by
  induction later generalizing b with
  | nil => exact List.not_mem_nil
  | cons op later ih =>
    obtain ⟨hop, hlater⟩ := List.forall_mem_cons.mp hlater
    have hfirst := step_not_selected hone h op
    rw [← step_addresses op b] at hone hlater
    have hrest := ih hone hlater (step_flag? hop h)
    intro hmem
    rcases List.mem_cons.mp hmem with heq | hmem
    · exact hfirst heq.symm
    · exact hrest hmem

end Later

/-! ## Balancers that were built -/

theorem build_endpoints {policy : Policy} {backend this : String} {servers : List Server} {b : Balancer}
    (hname : backend ≠ "") (hne : servers ≠ []) (hvalid : ∀ s ∈ servers, Address.isValid s.address)
    (h : build policy backend servers this = .ok b) :
    ∃ order : List Server, order.Perm servers ∧ b.endpoints = order.map fun s => { server := s } := by
  cases policy with
  | roundRobin =>
    obtain ⟨pool, hpool⟩ := Pool.exists_ofServers hname hne
    rw [build, hpool] at h
    cases h
    refine ⟨servers, List.Perm.refl _, ?_⟩
    rw [endpoints, pools, List.flatMap_singleton, (Pool.ofServers_eq hpool).2]
  | preferLocal =>
    rw [Tandem.build_eq hname hne hvalid] at h
    cases h
    refine ⟨Tandem.nears this servers ++ Tandem.fars this servers, List.filter_append_perm _ servers, ?_⟩
    rw [Tandem.balancer_endpoints, ofServers_endpoints this servers hname]

theorem build_addresses {policy : Policy} {backend this : String} {servers : List Server} {b : Balancer}
    (hname : backend ≠ "") (hne : servers ≠ []) (hvalid : ∀ s ∈ servers, Address.isValid s.address)
    (h : build policy backend servers this = .ok b) : b.addresses.Perm (servers.map (·.address)) := by
  obtain ⟨order, horder, hendpoints⟩ := build_endpoints hname hne hvalid h
  rw [addresses, hendpoints, List.map_map]
  exact horder.map _

/-- Nothing is done against a mark. -/
def Undisputed (b : Balancer) (address : String) (up : Bool) (later : List Operation) : Prop :=
  ∀ op ∈ later, ¬Overrules b.addresses address up op

/--
A mark reaches the first endpoint with its address and no other one, and it stands until something is
done against it. Only where no two servers have the address does it hold for the address as such.
-/
structure Heeds (servers : List Server) (address : String) (up : Bool) (b next : Balancer) : Prop where
  one : ∃ q, position? b.endpoints address = some q ∧ next = b.write q up
  first : ∀ later, Undisputed next address up later →
    flag? (next.run later).2.endpoints address = some up
  every : (servers.map (·.address)).count address ≤ 1 → ∀ later, Undisputed next address up later →
    ∀ e ∈ (next.run later).2.endpoints, e.address = address → e.up = up
  silent : (servers.map (·.address)).count address ≤ 1 → up = false →
    ∀ later, Undisputed next address up later → .selected (.ok address) ∉ (next.run later).1

theorem build_heeds {backend this : String} {servers : List Server} (policy : Policy) (hname : backend ≠ "")
    (hne : servers ≠ []) (hvalid : ∀ s ∈ servers, Address.isValid s.address) :
    ∃ b, build policy backend servers this = .ok b ∧ ∀ before address up next,
      (b.run before).2.mark address up = .ok next → Heeds servers address up (b.run before).2 next := by
  obtain ⟨b, hb⟩ := exists_build policy this hname hne hvalid
  refine ⟨b, hb, ?_⟩
  intro before address up next hmark
  obtain ⟨q, hq, rfl⟩ := mark_eq hmark
  have hflag : flag? ((b.run before).2.write q up).endpoints address = some up := by
    rw [write_endpoints, flag?_write, if_pos hq]
  have hperm : ((b.run before).2.write q up).addresses.Perm (servers.map (·.address)) := by
    rw [addresses, write_endpoints, write_addresses, ← addresses, run_addresses]
    exact build_addresses hname hne hvalid hb
  constructor
  case one => exact ⟨q, hq, rfl⟩
  case first => exact fun later hlater => run_flag? hlater hflag
  case every =>
    intro hone later hlater e he haddress
    rw [← hperm.count_eq, ← run_addresses later] at hone
    exact up_of_flag? hone (run_flag? hlater hflag) he haddress
  case silent =>
    rintro hone rfl later hlater
    rw [← hperm.count_eq] at hone
    exact run_not_selected hone hlater hflag

def doubled : List Server := [
  { name := "s1", address := "10.0.0.1:80" },
  { name := "s2", address := "10.0.0.1:80" },
  { name := "s3", address := "localhost:80" }]

theorem build_heeds_doubled :
    ("be1" ≠ "" ∧ doubled ≠ [] ∧ ∀ s ∈ doubled, Address.isValid s.address) ∧
      ∃ b, build .preferLocal "be1" doubled "gw" = .ok b ∧ ∀ before address up next,
        (b.run before).2.mark address up = .ok next → Heeds doubled address up (b.run before).2 next :=
  ⟨by decide, build_heeds .preferLocal (by decide) (by decide) (by decide)⟩

/-- The second server stays in the rotation. -/
theorem mark_misses_second :
    ∃ b next, build .roundRobin "be1" doubled "gw" = .ok b ∧ b.mark "10.0.0.1:80" false = .ok next ∧
      Undisputed next "10.0.0.1:80" false [.select] ∧
      .selected (.ok "10.0.0.1:80") ∈ (next.run [.select]).1 := by
  refine ⟨_, _, rfl, rfl, ?_, List.mem_cons_self⟩
  intro op hop
  rw [List.mem_singleton.mp hop]
  exact id

end Balancer

end ReverseProxy
