import ReverseProxy.Proofs.Balance.Footprint

/-! # Where all servers are on one side, the policy makes no difference -/

namespace ReverseProxy

theorem Pool.write_of_length_le {pool : Pool} {q : Nat} (h : pool.ring.length ≤ q) (up : Bool) :
    pool.write q up = pool := by
  obtain ⟨backend, ring, cursor, cursor_lt⟩ := pool
  simp [write, List.modify_eq_self h]

/-- What the only pool of a balancer is to it. -/
inductive Seat where
  | whole
  | near
  | far

namespace Seat

def balancer (seat : Seat) (pool : Pool) : Balancer :=
  match seat with
  | whole => .roundRobin pool
  | near => .preferLocal pool.backend (some pool) none
  | far => .preferLocal pool.backend none (some pool)

/-! ## It does what the pool does -/

theorem pools (seat : Seat) (pool : Pool) : (seat.balancer pool).pools = [pool] := by
  cases seat <;> rfl

theorem endpoints (seat : Seat) (pool : Pool) : (seat.balancer pool).endpoints = pool.ring := by
  rw [Balancer.endpoints, pools, List.flatMap_singleton]

theorem select_eq (seat : Seat) (pool : Pool) :
    (seat.balancer pool).select = (pool.select.1, seat.balancer pool.select.2) := by
  cases seat with
  | whole => rfl
  | near =>
    by_cases hup : pool.anyUp
    · obtain ⟨a, hselect⟩ := Pool.exists_select hup
      rw [balancer, Balancer.select, hselect]
      rfl
    · -- The refusal of the pool is dropped, and there is a new one that says the same.
      rw [balancer, Balancer.select, Pool.select_of_not_anyUp hup]
      rfl
  | far => rfl

theorem write_eq (seat : Seat) (pool : Pool) (q : Nat) (up : Bool) :
    (seat.balancer pool).write q up = seat.balancer (pool.write q up) := by
  cases seat with
  | whole => rfl
  | near =>
    rw [balancer, Balancer.write_preferLocal, Option.elim_some]
    split
    next => rfl
    next hbeyond =>
      rw [Pool.write_of_length_le (Nat.not_lt.mp hbeyond)]
      rfl
  | far => rfl

/-- A mark is refused for the same reason, also where the refusal of the pool is dropped. -/
theorem mark_eq (seat : Seat) (pool : Pool) (address : String) (up : Bool) :
    (seat.balancer pool).mark address up = seat.balancer <$> pool.mark address up := by
  cases hparse : Address.parse address with
  | error e =>
    rw [Pool.mark_of_error up hparse]
    cases seat with
    | whole => rw [balancer, Balancer.mark, Pool.mark_of_error up hparse]; rfl
    | near => rw [balancer, Balancer.mark, hparse]; rfl
    | far => rw [balancer, Balancer.mark, hparse]; rfl
  | ok a =>
    cases seat with
    | whole => rfl
    | near =>
      rw [balancer, Tandem.mark_preferLocal up hparse, Balancer.markIn, Pool.mark_of_ok up hparse]
      cases pool.position? address <;> rfl
    | far =>
      rw [balancer, Tandem.mark_preferLocal up hparse, Balancer.markIn, Balancer.markIn,
        Pool.mark_of_ok up hparse]
      cases pool.position? address <;> rfl

theorem step_eq (seat : Seat) (pool : Pool) (op : Operation) :
    (seat.balancer pool).step op = ((pool.step op).1, seat.balancer (pool.step op).2) := by
  cases op with
  | select => rw [Balancer.step, select_eq, Pool.step]
  | mark address up =>
    rw [Balancer.step, mark_eq, Pool.step]
    cases pool.mark address up <;> rfl
  | verdict q up => rw [Balancer.step, write_eq, Pool.step]
  | list => rw [Balancer.step, endpoints, Pool.step]

theorem run_eq (seat : Seat) (ops : List Operation) (pool : Pool) :
    (seat.balancer pool).run ops = ((pool.run ops).1, seat.balancer (pool.run ops).2) := by
  have hstep : ∀ op (b : Balancer) (pool : Pool), b = seat.balancer pool →
      (b.step op).1 = (pool.step op).1 ∧ (b.step op).2 = seat.balancer (pool.step op).2 := by
    rintro op b pool rfl
    rw [step_eq]
    exact ⟨rfl, rfl⟩
  obtain ⟨hanswers, hlast⟩ := Operation.run_simulates hstep ops rfl
  exact Prod.ext hanswers hlast

end Seat

/-! ## Balancers that were built -/

namespace Balancer

open Tandem

theorem exists_seat {backend this : String} {servers : List Server} (policy : Policy) (hname : backend ≠ "")
    (hne : servers ≠ []) (hvalid : ∀ s ∈ servers, Address.isValid s.address)
    (hside : (∀ s ∈ servers, isNear this s.address) ∨ ∀ s ∈ servers, ¬isNear this s.address) {pool : Pool}
    (hpool : Pool.ofServers backend servers = .ok pool) :
    ∃ seat : Seat, build policy backend servers this = .ok (seat.balancer pool) := by
  have hbackend := (Pool.ofServers_eq hpool).1
  have hnone : (Pool.ofServers backend []).toOption = none := by
    rw [Pool.ofServers, if_neg hname]
    rfl
  cases policy with
  | roundRobin => exact ⟨.whole, by rw [build, hpool]; rfl⟩
  | preferLocal =>
    rw [build_eq hname hne hvalid, Tandem.ofServers, Tandem.balancer]
    rcases hside with hnear | hfar
    · have hnears : nears this servers = servers := List.filter_eq_self.mpr hnear
      have hfars : fars this servers = [] := List.filter_eq_nil_iff.mpr (by simpa using hnear)
      exact ⟨.near, by rw [hnears, hfars, hnone, hpool, Seat.balancer, hbackend]; rfl⟩
    · have hnears : nears this servers = [] := List.filter_eq_nil_iff.mpr hfar
      have hfars : fars this servers = servers := List.filter_eq_self.mpr (by simpa using hfar)
      exact ⟨.far, by rw [hnears, hfars, hnone, hpool, Seat.balancer, hbackend]; rfl⟩

/-- Whatever is done to both, both tell the same and are left with the same pools. -/
structure Alike (a b : Balancer) : Prop where
  answers : ∀ ops, (a.run ops).1 = (b.run ops).1
  pools : ∀ ops, (a.run ops).2.pools = (b.run ops).2.pools

theorem build_alike {backend this : String} {servers : List Server} (hname : backend ≠ "") (hne : servers ≠ [])
    (hvalid : ∀ s ∈ servers, Address.isValid s.address)
    (hside : (∀ s ∈ servers, isNear this s.address) ∨ ∀ s ∈ servers, ¬isNear this s.address) :
    ∃ plain near, build .roundRobin backend servers this = .ok plain ∧
      build .preferLocal backend servers this = .ok near ∧ Alike plain near := by
  obtain ⟨pool, hpool⟩ := Pool.exists_ofServers hname hne
  obtain ⟨a, ha⟩ := exists_seat .roundRobin hname hne hvalid hside hpool
  obtain ⟨b, hb⟩ := exists_seat .preferLocal hname hne hvalid hside hpool
  refine ⟨_, _, ha, hb, ?_, ?_⟩
  · intro ops
    rw [a.run_eq, b.run_eq]
  · intro ops
    rw [a.run_eq, b.run_eq, a.pools, b.pools]

/-- Servers that are all elsewhere, two of them with one address. -/
def elsewhere : List Server := [
  { name := "s1", address := "10.0.0.2:80" },
  { name := "s2", address := "10.0.0.2:80" },
  { name := "s3", address := "other.example:81" }]

theorem build_alike_elsewhere :
    ("be" ≠ "" ∧ elsewhere ≠ [] ∧ (∀ s ∈ elsewhere, Address.isValid s.address) ∧
      ∀ s ∈ elsewhere, ¬isNear "gw" s.address) ∧
      ∃ plain near, build .roundRobin "be" elsewhere "gw" = .ok plain ∧
        build .preferLocal "be" elsewhere "gw" = .ok near ∧ Alike plain near :=
  ⟨by decide, build_alike (by decide) (by decide) (by decide) (Or.inr (by decide))⟩

end Balancer

end ReverseProxy
