import ReverseProxy.Proofs.Health.Stop

/-! # What a handler is told on its way -/

namespace ReverseProxy

/-! ## Balancers speak of their backends only -/

theorem Pool.select_error {pool : Pool} {e : BalanceError} (h : pool.select.1 = .error e) :
    e = .noHealthyEndpoint pool.backend := by
  by_cases hup : pool.anyUp
  · obtain ⟨a, hselect⟩ := Pool.exists_select hup
    rw [hselect] at h
    cases h
  · rw [Pool.select_of_not_anyUp hup] at h
    cases h
    rfl

namespace Balancer

/-- Whatever the balancer says, it says of this backend. -/
def IsOf (backend : String) : Balancer → Prop
  | roundRobin pool => pool.backend = backend
  | preferLocal name near far =>
    name = backend ∧ (∀ pool ∈ near, pool.backend = backend) ∧ ∀ pool ∈ far, pool.backend = backend

variable {backend : String} {b : Balancer}

theorem isOf_rewound : b.rewound.IsOf backend ↔ b.IsOf backend := by
  cases b with
  | roundRobin pool => exact Iff.rfl
  | preferLocal name near far => cases near <;> cases far <;> simp [rewound, IsOf, Pool.rewound]

theorem selectFar_error {near far : Option Pool} {e : BalanceError} (hfar : ∀ pool ∈ far, pool.backend = backend)
    (h : (selectFar backend near far).1 = .error e) : e = .noHealthyEndpoint backend := by
  cases far with
  | none =>
    cases h
    rfl
  | some pool => exact hfar pool rfl ▸ Pool.select_error h

theorem IsOf.select_error {e : BalanceError} (hb : b.IsOf backend) (h : b.select.1 = .error e) :
    e = .noHealthyEndpoint backend := by
  cases b with
  | roundRobin pool => exact hb ▸ Pool.select_error h
  | preferLocal name near far =>
    obtain ⟨rfl, -, hfar⟩ := hb
    cases near with
    | none => exact selectFar_error hfar h
    | some pool =>
      by_cases hup : pool.anyUp
      · obtain ⟨a, hselect⟩ := Pool.exists_select hup
        rw [select, hselect] at h
        cases h
      · rw [select, Pool.select_of_not_anyUp hup] at h
        exact selectFar_error hfar h

theorem IsOf.write (hb : b.IsOf backend) (position : Nat) (up : Bool) : (b.write position up).IsOf backend := by
  cases b with
  | roundRobin pool => exact hb
  | preferLocal name near far =>
    obtain ⟨rfl, hnear, hfar⟩ := hb
    have hside : ∀ (side : Option Pool) (q : Nat), (∀ pool ∈ side, pool.backend = name) →
        ∀ pool ∈ side.map (·.write q up), pool.backend = name := by
      intro side q hside pool hpool
      obtain ⟨old, hold, rfl⟩ := Option.map_eq_some_iff.mp hpool
      exact hside old hold
    rw [write_preferLocal]
    split
    · exact ⟨rfl, hside near _ hnear, hfar⟩
    · exact ⟨rfl, hnear, hside far _ hfar⟩

theorem IsOf.step (hb : b.IsOf backend) (op : Operation) : (b.step op).2.IsOf backend := by
  cases op with
  | select => exact isOf_rewound.mp (b.select_selected.rewound ▸ isOf_rewound.mpr hb)
  | mark address up =>
    rw [Balancer.step]
    cases h : b.mark address up with
    | error e => exact hb
    | ok next =>
      obtain ⟨q, -, rfl⟩ := mark_eq h
      exact hb.write q up
  | verdict position up => exact hb.write position up
  | list => exact hb

theorem poolOf_isOf {servers : List Server} {side : Option Pool} (h : poolOf backend servers = .ok side) :
    ∀ pool ∈ side, pool.backend = backend := by
  unfold poolOf at h
  split at h
  · cases h
    nofun
  · cases hpool : Pool.ofServers backend servers with
    | error e =>
      rw [hpool] at h
      cases h
    | ok built =>
      rw [hpool] at h
      cases h
      rintro pool ⟨⟩
      exact (Pool.ofServers_eq hpool).1

theorem build_isOf {policy : Policy} {this : String} {servers : List Server}
    (h : build policy backend servers this = .ok b) : b.IsOf backend := by
  cases policy with
  | roundRobin =>
    cases hpool : Pool.ofServers backend servers with
    | error e =>
      rw [build, hpool] at h
      cases h
    | ok pool =>
      rw [build, hpool] at h
      cases h
      exact (Pool.ofServers_eq hpool).1
  | preferLocal =>
    unfold build preferringLocal at h
    dsimp only at h
    split at h
    · cases h
    · split at h
      · cases h
      · obtain ⟨⟨near, far⟩, -, h⟩ := bind_eq_ok.mp h
        obtain ⟨nearPool, hnear, h⟩ := bind_eq_ok.mp h
        obtain ⟨farPool, hfar, h⟩ := bind_eq_ok.mp h
        cases h
        exact ⟨rfl, poolOf_isOf hnear, poolOf_isOf hfar⟩

end Balancer

namespace Fleet

/-- Every balancer speaks of the backend in whose slot it is. -/
def Named (fleet : Fleet) : Prop :=
  ∀ backend b, fleet.Knows backend → fleet.balancer? backend = some b → b.IsOf backend.name

variable {fleet : Fleet} {backend : Backend}

theorem Named.step (h : fleet.Named) (backend : Backend) (op : Operation) : (fleet.step backend op).2.Named := by
  intro other b hknows hb
  have hbefore : fleet.Knows other := by rwa [Knows, backend?_step] at hknows
  by_cases hslot : other.slot = backend.slot
  · obtain ⟨old, hentry⟩ := exists_of_backend? hbefore
    have hold : fleet.balancer? backend = some old := by rw [balancer?, ← hslot, hentry]; rfl
    rw [balancer?_of_slot hslot, (step_self hold op).2, Option.some.injEq] at hb
    exact hb ▸ (h other old hbefore ((balancer?_of_slot hslot fleet).trans hold)).step op
  · exact h other b hbefore ((step_other hslot op).symm.trans hb)

theorem Named.draw_error (h : fleet.Named) (hknows : fleet.Knows backend) {e : BalanceError}
    (hdraw : (fleet.draw backend).1 = .error e) : e = .noHealthyEndpoint backend.name := by
  cases hb : fleet.balancer? backend with
  | none =>
    rw [draw, hb] at hdraw
    cases hdraw
    rfl
  | some b =>
    rw [draw_eq hb] at hdraw
    exact (h backend b hknows hb).select_error hdraw

end Fleet

/-! ## States that serve a fleet -/

namespace State

/-- The backends are those of a fleet, and their balancers speak of them. -/
structure Serves (fleet : Fleet) (s : State) : Prop where
  named : s.world.balancers.Named
  backends : ∀ name, s.world.balancers.backend? name = fleet.backend? name

variable {fleet : Fleet} {s after : State}

theorem Serves.apply (hs : Serves fleet s) (h : Happening) : Serves fleet (h.apply s) where
  named := by
    rcases apply_balancers h s with hsame | ⟨backend, op, -, hstep⟩
    · exact hsame ▸ hs.named
    · exact hstep ▸ hs.named.step backend op
  backends := fun name => (apply_backend? h s name).trans (hs.backends name)

theorem Serves.becomes (hs : Serves fleet s) (h : Becomes s after) : Serves fleet after := by
  obtain ⟨happenings, rfl⟩ := h
  exact Happening.run_keeps (P := Serves fleet) (fun h _ hs => hs.apply h) happenings hs

theorem Serves.draw_error (hs : Serves fleet s) {backend : Backend} (hknows : fleet.Knows backend)
    {e : BalanceError} (h : (s.drawFrom backend).1 = .error e) : e = .noHealthyEndpoint backend.name :=
  hs.named.draw_error ((hs.backends backend.name).trans hknows) h

end State

/-! ## Trails -/

/-- One thing that a handler is told. -/
inductive Incident where
  | drew (backend : Backend) (result : Except BalanceError String)
  | sent (request : Request) (result : Except SendFailure Response)

namespace Act

variable {α β : Type}

/-- What an act is told when it is run, in order. -/
def trail (deadline : Option Nat) : Act α → State → List Incident
  | done _, _ => []
  | draw backend next, s =>
    let (result, s) := s.drawFrom backend
    .drew backend result :: (next result).trail deadline s
  | send request next, s =>
    match s.send request with
    | (.response response, s) => .sent request (.ok response) :: (next (.ok response)).trail deadline s
    | (.failure failure, s) => .sent request (.error failure) :: (next (.error failure)).trail deadline s
    | (.never, _) => []
  | wait milliseconds next, s =>
    if deadline.any (· ≤ s.now + milliseconds) then []
    else next.trail deadline (s.resume (s.now + milliseconds))
  | record event next, s => next.trail deadline (s.record event)

/-- Of two acts in a row, the second one goes on where the first one left off, unless that was given up. -/
theorem run_bind (deadline : Option Nat) (act : Act α) (f : α → Act β) (s : State) :
    (act.bind f).run deadline s =
      match act.run deadline s with
      | (some value, after) => (f value).run deadline after
      | (none, after) => (none, after) := by
  induction act generalizing s with
  | done value => rfl
  | draw backend next ih => exact ih _ _
  | send request next ih =>
    simp only [Act.bind, run]
    split
    next response after h => exact ih _ after
    next failure after h => exact ih _ after
    next after h => rfl
  | wait milliseconds next ih =>
    simp only [Act.bind, run]
    split
    · rfl
    · exact ih _
  | record event next ih => exact ih _

theorem trail_bind (deadline : Option Nat) (act : Act α) (f : α → Act β) (s : State) :
    (act.bind f).trail deadline s = act.trail deadline s ++
      match act.run deadline s with
      | (some value, after) => (f value).trail deadline after
      | (none, _) => [] := by
  induction act generalizing s with
  | done value => rfl
  | draw backend next ih => exact congrArg (List.cons _) (ih _ _)
  | send request next ih =>
    cases hsend : s.send request with
    | mk outcome after =>
      simp only [Act.bind, trail, run, hsend]
      cases outcome with
      | response response => exact congrArg (List.cons _) (ih (.ok response) after)
      | failure failure => exact congrArg (List.cons _) (ih (.error failure) after)
      | never => rfl
  | wait milliseconds next ih =>
    by_cases hlate : deadline.any (· ≤ s.now + milliseconds)
    · simp only [Act.bind, trail, run, hlate, if_true, List.append_nil]
    · simp only [Act.bind, trail, run, hlate, if_false, Bool.false_eq_true]
      exact ih _
  | record event next ih => exact ih _

end Act

end ReverseProxy
