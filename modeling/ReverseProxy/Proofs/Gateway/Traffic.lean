import ReverseProxy.Gateway.Server
import ReverseProxy.Proofs.Balance.Operation

/-! # Traffic through a gateway -/

namespace ReverseProxy

/-! ## Operations on one backend of many -/

namespace Fleet

def step (backend : Backend) (op : Operation) (fleet : Fleet) : Answer × Fleet :=
  match op with
  | .select => (.selected (fleet.draw backend).1, (fleet.draw backend).2)
  | .mark address up => Operation.marking fleet (fleet.mark backend address up)
  | .verdict position up => (.noted, fleet.write backend position up)
  | .list => (.listed (Endpoint.listing ((fleet.balancer? backend).elim [] (·.endpoints))), fleet)

theorem balancer?_of_slot {a b : Backend} (h : a.slot = b.slot) (fleet : Fleet) :
    fleet.balancer? a = fleet.balancer? b := by
  rw [balancer?, h, balancer?]

theorem update_self {fleet : Fleet} {backend : Backend} {b : Balancer}
    (h : fleet.balancer? backend = some b) (f : Balancer → Balancer) :
    (fleet.update backend f).balancer? backend = some (f b) := by
  rw [balancer?, Option.map_eq_some_iff] at h
  obtain ⟨entry, hget, rfl⟩ := h
  rw [balancer?, update, List.getElem?_modify_eq, hget]
  rfl

theorem update_other {fleet : Fleet} {backend other : Backend} (hne : other.slot ≠ backend.slot)
    (f : Balancer → Balancer) : (fleet.update backend f).balancer? other = fleet.balancer? other := by
  rw [balancer?, update, List.getElem?_modify_ne _ _ (Ne.symm hne), balancer?]

theorem draw_eq {fleet : Fleet} {backend : Backend} {b : Balancer}
    (h : fleet.balancer? backend = some b) :
    fleet.draw backend = (b.select.1, fleet.update backend fun _ => b.select.2) := by
  rw [draw, h]

theorem mark_eq {fleet : Fleet} {backend : Backend} {b : Balancer}
    (h : fleet.balancer? backend = some b) (address : String) (up : Bool) :
    fleet.mark backend address up =
      (b.mark address up).map fun next => fleet.update backend fun _ => next := by
  simp only [mark, h]
  cases b.mark address up <;> rfl

theorem step_self {fleet : Fleet} {backend : Backend} {b : Balancer}
    (h : fleet.balancer? backend = some b) (op : Operation) :
    (fleet.step backend op).1 = (b.step op).1 ∧
      (fleet.step backend op).2.balancer? backend = some (b.step op).2 := by
  cases op with
  | select =>
    rw [step, draw_eq h]
    exact ⟨rfl, update_self h fun _ => b.select.2⟩
  | mark address up =>
    rw [step, mark_eq h, Balancer.step]
    cases b.mark address up with
    | error e => exact ⟨rfl, h⟩
    | ok next => exact ⟨rfl, update_self h fun _ => next⟩
  | verdict position up => exact ⟨rfl, update_self h (·.write position up)⟩
  | list =>
    refine ⟨?_, h⟩
    rw [step, h]
    rfl

theorem step_other {fleet : Fleet} {backend other : Backend} (hne : other.slot ≠ backend.slot)
    (op : Operation) : (fleet.step backend op).2.balancer? other = fleet.balancer? other := by
  cases op with
  | select =>
    cases h : fleet.balancer? backend with
    | none => rw [step, draw, h]
    | some b =>
      rw [step, draw_eq h]
      exact update_other hne fun _ => b.select.2
  | mark address up =>
    cases h : fleet.balancer? backend with
    | none =>
      rw [step, mark, h]
      rfl
    | some b =>
      rw [step, mark_eq h]
      cases b.mark address up with
      | error e => rfl
      | ok next => exact update_other hne fun _ => next
  | verdict position up => exact update_other hne (·.write position up)
  | list => rfl

end Fleet

/-! ## Events -/

structure Deed where
  backend : Backend
  operation : Operation
  answer : Answer

/-- Balancers, and what is left to do for each request. -/
structure Traffic where
  fleet : Fleet
  underway : List (Act Response)

inductive Event where
  /-- The table gets a request. -/
  | dispatch (request : Request)
  /-- The server gets a request. -/
  | route (request : Request)
  /-- A request goes on. What it sent, if it did, comes to something. -/
  | proceed (number : Nat) (heard : Except SendFailure Response)
  | abandon (number : Nat)
  /-- A probe ends. -/
  | verdict (site : Site) (up : Bool)
  /-- Somebody turns to a backend by its name. -/
  | ask (name : String) (op : Operation)

namespace Traffic

def start (gateway : Gateway) : Traffic := { fleet := gateway.balancers, underway := [] }

def arrive (act : Act Response) (t : Traffic) : Traffic := { t with underway := t.underway ++ [act] }

def goOn (number : Nat) (act : Act Response) (t : Traffic) : Traffic :=
  { t with underway := t.underway.set number act }

def perform (backend : Backend) (op : Operation) (t : Traffic) : List Deed × Traffic :=
  let told := t.fleet.step backend op
  ([⟨backend, op, told.1⟩], { t with fleet := told.2 })

def step (gateway : Gateway) (event : Event) (t : Traffic) : List Deed × Traffic :=
  match event with
  | .dispatch request => ([], t.arrive (gateway.table.dispatch request))
  | .route request => ([], t.arrive (gateway.route request))
  | .proceed number heard =>
    match t.underway[number]? with
    | some (.draw backend next) =>
      let (deeds, after) := t.perform backend .select
      (deeds, after.goOn number (next (t.fleet.draw backend).1))
    | some (.send _ next) => ([], t.goOn number (next heard))
    | some (.wait _ next) | some (.record _ next) => ([], t.goOn number next)
    | _ => ([], t)
  | .abandon number => ([], t.goOn number (.done Gateway.timedOut))
  | .verdict site up => t.perform site.backend (.verdict site.position up)
  | .ask name op =>
    match t.fleet.backend? name with
    | some backend => t.perform backend op
    | none => ([], t)

def run (gateway : Gateway) : List Event → Traffic → List Deed × Traffic
  | [], t => ([], t)
  | event :: events, t =>
    let first := step gateway event t
    let rest := run gateway events first.2
    (first.1 ++ rest.1, rest.2)

/-! ## What concerns one backend -/

def concerning (backend : Backend) (deeds : List Deed) : List Deed :=
  deeds.filter fun d => d.backend.slot = backend.slot

def asked (backend : Backend) (deeds : List Deed) : List Operation :=
  (concerning backend deeds).map (·.operation)

def told (backend : Backend) (deeds : List Deed) : List Answer :=
  (concerning backend deeds).map (·.answer)

theorem concerning_cons_self {d : Deed} {backend : Backend} (h : d.backend.slot = backend.slot)
    (deeds : List Deed) : concerning backend (d :: deeds) = d :: concerning backend deeds :=
  List.filter_cons_of_pos (decide_eq_true h)

theorem concerning_cons_other {d : Deed} {backend : Backend} (h : d.backend.slot ≠ backend.slot)
    (deeds : List Deed) : concerning backend (d :: deeds) = concerning backend deeds :=
  List.filter_cons_of_neg (by simpa using h)

theorem step_cases (gateway : Gateway) (event : Event) (t : Traffic) :
    (∃ underway, step gateway event t = ([], { t with underway })) ∨
    ∃ backend op underway, step gateway event t =
      ([⟨backend, op, (t.fleet.step backend op).1⟩],
        { fleet := (t.fleet.step backend op).2, underway }) := by
  cases event with
  | dispatch request => exact Or.inl ⟨_, rfl⟩
  | route request => exact Or.inl ⟨_, rfl⟩
  | proceed number heard =>
    unfold step
    dsimp only
    split
    next backend next _ => exact Or.inr ⟨backend, .select, _, rfl⟩
    next => exact Or.inl ⟨_, rfl⟩
    next => exact Or.inl ⟨_, rfl⟩
    next => exact Or.inl ⟨_, rfl⟩
    next => exact Or.inl ⟨t.underway, rfl⟩
  | abandon number => exact Or.inl ⟨_, rfl⟩
  | verdict site up => exact Or.inr ⟨site.backend, .verdict site.position up, t.underway, rfl⟩
  | ask name op =>
    unfold step
    dsimp only
    split
    next backend _ => exact Or.inr ⟨backend, op, t.underway, rfl⟩
    next => exact Or.inl ⟨t.underway, rfl⟩

theorem run_cons (gateway : Gateway) (event : Event) (events : List Event) (t : Traffic) :
    run gateway (event :: events) t =
      ((step gateway event t).1 ++ (run gateway events (step gateway event t).2).1,
        (run gateway events (step gateway event t).2).2) := rfl

theorem run_append (gateway : Gateway) (events more : List Event) (t : Traffic) :
    run gateway (events ++ more) t =
      ((run gateway events t).1 ++ (run gateway more (run gateway events t).2).1,
        (run gateway more (run gateway events t).2).2) := by
  induction events generalizing t with
  | nil => rfl
  | cons event events ih => simp only [List.cons_append, run, ih, List.append_assoc]

/-- Whatever else goes on, a balancer does what it would do alone with what concerns it. -/
theorem run_alone (gateway : Gateway) (events : List Event) {t : Traffic} {backend : Backend}
    {b : Balancer} (h : t.fleet.balancer? backend = some b) :
    told backend (run gateway events t).1 = (b.run (asked backend (run gateway events t).1)).1 ∧
      (run gateway events t).2.fleet.balancer? backend =
        some (b.run (asked backend (run gateway events t).1)).2 := by
  induction events generalizing t b with
  | nil => exact ⟨rfl, h⟩
  | cons event events ih =>
    rw [run_cons]
    rcases step_cases gateway event t with ⟨underway, hstep⟩ | ⟨other, op, underway, hstep⟩
    · rw [hstep]
      exact ih h
    · rw [hstep]
      by_cases hslot : other.slot = backend.slot
      -- This balancer does it as it would alone, and both go on from the same state.
      · have hother : t.fleet.balancer? other = some b := by rw [Fleet.balancer?_of_slot hslot, h]
        obtain ⟨hanswer, hnext⟩ := Fleet.step_self hother op
        rw [Fleet.balancer?_of_slot hslot] at hnext
        obtain ⟨htold, hleft⟩ := @ih { fleet := (t.fleet.step other op).2, underway } _ hnext
        have hself := @concerning_cons_self ⟨other, op, (t.fleet.step other op).1⟩ backend hslot
        rw [told, asked, List.singleton_append, hself]
        rw [told, asked] at htold
        refine ⟨?_, hleft⟩
        rw [List.map_cons, List.map_cons, hanswer, htold]
        rfl
      -- Another one does it, and neither the state nor the record of this one changes.
      · have hnext : (t.fleet.step other op).2.balancer? backend = some b := by
          rw [Fleet.step_other (Ne.symm hslot), h]
        have hfar := @concerning_cons_other ⟨other, op, (t.fleet.step other op).1⟩ backend hslot
        rw [told, asked, List.singleton_append, hfar]
        exact @ih { fleet := (t.fleet.step other op).2, underway } _ hnext

end Traffic

end ReverseProxy
