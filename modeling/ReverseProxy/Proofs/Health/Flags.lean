import ReverseProxy.Proofs.Balance.Footprint
import ReverseProxy.Proofs.Gateway.Harmless
import ReverseProxy.Proofs.Health.Rest

/-! # Who writes the flags of a backend -/

namespace ReverseProxy

namespace Fleet

theorem backend?_update (fleet : Fleet) (backend : Backend) (f : Balancer → Balancer) (name : String) :
    (fleet.update backend f).backend? name = fleet.backend? name := by
  have hnames : (fleet.update backend f).map (·.1) = fleet.map (·.1) := by
    apply List.ext_getElem?
    intro i
    rw [List.getElem?_map, update, List.getElem?_modify, List.getElem?_map]
    cases fleet[i]? with
    | none => rfl
    | some entry => by_cases hi : backend.slot = i <;> simp [hi]
  have hfind : ∀ fleet : Fleet, fleet.backend? name =
      ((fleet.map (·.1)).findIdx? (· = name)).map fun slot => { name, slot } := by
    intro fleet
    rw [backend?, List.findIdx?_map]
    rfl
  rw [hfind, hnames, ← hfind]

theorem backend?_step (fleet : Fleet) (backend : Backend) (op : Operation) (name : String) :
    (fleet.step backend op).2.backend? name = fleet.backend? name := by
  cases op with
  | select =>
    cases h : fleet.balancer? backend with
    | none => rw [step, draw, h]
    | some b => rw [step, draw_eq h, backend?_update]
  | mark address up =>
    cases h : fleet.balancer? backend with
    | none => rw [step, mark, h]; rfl
    | some b =>
      rw [step, mark_eq h]
      cases b.mark address up with
      | error e => rfl
      | ok next => exact backend?_update fleet backend (fun _ => next) name
  | verdict position up => exact backend?_update fleet backend (·.write position up) name
  | list => rfl

/-- The balancer of a name, with its flags, apart from its cursors. -/
def flags (fleet : Fleet) (name : String) : Option Balancer :=
  (fleet.backend? name).bind fun backend => (fleet.balancer? backend).map (·.rewound)

theorem flags_rewound (fleet : Fleet) (name : String) :
    fleet.flags name = (fleet.rewound.backend? name).bind fleet.rewound.balancer? := by
  rw [rewound_backend?, flags]
  cases fleet.backend? name with
  | none => rfl
  | some backend => exact (rewound_balancer? fleet backend).symm

theorem flags_select (fleet : Fleet) (backend : Backend) (name : String) :
    (fleet.step backend .select).2.flags name = fleet.flags name := by
  have hsame : (fleet.step backend .select).2.rewound = fleet.rewound := (fleet.draw_drawn backend).rewound
  rw [flags_rewound, hsame, ← flags_rewound]

theorem flags_other {fleet : Fleet} {name other : String} {backend : Backend}
    (hbackend : fleet.backend? other = some backend) (hne : other ≠ name) (op : Operation) :
    (fleet.step backend op).2.flags name = fleet.flags name := by
  rw [flags, backend?_step, flags]
  cases h : fleet.backend? name with
  | none => rfl
  | some own =>
    rw [Option.bind_some, Option.bind_some, step_other (slot_ne h hbackend (Ne.symm hne))]

end Fleet

/-- A balancer with a mark, or as it is if it takes none. -/
def Balancer.remark (address : String) (up : Bool) (b : Balancer) : Balancer :=
  (b.mark address up).toOption.getD b

theorem Balancer.rewound_remark (address : String) (up : Bool) (b : Balancer) :
    (b.remark address up).rewound = b.rewound.remark address up := by
  rw [remark, remark, rewound_mark]
  cases b.mark address up <;> rfl

def Happening.marks (name : String) : Happening → Bool
  | mark other _ _ => other = name
  | _ => false

namespace State

theorem apply_mark (name address : String) (up : Bool) (s : State) :
    ((Happening.mark name address up).apply s).world.balancers =
      match s.world.balancers.backend? name with
      | some backend => (s.world.balancers.step backend (.mark address up)).2
      | none => s.world.balancers := by
  cases hbackend : s.world.balancers.backend? name with
  | none =>
    have hmark : s.mark name address up = .error (.unknownEndpoint name address) := by rw [mark, hbackend]
    rw [Happening.apply, hmark]
    rfl
  | some backend =>
    have hmark : s.mark name address up = s.world.balancers.mark backend address up >>= fun balancers =>
        pure { s with world := { s.world with balancers } } := by rw [mark, hbackend]
    rw [Happening.apply, hmark]
    dsimp only
    rw [Fleet.step]
    cases s.world.balancers.mark backend address up <;> rfl

theorem flags_mark (name address : String) (up : Bool) (s : State) :
    ((Happening.mark name address up).apply s).world.balancers.flags name =
      (s.world.balancers.flags name).map (·.remark address up) := by
  rw [apply_mark]
  cases hbackend : s.world.balancers.backend? name with
  | none => simp [Fleet.flags, hbackend]
  | some backend =>
    obtain ⟨b, hget⟩ := Fleet.exists_of_backend? hbackend
    have hbalancer : s.world.balancers.balancer? backend = some b := by rw [Fleet.balancer?, hget]; rfl
    have hstep : (b.step (.mark address up)).2 = b.remark address up := by
      rw [Balancer.step, Balancer.remark]
      cases b.mark address up <;> rfl
    dsimp only
    rw [Fleet.flags, Fleet.backend?_step, hbackend, Option.bind_some, (Fleet.step_self hbalancer _).2, hstep,
      Fleet.flags, hbackend, Option.bind_some, hbalancer, Option.map_some, Option.map_some, Option.map_some,
      Balancer.rewound_remark]

/-- What happens to a fleet: nothing, or one thing to one backend. -/
inductive Touches (s : State) : Happening → Backend → Operation → Prop where
  | draw (backend : Backend) : Touches s (.draw backend) backend .select
  | mark {name : String} {backend : Backend} (address : String) (up : Bool)
      (hbackend : s.world.balancers.backend? name = some backend) :
    Touches s (.mark name address up) backend (.mark address up)
  | verdict {position : Nat} {w : Watch} (up : Bool) (hget : s.monitor.queue[position]? = some w)
      (hbusy : ¬w.isFinished) :
    Touches s (.turn position) w.backend (.verdict w.checker.site.position up)

theorem apply_balancers (h : Happening) (s : State) :
    (h.apply s).world.balancers = s.world.balancers ∨ ∃ backend op, Touches s h backend op ∧
      (h.apply s).world.balancers = (s.world.balancers.step backend op).2 := by
  cases h with
  | elapse milliseconds => exact Or.inl rfl
  | fire name => exact Or.inl rfl
  | send request => exact Or.inl rfl
  | record event => exact Or.inl rfl
  | draw backend => exact Or.inr ⟨backend, .select, .draw backend, rfl⟩
  | mark name address up =>
    rw [apply_mark]
    cases hbackend : s.world.balancers.backend? name with
    | none => exact Or.inl rfl
    | some backend => exact Or.inr ⟨backend, .mark address up, .mark address up hbackend, rfl⟩
  | heed position =>
    rcases heed_cases position s with hsame | ⟨w, -, -, hheed⟩
    · exact Or.inl (by rw [Happening.apply, hsame])
    · exact Or.inl (by rw [Happening.apply, hheed])
  | turn position =>
    rcases turn_cases position s with hsame | ⟨w, time, hget, hdue, -, hturn⟩
    · exact Or.inl (by rw [Happening.apply, hsame])
    · rw [Happening.apply, hturn, afterTurn]
      have hbusy : ¬w.isFinished := Checker.not_finished_of_due hdue
      unfold Checker.turn
      split
      next => exact Or.inl (Traffic.probe_balancers w.checker.server s.world)
      next verdict _ => exact Or.inr ⟨w.backend, _, .verdict verdict hget hbusy, rfl⟩
      next => exact Or.inl rfl

theorem apply_backend? (h : Happening) (s : State) (name : String) :
    (h.apply s).world.balancers.backend? name = s.world.balancers.backend? name := by
  rcases apply_balancers h s with hsame | ⟨backend, op, -, hstep⟩
  · rw [hsame]
  · rw [hstep, Fleet.backend?_step]

end State

end ReverseProxy
