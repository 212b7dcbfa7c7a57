import ReverseProxy.Proofs.Balance.Operation
import ReverseProxy.Proofs.Balance.Sweep

/-! # Preferring near servers is two rotations with priority -/

namespace ReverseProxy

/-! ## Two rotations -/

/-- What is told about servers of which there are none. -/
def Operation.refusal (backend : String) : Operation → Answer
  | select => .selected (.error (.noHealthyEndpoint backend))
  | mark address _ =>
    match Address.parse address with
    | .ok _ => .marked (.error (.unknownEndpoint backend address))
    | .error e => .marked (.error e)
  | verdict _ _ => .noted
  | list => .listed []

/-- A rotation over servers of which there may be none. -/
def Pool.stepIn (backend : String) (op : Operation) : Option Pool → Answer × Option Pool
  | some pool => ((pool.step op).1, some (pool.step op).2)
  | none => (op.refusal backend, none)

/-- A rotation over near servers and one over the others. -/
structure Tandem where
  backend : String
  /-- The name of this machine. -/
  this : String
  near : Option Pool
  far : Option Pool

namespace Tandem

def isNear (this address : String) : Bool :=
  match Address.parse address with
  | .ok a => Locality.isLocal a.host this
  | .error _ => false

def onNear (op : Operation) (t : Tandem) : Answer × Tandem :=
  ((Pool.stepIn t.backend op t.near).1, { t with near := (Pool.stepIn t.backend op t.near).2 })

def onFar (op : Operation) (t : Tandem) : Answer × Tandem :=
  ((Pool.stepIn t.backend op t.far).1, { t with far := (Pool.stepIn t.backend op t.far).2 })

def endpoints (t : Tandem) : List Endpoint :=
  (t.near.elim [] (·.ring)) ++ (t.far.elim [] (·.ring))

/--
Each operation is one of a single rotation. Selections go to the near one while something near is up,
marks go where their host belongs, and verdicts count the near endpoints first.
-/
def step (op : Operation) (t : Tandem) : Answer × Tandem :=
  match op with
  | .select =>
    if t.near.any Pool.anyUp then t.onNear .select
    else if t.far.any Pool.anyUp then t.onFar .select
    else (.selected (.error (.noHealthyEndpoint t.backend)), t)
  | .mark address up => if isNear t.this address then t.onNear (.mark address up) else t.onFar (.mark address up)
  | .verdict q up =>
    let first := (t.near.elim [] (·.ring)).length
    if q < first then t.onNear (.verdict q up) else t.onFar (.verdict (q - first) up)
  | .list => (.listed (Endpoint.listing t.endpoints), t)

def run : List Operation → Tandem → List Answer × Tandem := Operation.run step

def balancer (t : Tandem) : Balancer := .preferLocal t.backend t.near t.far

/-- A side is over its backend, and has only addresses that belong to it. -/
def Keeps (backend : String) (own : String → Prop) (side : Option Pool) : Prop :=
  ∀ pool ∈ side, pool.backend = backend ∧ ∀ a ∈ pool.addresses, own a

/-- No address is on the wrong side. -/
structure Sorted (t : Tandem) : Prop where
  near : Keeps t.backend (fun a => isNear t.this a = true) t.near
  far : Keeps t.backend (fun a => isNear t.this a = false) t.far

/-! ## What a step keeps -/

/-- A step is one of the near rotation, or one of the far rotation, or changes nothing. -/
theorem step_cases (op : Operation) (t : Tandem) :
    (t.step op).2 = t ∨ ∃ op', (t.step op).2 = (t.onNear op').2 ∨ (t.step op).2 = (t.onFar op').2 := by
  cases op with
  | select =>
    rw [step]
    split
    · exact Or.inr ⟨.select, Or.inl rfl⟩
    · split
      · exact Or.inr ⟨.select, Or.inr rfl⟩
      · exact Or.inl rfl
  | mark address up =>
    rw [step]
    split
    · exact Or.inr ⟨.mark address up, Or.inl rfl⟩
    · exact Or.inr ⟨.mark address up, Or.inr rfl⟩
  | verdict q up =>
    rw [step]
    split
    · exact Or.inr ⟨.verdict q up, Or.inl rfl⟩
    · exact Or.inr ⟨.verdict _ up, Or.inr rfl⟩
  | list => exact Or.inl rfl

theorem Keeps.stepIn {backend : String} {own : String → Prop} {side : Option Pool}
    (h : Keeps backend own side) (op : Operation) : Keeps backend own (Pool.stepIn backend op side).2 := by
  cases side with
  | none => exact h
  | some pool =>
    obtain ⟨hbackend, hown⟩ := h pool rfl
    intro after hafter
    cases hafter
    rw [pool.step_backend op, pool.step_addresses op]
    exact ⟨hbackend, hown⟩

theorem Sorted.step {t : Tandem} (h : t.Sorted) (op : Operation) : (t.step op).2.Sorted := by
  rcases step_cases op t with hsame | ⟨op', hnear | hfar⟩
  · rwa [hsame]
  · rw [hnear]
    exact ⟨h.near.stepIn op', h.far⟩
  · rw [hfar]
    exact ⟨h.near, h.far.stepIn op'⟩

/-! ## The balancer does the same -/

theorem stepIn_mark_of_error {backend address : String} {up : Bool} {e : BalanceError} {side : Option Pool}
    (he : Address.parse address = .error e) :
    Pool.stepIn backend (.mark address up) side = (.marked (.error e), side) := by
  cases side with
  | none => simp [Pool.stepIn, Operation.refusal, he]
  | some pool => simp [Pool.stepIn, Pool.step, Pool.mark_of_error up he, Operation.marking]

theorem stepIn_mark_of_ok {backend address : String} {own : String → Prop} {up : Bool} {a : Address}
    {side : Option Pool} (hside : Keeps backend own side) (ha : Address.parse address = .ok a) :
    Pool.stepIn backend (.mark address up) side =
      match Balancer.markIn side address up with
      | some next => (.marked (.ok ()), next)
      | none => (.marked (.error (.unknownEndpoint backend address)), side) := by
  cases side with
  | none => simp [Pool.stepIn, Operation.refusal, ha, Balancer.markIn]
  | some pool =>
    simp only [Pool.stepIn, Pool.step, Balancer.markIn, Pool.mark_of_ok up ha]
    cases pool.position? address with
    | none => simp [Operation.marking, Except.toOption, (hside pool rfl).1]
    | some q => simp [Operation.marking, Except.toOption]

theorem markIn_eq_none {side : Option Pool} {address : String} (up : Bool)
    (h : ∀ pool ∈ side, address ∉ pool.addresses) : Balancer.markIn side address up = none := by
  cases side with
  | none => rfl
  | some pool =>
    have hnone := Pool.position?_eq_none.mpr (h pool rfl)
    simp only [Balancer.markIn, Pool.mark, hnone]
    cases Address.parse address <;> rfl

theorem mark_preferLocal {backend address : String} {near far : Option Pool} {a : Address} (up : Bool)
    (ha : Address.parse address = .ok a) :
    (Balancer.preferLocal backend near far).mark address up =
      match Balancer.markIn near address up, Balancer.markIn far address up with
      | some near, _ => .ok (.preferLocal backend near far)
      | none, some far => .ok (.preferLocal backend near far)
      | none, none => .error (.unknownEndpoint backend address) := by
  rw [Balancer.mark, ha]
  cases Balancer.markIn near address up with
  | some near => rfl
  | none => cases Balancer.markIn far address up <;> rfl

theorem mark_eq {t : Tandem} (h : t.Sorted) (address : String) (up : Bool) :
    t.balancer.step (.mark address up) =
      ((t.step (.mark address up)).1, (t.step (.mark address up)).2.balancer) := by
  cases hparse : Address.parse address with
  | error e =>
    have hnear : t.onNear (.mark address up) = (.marked (.error e), t) := by
      rw [onNear, stepIn_mark_of_error hparse]
    have hfar : t.onFar (.mark address up) = (.marked (.error e), t) := by
      rw [onFar, stepIn_mark_of_error hparse]
    rw [step, hnear, hfar, ite_self, Balancer.step, balancer, Balancer.mark, hparse]
    rfl
  | ok a =>
    rw [Balancer.step, balancer, mark_preferLocal up hparse, step]
    -- Only the side that an address belongs to can know it, so the first that takes the mark is right.
    by_cases hlocal : isNear t.this address
    · have hfar : Balancer.markIn t.far address up = none := by
        apply markIn_eq_none
        intro pool hpool hmem
        simp [(h.far pool hpool).2 address hmem] at hlocal
      rw [if_pos hlocal, onNear, stepIn_mark_of_ok h.near hparse, hfar]
      cases Balancer.markIn t.near address up <;> rfl
    · have hnear : Balancer.markIn t.near address up = none := by
        apply markIn_eq_none
        intro pool hpool hmem
        exact hlocal ((h.near pool hpool).2 address hmem)
      rw [if_neg hlocal, onFar, stepIn_mark_of_ok h.far hparse, hnear]
      cases Balancer.markIn t.far address up <;> rfl

theorem selectFar_eq {t : Tandem} (h : t.Sorted) (hdown : ¬t.near.any Pool.anyUp) :
    (Answer.selected (Balancer.selectFar t.backend t.near t.far).1,
      (Balancer.selectFar t.backend t.near t.far).2) =
      ((t.step .select).1, (t.step .select).2.balancer) := by
  rw [step, if_neg hdown]
  obtain ⟨backend, this, near, far⟩ := t
  cases far with
  | none => rfl
  | some pool =>
    by_cases hup : pool.anyUp
    · rw [if_pos (by simpa using hup)]
      rfl
    · have hbackend := (h.far pool rfl).1
      rw [if_neg (by simpa using hup), Balancer.selectFar, Pool.select_of_not_anyUp hup, hbackend]
      rfl

theorem select_eq {t : Tandem} (h : t.Sorted) :
    t.balancer.step .select = ((t.step .select).1, (t.step .select).2.balancer) := by
  have hfar := selectFar_eq h
  obtain ⟨backend, this, near, far⟩ := t
  cases near with
  | none => exact hfar (by simp)
  | some pool =>
    by_cases hup : pool.anyUp
    · obtain ⟨a, ha⟩ := Pool.select_of_anyUp hup
      have hselect : pool.select = (.ok a, pool.select.2) := by rw [← ha]
      rw [step, if_pos (by simpa using hup), Balancer.step, balancer, Balancer.select, hselect]
      simp [onNear, Pool.stepIn, Pool.step, balancer, ha]
    · rw [Balancer.step, balancer, Balancer.select, Pool.select_of_not_anyUp hup]
      exact hfar (by simpa using hup)

theorem verdict_eq (t : Tandem) (q : Nat) (up : Bool) :
    t.balancer.step (.verdict q up) =
      ((t.step (.verdict q up)).1, (t.step (.verdict q up)).2.balancer) := by
  obtain ⟨backend, this, near, far⟩ := t
  rw [Balancer.step, balancer, Balancer.write_preferLocal, step]
  dsimp only
  split
  · cases near <;> rfl
  · cases far <;> rfl

theorem balancer_endpoints (t : Tandem) : t.balancer.endpoints = t.endpoints :=
  Balancer.endpoints_preferLocal t.backend t.near t.far

theorem list_eq (t : Tandem) :
    t.balancer.step .list = ((t.step .list).1, (t.step .list).2.balancer) := by
  rw [Balancer.step, balancer_endpoints]
  rfl

theorem step_eq {t : Tandem} (h : t.Sorted) (op : Operation) :
    t.balancer.step op = ((t.step op).1, (t.step op).2.balancer) := by
  cases op with
  | select => exact select_eq h
  | mark address up => exact mark_eq h address up
  | verdict q up => exact verdict_eq t q up
  | list => exact list_eq t

theorem run_eq {t : Tandem} (h : t.Sorted) (ops : List Operation) :
    t.balancer.run ops = ((t.run ops).1, (t.run ops).2.balancer) := by
  have hstep : ∀ op (b : Balancer) (t : Tandem), b = t.balancer ∧ t.Sorted →
      (b.step op).1 = (t.step op).1 ∧ (b.step op).2 = (t.step op).2.balancer ∧ (t.step op).2.Sorted := by
    rintro op b t ⟨rfl, hsorted⟩
    rw [step_eq hsorted op]
    exact ⟨rfl, rfl, hsorted.step op⟩
  obtain ⟨hanswers, hlast, -⟩ := Operation.run_simulates hstep ops ⟨rfl, h⟩
  exact Prod.ext hanswers hlast

end Tandem

end ReverseProxy
