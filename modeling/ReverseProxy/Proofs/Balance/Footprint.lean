import ReverseProxy.Proofs.Balance.Marks

/-! # What a selection moves -/

namespace ReverseProxy

/-! ## All but the cursors -/

namespace Pool

/-- The pool as it is apart from its cursor, which stands at the beginning. -/
def rewound (pool : Pool) : Pool := { pool with cursor := 0, cursor_lt := pool.length_pos }

theorem rewound_mark (pool : Pool) (address : String) (up : Bool) :
    pool.rewound.mark address up = rewound <$> pool.mark address up := by
  cases h : Address.parse address with
  | error e =>
    rw [mark_of_error up h, mark_of_error up h]
    rfl
  | ok a =>
    have hposition : pool.rewound.position? address = pool.position? address := rfl
    rw [mark_of_ok up h, mark_of_ok up h, hposition]
    cases pool.position? address <;> rfl

theorem exists_select {pool : Pool} (h : pool.anyUp) : ∃ a, pool.select = (.ok a, pool.select.2) := by
  obtain ⟨a, ha⟩ := select_of_anyUp h
  exact ⟨a, by rw [← ha]⟩

end Pool

namespace Balancer

def rewound : Balancer → Balancer
  | roundRobin pool => roundRobin pool.rewound
  | preferLocal backend near far => preferLocal backend (near.map (·.rewound)) (far.map (·.rewound))

@[simp] theorem rewound_endpoints (b : Balancer) : b.rewound.endpoints = b.endpoints := by
  cases b with
  | roundRobin pool => rfl
  | preferLocal backend near far => cases near <;> cases far <;> rfl

@[simp] theorem rewound_write (b : Balancer) (q : Nat) (up : Bool) :
    b.rewound.write q up = (b.write q up).rewound := by
  cases b with
  | roundRobin pool => rfl
  | preferLocal backend near far =>
    have hring : (near.map (·.rewound)).elim [] (·.ring) = near.elim [] (·.ring) := by cases near <;> rfl
    rw [rewound, write_preferLocal, write_preferLocal, hring]
    split
    · cases near <;> rfl
    · cases far <;> rfl

theorem markIn_rewound (side : Option Pool) (address : String) (up : Bool) :
    markIn (side.map (·.rewound)) address up =
      (markIn side address up).map fun next => next.map (·.rewound) := by
  cases side with
  | none => rfl
  | some pool =>
    rw [Option.map_some, markIn, Pool.rewound_mark, markIn]
    cases pool.mark address up <;> rfl

@[simp] theorem rewound_mark (b : Balancer) (address : String) (up : Bool) :
    b.rewound.mark address up = rewound <$> b.mark address up := by
  cases b with
  | roundRobin pool =>
    rw [rewound, mark, Pool.rewound_mark, mark]
    cases pool.mark address up <;> rfl
  | preferLocal backend near far =>
    cases h : Address.parse address with
    | error e =>
      rw [rewound, mark, mark, h]
      rfl
    | ok a =>
      rw [rewound, Tandem.mark_preferLocal up h, Tandem.mark_preferLocal up h, markIn_rewound, markIn_rewound]
      cases markIn near address up with
      | some side => rfl
      | none => cases markIn far address up <;> rfl

/-! ## Selections -/

/-- A selection moves the cursor of the pool that it gets an address from, and else nothing. -/
inductive Selected (b : Balancer) : Except BalanceError String × Balancer → Prop where
  | nothing (e : BalanceError) : Selected b (.error e, b)
  | drawn {i : Nat} {pool : Pool} {address : String} {next : Balancer} (hpool : b.pools[i]? = some pool)
      (haddress : pool.select.1 = .ok address) (hpools : next.pools = b.pools.set i pool.select.2)
      (hsame : next.rewound = b.rewound) : Selected b (.ok address, next)

theorem selected_far (backend : String) (near far : Option Pool) :
    Selected (preferLocal backend near far) (selectFar backend near far) := by
  cases far with
  | none => exact .nothing _
  | some pool =>
    by_cases hup : pool.anyUp
    · obtain ⟨a, hselect⟩ := Pool.exists_select hup
      rw [selectFar, hselect]
      refine @Selected.drawn _ near.toList.length pool _ _ ?_ (congrArg Prod.fst hselect) ?_ rfl
      · simp [pools]
      · simp [pools]
    · rw [selectFar, Pool.select_of_not_anyUp hup]
      exact .nothing _

theorem select_selected (b : Balancer) : b.Selected b.select := by
  cases b with
  | roundRobin pool =>
    by_cases hup : pool.anyUp
    · obtain ⟨a, hselect⟩ := Pool.exists_select hup
      rw [select, hselect]
      exact @Selected.drawn _ 0 pool _ _ rfl (congrArg Prod.fst hselect) rfl rfl
    · rw [select, Pool.select_of_not_anyUp hup]
      exact .nothing _
  | preferLocal backend near far =>
    -- The far pool has its turn only where nobody near is up.
    cases near with
    | none => exact selected_far backend none far
    | some pool =>
      by_cases hup : pool.anyUp
      · obtain ⟨a, hselect⟩ := Pool.exists_select hup
        rw [select, hselect]
        exact @Selected.drawn _ 0 pool _ _ rfl (congrArg Prod.fst hselect) rfl rfl
      · rw [select, Pool.select_of_not_anyUp hup]
        exact selected_far backend (some pool) far

theorem Selected.rewound {b : Balancer} {found : Except BalanceError String × Balancer} (h : b.Selected found) :
    found.2.rewound = b.rewound := by
  cases h with
  | nothing e => rfl
  | drawn hpool haddress hpools hsame => exact hsame

end Balancer

end ReverseProxy
