import Mathlib.Data.List.Rotate
import ReverseProxy.Balance.Pool

/-! # The order in which a selection looks at endpoints -/

namespace ReverseProxy.Pool

/-! ## Positions -/

def isUpIn (ring : List Endpoint) (position : Nat) : Bool := ring[position]?.any (·.up)

def isUp (pool : Pool) (position : Nat) : Bool := isUpIn pool.ring position

/-- All positions, once round the ring from the cursor. -/
def sweep (pool : Pool) : List Nat := (List.range pool.ring.length).rotate pool.cursor

theorem length_pos (pool : Pool) : 0 < pool.ring.length := Nat.zero_lt_of_lt pool.cursor_lt

/-- The same pool, with the cursor behind a position. -/
def behind (pool : Pool) (position : Nat) : Pool :=
  { pool with
    cursor := (position + 1) % pool.ring.length
    cursor_lt := Nat.mod_lt _ pool.length_pos }

@[simp] theorem behind_isUp (pool : Pool) (q : Nat) : (pool.behind q).isUp = pool.isUp := rfl

theorem isUp_lt {pool : Pool} {q : Nat} (h : pool.isUp q) : q < pool.ring.length := by
  by_contra hge
  rw [isUp, isUpIn, List.getElem?_eq_none (by omega)] at h
  simp at h

theorem isUp_iff {pool : Pool} {q : Nat} : pool.isUp q ↔ ∃ e, pool.ring[q]? = some e ∧ e.up := by
  rw [isUp, isUpIn, Option.any_eq_true]

@[simp] theorem mem_sweep {pool : Pool} {q : Nat} : q ∈ pool.sweep ↔ q < pool.ring.length := by
  rw [sweep, List.mem_rotate, List.mem_range]

theorem sweep_nodup (pool : Pool) : pool.sweep.Nodup := by
  rw [sweep, List.nodup_rotate]
  exact List.nodup_range

@[simp] theorem sweep_length (pool : Pool) : pool.sweep.length = pool.ring.length := by
  rw [sweep, List.length_rotate, List.length_range]

theorem sweep_getElem {pool : Pool} {d : Nat} (hd : d < pool.sweep.length) :
    pool.sweep[d] = (pool.cursor + d) % pool.ring.length := by
  simp only [sweep, List.getElem_rotate, List.getElem_range, List.length_range]
  rw [Nat.add_comm]

theorem sweep_eq_map (pool : Pool) :
    pool.sweep = (List.range pool.ring.length).map fun d => (pool.cursor + d) % pool.ring.length := by
  apply List.ext_getElem
  · simp
  · intro d hd _
    rw [sweep_getElem hd, List.getElem_map, List.getElem_range]

/-- Behind a position, the sweep begins with what followed it and ends with the position itself. -/
theorem sweep_behind {pool : Pool} {before after : List Nat} {q : Nat}
    (h : pool.sweep = before ++ q :: after) : (pool.behind q).sweep = after ++ (before ++ [q]) := by
  have hd : before.length < pool.sweep.length := by rw [h]; simp
  have hq : q = (pool.cursor + before.length) % pool.ring.length := by
    rw [← sweep_getElem hd]
    simp [h]
  have hnext : (q + 1) % pool.ring.length = (pool.cursor + (before.length + 1)) % pool.ring.length := by
    rw [hq, Nat.mod_add_mod, Nat.add_assoc]
  calc (pool.behind q).sweep
      = (List.range pool.ring.length).rotate ((q + 1) % pool.ring.length) := rfl
    _ = (List.range pool.ring.length).rotate (pool.cursor + (before.length + 1)) := by
        rw [hnext]
        conv_rhs => rw [← List.rotate_mod, List.length_range]
    _ = pool.sweep.rotate (before ++ [q]).length := by
        rw [← List.rotate_rotate, ← sweep, List.length_append, List.length_singleton]
    _ = after ++ (before ++ [q]) := by
        rw [h, ← List.rotate_append_length_eq (before ++ [q]) after]
        simp

/-! ## Picking -/

/-- A walk stops behind the first position of its way that is up. -/
theorem walk_eq {ring : List Endpoint} {cursor : Nat} (steps : Nat) (h : cursor < ring.length) :
    walk ring steps cursor =
      match ((List.range steps).map fun d => (cursor + d) % ring.length).find? (isUpIn ring) with
      | some q => (ring[q]?.map (q, ·), (q + 1) % ring.length)
      | none => (none, (cursor + steps) % ring.length) := by
  induction steps generalizing cursor with
  | zero => simp [walk, Nat.mod_eq_of_lt h]
  | succ steps ih =>
    have hway : ((List.range (steps + 1)).map fun d => (cursor + d) % ring.length) =
        cursor :: (List.range steps).map fun d => ((cursor + 1) % ring.length + d) % ring.length := by
      rw [List.range_succ_eq_map, List.map_cons, Nat.add_zero, Nat.mod_eq_of_lt h, List.map_map]
      simp [Function.comp_def, Nat.add_assoc, Nat.add_comm 1]
    have hget : ring[cursor]? = some ring[cursor] := List.getElem?_eq_getElem h
    rw [hway, walk, hget]
    cases hup : ring[cursor].up with
    | true => simp [isUpIn, hget, hup]
    | false =>
      have hdown : isUpIn ring cursor = false := by simp [isUpIn, hget, hup]
      rw [List.find?_cons_of_neg (by simp [hdown])]
      simp only [hup, Bool.false_eq_true, if_false]
      rw [ih (Nat.mod_lt _ (by omega)), Nat.mod_add_mod, Nat.add_assoc, Nat.add_comm 1]

theorem pick_cases (pool : Pool) :
    (∃ before q after e, pool.sweep = before ++ q :: after ∧ (∀ x ∈ before, pool.isUp x = false) ∧
      pool.ring[q]? = some e ∧ e.up ∧ pool.pick = (some (q, e), pool.behind q)) ∨
    (∀ q, pool.isUp q = false) ∧ pool.pick = (none, pool) := by
  have hwalk := walk_eq pool.ring.length pool.cursor_lt
  rw [← sweep_eq_map] at hwalk
  cases hfind : pool.sweep.find? (isUpIn pool.ring) with
  | some q =>
    left
    obtain ⟨hup, before, after, hsweep, hbefore⟩ := List.find?_eq_some_iff_append.mp hfind
    obtain ⟨e, hget, he⟩ := isUp_iff.mp hup
    refine ⟨before, q, after, e, hsweep, by simpa [isUp] using hbefore, hget, he, ?_⟩
    simp only [hfind, hget] at hwalk
    simp only [pick, hwalk]
    rfl
  | none =>
    right
    have hdown : ∀ q, pool.isUp q = false := by
      intro q
      by_contra hup
      rw [Bool.not_eq_false] at hup
      exact List.find?_eq_none.mp hfind q (mem_sweep.mpr (isUp_lt hup)) hup
    refine ⟨hdown, ?_⟩
    simp only [hfind, Nat.add_mod_right, Nat.mod_eq_of_lt pool.cursor_lt] at hwalk
    simp only [pick, hwalk]

/-! ## Selecting -/

def anyUp (pool : Pool) : Bool := pool.ring.any (·.up)

theorem anyUp_iff {pool : Pool} : pool.anyUp ↔ ∃ q, pool.isUp q := by
  rw [anyUp, List.any_eq_true]
  constructor
  · rintro ⟨e, hmem, hup⟩
    obtain ⟨q, hget⟩ := List.mem_iff_getElem?.mp hmem
    exact ⟨q, isUp_iff.mpr ⟨e, hget, hup⟩⟩
  · rintro ⟨q, hq⟩
    obtain ⟨e, hget, hup⟩ := isUp_iff.mp hq
    exact ⟨e, List.mem_of_getElem? hget, hup⟩

theorem select_of_anyUp {pool : Pool} (h : pool.anyUp) : ∃ a, pool.select.1 = .ok a := by
  obtain ⟨q, hq⟩ := anyUp_iff.mp h
  rcases pick_cases pool with ⟨_, _, _, e, -, -, -, -, hpick⟩ | ⟨hdown, -⟩
  · exact ⟨e.address, by rw [select, hpick]⟩
  · simp [hdown] at hq

/-- A selection that finds nothing goes round the whole ring, and so leaves the cursor where it was. -/
theorem select_of_not_anyUp {pool : Pool} (h : ¬pool.anyUp) :
    pool.select = (.error (.noHealthyEndpoint pool.backend), pool) := by
  rcases pick_cases pool with ⟨_, q, _, e, -, -, hget, hup, -⟩ | ⟨-, hpick⟩
  · exact absurd (anyUp_iff.mpr ⟨q, isUp_iff.mpr ⟨e, hget, hup⟩⟩) h
  · rw [select, hpick]

end ReverseProxy.Pool
