import Mathlib.Data.Int.CardIntervalMod
import ReverseProxy.Proofs.Balance.Sweep

/-! # Selections go round the endpoints that are up -/

namespace ReverseProxy.Pool

/-! ## Positions that are up -/

def upPositions (pool : Pool) : List Nat := (List.range pool.ring.length).filter pool.isUp

/-- The positions that are up, in the order in which a selection meets them. -/
def upcoming (pool : Pool) : List Nat := pool.sweep.filter pool.isUp

theorem upPositions_nodup (pool : Pool) : pool.upPositions.Nodup := List.nodup_range.filter _

/-- From the cursor on, one meets the same positions in the same cyclic order. -/
theorem exists_upcoming_eq_rotate (pool : Pool) (hup : pool.upPositions ≠ []) :
    ∃ p < pool.upPositions.length, pool.upcoming = pool.upPositions.rotate p := by
  have hk : 0 < pool.upPositions.length := List.length_pos_of_ne_nil hup
  -- The cursor cuts the ring in two, and what is up on each side changes places.
  let passed := ((List.range pool.ring.length).take pool.cursor).filter pool.isUp
  let ahead := ((List.range pool.ring.length).drop pool.cursor).filter pool.isUp
  have hup : pool.upPositions = passed ++ ahead := by
    rw [← List.filter_append, List.take_append_drop, upPositions]
  have hcoming : pool.upcoming = ahead ++ passed := by
    have hle : pool.cursor ≤ (List.range pool.ring.length).length := by
      rw [List.length_range]
      exact pool.cursor_lt.le
    rw [upcoming, sweep, List.rotate_eq_drop_append_take hle, List.filter_append]
  refine ⟨passed.length % pool.upPositions.length, Nat.mod_lt _ hk, ?_⟩
  rw [List.rotate_mod, hup, List.rotate_append_length_eq, hcoming]

theorem upcoming_length (pool : Pool) : pool.upcoming.length = pool.upPositions.length := by
  rw [upcoming, upPositions, sweep]
  exact ((List.rotate_perm _ _).filter _).length_eq

/-- A selection takes the first position to come, which then comes last. -/
theorem pick_of_upcoming {pool : Pool} {q : Nat} {rest : List Nat} (h : pool.upcoming = q :: rest) :
    ∃ e, pool.ring[q]? = some e ∧ pool.pick = (some (q, e), pool.behind q) ∧
      (pool.behind q).upcoming = rest ++ [q] := by
  rcases pick_cases pool with ⟨before, q', after, e, hsweep, hbefore, hget, hup, hpick⟩ | ⟨hdown, -⟩
  · have hq' : pool.isUp q' := isUp_iff.mpr ⟨e, hget, hup⟩
    have hskip : before.filter pool.isUp = [] := by simpa using hbefore
    rw [upcoming, hsweep, List.filter_append, hskip, List.nil_append, List.filter_cons_of_pos hq'] at h
    obtain ⟨rfl, rfl⟩ := List.cons.inj h
    refine ⟨e, hget, hpick, ?_⟩
    rw [upcoming, sweep_behind hsweep, behind_isUp, List.filter_append, List.filter_append, hskip,
      List.filter_cons_of_pos hq', List.filter_nil, List.nil_append]
  · have hnone : pool.upcoming = [] := by simp [upcoming, hdown]
    simp [hnone] at h

theorem upcoming_getElem? {pool : Pool} {p : Nat} (hup : pool.upPositions ≠ [])
    (hp : pool.upcoming = pool.upPositions.rotate p) (i : Nat) :
    pool.upcoming[i % pool.upcoming.length]? =
      pool.upPositions[(p + i) % pool.upPositions.length]? := by
  have hlt : i % pool.upPositions.length < pool.upPositions.length :=
    Nat.mod_lt _ (List.length_pos_of_ne_nil hup)
  rw [upcoming_length, hp, List.getElem?_rotate hlt, Nat.mod_add_mod, Nat.add_comm]

/-! ## Calls -/

/-- One selection: who asked, where the picked endpoint stands, and what the answer was. -/
structure Call (κ : Type) where
  caller : κ
  picked : Option Nat
  answer : Except BalanceError String

/-- The selections of callers that come one after the other, each as often as it likes. -/
def serve {κ : Type} : List κ → Pool → List (Call κ)
  | [], _ => []
  | caller :: rest, pool =>
    { caller, picked := pool.pick.1.map (·.1), answer := pool.select.1 } :: serve rest pool.select.2

variable {κ : Type}

@[simp] theorem serve_length (callers : List κ) (pool : Pool) :
    (serve callers pool).length = callers.length := by
  induction callers generalizing pool with
  | nil => rfl
  | cons caller rest ih => simp [serve, ih]

theorem serve_getElem? (callers : List κ) (pool : Pool) {i : Nat} (hi : i < callers.length)
    (hup : pool.upcoming ≠ []) :
    ∃ q e, pool.upcoming[i % pool.upcoming.length]? = some q ∧ pool.ring[q]? = some e ∧
      (serve callers pool)[i]? = some ⟨callers[i], some q, .ok e.address⟩ := by
  induction callers generalizing pool i with
  | nil => simp at hi
  | cons caller rest ih =>
    obtain ⟨q, later, hq⟩ := List.exists_cons_of_ne_nil hup
    obtain ⟨e, hget, hpick, hnext⟩ := pick_of_upcoming hq
    cases i with
    | zero => exact ⟨q, e, by simp [hq], hget, by simp [serve, select, hpick]⟩
    | succ i =>
      -- One call turns what is to come by one, so its index goes down by one.
      have hrotate : (pool.behind q).upcoming = pool.upcoming.rotate 1 := by
        rw [hnext, hq, List.rotate_cons_succ, List.rotate_zero]
      obtain ⟨q', e', hq', hget', hcall⟩ := ih (pool.behind q) (by simpa using hi) (by simp [hnext])
      refine ⟨q', e', ?_, hget', ?_⟩
      · rw [hrotate, List.length_rotate, List.getElem?_rotate, Nat.mod_add_mod] at hq'
        · exact hq'
        · exact Nat.mod_lt _ (List.length_pos_of_ne_nil hup)
      · simpa [serve, select, hpick] using hcall

/-! ## Rounds -/

theorem serve_call (callers : List κ) {pool : Pool} {p i : Nat} (hup : pool.upPositions ≠ [])
    (hp : pool.upcoming = pool.upPositions.rotate p) (hi : i < callers.length) :
    ∃ q e, pool.upPositions[(p + i) % pool.upPositions.length]? = some q ∧ pool.ring[q]? = some e ∧
      (serve callers pool)[i]? = some ⟨callers[i], some q, .ok e.address⟩ := by
  have hcoming : pool.upcoming ≠ [] := by rwa [hp, ne_eq, List.rotate_eq_nil_iff]
  rw [← upcoming_getElem? hup hp i]
  exact serve_getElem? callers pool hi hcoming

theorem serve_picked (callers : List κ) {pool : Pool} {p : Nat} (hup : pool.upPositions ≠ [])
    (hp : pool.upcoming = pool.upPositions.rotate p) :
    (serve callers pool).map (·.picked) =
      (List.range callers.length).map fun i => pool.upPositions[(p + i) % pool.upPositions.length]? := by
  apply List.ext_getElem?
  intro i
  by_cases hi : i < callers.length
  · obtain ⟨q, e, hq, -, hcall⟩ := serve_call callers hup hp hi
    simp only [List.getElem?_map, hcall, List.getElem?_range hi, Option.map_some, hq]
  · rw [List.getElem?_eq_none (by simpa using hi), List.getElem?_eq_none (by simpa using hi)]

/-- A stretch of a periodic list that is one period long is a rotation of the period. -/
theorem take_drop_periodic {l : List Nat} {m p i : Nat} (hi : i + l.length ≤ m) :
    (((List.range m).map fun j => l[(p + j) % l.length]?).drop i).take l.length =
      (l.rotate (p + i)).map some := by
  apply List.ext_getElem?
  intro d
  by_cases hd : d < l.length
  · rw [List.getElem?_take_of_lt hd, List.getElem?_drop, List.getElem?_map, List.getElem?_map,
      List.getElem?_range (by omega), List.getElem?_rotate hd, Nat.add_comm d, Nat.add_assoc,
      Option.map_some, List.getElem?_eq_getElem (Nat.mod_lt _ (by omega)), Option.map_some]
  · rw [List.getElem?_eq_none (by simp; omega), List.getElem?_eq_none (by simp; omega)]

theorem mod_add_eq_iff {k p i j : Nat} (hp : p < k) (hj : j < k) :
    (p + i) % k = j ↔ i ≡ j + (k - p) [MOD k] := by
  have hsum : p + (j + (k - p)) = j + k := by omega
  constructor
  · intro h
    apply Nat.ModEq.add_left_cancel' p
    rw [hsum, Nat.ModEq, h, Nat.add_mod_right, Nat.mod_eq_of_lt hj]
  · intro h
    have := h.add_left p
    rwa [hsum, Nat.ModEq, Nat.add_mod_right, Nat.mod_eq_of_lt hj] at this

/-- Each item of a period occurs once in each whole period, and perhaps once more. -/
theorem count_periodic {l : List Nat} (hl : l.Nodup) (m : Nat) {p x : Nat} (hp : p < l.length)
    (hx : x ∈ l) :
    ∃ v, ((List.range m).map fun j => l[(p + j) % l.length]?).count (some x) =
      m / l.length + if v % l.length < m % l.length then 1 else 0 := by
  obtain ⟨j, hj, rfl⟩ := List.getElem_of_mem hx
  refine ⟨j + (l.length - p), ?_⟩
  rw [← Nat.count_modEq_card m (by omega), Nat.count, List.count, List.countP_map]
  apply List.countP_congr
  intro i _
  have hlt : (p + i) % l.length < l.length := Nat.mod_lt _ (by omega)
  simp only [Function.comp_apply, List.getElem?_eq_getElem hlt, beq_iff_eq, Option.some.injEq,
    hl.getElem_inj_iff, decide_eq_true_eq]
  exact mod_add_eq_iff hp hj

/-- The calls go round the positions that are up, beginning with the one that has index `p` among them. -/
structure GoesRound (pool : Pool) (callers : List κ) (p : Nat) : Prop where
  lt : p < pool.upPositions.length
  /-- The round begins at the first position that is up from the cursor on. -/
  first : pool.sweep.find? pool.isUp = pool.upPositions[p]?
  /-- Call `i` is given the address at the index `p + i`, round the positions that are up. -/
  answer : ∀ i (hi : i < callers.length), ∃ q e,
    pool.upPositions[(p + i) % pool.upPositions.length]? = some q ∧ pool.ring[q]? = some e ∧
      (serve callers pool)[i]? = some ⟨callers[i], some q, .ok e.address⟩
  /-- As many calls in a row as there are positions up pick them in cyclic order. -/
  round : ∀ i, i + pool.upPositions.length ≤ callers.length →
    (((serve callers pool).map (·.picked)).drop i).take pool.upPositions.length =
      (pool.upPositions.rotate (p + i)).map some
  once : ∀ i, i + pool.upPositions.length ≤ callers.length → ∀ q ∈ pool.upPositions,
    ((((serve callers pool).map (·.picked)).drop i).take pool.upPositions.length).count (some q) = 1
  /-- No position is picked more than once oftener than another one. -/
  fair : ∀ a ∈ pool.upPositions, ∀ b ∈ pool.upPositions,
    ((serve callers pool).map (·.picked)).count (some a) ≤
      ((serve callers pool).map (·.picked)).count (some b) + 1

/-- While the flags stay as they are, selections go round the positions that are up. -/
theorem exists_goesRound (pool : Pool) (hup : pool.upPositions ≠ []) (callers : List κ) :
    ∃ p, GoesRound pool callers p := by
  obtain ⟨p, hp, hcoming⟩ := exists_upcoming_eq_rotate pool hup
  have hpicked := serve_picked callers hup hcoming
  have hround : ∀ i, i + pool.upPositions.length ≤ callers.length →
      (((serve callers pool).map (·.picked)).drop i).take pool.upPositions.length =
        (pool.upPositions.rotate (p + i)).map some := by
    intro i hi
    rw [hpicked]
    exact take_drop_periodic hi
  refine ⟨p, hp, ?_, fun i hi => serve_call callers hup hcoming hi, hround, ?_, ?_⟩
  · rw [← List.head?_filter, ← upcoming, hcoming, List.head?_rotate hp]
  · intro i hi q hq
    rw [hround i hi, List.count_map_of_injective _ _ (Option.some_injective _)]
    apply List.count_eq_one_of_mem
    · exact List.nodup_rotate.mpr pool.upPositions_nodup
    · exact List.mem_rotate.mpr hq
  · intro a ha b hb
    obtain ⟨v, hv⟩ := count_periodic pool.upPositions_nodup callers.length hp ha
    obtain ⟨w, hw⟩ := count_periodic pool.upPositions_nodup callers.length hp hb
    rw [hpicked, hv, hw]
    split <;> split <;> omega

/-- Four endpoints, the second of which is down. The cursor is at the last one. -/
def fourEndpoints : Pool where
  backend := "be"
  ring := [
    { server := { name := "s1", address := "a:1" } },
    { server := { name := "s2", address := "b:1" }, up := false },
    { server := { name := "s3", address := "c:1" } },
    { server := { name := "s4", address := "d:1" } }]
  cursor := 3
  cursor_lt := by decide

theorem exists_goesRound_fourEndpoints :
    fourEndpoints.upPositions ≠ [] ∧ ∃ p, GoesRound fourEndpoints ["x", "y", "x", "x", "z"] p :=
  ⟨by decide, exists_goesRound fourEndpoints (by decide) _⟩

example : (serve ["x", "y", "x", "x", "z"] fourEndpoints).map (·.picked) =
    [some 3, some 0, some 2, some 3, some 0] := by decide

end ReverseProxy.Pool
