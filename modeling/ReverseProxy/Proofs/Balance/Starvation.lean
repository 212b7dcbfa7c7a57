import Mathlib.Data.List.Forall2
import Mathlib.Data.List.TakeWhile
import Mathlib.Data.Option.Basic
import ReverseProxy.Proofs.Balance.Operation
import ReverseProxy.Proofs.Balance.Sweep

/-! # No endpoint that stays up is passed over -/

open scoped List

namespace ReverseProxy.Pool

/-! ## Runs -/

def picks : List Operation → Pool → List (Option Nat)
  | [], _ => []
  | .select :: ops, pool => pool.pick.1.map (·.1) :: picks ops (pool.step .select).2
  | op :: ops, pool => picks ops (pool.step op).2

/-- The endpoint at a position is up before the run, after it and all the time. -/
def StaysUp (e : Nat) (ops : List Operation) (pool : Pool) : Prop :=
  ∀ done, done <+: ops → (run done pool).2.isUp e

theorem StaysUp.now {e : Nat} {ops : List Operation} {pool : Pool} (h : StaysUp e ops pool) :
    pool.isUp e := h [] List.nil_prefix

theorem StaysUp.next {e : Nat} {op : Operation} {ops : List Operation} {pool : Pool}
    (h : StaysUp e (op :: ops) pool) : StaysUp e ops (pool.step op).2 := by
  intro done hdone
  exact h (op :: done) (List.cons_prefix_cons.mpr ⟨rfl, hdone⟩)

theorem staysUp_nil {e : Nat} {pool : Pool} : StaysUp e [] pool ↔ pool.isUp e := by
  constructor
  · exact StaysUp.now
  · intro h done hdone
    rwa [List.prefix_nil.mp hdone]

theorem staysUp_cons {e : Nat} {op : Operation} {ops : List Operation} {pool : Pool} :
    StaysUp e (op :: ops) pool ↔ pool.isUp e ∧ StaysUp e ops (pool.step op).2 := by
  constructor
  · exact fun h => ⟨h.now, h.next⟩
  · rintro ⟨hnow, hnext⟩ done hdone
    cases done with
    | nil => exact hnow
    | cons first done =>
      obtain ⟨rfl, hrest⟩ := List.cons_prefix_cons.mp hdone
      exact hnext done hrest

instance decidableStaysUp (e : Nat) : ∀ ops pool, Decidable (StaysUp e ops pool)
  | [], _ => decidable_of_iff _ staysUp_nil.symm
  | op :: ops, pool =>
    have := decidableStaysUp e ops (pool.step op).2
    decidable_of_iff _ staysUp_cons.symm

def selections (ops : List Operation) (pool : Pool) : List (Except BalanceError String) :=
  (run ops pool).1.filterMap Answer.selection?

/-- The answer is the address of the picked endpoint. -/
def Tells (addresses : List String) (picked : Option Nat) (answer : Except BalanceError String) : Prop :=
  ∃ q a, picked = some q ∧ addresses[q]? = some a ∧ answer = .ok a

theorem picks_cons {op : Operation} (hop : op ≠ .select) (ops : List Operation) (pool : Pool) :
    picks (op :: ops) pool = picks ops (pool.step op).2 := by
  cases op with
  | select => exact absurd rfl hop
  | mark address up => rfl
  | verdict q up => rfl
  | list => rfl

theorem step_sweep {op : Operation} (pool : Pool) (hop : op ≠ .select) :
    (pool.step op).2.sweep = pool.sweep := by
  rcases step_cases pool hop with h | ⟨q, up, h⟩
  · rw [h]
  · rw [h, sweep, write_length, write_cursor, ← sweep]

theorem selections_cons {op : Operation} (hop : op ≠ .select) (ops : List Operation) (pool : Pool) :
    selections (op :: ops) pool = selections ops (pool.step op).2 := by
  rw [selections, run, Operation.run_cons, List.filterMap_cons_none (step_selection? pool hop)]
  rfl

theorem picks_select (ops : List Operation) (pool : Pool) :
    picks (.select :: ops) pool = pool.pick.1.map (·.1) :: picks ops pool.pick.2 := rfl

theorem selections_tell {e : Nat} {ops : List Operation} {pool : Pool} (hup : StaysUp e ops pool) :
    List.Forall₂ (Tells pool.addresses) (picks ops pool) (selections ops pool) := by
  induction ops generalizing pool with
  | nil => exact List.Forall₂.nil
  | cons op ops ih =>
    have hlater := ih hup.next
    rw [step_addresses] at hlater
    by_cases hop : op = .select
    · subst hop
      have hnow := hup.now
      rcases pick_cases pool with ⟨_, q, _, found, -, -, hget, -, hpick⟩ | ⟨hdown, -⟩
      · refine List.Forall₂.cons ⟨q, found.address, by rw [hpick]; rfl, ?_, ?_⟩ hlater
        · simp [addresses, servers, hget, Endpoint.address]
        · rw [select, hpick]
      · simp [hdown] at hnow
    · rw [picks_cons hop, selections_cons hop]
      exact hlater

theorem drop_picks {e : Nat} {ops : List Operation} {pool : Pool} (hup : StaysUp e ops pool) (i : Nat) :
    ∃ rest later, (picks ops pool).drop i = picks rest later ∧ StaysUp e rest later ∧
      later.ring.length = pool.ring.length := by
  induction ops generalizing pool i with
  | nil => exact ⟨[], pool, by simp [picks], hup, rfl⟩
  | cons op ops ih =>
    cases i with
    | zero => exact ⟨op :: ops, pool, rfl, hup, rfl⟩
    | succ i =>
      by_cases hop : op = .select
      · subst hop
        obtain ⟨rest, later, hdrop, hlater, hlen⟩ := ih hup.next i
        exact ⟨rest, later, hdrop, hlater, hlen⟩
      · obtain ⟨rest, later, hdrop, hlater, hlen⟩ := ih hup.next (i + 1)
        exact ⟨rest, later, by rw [picks_cons hop, hdrop], hlater, by rw [hlen, step_length]⟩

/-! ## Before an endpoint has its turn -/

/-- The positions that a selection looks at before a position. -/
def ahead (pool : Pool) (e : Nat) : List Nat := pool.sweep.takeWhile (· ≠ e)

theorem ahead_eq {pool : Pool} {e : Nat} {before after : List Nat}
    (h : pool.sweep = before ++ e :: after) (he : e ∉ before) : pool.ahead e = before := by
  rw [ahead, h, List.takeWhile_append_of_pos]
  · simp
  · intro x hx
    rw [decide_eq_true_eq]
    rintro rfl
    exact he hx

theorem ahead_nodup (pool : Pool) (e : Nat) : (pool.ahead e).Nodup :=
  pool.sweep_nodup.sublist (List.takeWhile_sublist _)

theorem ahead_length_lt {pool : Pool} {e : Nat} (he : e < pool.ring.length) :
    (pool.ahead e).length < pool.ring.length := by
  by_contra hge
  have hall : pool.ahead e = pool.sweep :=
    (List.takeWhile_prefix _).eq_of_length_le (by rw [sweep_length, ← ahead]; omega)
  have hne := List.takeWhile_eq_self_iff.mp hall e (mem_sweep.mpr he)
  simp at hne

/-- Until the endpoint is picked, only positions ahead of it are, each once at most. -/
theorem picks_sublist {e : Nat} {ops : List Operation} {pool : Pool} (hup : StaysUp e ops pool) :
    (picks ops pool).takeWhile (· ≠ some e) <+ (pool.ahead e).map some := by
  induction ops generalizing pool with
  | nil => simp [picks]
  | cons op ops ih =>
    by_cases hop : op = .select
    · subst hop
      have hnow := hup.now
      rcases pick_cases pool with ⟨before, q, after, e', hsweep, hbefore, -, -, hpick⟩ | ⟨hdown, -⟩
      · rw [picks_select, hpick]
        by_cases hq : q = e
        · simp [hq]
        have hebefore : e ∉ before := fun hmem => by simp [hbefore e hmem] at hnow
        have heafter : e ∈ after := by
          have hmem : e ∈ pool.sweep := mem_sweep.mpr (isUp_lt hnow)
          simpa [hsweep, hebefore, Ne.symm hq] using hmem
        obtain ⟨mid, tail, rfl, hemid⟩ := List.eq_append_cons_of_mem heafter
        -- What is passed is no longer ahead: it comes again only behind `e`.
        have hway : pool.sweep = (before ++ q :: mid) ++ e :: tail := by simp [hsweep]
        have hahead := ahead_eq hway (by simp [hebefore, hemid, Ne.symm hq])
        have hahead' : (pool.behind q).ahead e = mid :=
          ahead_eq (by rw [sweep_behind hsweep, List.append_assoc]; rfl) hemid
        have hlater := ih hup.next
        rw [step, select, hpick, hahead'] at hlater
        rw [List.takeWhile_cons_of_pos (by simpa using hq), hahead, List.map_append, List.map_cons]
        exact (hlater.cons_cons (some q)).trans (List.sublist_append_right _ _)
      · simp [hdown] at hnow
    · rw [picks_cons hop, ahead, ← step_sweep pool hop, ← ahead]
      exact ih hup.next

/-- A stretch of picks without the endpoint passes part of what was ahead of it. -/
theorem stretch_sublist {e : Nat} {ops : List Operation} {pool : Pool} (hup : StaysUp e ops pool)
    {i m : Nat} (hfree : some e ∉ ((picks ops pool).drop i).take m) :
    ∃ later : Pool, later.ring.length = pool.ring.length ∧ later.isUp e ∧
      ((picks ops pool).drop i).take m <+ (later.ahead e).map some := by
  obtain ⟨rest, later, hdrop, hlater, hlen⟩ := drop_picks hup i
  refine ⟨later, hlen, hlater.now, ?_⟩
  rw [hdrop] at hfree ⊢
  have hall : ∀ x ∈ (picks rest later).take m, x ≠ some e := fun x hx h => hfree (h ▸ hx)
  have hprefix : (picks rest later).take m <+: (picks rest later).takeWhile (· ≠ some e) := by
    rw [← List.take_append_drop m (picks rest later), List.takeWhile_append_of_pos]
    · simp
    · simpa using hall
  exact hprefix.sublist.trans (picks_sublist hlater)

/-! ## No starvation -/

/-- The endpoint at a position has its turns in a run. -/
structure TakesTurns (e : Nat) (ops : List Operation) (pool : Pool) : Prop where
  told : List.Forall₂ (Tells pool.addresses) (picks ops pool) (selections ops pool)
  /-- As many selections in a row as there are endpoints pick it. -/
  within : ∀ i, i + pool.ring.length ≤ (picks ops pool).length →
    some e ∈ ((picks ops pool).drop i).take pool.ring.length
  /-- Between two picks of it, every other position is picked once at most. -/
  between : ∀ i j, i < j → (picks ops pool)[i]? = some (some e) →
    (picks ops pool)[j]? = some (some e) →
    (∀ d, i < d → d < j → (picks ops pool)[d]? ≠ some (some e)) →
    ∀ q ≠ e, (((picks ops pool).take j).drop (i + 1)).count (some q) ≤ 1

/-- An endpoint that stays up has its turns, whatever becomes of the other flags. -/
theorem takesTurns_of_staysUp {e : Nat} {ops : List Operation} {pool : Pool}
    (hup : StaysUp e ops pool) : TakesTurns e ops pool := by
  refine ⟨selections_tell hup, ?_, ?_⟩
  · intro i hi
    by_contra hfree
    obtain ⟨later, hlen, hlater, hsub⟩ := stretch_sublist hup hfree
    have hle := hsub.length_le
    have hlt := ahead_length_lt (isUp_lt hlater)
    simp only [List.length_take, List.length_drop, List.length_map, hlen] at hle hlt
    omega
  · intro i j hij _ _ hfree q _
    rw [List.drop_take]
    have hfree' : some e ∉ ((picks ops pool).drop (i + 1)).take (j - (i + 1)) := by
      intro hmem
      obtain ⟨d, hd⟩ := List.mem_iff_getElem?.mp hmem
      rw [List.getElem?_take] at hd
      split at hd
      next hlt => exact hfree (i + 1 + d) (by omega) (by omega) (by rwa [List.getElem?_drop] at hd)
      next => cases hd
    obtain ⟨later, -, -, hsub⟩ := stretch_sublist hup hfree'
    have hnodup := (later.ahead_nodup e).map (Option.some_injective _)
    exact List.nodup_iff_count_le_one.mp (hnodup.sublist hsub) (some q)

def threeEndpoints : Pool where
  backend := "be"
  ring := [
    { server := { name := "s1", address := "a:1" } },
    { server := { name := "s2", address := "b:1" } },
    { server := { name := "s3", address := "c:1" } }]
  cursor := 1
  cursor_lt := by decide

/-- The last endpoint goes down and comes back, and the first one goes down. -/
def flapping : List Operation :=
  [.select, .mark "c:1" false, .select, .verdict 2 true, .select, .mark "a:1" false, .select, .select]

theorem takesTurns_flapping :
    StaysUp 1 flapping threeEndpoints ∧ TakesTurns 1 flapping threeEndpoints :=
  ⟨by decide, takesTurns_of_staysUp (by decide)⟩

example : picks flapping threeEndpoints = [some 1, some 0, some 1, some 2, some 1] := by decide

end ReverseProxy.Pool
