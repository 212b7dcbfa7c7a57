import Mathlib.Data.List.Chain
import ReverseProxy.Health.Probe

/-! # Probes one after the other -/

namespace ReverseProxy

namespace Probe

def span (limit : Nat) (probe : Probe) : Nat :=
  match probe.delay with
  | some delay => min delay limit
  | none => limit

/-- What is written of a probe. Whoever takes longer than the limit is ill. -/
def verdict (limit : Nat) (probe : Probe) : Bool :=
  match probe.delay with
  | some delay => decide (delay ≤ limit) && probe.healthy
  | none => false

theorem within_eq (limit : Nat) (probe : Probe) :
    probe.within limit = (probe.span limit, probe.verdict limit) := by
  unfold within span verdict
  cases probe.delay with
  | none => rfl
  | some delay =>
    by_cases h : delay ≤ limit
    · simp [h]
    · have hmin : min delay limit = limit := by omega
      simp [h, hmin]

end Probe

/-- The probes of one endpoint that have begun and the verdicts of those that have ended, with their times. -/
structure Rounds where
  begun : List (Nat × Probe) := []
  ended : List (Nat × Bool) := []

namespace Rounds

variable {interval limit : Nat} {r : Rounds}

/-- When a probe ends, and what is written then. -/
def outcome (limit : Nat) (b : Nat × Probe) : Nat × Bool := (b.1 + b.2.span limit, b.2.verdict limit)

theorem le_outcome (limit : Nat) (b : Nat × Probe) : b.1 ≤ (outcome limit b).1 := Nat.le_add_right _ _

/-- When a probe begins that comes after these. The first one begins at time 0. -/
def next (interval limit : Nat) (r : Rounds) : Nat :=
  (r.begun.getLast?.map fun b => (outcome limit b).1 + interval).getD 0

/-- When something is due: the end of the probe under way, or else the next beginning. -/
def due (interval limit : Nat) (r : Rounds) : Nat :=
  if r.ended.length < r.begun.length then (r.begun.getLast?.map fun b => (outcome limit b).1).getD 0
  else r.next interval limit

/-- Every probe begins when the one before has ended and the interval has passed, and ends in time. -/
structure Regular (interval limit : Nat) (r : Rounds) : Prop where
  first : ∀ b ∈ r.begun.head?, b.1 = 0
  rhythm : r.begun.IsChain fun a b => b.1 = (outcome limit a).1 + interval
  outcomes : r.ended <+: r.begun.map (outcome limit)
  inTurn : r.begun.length ≤ r.ended.length + 1

theorem regular_nil : Regular interval limit {} where
  first := nofun
  rhythm := List.IsChain.nil
  outcomes := List.prefix_rfl
  inTurn := Nat.zero_le _

theorem Regular.begin (h : Regular interval limit r) (hidle : r.ended.length = r.begun.length) (probe : Probe) :
    Regular interval limit { r with begun := r.begun ++ [(r.next interval limit, probe)] } where
  first := by
    intro b hb
    cases hbegun : r.begun with
    | nil =>
      simp only [hbegun, List.nil_append, List.head?_cons, Option.mem_some_iff] at hb
      simp [← hb, next, hbegun]
    | cons a rest =>
      apply h.first b
      simpa [hbegun] using hb
  rhythm := by
    refine List.isChain_append.mpr ⟨h.rhythm, List.IsChain.singleton _, ?_⟩
    intro a ha b hb
    simp only [List.head?_cons, Option.mem_some_iff] at hb
    simp [← hb, next, Option.mem_def.mp ha]
  outcomes := by
    rw [List.map_append]
    exact h.outcomes.trans (List.prefix_append _ _)
  inTurn := by simp [hidle]

theorem Regular.finish {init : List (Nat × Probe)} {b : Nat × Probe} (h : Regular interval limit r)
    (hbegun : r.begun = init ++ [b]) (hlength : r.ended.length = init.length) :
    Regular interval limit { r with ended := r.ended ++ [outcome limit b] } where
  first := h.first
  rhythm := h.rhythm
  outcomes := by
    have hprefix := h.outcomes
    rw [hbegun, List.map_append] at hprefix
    have heq : r.ended = init.map (outcome limit) := by
      have := List.prefix_iff_eq_take.mp hprefix
      rwa [List.take_left' (by simp [hlength])] at this
    rw [heq, hbegun, List.map_append]
    exact List.prefix_rfl
  inTurn := by simp [hbegun, hlength]

/-! ## How close probes come -/

/-- Each probe has ended, and the interval has passed, when any later one begins. -/
theorem Regular.apart (h : Regular interval limit r) :
    r.begun.Pairwise fun a b => (outcome limit a).1 + interval ≤ b.1 := by
  have htrans : ∀ {a b c : Nat × Probe}, (outcome limit a).1 + interval ≤ b.1 →
      (outcome limit b).1 + interval ≤ c.1 → (outcome limit a).1 + interval ≤ c.1 := by
    intro a b c hab hbc
    have := le_outcome limit b
    omega
  let Apart (a b : Nat × Probe) : Prop := (outcome limit a).1 + interval ≤ b.1
  have : Trans Apart Apart Apart := ⟨htrans⟩
  have hchain : r.begun.IsChain Apart := h.rhythm.imp fun _ _ hab => Nat.le_of_eq hab.symm
  exact hchain.pairwise

/-- Between two bounds there is room for so many beginnings only. -/
theorem spread_le {low high : Nat} {begun : List (Nat × Probe)} (hne : begun ≠ [])
    (hapart : begun.Pairwise fun a b => a.1 + interval ≤ b.1) (hin : ∀ b ∈ begun, low ≤ b.1 ∧ b.1 ≤ high) :
    low + interval * (begun.length - 1) ≤ high := by
  induction begun generalizing low with
  | nil => exact absurd rfl hne
  | cons a rest ih =>
    obtain ⟨hfirst, hrest⟩ := List.pairwise_cons.mp hapart
    have ha := hin a List.mem_cons_self
    by_cases hnil : rest = []
    · simp [hnil]
      omega
    · have hbound : ∀ b ∈ rest, a.1 + interval ≤ b.1 ∧ b.1 ≤ high :=
        fun b hb => ⟨hfirst b hb, (hin b (List.mem_cons_of_mem a hb)).2⟩
      have hle := ih hnil hrest hbound
      obtain ⟨n, hn⟩ := Nat.exists_eq_succ_of_ne_zero (List.length_pos_iff.mpr hnil).ne'
      simp only [List.length_cons, hn, Nat.succ_eq_add_one, Nat.add_sub_cancel, Nat.mul_succ] at hle ⊢
      omega

/-- In a window of a length there begin at most so many probes as the interval fits into it, and one more. -/
theorem Regular.window (h : Regular interval limit r) (hinterval : 0 < interval) (start length : Nat) :
    (r.begun.filter fun b => start ≤ b.1 ∧ b.1 ≤ start + length).length ≤ length / interval + 1 := by
  generalize hsome : (r.begun.filter fun b => start ≤ b.1 ∧ b.1 ≤ start + length) = inside
  by_cases hnil : inside = []
  · simp [hnil]
  · have hapart : inside.Pairwise fun a b => a.1 + interval ≤ b.1 := by
      rw [← hsome]
      refine (h.apart.imp ?_).filter _
      intro a b hab
      have := le_outcome limit a
      omega
    have hle : start + interval * (inside.length - 1) ≤ start + length := by
      refine spread_le hnil hapart ?_
      intro b hb
      rw [← hsome] at hb
      simpa using (List.mem_filter.mp hb).2
    have hdiv : inside.length - 1 ≤ length / interval := by
      rw [Nat.le_div_iff_mul_le hinterval, Nat.mul_comm]
      omega
    omega

end Rounds

end ReverseProxy
