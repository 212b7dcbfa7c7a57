import ReverseProxy.Proofs.Except
import ReverseProxy.Proofs.Gateway.Schedule

/-! # Nothing is overdue -/

namespace ReverseProxy

/-! ## Queues -/

namespace Monitor

variable {σ : Type}

/-- Whatever is still to be done is due after a time. -/
def DueAfter (time : Nat) (queue : List Watch) : Prop :=
  ∀ w ∈ queue, ∀ due, w.checker.due? = some due → time < due

theorem earliest?_le {queue : List Watch} {time due : Nat} {w : Watch} (h : earliest? queue = some time)
    (hw : w ∈ queue) (hdue : w.checker.due? = some due) : time ≤ due :=
  (List.min?_eq_some_iff.mp h).2 due (List.mem_filterMap.mpr ⟨w, hw, hdue⟩)

theorem dueAfter_of_earliest? {queue : List Watch} {till : Nat}
    (h : ∀ time, earliest? queue = some time → till < time) : DueAfter till queue := by
  intro w hw due hdue
  cases hearliest : earliest? queue with
  | none =>
    have hnone := List.min?_eq_none_iff.mp hearliest
    rw [List.filterMap_eq_nil_iff] at hnone
    rw [hnone w hw] at hdue
    cases hdue
  | some time =>
    have hle := earliest?_le hearliest hw hdue
    have hlt := h time hearliest
    omega

theorem runQueue_dueAfter (ward : Ward σ) (mode : CheckMode) (till : Nat) (queue : List Watch) (world : σ) :
    DueAfter till (runQueue ward mode till queue world).1 := by
  -- The recursion ends where nothing is left or the first that is left is due later.
  induction queue, world using runQueue.induct ward mode till with
  | case1 queue world hdue =>
    rw [runQueue_eq, hdue]
    exact dueAfter_of_earliest? (by simp [hdue])
  | case2 queue world time hdue hle next ih =>
    rw [runQueue_eq, hdue]
    dsimp only
    rwa [if_pos hle]
  | case3 queue world time hdue hlt =>
    rw [runQueue_eq, hdue]
    dsimp only
    rw [if_neg hlt]
    apply dueAfter_of_earliest?
    intro later hlater
    rw [hdue] at hlater
    cases hlater
    omega

theorem runQueue_of_dueAfter (ward : Ward σ) (mode : CheckMode) {till : Nat} {queue : List Watch} (world : σ)
    (h : DueAfter till queue) : runQueue ward mode till queue world = (queue, world) := by
  rw [runQueue_eq]
  split
  · rfl
  next time htime =>
    obtain ⟨w, hw, hdue⟩ := List.mem_filterMap.mp (List.min?_mem htime)
    have hlt := h w hw time hdue
    rw [if_neg (by omega)]

theorem due?_of_obey {signals : List (String × StopSignal)} {w : Watch} {due : Nat}
    (h : (obey signals w).2.checker.due? = some due) : w.checker.due? = some due := by
  unfold obey at h
  split at h
  · exact h
  · split at h
    · cases h
    · cases h
    · exact h

theorem obeyAll_dueAfter {signals : List (String × StopSignal)} {queue : List Watch} {time : Nat}
    (h : DueAfter time queue) : DueAfter time (obeyAll signals queue).2 := by
  induction queue generalizing signals with
  | nil => exact h
  | cons w queue ih =>
    obtain ⟨hw, hqueue⟩ := List.forall_mem_cons.mp h
    intro v hv due hdue
    rcases List.mem_cons.mp hv with rfl | hv
    · exact hw due (due?_of_obey hdue)
    · exact ih hqueue v hv due hdue

end Monitor

/-! ## States -/

namespace State

/-- All that was due by now is done. -/
def Punctual (s : State) : Prop := Monitor.DueAfter s.now s.monitor.queue

theorem settle_punctual (s : State) : s.settle.Punctual :=
  Monitor.runQueue_dueAfter World.ward s.monitor.mode s.now s.monitor.queue s.world

theorem settle_of_punctual {s : State} (h : s.Punctual) : s.settle = s := by
  unfold settle check Monitor.run
  rw [Monitor.runQueue_of_dueAfter World.ward s.monitor.mode s.world h]

theorem stop_punctual {s : State} (name : String) (h : s.Punctual) : (s.stop name).Punctual :=
  Monitor.obeyAll_dueAfter h

theorem shutdown_punctual {s : State} (h : s.Punctual) : s.shutdown.Punctual := by
  unfold shutdown
  induction s.world.balancers.map (·.1) generalizing s with
  | nil => exact h
  | cons name names ih => exact ih (stop_punctual name h)

end State

theorem Gateway.Reaches.punctual {gateway : Gateway} {s : State} (h : gateway.Reaches s) : s.Punctual := by
  induction h with
  | start common mode checks network => exact State.settle_punctual _
  | dispatch request _ _ => exact State.settle_punctual _
  | serve timeouts fresh request _ _ => exact State.settle_punctual _
  | serveConnection timeouts fresh request _ _ => exact State.settle_punctual _
  | advance milliseconds _ _ => exact State.settle_punctual _
  | @draw s name _ ih =>
    unfold State.draw
    split
    · exact ih
    · exact ih
  | @mark s after name address up _ hmark ih =>
    unfold State.mark at hmark
    split at hmark
    · obtain ⟨balancers, -, hafter⟩ := bind_eq_ok.mp hmark
      cases hafter
      exact ih
    · cases hmark
  | stop name _ ih => exact State.stop_punctual name ih
  | shutdown _ ih => exact State.shutdown_punctual ih

end ReverseProxy
