import ReverseProxy.Proofs.Health.Happening

/-! # Checkers come to rest -/

namespace ReverseProxy

/-! ## What checkers can do -/

namespace Checker

theorem turn_site {σ : Type} (ward : Ward σ) (mode : CheckMode) (c : Checker) (world : σ) :
    (c.turn ward mode world).1.site = c.site := by
  unfold turn
  split <;> rfl

theorem not_finished_of_due {c : Checker} {time : Nat} (h : c.due? = some time) : c.phase ≠ .finished := by
  intro hphase
  rw [due?, hphase] at h
  cases h

end Checker

namespace Happening

def isTask : Happening → Bool
  | turn _ | heed _ => true
  | _ => false

end Happening

namespace State

theorem turn_cases (position : Nat) (s : State) :
    s.turn position = s ∨ ∃ w time, s.monitor.queue[position]? = some w ∧ w.checker.due? = some time ∧
      time ≤ s.now ∧ s.turn position = s.afterTurn position w := by
  cases hget : s.monitor.queue[position]? with
  | none => exact Or.inl (by rw [turn, hget])
  | some w =>
    cases hdue : w.checker.due? with
    | none =>
      refine Or.inl ?_
      rw [turn, hget]
      simp [hdue]
    | some time =>
      by_cases hle : time ≤ s.now
      · exact Or.inr ⟨w, time, rfl, hdue, hle, turn_of_due hget hdue hle⟩
      · refine Or.inl ?_
        rw [turn, hget]
        simp [hdue, hle]

theorem heed_cases (position : Nat) (s : State) :
    s.heed position = s ∨ ∃ w, s.monitor.queue[position]? = some w ∧ Monitor.Called s.monitor.signals w ∧
      s.heed position =
        { s with
          monitor := { s.monitor with
            signals := Monitor.leaveAt s.monitor.signals w.signal w.listener
            queue := s.monitor.queue.set position { w with checker := w.checker.stop } } } := by
  cases hget : s.monitor.queue[position]? with
  | none => exact Or.inl (by rw [heed, hget])
  | some w =>
    by_cases hcalled : Monitor.Called s.monitor.signals w
    · refine Or.inr ⟨w, rfl, hcalled, ?_⟩
      rw [heed_of_getElem? hget, Monitor.obey_of_called hcalled]
    · refine Or.inl ?_
      rw [heed_of_getElem? hget, Monitor.obey_of_not_called hcalled, Traffic.set_of_getElem? hget]

end State

/-! ## Every schedule comes to rest -/

namespace Monitor

theorem load_perm {till : Nat} {a b : List Watch} (h : a.Perm b) : load till a = load till b := by
  induction h with
  | nil => rfl
  | cons w _ ih => rw [load, load, ih]
  | swap v w rest => simp only [load]; omega
  | trans _ _ hab hbc => exact hab.trans hbc

theorem load_set {till i : Nat} {queue : List Watch} {w : Watch} (next : Watch) (hget : queue[i]? = some w) :
    load till (queue.set i next) + w.checker.load till = load till queue + next.checker.load till := by
  obtain ⟨hi, rfl⟩ := List.getElem?_eq_some_iff.mp hget
  rw [← load_perm (List.getElem_cons_eraseIdx_perm hi), ← load_perm (perm_requeue hi),
    load_append_singleton, load]
  omega

end Monitor

namespace State

/-- How much checkers can still do, and be told, before time passes. -/
def work (s : State) : Nat := Monitor.load s.now s.monitor.queue + Monitor.listening s.monitor.signals

theorem turn_work_lt {s : State} {position time : Nat} {w : Watch} (hget : s.monitor.queue[position]? = some w)
    (hdue : w.checker.due? = some time) (hle : time ≤ s.now) : (s.turn position).work < s.work := by
  have hless := @Checker.load_turn_lt _ World.ward s.monitor.mode w.checker s.world time s.now hdue hle
  have hload := @Monitor.load_set s.now position _ _
    { w with checker := (w.checker.turn World.ward s.monitor.mode s.world).1 } hget
  rw [← Monitor.load_perm (Monitor.perm_requeue (List.getElem?_eq_some_iff.mp hget).1)] at hload
  rw [turn_of_due hget hdue hle]
  unfold work afterTurn
  dsimp only at hload ⊢
  omega

theorem heed_work_lt {s : State} {position : Nat} {w : Watch} (hget : s.monitor.queue[position]? = some w)
    (hcalled : Monitor.Called s.monitor.signals w) : (s.heed position).work < s.work := by
  have hleave := Monitor.listening_leaveAt_lt hcalled.isSome
  have hload := @Monitor.load_set s.now position _ _ { w with checker := w.checker.stop } hget
  have hstop : w.checker.stop.load s.now = 0 := rfl
  rw [heed_of_getElem? hget, Monitor.obey_of_called hcalled]
  unfold work
  dsimp only at hload ⊢
  omega

/-- Nothing is due, and no signal is left to be taken. -/
def Resting (s : State) (w : Watch) : Prop :=
  ¬Monitor.Called s.monitor.signals w ∧ ∀ time, w.checker.due? = some time → s.now < time

/-- Whatever checkers do first, they come to rest. -/
theorem exists_rest (s : State) : ∃ tasks : List Happening, (∀ task ∈ tasks, task.isTask) ∧
    ∀ w ∈ (Happening.run tasks s).monitor.queue, (Happening.run tasks s).Resting w := by
  induction hwork : s.work using Nat.strongRecOn generalizing s with
  | ind work ih =>
    by_cases hrest : ∀ w ∈ s.monitor.queue, s.Resting w
    · exact ⟨[], by simp, hrest⟩
    · -- Who does not rest is called or due, and in both cases there is less to do when it has moved.
      have hless : ∃ task : Happening, task.isTask ∧ (task.apply s).work < s.work := by
        rw [not_forall] at hrest
        obtain ⟨w, hrest⟩ := hrest
        rw [Classical.not_imp] at hrest
        obtain ⟨hw, hbusy⟩ := hrest
        obtain ⟨i, hget⟩ := List.mem_iff_getElem?.mp hw
        by_cases hcalled : Monitor.Called s.monitor.signals w
        · exact ⟨.heed i, rfl, heed_work_lt hget hcalled⟩
        · have hdue : ∃ time, w.checker.due? = some time ∧ time ≤ s.now := by
            by_contra hnone
            refine hbusy ⟨hcalled, ?_⟩
            intro time htime
            by_contra hlate
            exact hnone ⟨time, htime, Nat.le_of_not_lt hlate⟩
          obtain ⟨time, htime, hle⟩ := hdue
          exact ⟨.turn i, rfl, turn_work_lt hget htime hle⟩
      obtain ⟨task, htask, hlt⟩ := hless
      obtain ⟨tasks, htasks, hrests⟩ := ih _ (hwork ▸ hlt) (task.apply s) rfl
      exact ⟨task :: tasks, List.forall_mem_cons.mpr ⟨htask, htasks⟩, hrests⟩

/-- No schedule of checkers goes on for ever: what makes a difference leaves less to do. -/
theorem task_work {task : Happening} (h : task.isTask) (s : State) :
    task.apply s = s ∨ (task.apply s).work < s.work := by
  cases task with
  | turn position =>
    rcases turn_cases position s with hsame | ⟨w, time, hget, hdue, hle, -⟩
    · exact Or.inl hsame
    · exact Or.inr (turn_work_lt hget hdue hle)
  | heed position =>
    rcases heed_cases position s with hsame | ⟨w, hget, hcalled, -⟩
    · exact Or.inl hsame
    · exact Or.inr (heed_work_lt hget hcalled)
  | _ => cases h

end State

end ReverseProxy
