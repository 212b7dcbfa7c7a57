import Mathlib.Algebra.GroupWithZero.Nat
import Mathlib.Data.List.Nodup
import ReverseProxy.Proofs.Gateway.Construction
import ReverseProxy.Proofs.Gateway.Schedule

/-! # Who hears which signal -/

namespace ReverseProxy

theorem StopSignal.count_leave_lt {s : StopSignal} {listener : Nat} (h : s.listeners[listener]?.join.isSome) :
    (s.leave listener).count < s.count := by
  obtain ⟨pending, hpending⟩ := Option.isSome_iff_exists.mp h
  have hcount := StopSignal.count_leave (Option.join_eq_some_iff.mp hpending)
  omega

namespace Monitor

/-! ## Listeners -/

/-- How many firings a listener of a signal has not taken. Nobody is there without a number. -/
def pending? (signals : List (String × StopSignal)) (signal listener : Nat) : Option Nat :=
  signals[signal]?.bind fun (_, s) => s.listeners[listener]?.join

def backendOf? (signals : List (String × StopSignal)) (signal : Nat) : Option String :=
  signals[signal]?.map (·.1)

def leaveAt (signals : List (String × StopSignal)) (signal listener : Nat) : List (String × StopSignal) :=
  signals.modify signal fun (name, s) => (name, s.leave listener)

def listening (signals : List (String × StopSignal)) : Nat := (signals.map (·.2.count)).sum

/-- There is a firing that the checker has not taken. -/
def Called (signals : List (String × StopSignal)) (w : Watch) : Prop :=
  ∃ missed, pending? signals w.signal w.listener = some (missed + 1)

theorem Called.isSome {signals : List (String × StopSignal)} {w : Watch} (h : Called signals w) :
    (pending? signals w.signal w.listener).isSome := by
  obtain ⟨missed, h⟩ := h
  rw [h]
  rfl

theorem obey_of_called {signals : List (String × StopSignal)} {w : Watch} (h : Called signals w) :
    obey signals w = (leaveAt signals w.signal w.listener, { w with checker := w.checker.stop }) := by
  obtain ⟨missed, h⟩ := h
  obtain ⟨⟨name, s⟩, hsignal, hjoin⟩ := Option.bind_eq_some_iff.mp h
  have hlistener := Option.join_eq_some_iff.mp hjoin
  have hleave : ∀ left, signals.set w.signal (name, StopSignal.leave ⟨s.listeners.set w.listener left⟩ w.listener) =
      leaveAt signals w.signal w.listener := by
    intro left
    rw [leaveAt, List.modify_eq_set_getElem?, hsignal]
    simp [StopSignal.leave]
  -- Who missed more than one firing hears that it lags, and stops as well.
  unfold obey
  rw [hsignal]
  dsimp only
  rw [StopSignal.receive_of_pending hlistener]
  cases missed <;> simp only [StopSignal.hear, hleave]

theorem obey_of_not_called {signals : List (String × StopSignal)} {w : Watch} (h : ¬Called signals w) :
    obey signals w = (signals, w) := by
  unfold obey
  cases hsignal : signals[w.signal]? with
  | none => rfl
  | some entry =>
    obtain ⟨name, s⟩ := entry
    have hsame : signals.set w.signal (name, s) = signals := Traffic.set_of_getElem? hsignal
    dsimp only
    cases hlistener : s.listeners[w.listener]?.join with
    | none =>
      rw [StopSignal.receive_of_absent hlistener]
      simp [hsame]
    | some pending =>
      cases pending with
      | zero =>
        have hpending := Option.join_eq_some_iff.mp hlistener
        have hreceive : s.receive w.listener = (some .silence, s) := by
          simp only [StopSignal.receive_of_pending hpending, StopSignal.hear, Traffic.set_of_getElem? hpending]
        rw [hreceive]
        simp [hsame]
      | succ missed =>
        refine absurd ⟨missed, ?_⟩ h
        rw [pending?, hsignal]
        exact hlistener

/-! ## Who is left after a step -/

section Signals

variable {signals : List (String × StopSignal)} {signal listener other : Nat}

theorem backendOf?_leaveAt (signals : List (String × StopSignal)) (signal listener i : Nat) :
    backendOf? (leaveAt signals signal listener) i = backendOf? signals i := by
  rw [backendOf?, leaveAt, List.getElem?_modify, backendOf?]
  cases signals[i]? with
  | none => rfl
  | some entry =>
    simp only [Option.map_eq_map, Option.map_some]
    split <;> rfl

theorem pending?_leaveAt_other {i l : Nat} (h : (i, l) ≠ (signal, listener)) :
    pending? (leaveAt signals signal listener) i l = pending? signals i l := by
  rw [pending?, leaveAt, List.getElem?_modify, pending?]
  cases signals[i]? with
  | none => rfl
  | some entry =>
    by_cases hi : signal = i
    · subst hi
      have hl : listener ≠ l := by
        rintro rfl
        exact h rfl
      simp [StopSignal.leave, List.getElem?_set_ne hl]
    · simp [hi]

theorem listening_leaveAt_lt (h : (pending? signals signal listener).isSome) :
    listening (leaveAt signals signal listener) < listening signals := by
  induction signals generalizing signal with
  | nil => simp [pending?] at h
  | cons entry signals ih =>
    cases signal with
    | zero => exact Nat.add_lt_add_right (StopSignal.count_leave_lt h) _
    | succ signal => exact Nat.add_lt_add_left (ih h) _

theorem backendOf?_fire (m : Monitor) (backend : String) (i : Nat) :
    backendOf? (m.fire backend).signals i = backendOf? m.signals i := by
  rw [backendOf?, fire, List.getElem?_map, Option.map_map, backendOf?]
  rfl

theorem pending?_fire (m : Monitor) (backend : String) (i l : Nat) :
    pending? (m.fire backend).signals i l =
      (pending? m.signals i l).map fun n => if backendOf? m.signals i = some backend then n + 1 else n := by
  rw [pending?, fire, List.getElem?_map, pending?, backendOf?]
  cases m.signals[i]? with
  | none => rfl
  | some entry =>
    obtain ⟨name, s⟩ := entry
    by_cases hname : name = backend
    · simp only [hname, if_true, Option.map_some, Option.bind_some, StopSignal.fire, List.getElem?_map]
      rcases s.listeners[l]? with _ | _ | n <;> rfl
    · simp [hname]

end Signals

end Monitor

end ReverseProxy
