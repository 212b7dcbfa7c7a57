/-! # Stop signals -/

namespace ReverseProxy

/--
A signal that any number of listeners wait for. It holds one firing: whoever misses some is told how
many, and then takes the last.
-/
structure StopSignal where
  /-- For each listener, in the order of arrival, how many firings it has not taken. None has left. -/
  listeners : List (Option Nat) := []
deriving DecidableEq, Repr

/-- What a listener hears when it asks. -/
inductive Hearing where
  | silence
  | signal
  /-- So many firings were missed. The last one is still there. -/
  | missed (count : Nat)
deriving DecidableEq, Repr

namespace StopSignal

/-- A new listener, who hears only what is fired later, and its number. -/
def subscribe (s : StopSignal) : Nat × StopSignal := (s.listeners.length, ⟨s.listeners ++ [some 0]⟩)

def fire (s : StopSignal) : StopSignal := ⟨s.listeners.map (·.map (· + 1))⟩

/-- What is heard with a number of firings not taken, and how many are left then. -/
def hear : Nat → Hearing × Nat
  | 0 => (.silence, 0)
  | 1 => (.signal, 0)
  | missed + 2 => (.missed (missed + 1), 1)

/-- A listener asks. Nobody hears for one that never came or that left. -/
def receive (s : StopSignal) (listener : Nat) : Option Hearing × StopSignal :=
  match s.listeners[listener]? with
  | some (some pending) => (some (hear pending).1, ⟨s.listeners.set listener (some (hear pending).2)⟩)
  | _ => (none, s)

def leave (s : StopSignal) (listener : Nat) : StopSignal := ⟨s.listeners.set listener none⟩

/-- How many are listening. -/
def count (s : StopSignal) : Nat := s.listeners.countP Option.isSome

section

variable {s : StopSignal} {listener pending : Nat}

theorem receive_of_pending (h : s.listeners[listener]? = some (some pending)) :
    s.receive listener = (some (hear pending).1, ⟨s.listeners.set listener (some (hear pending).2)⟩) := by
  rw [receive, h]

theorem receive_of_absent (h : s.listeners[listener]?.join = none) : s.receive listener = (none, s) := by
  unfold receive
  split
  next pending hpending => simp [hpending] at h
  next => rfl

theorem receive_cases (s : StopSignal) (listener : Nat) :
    s.receive listener = (none, s) ∨ ∃ pending, s.listeners[listener]? = some (some pending) ∧
      s.receive listener = (some (hear pending).1, ⟨s.listeners.set listener (some (hear pending).2)⟩) := by
  cases hseat : s.listeners[listener]?.join with
  | none => exact .inl (receive_of_absent hseat)
  | some pending =>
    have hget := Option.join_eq_some_iff.mp hseat
    exact .inr ⟨pending, hget, receive_of_pending hget⟩

theorem count_leave (h : s.listeners[listener]? = some (some pending)) : (s.leave listener).count + 1 = s.count := by
  obtain ⟨hlt, hget⟩ := List.getElem?_eq_some_iff.mp h
  have hsome : s.listeners[listener].isSome = true := by rw [hget]; rfl
  have hpos : 0 < s.listeners.countP Option.isSome := List.countP_pos_iff.mpr ⟨_, List.getElem_mem hlt, hsome⟩
  simp only [count, leave, List.countP_set hlt, hsome]
  rw [if_pos trivial, if_neg (by simp), Nat.add_zero]
  omega

end

/-! ## Runs -/

inductive Operation where
  | subscribe
  | fire
  | receive (listener : Nat)
  | leave (listener : Nat)
deriving DecidableEq

inductive Answer where
  | listener (number : Nat)
  /-- What the listener hears, if it is there. -/
  | hearing (hearing : Option Hearing)
  | done
deriving DecidableEq

def step (s : StopSignal) : Operation → Answer × StopSignal
  | .subscribe => (.listener s.subscribe.1, s.subscribe.2)
  | .fire => (.done, s.fire)
  | .receive listener => (.hearing (s.receive listener).1, (s.receive listener).2)
  | .leave listener => (.done, s.leave listener)

/-- Carries out operations in order and collects the answers. -/
def run (s : StopSignal) : List Operation → List Answer × StopSignal
  | [] => ([], s)
  | operation :: operations =>
    let (answer, s) := s.step operation
    let (answers, s) := s.run operations
    (answer :: answers, s)

end StopSignal

end ReverseProxy
