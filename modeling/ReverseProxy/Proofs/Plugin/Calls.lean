import Mathlib.Tactic.Choose
import ReverseProxy.Plugin.Adapter

/-! # Which handlers are called -/

namespace ReverseProxy

/-! ## What computations come to -/

/-- Whatever the computation comes to has the property. -/
def Ensures {m : Type → Type} [Monad m] {α : Type} (p : α → Prop) (x : m α) : Prop :=
  ∃ y : m {a // p a}, Subtype.val <$> y = x

namespace Ensures

variable {m : Type → Type} [Monad m] [LawfulMonad m] {α β : Type} {p : α → Prop} {q : β → Prop}

theorem pure {a : α} (h : p a) : Ensures p (Pure.pure a : m α) := ⟨Pure.pure ⟨a, h⟩, map_pure _ _⟩

theorem top (x : m α) : Ensures (fun _ => True) x := ⟨(⟨·, trivial⟩) <$> x, by simp⟩

theorem bind {x : m α} {f : α → m β} (hx : Ensures p x) (hf : ∀ a, p a → Ensures q (f a)) :
    Ensures q (x >>= f) := by
  obtain ⟨y, rfl⟩ := hx
  choose g hg using hf
  refine ⟨y >>= fun a => g a.1 a.2, ?_⟩
  rw [map_bind, bind_map_left]
  exact bind_congr fun a => hg a.1 a.2

theorem mono {p' : α → Prop} {x : m α} (hx : Ensures p x) (h : ∀ a, p a → p' a) : Ensures p' x := by
  obtain ⟨y, rfl⟩ := hx
  exact ⟨(fun a => ⟨a.1, h a.1 a.2⟩) <$> y, by simp⟩

theorem of_state {σ : Type} {x : StateM σ α} (h : Ensures p x) (s : σ) : p (x.run s).1 := by
  obtain ⟨y, rfl⟩ := h
  exact (y.run s).1.2

end Ensures

/-! ## Calls -/

/-- A call of the handler at a position: the request that it is given, and its answer. -/
structure Call where
  position : Nat
  request : Request
  response : Response

variable {m : Type → Type} [Monad m]

def tracing (position : Nat) (handler : Handler m) : Handler (StateT (List Call) m) := fun request => do
  let response ← handler request
  modify (· ++ [⟨position, request, response⟩])
  return response

/-- The handlers of a route, which write down their calls. The first one has the position. -/
def BackendHandlers.traced (position : Nat) : BackendHandlers m → BackendHandlers (StateT (List Call) m)
  | [] => []
  | (name, handler) :: rest => (name, tracing position handler) :: traced (position + 1) rest

/-- The answer of an adapter, with all calls that lead to it. -/
def Adapter.observed (adapter : Adapter (StateT (List Call) m)) (handlers : BackendHandlers m) (request : Request) :
    m (Response × List Call) :=
  (adapter (handlers.traced 0) request).run []

theorem run_tracing [LawfulMonad m] (position : Nat) (handler : Handler m) (request : Request)
    (calls : List Call) :
    (tracing position handler request).run calls =
      handler request >>= fun response => pure (response, calls ++ [⟨position, request, response⟩]) := by
  simp [tracing]

end ReverseProxy
