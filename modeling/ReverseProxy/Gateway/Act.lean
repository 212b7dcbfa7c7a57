import ReverseProxy.Balance.Fleet
import ReverseProxy.Http.Network

/-! # What handlers do -/

namespace ReverseProxy

/-- What a handler does to the world, step by step, before it answers. -/
inductive Act (α : Type) where
  | done (value : α)
  /-- Draws an address from the balancer of a backend. -/
  | draw (backend : Backend) (next : Except BalanceError String → Act α)
  | send (request : Request) (next : Except SendFailure Response → Act α)
  | wait (milliseconds : Nat) (next : Act α)
  | record (event : AccessEvent) (next : Act α)

namespace Act

variable {α β : Type}

def bind (act : Act α) (f : α → Act β) : Act β :=
  match act with
  | done value => f value
  | draw backend next => draw backend fun result => (next result).bind f
  | send request next => send request fun result => (next result).bind f
  | wait milliseconds next => wait milliseconds (next.bind f)
  | record event next => record event (next.bind f)

instance : Monad Act where
  pure := done
  bind := bind

@[simp] theorem pure_eq (value : α) : (pure value : Act α) = done value := rfl

@[simp] theorem bind_eq (act : Act α) (f : α → Act β) : act >>= f = act.bind f := rfl

theorem bind_done (act : Act α) : act.bind done = act := by
  induction act with
  | done value => rfl
  | draw backend next ih => simp [bind, ih]
  | send request next ih => simp [bind, ih]
  | wait milliseconds next ih => simp [bind, ih]
  | record event next ih => simp [bind, ih]

theorem bind_bind {γ : Type} (act : Act α) (f : α → Act β) (g : β → Act γ) :
    (act.bind f).bind g = act.bind fun value => (f value).bind g := by
  induction act with
  | done value => rfl
  | draw backend next ih => simp [bind, ih]
  | send request next ih => simp [bind, ih]
  | wait milliseconds next ih => simp [bind, ih]
  | record event next ih => simp [bind, ih]

instance : LawfulMonad Act := LawfulMonad.mk' Act bind_done (fun _ _ => rfl) bind_bind

end Act

end ReverseProxy
