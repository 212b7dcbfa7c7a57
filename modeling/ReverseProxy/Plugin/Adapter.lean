import ReverseProxy.Http.Message

/-! # Routes with several backends -/

namespace ReverseProxy

/-- The handlers of a route's backends, in configured order. -/
abbrev BackendHandlers (m : Type → Type) := List (String × Handler m)

namespace BackendHandlers

variable {m : Type → Type}

def names (handlers : BackendHandlers m) : List String := handlers.map (·.1)

/-- The first handler of a name. -/
def get? (handlers : BackendHandlers m) (name : String) : Option (Handler m) :=
  (handlers.find? (·.1 = name)).map (·.2)

end BackendHandlers

/-- What makes one handler of many. -/
abbrev Adapter (m : Type → Type) := BackendHandlers m → Handler m

namespace Adapter

variable {m : Type → Type} [Monad m]

def noBackends : Response := .ofText 503 "no backends configured"

def tooLarge : Response := .ofText 413 "request body too large"

/-! ## Failover -/

/-- Asks one handler after the other, until an answer is not 503. `last` is the answer before. -/
def firstAvailable (request : Request) (last : Response) : List (Handler m) → m Response
  | [] => return last
  | handler :: rest => do
    let response ← handler request
    if response.status = 503 then firstAvailable request response rest else return response

/-- The largest body that is kept for the next backend. -/
def bodyLimit : Nat := 1048576

def failover (limit : Nat) : Adapter m := fun handlers request =>
  if limit < request.body.length then return tooLarge
  else firstAvailable request noBackends (handlers.map (·.2))

/-! ## Selection by a header -/

def backendName : HeaderName := ⟨"x-backend", by decide⟩

/-- The handler that a request asks for by name, or else the first one. -/
def choose (handlers : BackendHandlers m) (request : Request) : Option (Handler m) :=
  ((request.headers.text? backendName).bind handlers.get?).or (handlers.head?.map (·.2))

def headerSelect : Adapter m := fun handlers request =>
  match choose handlers request with
  | some handler => handler request
  | none => return noBackends

/-! ## Small adapters -/

/-- Answers with the names of the backends. -/
def listNames : Adapter m := fun handlers _ =>
  return .ofText 200 (String.intercalate "," handlers.names)

/-- Asks the last backend. -/
def lastBackend : Adapter m := fun handlers request =>
  match handlers.getLast? with
  | some (_, handler) => handler request
  | none => return noBackends

end Adapter

end ReverseProxy
