import ReverseProxy.Proofs.Routing.Lookup

/-! # Which route answers a request -/

namespace ReverseProxy

variable {α : Type}

/-! ## Guards -/

/-- The request is not for the route behind the guard. -/
def Guard.refuses (guard : Guard) (request : Request) : Bool :=
  match guard.evaluate request with
  | .ok false => true
  | _ => false

namespace Decision

/-- What a route decides that does not refuse. -/
def ofRoute (request : Request) (r : Route α) : Decision α :=
  match r.guard.evaluate request with
  | .ok _ => route r
  | .error error => guardError error

theorem mem_of_ofRoutes {request : Request} {routes : List (Route α)} {r : Route α}
    (h : ofRoutes request routes = route r) : r ∈ routes := by
  induction routes with
  | nil => cases h
  | cons first routes ih =>
    unfold ofRoutes at h
    split at h
    next =>
      cases h
      exact List.mem_cons_self
    next => exact List.mem_cons_of_mem first (ih h)
    next => cases h

end Decision

namespace RouteTable

theorem mem_of_decide {table : RouteTable α} {request : Request} {r : Route α}
    (h : table.decide request = .route r) : ∃ g ∈ table.groups, r ∈ g.routes := by
  unfold decide at h
  split at h
  next g hlookup => exact ⟨g, mem_of_lookup hlookup, Decision.mem_of_ofRoutes h⟩
  next => cases h

/-- A route as it is configured. Its guard is still an expression. -/
structure Entry (α : Type) where
  name : String
  uri : String
  expression : String := ""
  target : α

namespace Entry

def route (e : Entry α) : Route α where
  name := e.name
  uri := e.uri
  guard := .parse e.expression
  target := e.target

def verdict (e : Entry α) (request : Request) : Except GuardError Bool :=
  (Guard.parse e.expression).evaluate request

def refuses (e : Entry α) (request : Request) : Bool :=
  match e.verdict request with
  | .ok false => true
  | _ => false

/-- The entries of a URI with an expression, in configured order. -/
def guarded (uri : String) (entries : List (Entry α)) : List (Entry α) :=
  entries.filter fun e => e.uri = uri && e.expression ≠ ""

def unguarded (uri : String) (entries : List (Entry α)) : List (Entry α) :=
  entries.filter fun e => e.uri = uri && e.expression = ""

/--
How the entries of a URI answer. The first expression that does not say no decides, and an entry
without one comes after all others, wherever it stands.
-/
def answer {m : Type → Type} [Monad m] (entries : List (Entry (Handler m))) (uri : String) : Handler m :=
  fun request =>
    match (guarded uri entries).find? (!·.refuses request) with
    | some e =>
      match e.verdict request with
      | .ok _ => e.target request
      | .error _ => return .ofText 500 "route guard error"
    | none =>
      match (unguarded uri entries).head? with
      | some e => e.target request
      | none => return .ofText 404 "no matching route"

end Entry

/-! ## Handing requests on -/

section Dispatch

variable {m : Type → Type} [Monad m] {entries : List (Entry (Handler m))} {table : RouteTable (Handler m)}
  {request : Request}

/--
A table answers as its entries say. This holds whatever handlers do, so it also tells which of them are
called, and with what.
-/
structure Answers (entries : List (Entry (Handler m))) (table : RouteTable (Handler m)) : Prop where
  single : ∀ uri, (Entry.unguarded uri entries).length ≤ 1
  unknown : ∀ request, table.lookup request.uri.path = none →
    table.dispatch request = pure (.ofText 404 "no matching route")
  known : ∀ request g, table.lookup request.uri.path = some g →
    table.dispatch request = Entry.answer entries g.uri request
  /-- One handler is called at most, with the request as it came. -/
  calls : ∀ request, (∃ e ∈ entries, table.dispatch request = e.target request) ∨
    ∃ response, table.dispatch request = pure response

end Dispatch

end RouteTable

end ReverseProxy
