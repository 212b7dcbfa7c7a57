import ReverseProxy.Routing.Guard

/-! # Tables of routes -/

namespace ReverseProxy

/-- A URI, a guard and what answers behind them. -/
structure Route (α : Type) where
  name : String
  uri : String
  guard : Guard
  target : α

/-- Routes of one URI, in the order in which they are asked. -/
structure RouteGroup (α : Type) where
  uri : String
  routes : List (Route α)

inductive RouteError where
  | emptyUri (route : String)
  | multipleUnguarded (uri : String) (routes : List String)
deriving DecidableEq, Repr

def RouteError.message : RouteError → String
  | emptyUri route => "route '" ++ route ++ "' has an empty URI"
  | multipleUnguarded uri routes =>
    "URI '" ++ uri ++ "' has more than one unguarded route: " ++ String.intercalate ", " routes

namespace RouteGroup

variable {α : Type}

/-- Guarded routes go first. One route at most is left for requests that no guard takes. -/
def ofRoutes (uri : String) (routes : List (Route α)) : Except RouteError (RouteGroup α) :=
  let (guarded, unguarded) := routes.partition (·.guard.isGuarded)
  if 1 < unguarded.length then .error (.multipleUnguarded uri (unguarded.map (·.name)))
  else .ok ⟨uri, guarded ++ unguarded⟩

/-- A URI that ends in a slash takes all paths below it. -/
def isSubtree (g : RouteGroup α) : Bool := g.uri.toList.getLast? = some '/'

def holds (g : RouteGroup α) (path : String) : Bool :=
  g.isSubtree && g.uri.toList.isPrefixOf path.toList

end RouteGroup

/-- Which route answers a request. -/
inductive Decision (α : Type) where
  | route (route : Route α)
  | noMatch
  | guardError (error : GuardError)

namespace Decision

variable {α : Type}

/-- The first route whose guard does not refuse decides. -/
def ofRoutes (request : Request) : List (Route α) → Decision α
  | [] => noMatch
  | r :: rest =>
    match r.guard.evaluate request with
    | .ok true => route r
    | .ok false => ofRoutes request rest
    | .error error => guardError error

end Decision

/-- One group for each URI, in the order in which the URIs were first named. -/
structure RouteTable (α : Type) where
  groups : List (RouteGroup α)

namespace RouteTable

variable {α : Type}

/-! ## Construction -/

/-- The values without repetitions, each where it came first. -/
def firstSeen (uris : List String) : List String :=
  (uris.foldl (fun seen uri => if uri ∈ seen then seen else uri :: seen) []).reverse

def group (routes : List (Route α)) (uri : String) : Except RouteError (RouteGroup α) :=
  RouteGroup.ofRoutes uri (routes.filter (·.uri = uri))

def build (routes : List (Route α)) : Except RouteError (RouteTable α) :=
  match routes.find? (·.uri = "") with
  | some route => .error (.emptyUri route.name)
  | none => do return ⟨← (firstSeen (routes.map (·.uri))).mapM (group routes)⟩

/-! ## Lookup -/

/-- The longer of two groups, the first of two that are as long. -/
def longer (a : Option (RouteGroup α)) (b : RouteGroup α) : Option (RouteGroup α) :=
  match a with
  | none => some b
  | some a => if a.uri.utf8ByteSize < b.uri.utf8ByteSize then some b else some a

/-- The group of the path itself, or else the one with the longest URI that the path is below. -/
def lookup (table : RouteTable α) (path : String) : Option (RouteGroup α) :=
  match table.groups.find? (·.uri = path) with
  | some group => some group
  | none => (table.groups.filter (·.holds path)).foldl longer none

def decide (table : RouteTable α) (request : Request) : Decision α :=
  match table.lookup request.uri.path with
  | some group => .ofRoutes request group.routes
  | none => .noMatch

def noMatchingRoute : Response := .ofText 404 "no matching route"

def routeGuardError : Response := .ofText 500 "route guard error"

/-- Hands the request to the route that it belongs to. -/
def dispatch {m : Type → Type} [Monad m] (table : RouteTable (Handler m)) : Handler m := fun request =>
  match table.decide request with
  | .route route => route.target request
  | .noMatch => return noMatchingRoute
  | .guardError _ => return routeGuardError

end RouteTable

end ReverseProxy
