import ReverseProxy.Config.Validate

/-! # Records by name -/

namespace ReverseProxy

/-- No record of a kind has a name. -/
structure NotFound where
  kind : Section
  name : String
deriving DecidableEq, Repr

def NotFound.message (e : NotFound) : String := e.kind.name ++ " '" ++ e.name ++ "' not found"

namespace Config

/-- The first record with a name. -/
def find {α : Type} (kind : Section) (nameOf : α → String) (records : List α) (name : String) :
    Except NotFound α :=
  match records.find? (nameOf · = name) with
  | some record => .ok record
  | none => .error ⟨kind, name⟩

def listener (config : Config) (name : String) : Except NotFound Listener :=
  find .listener (·.name) config.listeners name

def route (config : Config) (name : String) : Except NotFound RouteSpec :=
  find .route (·.name) config.routes name

def backend (config : Config) (name : String) : Except NotFound BackendSpec :=
  find .backend (·.name) config.backends name

def server (config : Config) (name : String) : Except NotFound Server :=
  find .server (·.name) config.servers name

end Config

end ReverseProxy
