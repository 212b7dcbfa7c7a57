import ReverseProxy.Text.Quoted

/-! # Registries -/

namespace ReverseProxy

/-- Items of one kind under names. A name is given away once. -/
structure Registry (α : Type) where
  kind : String
  items : List (String × α) := []

structure DuplicateItem where
  kind : String
  name : String
deriving DecidableEq, Repr

def DuplicateItem.message (e : DuplicateItem) : String :=
  e.kind ++ " '" ++ e.name ++ "' is already registered"

namespace Registry

variable {α : Type}

def get? (registry : Registry α) (name : String) : Option α := registry.items.lookup name

def contains (registry : Registry α) (name : String) : Bool := (registry.get? name).isSome

def register (registry : Registry α) (name : String) (item : α) : Except DuplicateItem (Registry α) :=
  if registry.contains name then .error ⟨registry.kind, name⟩
  else .ok { registry with items := (name, item) :: registry.items }

/-- Registers items in order, as long as no name is taken. -/
def registerAll (registry : Registry α) (items : List (String × α)) : Except DuplicateItem (Registry α) :=
  items.foldlM (fun registry (name, item) => registry.register name item) registry

/-- The names, sorted. -/
def names (registry : Registry α) : List String :=
  (registry.items.map (·.1)).mergeSort fun a b => decide (a ≤ b)

/-- The registry as it is shown to a person. -/
def render (registry : Registry α) : String :=
  "Registry \x7b kind: " ++ Quoted.quote registry.kind ++ ", names: [" ++
    String.intercalate ", " (registry.names.map Quoted.quote) ++ "] \x7d"

/-! ## Registries and their copies -/

inductive Operation (α : Type) where
  | register (name : String) (item : α)
  | get (name : String)
  | contains (name : String)
  | names
  | render
  | clone

inductive Answer (α : Type) where
  | registered
  | duplicate (e : DuplicateItem)
  | item (item : Option α)
  | truth (holds : Bool)
  | names (names : List String)
  | text (text : String)
  | copy (number : Nat)

/-- Carries out an operation on one of several registries. A copy comes after all that there are. -/
def step (registries : List (Registry α)) (number : Nat) (operation : Operation α) :
    Option (Answer α) × List (Registry α) :=
  match registries[number]? with
  | none => (none, registries)
  | some registry =>
    match operation with
    | .register name item =>
      match registry.register name item with
      | .ok registry => (some .registered, registries.set number registry)
      | .error e => (some (.duplicate e), registries)
    | .get name => (some (.item (registry.get? name)), registries)
    | .contains name => (some (.truth (registry.contains name)), registries)
    | .names => (some (.names registry.names), registries)
    | .render => (some (.text registry.render), registries)
    | .clone => (some (.copy registries.length), registries ++ [registry])

/-- Carries out operations, each on the registry of its number, and collects the answers. -/
def run (registries : List (Registry α)) :
    List (Nat × Operation α) → List (Option (Answer α)) × List (Registry α)
  | [] => ([], registries)
  | (number, operation) :: calls =>
    let (answer, registries) := step registries number operation
    let (answers, registries) := run registries calls
    (answer :: answers, registries)

end Registry

end ReverseProxy
