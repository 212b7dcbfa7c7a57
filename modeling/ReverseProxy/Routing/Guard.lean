import ReverseProxy.Http.Message
import ReverseProxy.Text.Parts

/-! # Guards of routes -/

namespace ReverseProxy

/-- Why an expression is no guard. -/
inductive GuardReason where
  | notOneMark
  | noName
  | badName
deriving DecidableEq, Repr

def GuardReason.message : GuardReason → String
  | notOneMark => "expected exactly one '='"
  | noName => "empty header name"
  | badName => "invalid header name"

structure GuardError where
  expression : String
  reason : GuardReason
deriving DecidableEq, Repr

def GuardError.message (e : GuardError) : String :=
  "malformed guard expression '" ++ e.expression ++ "': " ++ e.reason.message

/-- Which requests a route takes. -/
inductive Guard where
  | always
  | header (name : HeaderName) (value : String)
  /-- An expression that says nothing. It can be kept, but not asked. -/
  | invalid (error : GuardError)
deriving DecidableEq

namespace Guard

/-- A guard is empty, or a header name, `=` and a value. -/
def parse (expression : String) : Guard :=
  if expression = "" then always
  else
    match Parts.split '=' expression.toList with
    | [name, value] =>
      if name = [] then invalid ⟨expression, .noName⟩
      else
        match HeaderName.ofText? (String.ofList name) with
        | some name => header name (String.ofList value)
        | none => invalid ⟨expression, .badName⟩
    | _ => invalid ⟨expression, .notOneMark⟩

def isGuarded : Guard → Bool
  | always => false
  | _ => true

/-- The first value of the header is the value of the guard, byte for byte. -/
def evaluate (guard : Guard) (request : Request) : Except GuardError Bool :=
  match guard with
  | always => .ok true
  | header name value => .ok (request.headers.first? name = some (Bytes.ofText value))
  | invalid error => .error error

end Guard

end ReverseProxy
