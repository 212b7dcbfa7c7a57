import ReverseProxy.Gateway.Act
import ReverseProxy.Text.Blank
import ReverseProxy.Text.Parts

/-! # Forwarding -/

namespace ReverseProxy.Forward

/-! ## Fields of one connection -/

/-- The fields that are meant for the next server only. -/
def hopByHop : List HeaderName :=
  [.connection, .keepAlive, .proxyConnection, .proxyAuthorization, .te, .trailer, .transferEncoding, .upgrade]

/-- The names in a value of `connection`. What is no name says nothing. -/
def namesIn (value : Bytes) : List HeaderName :=
  match value.visible? with
  | none => []
  | some text =>
    (Parts.split ',' text.toList).filterMap fun part => HeaderName.ofText? (Blank.trim (String.ofList part))

def connectionNames (headers : Headers) : List HeaderName := (headers.values .connection).flatMap namesIn

/-- The fields that go on to the next server. -/
def strip (headers : Headers) : Headers :=
  let named := connectionNames headers
  headers.filter fun (name, _) => name ∉ named && name ∉ hopByHop

/-! ## The handler of a backend -/

def unavailable (backend : String) : Response :=
  .ofText 503 ("backend '" ++ backend ++ "' unavailable")

def failed (backend : String) (failure : SendFailure) : Response :=
  .ofText 503 ("backend '" ++ backend ++ "' request failed: " ++ failure.message)

/-- The request for the server at an authority. -/
def outgoing (request : Request) (authority : Authority) : Request :=
  { request with
    uri := request.uri.aimedAt authority
    version := .http11
    headers := strip request.headers }

/-- Asks an endpoint of a backend, and answers 503 if that fails. -/
def handler (backend : Backend) : Handler Act := fun request =>
  .draw backend fun
    | .error error => .done (.ofText 503 error.message)
    | .ok address =>
      match Authority.ofText? address with
      | none => .done (unavailable backend.name)
      | some authority =>
        .send (outgoing request authority) fun
          | .ok response => .done response
          | .error failure => .done (failed backend.name failure)

end ReverseProxy.Forward
