import ReverseProxy.Gateway.Build

/-! # Serving requests -/

namespace ReverseProxy.Gateway

/-! ## Finishing a response -/

/-- The length of the body, unless one is told already. An answer to HEAD tells it and has no body. -/
def withLength (method : String) (response : Response) : Response :=
  if method = "CONNECT" && 200 ≤ response.status && response.status < 300 then { response with body := [] }
  else
    { response with
      headers := response.headers.setDefault .contentLength
        (Bytes.ofText (toString response.body.length))
      body := if method = "HEAD" then [] else response.body }

/-- The id of the request, unless the response brings one. -/
def withRequestId (request : Request) (response : Response) : Response :=
  match request.headers.first? .requestId with
  | some id => { response with headers := response.headers.setDefault .requestId id }
  | none => response

def notFound : Response := .empty 404

def timedOut : Response := .empty 408

/-! ## Requests -/

/-- Gives the request to the table, without any of what the server adds. -/
def dispatch (gateway : Gateway) (request : Request) (s : State) : Option Response × State :=
  let (response, s) := (gateway.table.dispatch request).run none s
  (response, s.settle)

/-- A path that begins with a slash goes to the table. -/
def route (gateway : Gateway) : Handler Act := fun request =>
  if request.uri.path.startsWith "/" then gateway.table.dispatch request else return notFound

/-- The answer within a number of milliseconds. -/
def within (gateway : Gateway) (limit : Nat) (request : Request) (s : State) : Response × State :=
  if limit = 0 then (timedOut, s)
  else
    let (response, s) := (gateway.route request).run (some (s.now + limit)) s
    (response.getD timedOut, s)

/-- Serves a request. One without an id gets a fresh one. -/
def serve (gateway : Gateway) (timeouts : Timeouts) (fresh : Bytes) (request : Request) (s : State) :
    Response × State :=
  let request := { request with headers := request.headers.setDefault .requestId fresh }
  let (response, s) := gateway.within (timeouts.request.toNat * 1000) request s
  (withRequestId request (withLength request.method response), s.settle)

/-! ## Connections -/

/-- What a client sends over a connection: the target of the request, and a host. -/
def sent (request : Request) : Request :=
  { request with
    uri := .relative (request.uri.target?.getD .root)
    headers := request.headers.setDefault .host (Bytes.ofText "gateway.local") }

/-- What a client gets over a connection. Answers that never have a body tell no length. -/
def arrived (response : Response) : Response :=
  if Network.hasNoBody response.status then
    { response with headers := response.headers.without .contentLength }
  else response

/-- Serves a request that comes over a connection. -/
def serveConnection (gateway : Gateway) (timeouts : Timeouts) (fresh : Bytes) (request : Request)
    (s : State) : Response × State :=
  let (response, s) := gateway.serve timeouts fresh (sent request) s
  (arrived response, s)

end ReverseProxy.Gateway
