import ReverseProxy.Http.Message
import ReverseProxy.Script

/-! # Servers beyond the gateway -/

namespace ReverseProxy

/-- Why there is no response. -/
inductive SendFailure where
  /-- Nobody takes the connection. -/
  | connect
  /-- The connection ended before a response came. -/
  | exchange
deriving DecidableEq, Repr

def SendFailure.message : SendFailure → String
  | connect => "client error (Connect)"
  | exchange => "client error (SendRequest)"

/-- What a server does with one connection. -/
inductive Reply where
  | answer (response : Response)
  | hangUp
  /-- Bytes that are no response. -/
  | garbage
  /-- Nothing, for ever. -/
  | silence

/-- A request as a server received it. -/
structure Received where
  address : String
  method : String
  target : String
  version : Version
  headers : Headers
  body : Bytes

/-- The servers that can be reached, each with its replies to the connections that are still to come. -/
structure Network where
  servers : List (String × List Reply) := []
  received : List Received := []

/-- What comes of a request. -/
inductive Outcome where
  | response (response : Response)
  | failure (failure : SendFailure)
  | never

namespace Network

/-- The reply to a new connection. -/
def connect (servers : List (String × List Reply)) (address : String) :
    Option (Reply × List (String × List Reply)) :=
  match servers with
  | [] => none
  | (name, replies) :: rest =>
    if name = address then
      match Script.next? replies with
      | some (reply, replies) => some (reply, (name, replies) :: rest)
      | none => none
    else (connect rest address).map fun (reply, rest) => (reply, (name, replies) :: rest)

/-- The port 80 goes without saying. -/
def hostOf (site : String) : String := if site.endsWith ":80" then (site.dropEnd 3).toString else site

def hasNoBody (status : Nat) : Bool := status = 204 || status = 304

/-- A response as a server sends it over a connection that it closes then. -/
def sent (method : String) (response : Response) : Response :=
  let length : Headers :=
    if hasNoBody response.status then []
    else [(.contentLength, Bytes.ofText (toString response.body.length))]
  { response with
    headers := response.headers ++ length ++ [(.connection, Bytes.ofText "close")]
    body := if method = "HEAD" || hasNoBody response.status then [] else response.body }

def Outcome.ofReply (method : String) : Reply → Outcome
  | .answer response => .response (sent method response)
  | .hangUp | .garbage => .failure .exchange
  | .silence => .never

/-- Sends a request to the authority of its URI. -/
def send (network : Network) (request : Request) : Outcome × Network :=
  match request.uri.authority? with
  | none => (.failure .connect, network)
  | some authority =>
    match connect network.servers authority.site with
    | none => (.failure .connect, network)
    | some (reply, servers) =>
      let received : Received := {
        address := authority.site
        method := request.method
        target := (request.uri.target?.getD .root).print
        version := .http11
        headers := request.headers.setDefault .host (Bytes.ofText (hostOf authority.site))
        body := request.body }
      (Outcome.ofReply request.method reply, ⟨servers, network.received ++ [received]⟩)

end Network

end ReverseProxy
