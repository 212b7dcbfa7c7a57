import ReverseProxy.Http.Header
import ReverseProxy.Http.Uri

/-! # Requests and responses -/

namespace ReverseProxy

inductive Version where
  | http09
  | http10
  | http11
  | http2
  | http3
deriving DecidableEq, Repr

namespace Version

def names : List (String × Version) :=
  [("HTTP/0.9", http09), ("HTTP/1.0", http10), ("HTTP/1.1", http11), ("HTTP/2.0", http2), ("HTTP/3.0", http3)]

def name : Version → String
  | http09 => "HTTP/0.9"
  | http10 => "HTTP/1.0"
  | http11 => "HTTP/1.1"
  | http2 => "HTTP/2.0"
  | http3 => "HTTP/3.0"

def ofName? (name : String) : Option Version := names.lookup name

end Version

structure Request where
  method : String := "GET"
  uri : Uri := .relative .root
  version : Version := .http11
  headers : Headers := []
  body : Bytes := []

structure Response where
  status : Nat := 200
  headers : Headers := []
  body : Bytes := []

namespace Response

/-- A status and a text. -/
def ofText (status : Nat) (text : String) : Response where
  status
  headers := [(.contentType, Bytes.ofText "text/plain; charset=utf-8")]
  body := Bytes.ofText text

def empty (status : Nat) : Response := { status }

end Response

/-- What answers a request, by way of some effect. -/
abbrev Handler (m : Type → Type) := Request → m Response

/-- What is logged of a request that was answered. -/
structure AccessEvent where
  method : String
  path : String
  requestId : String
  status : Nat
deriving DecidableEq, Repr

end ReverseProxy
